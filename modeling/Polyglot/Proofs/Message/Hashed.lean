import Polyglot.Message.Id
import Polyglot.Proofs.Text.Hex
import Polyglot.Proofs.Text.Utf16
import Mathlib.Algebra.Ring.Nat
import Mathlib.Tactic.Common

/-!
# Identifiers of different templates

An identifier is the hash of the static texts of a template. Each step of the hash can be undone, so
texts that differ in one code unit have different hashes and templates that do have different
identifiers: `identifier_ne_of_edit`. Joining the texts and cutting them into code units loses
nothing, so templates of different shapes have one identifier only where the hash of two different
sequences of code units is the same: `identifier_eq_iff`.
-/

namespace Polyglot.MessageId

/-! ### Steps of the hash -/

/-- What undoes the factor of the hash. -/
def inverse : UInt64 := 0xce965057aff6957b

theorem prime_mul_inverse : prime * inverse = 1 := by
  decide

variable {hash other : UInt64} {unit later : UInt16}

theorem step_eq_iff :
    step hash unit = step other later ↔ hash ^^^ unit.toUInt64 = other ^^^ later.toUInt64 := by
  refine ⟨fun h => ?_, congrArg (· * prime)⟩
  have hi := congrArg (· * inverse) h
  simpa only [step, UInt64.mul_assoc, prime_mul_inverse, UInt64.mul_one] using hi

/-- A step keeps hashes apart, -/
theorem step_left_inj : step hash unit = step other unit ↔ hash = other := by
  rw [step_eq_iff, UInt64.xor_left_inj]

/-- and it keeps code units apart. -/
theorem step_right_inj : step hash unit = step hash later ↔ unit = later := by
  rw [step_eq_iff, UInt64.xor_right_inj, UInt16.toUInt64_inj]

theorem foldl_step_inj {units : List UInt16} :
    units.foldl step hash = units.foldl step other ↔ hash = other := by
  induction units generalizing hash other with
  | nil => rfl
  | cons unit units ih => rw [List.foldl_cons, List.foldl_cons, ih, step_left_inj]

theorem hashUnits_edit_inj {front back : List UInt16} :
    hashUnits (front ++ unit :: back) = hashUnits (front ++ later :: back) ↔ unit = later := by
  rw [hashUnits, hashUnits, List.foldl_append, List.foldl_append, List.foldl_cons, List.foldl_cons,
    foldl_step_inj, step_right_inj]

/-! ### Digits of the hash -/

/-- The digits of the hash of some code units, which may be halves of surrogate pairs that stand
alone. -/
def digest (units : List UInt16) : String :=
  String.ofList (Text.hexPadded 16 (hashUnits units).toNat)

theorem digest_eq_iff {units others : List UInt16} :
    digest units = digest others ↔ hashUnits units = hashUnits others := by
  rw [digest, digest, String.ofList_inj, Text.hexPadded_inj (UInt64.toNat_lt _) (UInt64.toNat_lt _),
    UInt64.toNat_inj]

theorem fnv1a64_eq_digest (text : String) : fnv1a64 text = digest (Text.units text.toList) :=
  rfl

theorem ofStrings_eq_iff {strings others : List String} {isRich : Bool} :
    ofStrings strings isRich = ofStrings others isRich ↔
      hashUnits (Text.units (hashedText strings).toList) =
        hashUnits (Text.units (hashedText others).toList) := by
  rw [ofStrings, ofStrings, String.append_right_inj, fnv1a64_eq_digest, fnv1a64_eq_digest,
    digest_eq_iff]

/-! ### The code units of joined texts -/

/-- The code units of some texts. -/
def unitsOf (strings : List String) : List (List UInt16) :=
  strings.map fun text => Text.units text.toList

theorem units_intercalate (mark : List Char) (texts : List (List Char)) :
    Text.units (mark.intercalate texts) =
      (Text.units mark).intercalate (texts.map Text.units) := by
  induction texts with
  | nil => rfl
  | cons text texts ih =>
    cases texts with
    | nil => simp
    | cons next texts =>
      rw [List.intercalate_cons_cons, Text.units_append, Text.units_append, ih]
      simp only [List.map_cons, List.intercalate_cons_cons]

theorem units_hashedText (strings : List String) :
    Text.units (hashedText strings).toList = [0x1e].intercalate (unitsOf strings) := by
  rw [hashedText, String.toList_intercalate, units_intercalate, List.map_map]
  rfl

/-- The identifier of a template whose static texts are cut into these code units. -/
def ofUnits (rows : List (List UInt16)) (isRich : Bool) : String :=
  kindLetter isRich ++ digest ([0x1e].intercalate rows)

theorem ofStrings_eq_ofUnits (strings : List String) (isRich : Bool) :
    ofStrings strings isRich = ofUnits (unitsOf strings) isRich := by
  rw [ofStrings, fnv1a64_eq_digest, units_hashedText, ofUnits]

/-! ### Texts that differ in one code unit -/

/-- In how many places two lists of code units differ. -/
def differences (s t : List UInt16) : Nat :=
  (s.zip t).countP fun pair => pair.1 ≠ pair.2

/-- Two lists of as many code units differ in one of them. -/
def DifferInOne (s t : List UInt16) : Prop :=
  s.length = t.length ∧ differences s t = 1

/-- Two rows of texts, each as long as its counterpart, differ in one code unit. -/
def RowsDifferInOne (ss ts : List (List UInt16)) : Prop :=
  ss.map List.length = ts.map List.length ∧ (List.zipWith differences ss ts).sum = 1

instance (s t : List UInt16) : Decidable (DifferInOne s t) :=
  inferInstanceAs (Decidable (_ ∧ _))

instance (ss ts : List (List UInt16)) : Decidable (RowsDifferInOne ss ts) :=
  inferInstanceAs (Decidable (_ ∧ _))

variable {s t : List UInt16} {ss ts : List (List UInt16)}

theorem differences_cons :
    differences (unit :: s) (later :: t) =
      differences s t + if unit = later then 0 else 1 := by
  by_cases h : unit = later <;> simp [differences, h]

theorem differences_append {front back : List UInt16} (h : s.length = t.length) :
    differences (s ++ front) (t ++ back) = differences s t + differences front back := by
  rw [differences, List.zip_append h, List.countP_append]
  rfl

theorem differences_self (s : List UInt16) : differences s s = 0 := by
  induction s with
  | nil => rfl
  | cons unit s ih => rw [differences_cons, ih, if_pos rfl]

theorem eq_of_differences_eq_zero (hl : s.length = t.length) (h : differences s t = 0) :
    s = t := by
  induction s generalizing t with
  | nil => exact (List.length_eq_zero_iff.1 hl.symm).symm
  | cons unit s ih =>
    cases t with
    | nil => cases hl
    | cons later t =>
      rw [differences_cons] at h
      obtain ⟨hs, hu⟩ := Nat.add_eq_zero_iff.1 h
      rw [ih (Nat.succ.inj hl) hs, show unit = later by simpa using hu]

/-- Around the place where they differ the lists are the same. -/
theorem DifferInOne.exists_eq (h : DifferInOne s t) :
    ∃ front unit later back, unit ≠ later ∧ s = front ++ unit :: back ∧
      t = front ++ later :: back := by
  obtain ⟨hl, hd⟩ := h
  induction s generalizing t with
  | nil => cases hd
  | cons unit s ih =>
    cases t with
    | nil => cases hl
    | cons later t =>
      rw [differences_cons] at hd
      split_ifs at hd with hu
      · obtain ⟨front, a, b, back, hne, rfl, rfl⟩ := ih (Nat.succ.inj hl) hd
        exact ⟨unit :: front, a, b, back, hne, rfl, by rw [hu]; rfl⟩
      · obtain rfl := eq_of_differences_eq_zero (Nat.succ.inj hl) (Nat.succ.inj hd)
        exact ⟨[], unit, later, s, hu, rfl, rfl⟩

theorem DifferInOne.hashUnits_ne (h : DifferInOne s t) : hashUnits s ≠ hashUnits t := by
  obtain ⟨front, unit, later, back, hne, rfl, rfl⟩ := h.exists_eq
  exact fun he => hne (hashUnits_edit_inj.1 he)

/-- Joined rows are as long as each other and differ where their texts do. -/
theorem differences_intercalate (mark : List UInt16)
    (h : ss.map List.length = ts.map List.length) :
    (mark.intercalate ss).length = (mark.intercalate ts).length ∧
      differences (mark.intercalate ss) (mark.intercalate ts) =
        (List.zipWith differences ss ts).sum := by
  induction ss generalizing ts with
  | nil =>
    obtain rfl := List.map_eq_nil_iff.1 h.symm
    exact ⟨rfl, rfl⟩
  | cons s ss ih =>
    cases ts with
    | nil => cases h
    | cons t ts =>
      obtain ⟨hl, hr⟩ := List.cons.inj h
      cases ss with
      | nil =>
        obtain rfl := List.map_eq_nil_iff.1 hr.symm
        simpa using hl
      | cons s' ss =>
        cases ts with
        | nil => cases hr
        | cons t' ts =>
          obtain ⟨hj, hd⟩ := ih hr
          have hm : (s ++ mark).length = (t ++ mark).length := by simp [hl]
          rw [List.intercalate_cons_cons, List.intercalate_cons_cons]
          constructor
          · rw [List.length_append, hm, hj, ← List.length_append]
          · rw [differences_append hm, differences_append hl, differences_self, hd]
            rfl

theorem RowsDifferInOne.intercalate (h : RowsDifferInOne ss ts) (mark : List UInt16) :
    DifferInOne (mark.intercalate ss) (mark.intercalate ts) := by
  obtain ⟨hl, hd⟩ := differences_intercalate mark h.1
  exact ⟨hl, hd.trans h.2⟩

theorem DifferInOne.digest_ne (h : DifferInOne s t) : digest s ≠ digest t :=
  fun he => h.hashUnits_ne (digest_eq_iff.1 he)

theorem RowsDifferInOne.ofUnits_ne (h : RowsDifferInOne ss ts) (isRich : Bool) :
    ofUnits ss isRich ≠ ofUnits ts isRich :=
  fun he => (h.intercalate [0x1e]).digest_ne ((String.append_right_inj _).1 he)

/-- **A change of one code unit changes the identifier**: lists of code units that differ in one
place, surrogates that stand alone included, have hashes with different digits, and templates of one
kind whose static texts differ in one code unit have different identifiers. So it is for texts
without lone surrogates and templates of such texts. -/
theorem identifier_ne_of_edit :
    (∀ s t : List UInt16, DifferInOne s t → digest s ≠ digest t) ∧
    (∀ (ss ts : List (List UInt16)) (isRich : Bool), RowsDifferInOne ss ts →
      ofUnits ss isRich ≠ ofUnits ts isRich) ∧
    (∀ s t : String, DifferInOne (Text.units s.toList) (Text.units t.toList) →
      fnv1a64 s ≠ fnv1a64 t) ∧
    ∀ (strings others : List String) (isRich : Bool),
      RowsDifferInOne (unitsOf strings) (unitsOf others) →
        ofStrings strings isRich ≠ ofStrings others isRich := by
  refine ⟨fun s t h => h.digest_ne, fun ss ts isRich h => h.ofUnits_ne isRich,
    fun s t h => ?_, fun strings others isRich h => ?_⟩
  · exact h.digest_ne
  · rw [ofStrings_eq_ofUnits, ofStrings_eq_ofUnits]
    exact h.ofUnits_ne isRich

/-- Two faces outside the basic plane share the first unit of their pairs, and a pair differs from
its first half next to a letter. -/
theorem identifier_ne_of_edit_faces :
    DifferInOne [0xd83d, 0xde00] [0xd83d, 0x61] ∧
      RowsDifferInOne [[], [0xd83d, 0xde00]] [[], [0xd83d, 0x61]] ∧
      DifferInOne (Text.units "Hi 😀".toList) (Text.units "Hi 😁".toList) ∧
      RowsDifferInOne (unitsOf ["", "Hi 😀", "!"]) (unitsOf ["", "Hi 😁", "!"]) ∧
      digest [0xd83d, 0xde00] ≠ digest [0xd83d, 0x61] ∧
      ofUnits [[], [0xd83d, 0xde00]] false ≠ ofUnits [[], [0xd83d, 0x61]] false ∧
      fnv1a64 "Hi 😀" ≠ fnv1a64 "Hi 😁" ∧
      ofStrings ["", "Hi 😀", "!"] true ≠ ofStrings ["", "Hi 😁", "!"] true := by
  have hd : DifferInOne [0xd83d, 0xde00] [0xd83d, 0x61] := by decide
  have hw : RowsDifferInOne [[], [0xd83d, 0xde00]] [[], [0xd83d, 0x61]] := by decide
  have hs : DifferInOne (Text.units "Hi 😀".toList) (Text.units "Hi 😁".toList) := by
    decide +kernel
  have hr : RowsDifferInOne (unitsOf ["", "Hi 😀", "!"]) (unitsOf ["", "Hi 😁", "!"]) := by
    decide +kernel
  obtain ⟨hdigest, hunits, htext, hstrings⟩ := identifier_ne_of_edit
  exact ⟨hd, hw, hs, hr, hdigest _ _ hd, hunits _ _ false hw, htext _ _ hs, hstrings _ _ true hr⟩

/-! ### Templates that are hashed as the same code units -/

/-- Texts without the separator come back from the text that joins them. -/
theorem hashedText_inj {strings others : List String} (hs : strings ≠ []) (ho : others ≠ [])
    (hns : ∀ text ∈ strings, '\x1e' ∉ text.toList) (hno : ∀ text ∈ others, '\x1e' ∉ text.toList) :
    hashedText strings = hashedText others ↔ strings = others := by
  have hsplit {row : List String} (hr : row ≠ []) (hn : ∀ text ∈ row, '\x1e' ∉ text.toList) :
      (hashedText row).toList.splitOn '\x1e' = row.map String.toList := by
    rw [hashedText, String.toList_intercalate]
    exact List.splitOn_intercalate _ (List.forall_mem_map.2 hn) (by simpa using hr)
  refine ⟨fun h => ?_, congrArg _⟩
  have hl := congrArg (fun text : String => text.toList.splitOn '\x1e') h
  simp only [hsplit hs hns, hsplit ho hno] at hl
  exact (List.map_inj_right fun _ _ => String.toList_inj.1).1 hl

/-- **Templates of different shapes share an identifier only where the hash fails**: for static
texts without the separator, the code units that are hashed are the same just where the texts are,
so of two different rows of texts with one identifier the hash maps two different sequences of code
units to one number. -/
theorem identifier_eq_iff (strings others : List String) (hs : strings ≠ []) (ho : others ≠ [])
    (hns : ∀ text ∈ strings, '\x1e' ∉ text.toList)
    (hno : ∀ text ∈ others, '\x1e' ∉ text.toList) :
    (Text.units (hashedText strings).toList = Text.units (hashedText others).toList ↔
      strings = others) ∧
    ∀ isRich, ofStrings strings isRich = ofStrings others isRich ↔
      strings = others ∨
        Text.units (hashedText strings).toList ≠ Text.units (hashedText others).toList ∧
          hashUnits (Text.units (hashedText strings).toList) =
            hashUnits (Text.units (hashedText others).toList) := by
  have hu : Text.units (hashedText strings).toList = Text.units (hashedText others).toList ↔
      strings = others := by
    rw [Text.units_inj, String.toList_inj, hashedText_inj hs ho hns hno]
  refine ⟨hu, fun isRich => ?_⟩
  rw [ofStrings_eq_iff, Ne, hu]
  constructor
  · intro h
    by_cases he : strings = others
    · exact .inl he
    · exact .inr ⟨he, h⟩
  · rintro (rfl | ⟨-, h⟩)
    · rfl
    · exact h

/-- Texts that are empty at the ends, or that meet within a surrogate pair, are kept apart. -/
theorem identifier_eq_iff_edges :
    ["", "😀"] ≠ [] ∧ ["😀", ""] ≠ [] ∧ (∀ text ∈ ["", "😀"], '\x1e' ∉ text.toList) ∧
      (∀ text ∈ ["😀", ""], '\x1e' ∉ text.toList) ∧
      Text.units (hashedText ["", "😀"]).toList ≠ Text.units (hashedText ["😀", ""]).toList := by
  have hl : ∀ text ∈ ["", "😀"], '\x1e' ∉ text.toList := by decide +kernel
  have hr : ∀ text ∈ ["😀", ""], '\x1e' ∉ text.toList := by decide +kernel
  refine ⟨by decide, by decide, hl, hr, fun h => ?_⟩
  exact absurd ((identifier_eq_iff _ _ (by decide) (by decide) hl hr).1.1 h) (by decide)

/-- A text that holds the separator is hashed as two. -/
example : hashedText ["a\x1eb"] = hashedText ["a", "b"] := by decide +kernel

end Polyglot.MessageId
