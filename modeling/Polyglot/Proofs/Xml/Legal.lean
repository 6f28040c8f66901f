import Polyglot.Proofs.Searches
import Polyglot.Proofs.Xml.Scan
import Polyglot.Xml.Doctype.Basic

/-!
# Legal characters

What is read of a legal text is legal: names, the characters of references, and the values that
entities and declarations stand for.
-/

namespace Polyglot.Xml

variable {c : Char} {text rest : List Char} {name : String}

/-! ### Characters -/

/-- A document may hold the character, and reading does not take it for a line end. -/
def IsKept (c : Char) : Prop :=
  isLegal c ∧ c ≠ '\r'

theorem isNameChar_control :
    ∀ n < 0x20, (isNameChar (Char.ofNat n) || Char.ofNat n == ':') = false := by decide

theorem isKept_of_isNameChar (h : isNameChar c || c == ':') : IsKept c := by
  have hc : 0x20 ≤ c.toNat := by
    by_contra hl
    -- the control characters are few enough to be looked at one by one
    have hf := isNameChar_control c.toNat (by omega)
    rw [Char.ofNat_toNat, h] at hf
    cases hf
  have hn : c ≠ Char.ofNat 0xfffe ∧ c ≠ Char.ofNat 0xffff := by
    constructor <;> rintro rfl <;> exact absurd h (by decide)
  have hne : c.toNat ≠ 0xfffe ∧ c.toNat ≠ 0xffff :=
    ⟨fun he => hn.1 (by rw [← he, Char.ofNat_toNat]),
      fun he => hn.2 (by rw [← he, Char.ofNat_toNat])⟩
  refine ⟨by simp [isLegal, hc, hne], ?_⟩
  rintro rfl
  exact absurd hc (by decide)

theorem isKept_of_isName (h : isName text) : ∀ c ∈ text, IsKept c := by
  simp only [isName, isMark, Bool.and_eq_true, List.all_eq_true] at h
  exact fun c hc => isKept_of_isNameChar (h.1.1.2 c hc)

/-! ### Texts -/

/-- A document may hold all of the characters. -/
def LegalChars (text : List Char) : Prop :=
  ∀ c ∈ text, isLegal c

theorem isLegalText_iff {text : String} : isLegalText text ↔ LegalChars text.toList := by
  rw [isLegalText, List.all_eq_true, LegalChars]

theorem isLegalText_ofList : isLegalText (String.ofList text) ↔ LegalChars text := by
  rw [isLegalText_iff, String.toList_ofList]

theorem isLegalText_append {front back : String} :
    isLegalText (front ++ back) ↔ isLegalText front ∧ isLegalText back := by
  simp [isLegalText]

/-- Texts in a row are legal where each of them is, if the mark between them is. -/
theorem isLegalText_intercalate {mark : String} (hm : isLegalText mark) (texts : List String) :
    isLegalText (mark.intercalate texts) = texts.all isLegalText := by
  induction texts with
  | nil => rfl
  | cons text texts ih =>
    by_cases hn : texts = []
    · subst hn
      rw [String.intercalate_singleton, List.all_cons, List.all_nil, Bool.and_true]
    · rw [String.intercalate_cons_of_ne_nil hn, List.all_cons, ← ih, Bool.eq_iff_iff,
        Bool.and_eq_true, isLegalText_append, isLegalText_append, and_iff_left hm]

theorem isLegalText_toString (number : Nat) : isLegalText (toString number) := by
  refine List.all_eq_true.2 fun c hc => (isKept_of_isNameChar ?_).1
  have hd : c.isDigit := by
    rw [Nat.toString_eq_repr, Nat.toList_repr] at hc
    exact Nat.isDigit_of_mem_toDigits (by decide) (by decide) hc
  simp [isNameChar, hd]

theorem LegalChars.append (h : LegalChars text) (hr : LegalChars rest) :
    LegalChars (text ++ rest) :=
  List.forall_mem_append.2 ⟨h, hr⟩

theorem LegalChars.flatMap {α : Type} {l : List α} {f : α → List Char}
    (h : ∀ a ∈ l, LegalChars (f a)) : LegalChars (l.flatMap f) := by
  intro c hc
  obtain ⟨a, ha, hc⟩ := List.mem_flatMap.1 hc
  exact h a ha c hc

theorem LegalChars.of_isName (h : isName text) : LegalChars text :=
  fun c hc => (isKept_of_isName h c hc).1

/-! ### References -/

theorem isLegal_of_legalChar? {n : Nat} (h : legalChar? n = some c) : isLegal c := by
  rw [legalChar?] at h
  by_cases hv : n.isValidChar
  · rw [dif_pos hv] at h
    obtain ⟨hl, hc⟩ := Option.ite_none_right_eq_some.1 h
    obtain rfl := Option.some.inj hc
    exact hl
  · rw [dif_neg hv] at h
    cases h

theorem isLegal_of_predefined? (h : predefined? name = some c) : isLegal c := by
  revert h
  fun_cases predefined? name
  case case6 => exact nofun
  all_goals
    rintro ⟨⟩
    decide

/-- The characters of a reference are legal. -/
def Reference.IsLegal : Reference → Prop
  | .character c => isLegal c
  | .entity name => LegalChars name.toList

theorem Reference.isLegal_of_ofChars? {reference : Reference} (h : ofChars? text = some reference) :
    reference.IsLegal := by
  revert h
  fun_cases ofChars? text
  all_goals intro h
  · cases h
  · obtain ⟨c, hc, rfl⟩ := Option.map_eq_some_iff.1 h
    obtain ⟨n, -, hn⟩ := Option.bind_eq_some_iff.1 hc
    exact isLegal_of_legalChar? hn
  · cases h
  · obtain ⟨c, hc, rfl⟩ := Option.map_eq_some_iff.1 h
    obtain ⟨n, -, hn⟩ := Option.bind_eq_some_iff.1 hc
    exact isLegal_of_legalChar? hn
  · rename_i hn
    obtain rfl := Option.some.inj h
    rw [IsLegal, String.toList_ofList]
    exact .of_isName hn
  · cases h

/-- The characters of a piece are legal. -/
def Piece.IsLegal : Piece → Prop
  | .plain c => isLegal c
  | .reference inner => inner.IsLegal

/-- The pieces of a legal text are legal. -/
theorem isLegal_of_pieces {opened : Option (List Char)} {ps : List Piece} (ht : LegalChars text)
    (h : pieces opened text = some ps) : ∀ piece ∈ ps, piece.IsLegal := by
  fun_induction pieces opened text generalizing ps with
  | case1 =>
    cases h
    simp
  | case2 => cases h
  | case3 rest ih => exact ih (List.forall_mem_cons.1 ht).2 h
  | case4 c rest hc ih =>
    obtain ⟨qs, hq, rfl⟩ := Option.map_eq_some_iff.1 h
    obtain ⟨hc, hr⟩ := List.forall_mem_cons.1 ht
    exact List.forall_mem_cons.2 ⟨hc, ih hr hq⟩
  | case5 name rest ih =>
    obtain ⟨reference, hr, h⟩ := Option.bind_eq_some_iff.1 h
    obtain ⟨qs, hq, h⟩ := Option.bind_eq_some_iff.1 h
    obtain rfl := Option.some.inj h
    exact List.forall_mem_cons.2 ⟨Reference.isLegal_of_ofChars? hr,
      ih (List.forall_mem_cons.1 ht).2 hq⟩
  | case6 name c rest hc ih => exact ih (List.forall_mem_cons.1 ht).2 h

/-! ### Entities -/

/-- The text of an entity is legal. -/
def Entity.IsLegal : Entity → Prop
  | .character c => isLegal c
  | .internal text => LegalChars text
  | _ => True

/-- The texts of all declared entities are legal. -/
def Entities.IsLegal (entities : Entities) : Prop :=
  ∀ entry ∈ entities.declared, entry.2.IsLegal

variable {entities : Entities} {entity : Entity}

theorem Entities.IsLegal.find? (h : entities.IsLegal) (he : entities.find? name = some entity) :
    entity.IsLegal := by
  rw [Entities.find?] at he
  cases hp : predefined? name with
  | some c =>
    rw [hp] at he
    cases he
    exact isLegal_of_predefined? hp
  | none =>
    rw [hp] at he
    exact h _ (mem_of_lookup he)

/-- The text that an entity stands for in a value is legal. -/
theorem Entities.IsLegal.expand (h : entities.IsLegal) (depth : Nat) (name : String) :
    LegalChars (entities.expand depth name) := by
  induction depth generalizing name with
  | zero => simp [Entities.expand, LegalChars]
  | succ depth ih =>
    rw [Entities.expand]
    split
    · rename_i c he
      exact List.forall_mem_singleton.2 (h.find? he)
    · rename_i text he
      have ht : LegalChars text := h.find? he
      refine .flatMap fun piece hp => ?_
      have hl : piece.IsLegal := by
        cases hps : pieces none text with
        | none =>
          rw [hps] at hp
          cases hp
        | some ps =>
          rw [hps] at hp
          exact isLegal_of_pieces ht hps piece hp
      match piece with
      | .plain c => exact List.forall_mem_singleton.2 hl
      | .reference (.character c) => exact List.forall_mem_singleton.2 hl
      | .reference (.entity other) => exact ih other
    · simp [LegalChars]

/-- The text of a reference to an entity is legal. -/
theorem legalChars_reference (h : LegalChars text) : LegalChars ('&' :: text ++ [';']) := by
  refine LegalChars.append (List.forall_mem_cons.2 ⟨by decide, h⟩) ?_
  exact List.forall_mem_singleton.2 (by decide)

theorem legalChars_of_replacement? (ht : LegalChars text) (h : replacement? text = some rest) :
    LegalChars rest := by
  obtain ⟨ps, hp, h⟩ := Option.bind_eq_some_iff.1 h
  obtain ⟨inner, hi, h⟩ := Option.bind_eq_some_iff.1 h
  obtain rfl := Option.some.inj h
  have hl := isLegal_of_pieces ht hp
  have hs : ∀ part ∈ inner, LegalChars part := by
    refine forall_mem_of_mapM (fun piece hm part hf => ?_) hi
    have hp := hl piece hm
    match piece, hf with
    | .plain c, rfl => exact List.forall_mem_singleton.2 hp
    | .reference (.character c), rfl => exact List.forall_mem_singleton.2 hp
    | .reference (.entity name), rfl => exact legalChars_reference hp
  intro c hc
  obtain ⟨part, hp, hc⟩ := List.mem_flatten.1 hc
  exact hs part hp c hc

/-! ### Values -/

/-- The character of a part or the name of its entity is legal. -/
def ValuePart.IsLegal : ValuePart → Prop
  | .character c => isLegal c
  | .entity name => LegalChars name.toList

variable {value : List ValuePart}

theorem Entities.IsLegal.valueText (h : entities.IsLegal) (hv : ∀ part ∈ value, part.IsLegal) :
    isLegalText (entities.valueText value) := by
  rw [Entities.valueText, isLegalText_ofList]
  refine .flatMap fun part hp => ?_
  have hl := hv part hp
  cases part with
  | character c => exact List.forall_mem_singleton.2 hl
  | entity name => exact h.expand _ name

theorem isLegal_squeeze (hv : ∀ part ∈ value, part.IsLegal) (started pending : Bool) :
    ∀ part ∈ squeeze started pending value, part.IsLegal := by
  induction value generalizing started pending with
  | nil => simp [squeeze]
  | cons part rest ih =>
    rw [List.forall_mem_cons] at hv
    rw [squeeze]
    split_ifs with hb hs
    · exact ih hv.2 started true
    · refine List.forall_mem_append.2 ⟨?_, List.forall_mem_cons.2 ⟨hv.1, ih hv.2 true false⟩⟩
      exact List.forall_mem_singleton.2 (show isLegal ' ' by decide)
    · exact List.forall_mem_cons.2 ⟨hv.1, ih hv.2 true false⟩

theorem isLegal_normalize (hv : ∀ part ∈ value, part.IsLegal) (type : AttributeType) :
    ∀ part ∈ type.normalize value, part.IsLegal := by
  rw [AttributeType.normalize]
  split_ifs
  · exact hv
  · exact isLegal_squeeze hv false false

theorem isLegalText_writtenValue (hv : ∀ part ∈ value, part.IsLegal) :
    isLegalText (writtenValue value) := by
  rw [writtenValue, isLegalText_ofList]
  refine .flatMap fun part hp => ?_
  have hl := hv part hp
  split
  · exact List.all_eq_true.1 (by decide)
  · exact List.forall_mem_singleton.2 hl
  · exact legalChars_reference hl

end Polyglot.Xml
