import Polyglot.Proofs.Results
import Polyglot.Proofs.Text.Blank
import Polyglot.Source.TemplateText
import Mathlib.Tactic.Common

/-!
# The brackets of a slot

The text of a slot is balanced: quoted strings are skipped whole, nested templates with their own
slots, and braces come in pairs. `closing_eq_ok_iff` says that the scanner reads exactly a balanced
text and the brace after it, so where it stops does not depend on what follows or on where the slot
stands. Blanks at the ends of a balanced text may be dropped.
-/

namespace Polyglot.Source.TemplateText

variable {depth opened offset : Nat} {mark c : Char} {around : List Opening}
  {text read rest inner : List Char}

/-! ### One step of the scanner -/

theorem closing_quote (h : isQuote c) :
    closing (.slot depth opened) around offset (c :: text) =
      (c :: ·) <$> closing (.quoted c offset) (.slot depth opened :: around) (offset + 1) text := by
  rw [closing.eq_def]
  simp [h]

theorem closing_brace :
    closing (.slot depth opened) around offset ('{' :: text) =
      ('{' :: ·) <$> closing (.slot (depth + 1) opened) around (offset + 1) text := by
  rw [closing.eq_def]
  simp [isQuote, backtick]

theorem closing_unbrace :
    closing (.slot (depth + 1) opened) around offset ('}' :: text) =
      ('}' :: ·) <$> closing (.slot depth opened) around (offset + 1) text := by
  rw [closing.eq_def]
  simp [isQuote, backtick]

theorem closing_end : closing (.slot 0 opened) [] offset ('}' :: text) = .ok ['}'] := by
  rw [closing.eq_def]
  simp [isQuote, backtick]

theorem closing_nested_end {next : Opening} :
    closing (.slot 0 opened) (next :: around) offset ('}' :: text) =
      ('}' :: ·) <$> closing next around (offset + 1) text := by
  rw [closing.eq_def]
  simp [isQuote, backtick]

theorem closing_plain (hq : isQuote c = false) (ho : c ≠ '{') (hc : c ≠ '}') :
    closing (.slot depth opened) around offset (c :: text) =
      (c :: ·) <$> closing (.slot depth opened) around (offset + 1) text := by
  rw [closing.eq_def]
  simp [hq, ho, hc]

theorem closing_escape {d : Char} :
    closing (.quoted mark opened) around offset ('\\' :: d :: text) =
      (fun read => '\\' :: d :: read) <$>
        closing (.quoted mark opened) around (offset + 2) text := by
  rw [closing.eq_def]
  simp

theorem closing_mark {next : Opening} (h : mark ≠ '\\') :
    closing (.quoted mark opened) (next :: around) offset (mark :: text) =
      (mark :: ·) <$> closing next around (offset + 1) text := by
  rw [closing.eq_def]
  simp [h]

theorem closing_slot :
    closing (.quoted backtick opened) around offset ('$' :: '{' :: text) =
      (fun read => '$' :: '{' :: read) <$>
        closing (.slot 0 offset) (.quoted backtick opened :: around) (offset + 2) text := by
  rw [closing.eq_def]
  simp [backtick]

theorem closing_quoted (he : c ≠ '\\') (hm : c ≠ mark)
    (hs : mark = backtick → c = '$' → text.head? ≠ some '{') :
    closing (.quoted mark opened) around offset (c :: text) =
      (c :: ·) <$> closing (.quoted mark opened) around (offset + 1) text := by
  rw [closing.eq_def]
  simp only [beq_iff_eq, he, hm, if_false, Bool.and_eq_true]
  split_ifs with h
  · split
    · exact absurd rfl (hs h.1 h.2)
    · rfl
  · rfl

/-! ### Balanced text -/

/-- Balanced text: of a slot, or of a string between two marks. -/
inductive Balanced : Option Char → List Char → Prop
  | nil {inside : Option Char} : Balanced inside []
  | plain {c : Char} {rest : List Char} (hq : isQuote c = false) (ho : c ≠ '{') (hc : c ≠ '}')
      (hr : Balanced none rest) : Balanced none (c :: rest)
  | braces {inner rest : List Char} (hi : Balanced none inner) (hr : Balanced none rest) :
      Balanced none ('{' :: (inner ++ '}' :: rest))
  | quoted {mark : Char} {inner rest : List Char} (hm : isQuote mark)
      (hi : Balanced (some mark) inner) (hr : Balanced none rest) :
      Balanced none (mark :: (inner ++ mark :: rest))
  | escape {mark c : Char} {rest : List Char} (hr : Balanced (some mark) rest) :
      Balanced (some mark) ('\\' :: c :: rest)
  | slot {inner rest : List Char} (hi : Balanced none inner)
      (hr : Balanced (some backtick) rest) :
      Balanced (some backtick) ('$' :: '{' :: (inner ++ '}' :: rest))
  | character {mark c : Char} {rest : List Char} (he : c ≠ '\\') (hm : c ≠ mark)
      (hs : mark = backtick → c = '$' → rest.head? ≠ some '{') (hr : Balanced (some mark) rest) :
      Balanced (some mark) (c :: rest)

theorem ne_backslash_of_isQuote (h : isQuote c) : c ≠ '\\' := by
  rintro rfl
  simp [isQuote, backtick] at h

theorem ne_brace_of_isQuote (h : isQuote c) : c ≠ '{' := by
  rintro rfl
  simp [isQuote, backtick] at h

/-- The scanner passes over a text wherever it stands, and is then where it was before. -/
def Passes : Option Char → List Char → Prop
  | none, text => ∀ (depth opened : Nat) (around : List Opening) (offset : Nat) (rest : List Char),
      closing (.slot depth opened) around offset (text ++ rest) =
        (text ++ ·) <$> closing (.slot depth opened) around (offset + text.length) rest
  | some mark, text => isQuote mark → ∀ (opened : Nat) (around : List Opening) (offset : Nat)
      (rest : List Char), rest.head? ≠ some '{' →
      closing (.quoted mark opened) around offset (text ++ rest) =
        (text ++ ·) <$> closing (.quoted mark opened) around (offset + text.length) rest

theorem Passes.slot (h : Passes none text) :
    closing (.slot depth opened) around offset (text ++ rest) =
      (text ++ ·) <$> closing (.slot depth opened) around (offset + text.length) rest :=
  h _ _ _ _ _

theorem Passes.string (h : Passes (some mark) text) (hm : isQuote mark)
    (hr : rest.head? ≠ some '{') :
    closing (.quoted mark opened) around offset (text ++ rest) =
      (text ++ ·) <$> closing (.quoted mark opened) around (offset + text.length) rest :=
  h hm _ _ _ _ hr

theorem head?_append_ne {c : Char} (ht : text.head? ≠ some c) (hr : rest.head? ≠ some c) :
    (text ++ rest).head? ≠ some c := by
  cases text with
  | nil => exact hr
  | cons d text => exact ht

theorem passes_of_balanced {inside : Option Char} (h : Balanced inside text) :
    Passes inside text := by
  -- in each case the offset grows by what was passed over, added up in another order
  induction h with
  | @nil inside =>
    cases inside with
    | none => intro depth opened around offset rest; simp
    | some mark => intro _ opened around offset rest _; simp
  | plain hq ho hc _ ih =>
    intro depth opened around offset rest
    rw [List.cons_append, closing_plain hq ho hc, ih.slot, List.length_cons, Functor.map_map]
    simp [Nat.add_assoc, Nat.add_comm 1]
  | @braces inner rest' _ _ ihi ihr =>
    intro depth opened around offset rest
    have hl : offset + 1 + inner.length + 1 + rest'.length =
        offset + ('{' :: (inner ++ '}' :: rest')).length := by simp; omega
    rw [← hl]
    simp only [List.cons_append, List.append_assoc, closing_brace, ihi.slot,
      closing_unbrace, ihr.slot,
      Functor.map_map]
  | @quoted mark inner rest' hm _ _ ihi ihr =>
    intro depth opened around offset rest
    have hl : offset + 1 + inner.length + 1 + rest'.length =
        offset + (mark :: (inner ++ mark :: rest')).length := by simp; omega
    have hb : (mark :: (rest' ++ rest)).head? ≠ some '{' := by
      simpa using ne_brace_of_isQuote hm
    rw [← hl]
    simp only [List.cons_append, List.append_assoc, closing_quote hm,
      ihi.string hm hb,
      closing_mark (ne_backslash_of_isQuote hm), ihr.slot, Functor.map_map]
  | @escape mark c rest' _ ih =>
    intro hm opened around offset rest hr
    have hl : offset + 2 + rest'.length = offset + ('\\' :: c :: rest').length := by simp; omega
    rw [← hl]
    simp only [List.cons_append, closing_escape, ih.string hm hr, Functor.map_map]
  | @slot inner rest' _ _ ihi ihr =>
    intro hm opened around offset rest hr
    have hl : offset + 2 + inner.length + 1 + rest'.length =
        offset + ('$' :: '{' :: (inner ++ '}' :: rest')).length := by simp; omega
    rw [← hl]
    simp only [List.cons_append, List.append_assoc, closing_slot, ihi.slot,
      closing_nested_end, ihr.string hm hr, Functor.map_map]
  | @character mark c rest' he hc hs _ ih =>
    intro hm opened around offset rest hr
    have hl : offset + 1 + rest'.length = offset + (c :: rest').length := by simp; omega
    have hb (h₁ : mark = backtick) (h₂ : c = '$') : (rest' ++ rest).head? ≠ some '{' :=
      head?_append_ne (hs h₁ h₂) hr
    rw [← hl]
    simp only [List.cons_append, closing_quoted he hc hb, ih.string hm hr, Functor.map_map]

/-! ### Where the scanner stops -/

/-- What the scanner reads is the front of the text. -/
theorem prefix_of_closing {top : Opening} (h : closing top around offset text = .ok read) :
    read <+: text := by
  fun_induction closing top around offset text generalizing read
  case case1 | case8 => cases h
  case case5 | case10 =>
    cases h
    simp
  all_goals
    obtain ⟨inner, hi, rfl⟩ := map_eq_ok_iff.1 h
    simp_all

/-- A text closes some brackets, the first one first, with balanced text in front of each. -/
inductive Closes : List Opening → List Char → Prop
  | nil : Closes [] []
  | brace {depth opened : Nat} {around : List Opening} {inner rest : List Char}
      (hi : Balanced none inner) (hr : Closes (.slot depth opened :: around) rest) :
      Closes (.slot (depth + 1) opened :: around) (inner ++ '}' :: rest)
  | slot {opened : Nat} {around : List Opening} {inner rest : List Char}
      (hi : Balanced none inner) (hr : Closes around rest) :
      Closes (.slot 0 opened :: around) (inner ++ '}' :: rest)
  | quoted {mark : Char} {opened : Nat} {around : List Opening} {inner rest : List Char}
      (hi : Balanced (some mark) inner) (hr : Closes around rest) :
      Closes (.quoted mark opened :: around) (inner ++ mark :: rest)

/-- A front that keeps balanced text balanced may stand before the closing of a slot. -/
theorem Closes.append_slot {front : List Char}
    (hf : ∀ inner, Balanced none inner → Balanced none (front ++ inner))
    (h : Closes (.slot depth opened :: around) read) :
    Closes (.slot depth opened :: around) (front ++ read) := by
  cases h with
  | brace hi hr => rw [← List.append_assoc]; exact .brace (hf _ hi) hr
  | slot hi hr => rw [← List.append_assoc]; exact .slot (hf _ hi) hr

theorem Closes.cons_string {c : Char} (he : c ≠ '\\') (hm : c ≠ mark)
    (hs : mark = backtick → c = '$' → text.head? ≠ some '{') (hp : read <+: text)
    (h : Closes (.quoted mark opened :: around) read) :
    Closes (.quoted mark opened :: around) (c :: read) := by
  cases h with
  | @quoted _ _ _ inner rest hi hr =>
    refine .quoted (.character he hm (fun h₁ h₂ hb => ?_) hi) hr
    -- the character behind `c` is the first one of `inner`, and of `text` as well
    obtain ⟨tail, rfl⟩ := List.head?_eq_some_iff.1 hb
    obtain ⟨later, rfl⟩ := hp
    exact hs h₁ h₂ rfl

/-- What the scanner reads closes the brackets that it began in. -/
theorem closes_of_closing {top : Opening} (h : closing top around offset text = .ok read) :
    Closes (top :: around) read := by
  fun_induction closing top around offset text generalizing read with
  | case1 => cases h
  | case2 around offset c rest depth opened hq ih =>
    obtain ⟨later, hl, rfl⟩ := map_eq_ok_iff.1 h
    -- what was read closes the string first, and then the slot around it
    cases ih hl with
    | @quoted _ _ _ inner later hi hr =>
      have hf (text : List Char) (ht : Balanced none text) :
          Balanced none ((c :: (inner ++ [c])) ++ text) := by simpa using .quoted hq hi ht
      simpa using hr.append_slot hf
  | case3 around offset c rest depth opened hq ho ih =>
    obtain ⟨later, hl, rfl⟩ := map_eq_ok_iff.1 h
    obtain rfl := beq_iff_eq.1 ho
    cases ih hl with
    | @brace _ _ _ inner later hi hr =>
      have hf (text : List Char) (ht : Balanced none text) :
          Balanced none (('{' :: (inner ++ ['}'])) ++ text) := by simpa using .braces hi ht
      simpa using hr.append_slot hf
  | case4 around offset c rest opened hq ho hc depth ih =>
    obtain ⟨later, hl, rfl⟩ := map_eq_ok_iff.1 h
    obtain rfl := beq_iff_eq.1 hc
    exact .brace .nil (ih hl)
  | case5 offset c rest opened hq ho hc =>
    cases h
    obtain rfl := beq_iff_eq.1 hc
    exact .slot .nil .nil
  | case6 offset c rest opened hq ho hc next around ih =>
    obtain ⟨later, hl, rfl⟩ := map_eq_ok_iff.1 h
    obtain rfl := beq_iff_eq.1 hc
    exact .slot .nil (ih hl)
  | case7 around offset c rest depth opened hq ho hc ih =>
    obtain ⟨later, hl, rfl⟩ := map_eq_ok_iff.1 h
    have hf (text : List Char) (ht : Balanced none text) : Balanced none ([c] ++ text) :=
      .plain (by simpa using hq) (by simpa using ho) (by simpa using hc) ht
    exact (ih hl).append_slot hf
  | case8 => cases h
  | case9 around offset c mark opened he d rest ih =>
    obtain ⟨later, hl, rfl⟩ := map_eq_ok_iff.1 h
    obtain rfl := beq_iff_eq.1 he
    cases ih hl with
    | quoted hi hr => exact .quoted (.escape hi) hr
  | case10 offset c rest mark opened he hm =>
    cases h
    obtain rfl := beq_iff_eq.1 hm
    exact .quoted .nil .nil
  | case11 offset c rest mark opened he hm next around ih =>
    obtain ⟨later, hl, rfl⟩ := map_eq_ok_iff.1 h
    obtain rfl := beq_iff_eq.1 hm
    exact .quoted .nil (ih hl)
  | case12 around offset c mark opened he hm hs rest ih =>
    obtain ⟨later, hl, rfl⟩ := map_eq_ok_iff.1 h
    simp only [Bool.and_eq_true, beq_iff_eq] at hs
    obtain ⟨rfl, rfl⟩ := hs
    -- here it closes the nested slot, and then the string around that
    cases ih hl with
    | @slot _ _ inner later hi hr =>
      cases hr with
      | @quoted _ _ _ inner' later hi' hr' =>
        simpa using Closes.quoted (.slot hi hi') hr'
  | case13 around offset c mark opened he hm hs rest hb ih =>
    obtain ⟨later, hl, rfl⟩ := map_eq_ok_iff.1 h
    refine (ih hl).cons_string (by simpa using he) (by simpa using hm) (fun _ _ hr => ?_)
      (prefix_of_closing hl)
    obtain ⟨tail, rfl⟩ := List.head?_eq_some_iff.1 hr
    exact hb tail rfl
  | case14 around offset c rest mark opened he hm hs ih =>
    obtain ⟨later, hl, rfl⟩ := map_eq_ok_iff.1 h
    refine (ih hl).cons_string (by simpa using he) (by simpa using hm) (fun h₁ h₂ => ?_)
      (prefix_of_closing hl)
    simp [h₁, h₂] at hs

/-- **The scanner reads exactly a balanced text and the brace after it.** -/
theorem closing_eq_ok_iff :
    closing (.slot 0 opened) [] offset text = .ok read ↔
      ∃ inner, Balanced none inner ∧ read = inner ++ ['}'] ∧ read <+: text := by
  constructor
  · intro h
    cases closes_of_closing h with
    | slot hi hr =>
      cases hr
      exact ⟨_, hi, rfl, prefix_of_closing h⟩
  · rintro ⟨inner, hi, rfl, rest, rfl⟩
    rw [List.append_assoc, (passes_of_balanced hi).slot]
    simp [closing_end]

/-- The scanner run over a text and a brace stops at that brace just when the text is balanced. -/
theorem closing_brace_iff :
    closing (.slot 0 opened) [] offset (text ++ ['}']) = .ok (text ++ ['}']) ↔
      Balanced none text := by
  rw [closing_eq_ok_iff]
  constructor
  · rintro ⟨inner, hi, he, -⟩
    rwa [List.append_cancel_right he]
  · exact fun h => ⟨text, h, rfl, List.prefix_rfl⟩

/-! ### Texts side by side -/

theorem Balanced.append (h : Balanced none text) (hr : Balanced none rest) :
    Balanced none (text ++ rest) := by
  generalize hn : none = inside at h
  induction h with
  | nil =>
    subst hn
    exact hr
  | plain hq ho hc _ ih => exact .plain hq ho hc (ih hn)
  | braces hi _ _ ih =>
    rw [List.cons_append, List.append_assoc]
    exact .braces hi (ih hn)
  | quoted hm hi _ _ ih =>
    rw [List.cons_append, List.append_assoc]
    exact .quoted hm hi (ih hn)
  | _ => cases hn

theorem Balanced.enclosed (h : Balanced none text) : Balanced none ('{' :: (text ++ ['}'])) :=
  .braces h .nil

/-- Text without quotes and braces is balanced. -/
theorem balanced_of_forall_plain (h : ∀ c ∈ text, isQuote c = false ∧ c ≠ '{' ∧ c ≠ '}') :
    Balanced none text := by
  induction text with
  | nil => exact .nil
  | cons c text ih =>
    rw [List.forall_mem_cons] at h
    exact .plain h.1.1 h.1.2.1 h.1.2.2 (ih h.2)

theorem balanced_string_append (hb : mark ≠ backtick) (h : ∀ c ∈ text, c ≠ '\\' ∧ c ≠ mark)
    (hr : Balanced (some mark) rest) : Balanced (some mark) (text ++ rest) := by
  induction text with
  | nil => exact hr
  | cons c text ih =>
    rw [List.forall_mem_cons] at h
    exact .character h.1.1 h.1.2 (fun hm => absurd hm hb) (ih h.2)

/-! ### Blanks -/

theorem isQuote_of_isBlank (h : Text.isBlank c) : isQuote c = false := by
  by_contra hq
  simp only [isQuote, Bool.not_eq_false, Bool.or_eq_true, beq_iff_eq] at hq
  rcases hq with (rfl | rfl) | rfl <;> simp [Text.isBlank, backtick] at h

/-- A balanced text without the blanks at its front is balanced. -/
theorem Balanced.dropWhile (h : Balanced none text) :
    Balanced none (text.dropWhile Text.isBlank) := by
  induction text with
  | nil => exact h
  | cons c text ih =>
    by_cases hc : Text.isBlank c
    · rw [List.dropWhile_cons_of_pos hc]
      cases h with
      | plain _ _ _ hr => exact ih hr
      | braces => simp [Text.isBlank] at hc
      | quoted hm => simp [isQuote_of_isBlank hc] at hm
    · rwa [List.dropWhile_cons_of_neg hc]

/-- A balanced text without the blanks at its end is balanced. -/
theorem Balanced.trimEnd (h : Balanced none text) : Balanced none (Text.trimEnd text) := by
  -- only the text of a slot is trimmed, so the cases of strings do not arise
  generalize hn : none = inside at h
  induction h with
  | nil => exact .nil
  | @plain c rest hq ho hc _ ih =>
    by_cases hb : Text.trimEnd rest = [] ∧ Text.isBlank c
    · simpa [Text.trimEnd, hb.1, hb.2] using .nil
    · have he : Text.trimEnd (c :: rest) = c :: Text.trimEnd rest := by
        rw [Text.trimEnd]
        cases ht : Text.trimEnd rest <;> simp_all
      rw [he]
      exact .plain hq ho hc (ih hn)
  | @braces inner rest hi _ _ ih =>
    rw [← List.cons_append, Text.trimEnd_append_cons _ (by simp [Text.isBlank])]
    exact .braces hi (ih hn)
  | @quoted mark inner rest hm hi _ _ ih =>
    have hb : Text.isBlank mark = false := by
      by_contra hb
      simp [isQuote_of_isBlank (Bool.not_eq_false _ ▸ hb)] at hm
    rw [← List.cons_append, Text.trimEnd_append_cons _ hb]
    exact .quoted hm hi (ih hn)
  | _ => cases hn

theorem Balanced.trim (h : Balanced none text) : Balanced none (Text.trim text) :=
  h.dropWhile.trimEnd

end Polyglot.Source.TemplateText
