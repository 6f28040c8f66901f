import Polyglot.Proofs.Source.Printer
import Polyglot.Proofs.Source.TemplateText
import Polyglot.Proofs.Source.Within

/-!
# Printed expressions in slots

Whatever expression stands in a slot, its printed text is passed over whole by the scanner of slots:
it is balanced, and it is not blank. The condition is on single words only, `Node.HasClosedWords`:
names are names, numbers are digits, and texts that are printed as they stand (raw expressions,
types of parameters) are closed for the scanner by themselves.
-/

namespace Polyglot.Source

open TemplateText

namespace TemplateText

variable {mark c : Char} {text rest : List Char}

/-! ### Quoted strings -/

theorem hexDigit_ne {n : Nat} (hn : n < 16) : Text.hexDigit n ≠ '\\' ∧ Text.hexDigit n ≠ '"' := by
  revert n
  decide

theorem mem_hexPadded_ne {width n : Nat} (h : c ∈ Text.hexPadded width n) : c ≠ '\\' ∧ c ≠ '"' := by
  induction width generalizing n with
  | zero => cases h
  | succ width ih =>
    rw [Text.hexPadded, List.mem_append, List.mem_singleton] at h
    rcases h with h | rfl
    · exact ih h
    · exact hexDigit_ne (Nat.mod_lt n (by decide))

theorem balanced_quoteDoubleChar (h : Balanced (some '"') rest) :
    Balanced (some '"') (Text.quoteDoubleChar c ++ rest) := by
  have hb : '"' ≠ backtick := by decide
  fun_cases Text.quoteDoubleChar c with
  | case8 c =>
    exact .escape (balanced_string_append hb (fun _ => mem_hexPadded_ne) h)
  | case9 c hq hs =>
    exact balanced_string_append hb (by simpa using ⟨hs, hq⟩) h
  | _ => exact .escape h

/-- A text in double quotes is balanced. -/
theorem balanced_quoteDouble (text : String) : Balanced none (Text.quoteDouble text).toList := by
  have hi : Balanced (some '"') (text.toList.flatMap Text.quoteDoubleChar) := by
    induction text.toList with
    | nil => exact .nil
    | cons c text ih => exact balanced_quoteDoubleChar ih
  simpa [Text.quoteDouble, Text.quoteDoubleChars] using Balanced.quoted (by decide) hi .nil

/-! ### Templates -/

/-- Escaped text stays inside the backticks, whatever follows that is no brace. -/
theorem balanced_escapeChars (text : List Char) (hb : rest.head? ≠ some '{')
    (hr : Balanced (some backtick) rest) :
    Balanced (some backtick) (escapeChars text ++ rest) := by
  fun_induction escapeChars text with
  | case1 => exact hr
  | case2 later ih =>
    exact .escape (.character (by decide) (by decide) (by simp) ih)
  | case3 c later hn ih =>
    unfold escapeChar
    simp only [Bool.or_eq_true, beq_iff_eq]
    split_ifs with hq hc
    · exact .escape ih
    · exact .escape ih
    · rw [not_or] at hq
      refine .character hq.1 hq.2 (fun _ hd => ?_) ih
      refine head?_append_ne (head?_escapeChars_ne fun ho => ?_) hb
      obtain ⟨tail, rfl⟩ := List.head?_eq_some_iff.1 ho
      exact hn tail hd rfl

/-- The source of a slot and the escaped text behind it. -/
def slotChars (slot : String × String) : List Char :=
  '$' :: '{' :: (slot.1.toList ++ '}' :: escapeChars slot.2.toList)

theorem head?_flatMap_slotChars (slots : List (String × String)) :
    (slots.flatMap slotChars).head? ≠ some '{' := by
  cases slots <;> simp [slotChars]

theorem toList_templateSource (head : String) (slots : List (String × String)) :
    (Printer.templateSource head slots).toList =
      backtick :: (escapeChars head.toList ++ slots.flatMap slotChars) ++ [backtick] := by
  unfold slotChars
  simp [Printer.templateSource, escape, backtick, String.toList_join, List.flatMap_map]

/-- A template with balanced slots is balanced. -/
theorem balanced_templateSource {head : String} {slots : List (String × String)}
    (h : ∀ slot ∈ slots, Balanced none slot.1.toList) :
    Balanced none (Printer.templateSource head slots).toList := by
  have hs : Balanced (some backtick) (slots.flatMap slotChars) := by
    induction slots with
    | nil => exact .nil
    | cons slot slots ih =>
      rw [List.forall_mem_cons] at h
      have hb := balanced_escapeChars slot.2.toList (head?_flatMap_slotChars slots)
        (ih h.2)
      simpa [slotChars] using Balanced.slot h.1 hb
  have hb := balanced_escapeChars head.toList (head?_flatMap_slotChars slots) hs
  rw [toList_templateSource]
  exact Balanced.quoted (by decide) hb .nil

/-- Punctuation without quotes and braces is balanced, as can be computed. -/
theorem balanced_of_all_plain (h : text.all fun c => !isQuote c && c != '{' && c != '}') :
    Balanced none text :=
  balanced_of_forall_plain fun c hc => by simpa [and_assoc] using List.all_eq_true.1 h c hc

/-- The scanner run over a text and a brace stops at that brace. -/
def IsClosedText (text : String) : Prop :=
  closing (.slot 0 0) [] 0 (text.toList ++ ['}']) = .ok (text.toList ++ ['}'])

theorem isClosedText_iff {text : String} : IsClosedText text ↔ Balanced none text.toList :=
  closing_brace_iff

theorem balanced_of_isName (h : isName text) : Balanced none text :=
  balanced_of_forall_isNameChar (isNameChar_of_isName h)

end TemplateText

/-- The words that a node itself has are words for the scanner of slots: its names are names, its
number consists of digits, its raw text is closed and not blank, its types are closed. -/
def Node.HasClosedWords : Node → Prop
  | .identifier name | .propertyAccess _ name | .propertyAssignment name _ => isName name.toList
  | .numericLiteral raw => raw ≠ "" ∧ ∀ c ∈ raw.toList, c.isDigit
  | .rawExpression text => Text.trim text.toList ≠ [] ∧ IsClosedText text
  | .arrowFunction parameters _ => ∀ parameter ∈ parameters,
      isName parameter.name.toList ∧ ∀ type ∈ parameter.typeAnnotation, IsClosedText type
  | _ => True

/-- What holds everywhere in the place of a slot holds everywhere in its expression. -/
theorem Node.Everywhere.expression {good : Node → Prop} {span : Node} (h : span.Everywhere good) :
    (Span.ofNode span).expression.Everywhere good := by
  cases span with
  | templateSpan => exact h.of_mem List.mem_cons_self
  | _ => exact h

namespace Printer

open TemplateText

variable {print : Node → Except Failure String} {node : Node} {text : String} {texts : List String}
  {limit : Int} {room : Nat}

theorem balanced_commaSeparated (h : ∀ text ∈ texts, Balanced none text.toList) :
    Balanced none (commaSeparated texts).toList := by
  have hm : Balanced none ", ".toList := balanced_of_all_plain (by decide)
  rw [commaSeparated]
  induction texts with
  | nil => exact .nil
  | cons text texts ih =>
    rw [List.forall_mem_cons] at h
    by_cases hn : texts = []
    · simpa [hn] using h.1
    · rw [String.intercalate_cons_of_ne_nil hn, String.toList_append, String.toList_append]
      exact (h.1.append hm).append (ih h.2)

theorem balanced_parenthesizedIf (condition : Bool) (h : Balanced none text.toList) :
    Balanced none (parenthesizedIf condition text).toList := by
  unfold parenthesizedIf
  split_ifs
  · have ho : Balanced none "(".toList := balanced_of_all_plain (by decide)
    have hc : Balanced none ")".toList := balanced_of_all_plain (by decide)
    rw [String.toList_append, String.toList_append]
    exact (ho.append h).append hc
  · exact h

theorem balanced_printParameters {parameters : List Parameter}
    (h : ∀ parameter ∈ parameters, isName parameter.name.toList ∧
      ∀ type ∈ parameter.typeAnnotation, IsClosedText type) :
    Balanced none (printParameters parameters).toList := by
  have hp (text : String) (hm : text ∈ parameters.map printParameter) :
      Balanced none text.toList := by
    obtain ⟨parameter, hq, rfl⟩ := List.mem_map.1 hm
    obtain ⟨hn, ht⟩ := h parameter hq
    unfold printParameter
    cases htype : parameter.typeAnnotation with
    | none => exact balanced_of_isName hn
    | some type =>
      have hm : Balanced none ": ".toList := balanced_of_all_plain (by decide)
      rw [String.toList_append, String.toList_append]
      exact ((balanced_of_isName hn).append hm).append (isClosedText_iff.1 (ht type htype))
  exact balanced_parenthesizedIf true (balanced_commaSeparated hp)

/-- A printed expression is balanced. -/
theorem balanced_of_printExpression (h : printExpression limit room node = .ok text)
    (hw : node.Everywhere Node.HasClosedWords) : Balanced none text.toList := by
  induction room generalizing node text with
  | zero => cases h
  | succ room ih =>
    have hlist {l : List Node} {texts : List String}
        (hl : l.mapM (printExpression limit room) = .ok texts)
        (hc : ∀ child ∈ l, child.Everywhere Node.HasClosedWords) :
        ∀ text ∈ texts, Balanced none text.toList := by
      intro text ht
      obtain ⟨child, hm, hp⟩ := exists_of_mem_mapM hl ht
      exact ih hp (hc child hm)
    have hslots {spans : List Node} {slots : List (String × String)}
        (hs : printSlots (printExpression limit room) spans = .ok slots)
        (hc : ∀ span ∈ spans, span.Everywhere Node.HasClosedWords) :
        ∀ slot ∈ slots, Balanced none slot.1.toList := by
      intro slot hm
      obtain ⟨span, hspan, hp⟩ := exists_of_mem_mapM hs hm
      obtain ⟨source, he, hp⟩ := bind_eq_ok_iff.1 hp
      cases hp
      exact ih he (hc span hspan).expression
    have hp := hw.root
    cases written_of_printExpression h with
    | identifier => exact balanced_of_isName hp
    | stringLiteral => exact balanced_quoteDouble _
    | numericLiteral =>
      exact balanced_of_forall_isNameChar fun c hc => isNameChar_of_isDigit (hp.2 c hc)
    | rawExpression => exact isClosedText_iff.1 hp.2
    | templateLiteral hs => exact balanced_templateSource (hslots hs fun _ => hw.of_mem)
    | taggedTemplate ht hs =>
      rw [String.toList_append]
      refine (balanced_parenthesizedIf _ (ih ht (hw.of_mem List.mem_cons_self))).append ?_
      exact balanced_templateSource
        (hslots hs fun _ => (hw.of_mem (List.mem_cons_of_mem _ List.mem_cons_self)).of_mem)
    | callExpression hc ha =>
      have hb := balanced_parenthesizedIf true (balanced_commaSeparated
        (hlist ha fun _ hm => hw.of_mem (List.mem_cons_of_mem _ hm)))
      rw [String.append_assoc, String.append_assoc, String.toList_append, ← String.append_assoc]
      exact (balanced_parenthesizedIf _ (ih hc (hw.of_mem List.mem_cons_self))).append hb
    | propertyAccess he =>
      have hd : Balanced none ".".toList := balanced_of_all_plain (by decide)
      rw [String.toList_append, String.toList_append]
      refine ((balanced_parenthesizedIf _
        (ih he (hw.of_mem List.mem_cons_self))).append hd).append ?_
      exact balanced_of_isName hp
    | arrowFunction hb =>
      have ha : Balanced none " => ".toList := balanced_of_all_plain (by decide)
      rw [String.toList_append, String.toList_append]
      refine ((balanced_printParameters hp).append ha).append ?_
      exact balanced_parenthesizedIf _ (ih hb (hw.of_mem List.mem_cons_self))
    | objectLiteral hps =>
      have hs : Balanced none ": ".toList := balanced_of_all_plain (by decide)
      rw [String.toList_append, String.toList_append]
      refine Balanced.enclosed (balanced_commaSeparated fun text hm => ?_)
      obtain ⟨property, hproperty, hq⟩ := exists_of_mem_mapM hps hm
      obtain ⟨name, value, back, rfl, hv, rfl⟩ := printProperty_eq_ok_iff.1 hq
      have hq := hw.of_mem hproperty
      rw [String.toList_append, String.toList_append]
      exact ((balanced_of_isName hq.root).append hs).append (ih hv (hq.of_mem List.mem_cons_self))
    | arrayLiteral he =>
      have ho : Balanced none "[".toList := balanced_of_all_plain (by decide)
      have hc : Balanced none "]".toList := balanced_of_all_plain (by decide)
      rw [String.toList_append, String.toList_append]
      exact (ho.append (balanced_commaSeparated (hlist he fun _ => hw.of_mem))).append hc

/-- A printed expression is not blank. -/
theorem exists_of_printExpression (h : printExpression limit room node = .ok text)
    (hw : node.HasClosedWords) : ∃ c ∈ text.toList, Text.isBlank c = false := by
  have hin (mark : Char) (hm : Text.isBlank mark = false) (ht : mark ∈ text.toList) :
      ∃ c ∈ text.toList, Text.isBlank c = false := ⟨mark, ht, hm⟩
  cases room with
  | zero => cases h
  | succ room =>
    cases written_of_printExpression h with
    | identifier =>
      cases hl : text.toList with
      | nil => simp [Node.HasClosedWords, hl, isName] at hw
      | cons c rest =>
        rw [Node.HasClosedWords, hl] at hw
        exact ⟨c, List.mem_cons_self,
          isBlank_of_isNameChar (isNameChar_of_isName hw c List.mem_cons_self)⟩
    | numericLiteral =>
      obtain ⟨hne, hd⟩ := hw
      cases hl : text.toList with
      | nil => exact absurd (String.toList_eq_nil_iff.1 hl) hne
      | cons c rest =>
        rw [hl] at hd
        exact ⟨c, List.mem_cons_self,
          isBlank_of_isNameChar (isNameChar_of_isDigit (hd c List.mem_cons_self))⟩
    | rawExpression =>
      by_contra hn
      simp only [not_exists, not_and, Bool.not_eq_false] at hn
      exact hw.1 (Text.trim_eq_nil_iff.2 hn)
    | stringLiteral =>
      exact hin '"' (by decide) (by simp [Text.quoteDouble, Text.quoteDoubleChars])
    | templateLiteral => exact hin '\x60' (by decide) (by simp [templateSource])
    | taggedTemplate => exact hin '\x60' (by decide) (by simp [templateSource])
    | callExpression => exact hin '(' (by decide) (by simp)
    | propertyAccess => exact hin '.' (by decide) (by simp)
    | arrowFunction => exact hin '>' (by decide) (by simp)
    | objectLiteral => exact hin '\x7b' (by decide) (by simp)
    | arrayLiteral => exact hin '[' (by decide) (by simp)

end Printer

end Polyglot.Source
