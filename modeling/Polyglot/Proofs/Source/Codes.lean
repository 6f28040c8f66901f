import Polyglot.Proofs.Source.Adjacent
import Polyglot.Proofs.Text.Utf16

/-!
# Templates in code points

An escape may write half of a surrogate pair, so the body of a template is read as code points, and
each text of the template becomes characters as a whole. A `CodeTemplate` is a template before
that. It loses nothing then unless an escape writes a surrogate
(`CodeTemplate.ofCharacters_characters_eq_iff`). It is made of fragments as a template is, and the
two ways to make it agree unless two texts that are joined hold the two halves of a pair.
-/

namespace Polyglot.Source

open TemplateText

/-- A text with slots, texts still as code points. -/
abbrev CodeTemplate := List Nat × List (Node × List Nat)

/-- A piece of a template before texts are joined, a text still as code points. -/
inductive CodeFragment where
  | text (codes : List Nat)
  | slot (expression : Node)

namespace CodeFragment

/-- The pieces of a body that a fragment is. -/
def tokens : CodeFragment → List Token
  | text codes => codes.map .point
  | slot expression => [.slot expression]

/-- A fragment with its code points as characters. -/
def characters : CodeFragment → Fragment
  | text codes => .text (textOf codes)
  | slot expression => .slot expression

/-- The fragment is a text that ends in the first half of a surrogate pair. -/
def isHalved : CodeFragment → Bool
  | text codes => codes.getLast?.any Text.isHighSurrogate
  | slot _ => false

end CodeFragment

namespace CodeTemplate

/-- Read the body of a template as code points. -/
def read (body : String) : Except TemplateFault CodeTemplate :=
  assemble <$> tokens 0 0 body.toList

/-- The template with its code points as characters. -/
def characters (template : CodeTemplate) : Template :=
  ⟨textOf template.1, template.2.map fun span => ⟨span.1, textOf span.2⟩⟩

/-- The code points of a template's characters. -/
def ofCharacters (template : Template) : CodeTemplate :=
  (template.head.toList.map Char.toNat,
    template.spans.map fun span => (span.expression, span.literal.toList.map Char.toNat))

/-- No escape of the template writes a surrogate. -/
structure IsWhole (template : CodeTemplate) : Prop where
  head : ∀ code ∈ template.1, code.isValidChar
  spans : ∀ span ∈ template.2, ∀ code ∈ span.2, code.isValidChar

/-- The fragments of a template: head, expression, text, expression, text and so on. -/
def fragments (template : CodeTemplate) : List CodeFragment :=
  .text template.1 :: template.2.flatMap fun span => [.slot span.1, .text span.2]

/-- The template of some fragments, texts that meet joined. -/
def ofFragments : List CodeFragment → CodeTemplate
  | [] => ([], [])
  | .text codes :: rest =>
    let template := ofFragments rest
    (codes ++ template.1, template.2)
  | .slot expression :: rest =>
    let template := ofFragments rest
    ([], (expression, template.1) :: template.2)

variable {pieces : List Token} {parts : List CodeFragment}

theorem parse_eq (body : String) : Template.parse body = characters <$> read body := by
  rw [Template.parse, read, Functor.map_map]
  rfl

theorem fragments_characters (template : CodeTemplate) :
    template.characters.fragments = template.fragments.map CodeFragment.characters := by
  simp [characters, fragments, Template.fragments, Span.fragments, CodeFragment.characters,
    List.flatMap_map, List.map_flatMap]

/-! ### Fragments and the pieces of a body -/

theorem assemble_codes (codes : List Nat) (pieces : List Token) :
    assemble (codes.map .point ++ pieces) =
      (codes ++ (assemble pieces).1, (assemble pieces).2) := by
  induction codes with
  | nil => rfl
  | cons code codes ih => simp [assemble, ih]

/-- Fragments make up what their pieces do. -/
theorem assemble_tokens (parts : List CodeFragment) :
    assemble (parts.flatMap CodeFragment.tokens) = ofFragments parts := by
  induction parts with
  | nil => rfl
  | cons part parts ih =>
    rw [List.flatMap_cons]
    cases part with
    | text codes => rw [CodeFragment.tokens, assemble_codes, ih, ofFragments]
    | slot expression => rw [CodeFragment.tokens, List.singleton_append, assemble, ih, ofFragments]

theorem tokens_fragments (template : CodeTemplate) :
    template.fragments.flatMap CodeFragment.tokens = template.1.map .point ++
      template.2.flatMap fun span => .slot span.1 :: span.2.map .point := by
  simp [fragments, CodeFragment.tokens, List.flatMap_assoc]

/-- The fragments of what some pieces make up are those pieces. -/
theorem tokens_fragments_assemble (pieces : List Token) :
    (fragments (assemble pieces)).flatMap CodeFragment.tokens = pieces := by
  rw [tokens_fragments]
  induction pieces with
  | nil => rfl
  | cons piece pieces ih =>
    cases piece with
    | point code => exact congrArg (Token.point code :: ·) ih
    | slot expression => exact congrArg (Token.slot expression :: ·) ih

/-! ### Characters -/

theorem map_toNat_textOf_eq_iff {codes : List Nat} :
    (textOf codes).toList.map Char.toNat = codes ↔ ∀ code ∈ codes, code.isValidChar := by
  rw [textOf, String.toList_ofList, Text.map_toNat_ofCodePoints_eq_iff]

/-- A template keeps all its code points as characters just where no escape writes a surrogate. -/
theorem ofCharacters_characters_eq_iff {template : CodeTemplate} :
    ofCharacters template.characters = template ↔ template.IsWhole := by
  obtain ⟨head, spans⟩ := template
  have hspans : spans.map (fun span => (span.1, (textOf span.2).toList.map Char.toNat)) = spans ↔
      ∀ span ∈ spans, ∀ code ∈ span.2, code.isValidChar := by
    nth_rewrite 2 [← List.map_id spans]
    rw [List.map_inj_left]
    exact forall₂_congr fun span _ => by simp [Prod.ext_iff, map_toNat_textOf_eq_iff]
  rw [ofCharacters, characters, List.map_map, Prod.mk.injEq, map_toNat_textOf_eq_iff]
  exact (and_congr_right' hspans).trans ⟨fun h => ⟨h.1, h.2⟩, fun h => ⟨h.head, h.spans⟩⟩

/-- Two texts become characters like one unless they hold the two halves of a surrogate pair. -/
theorem textOf_append {front : List Nat} (h : front.getLast?.any Text.isHighSurrogate = false)
    (back : List Nat) : textOf (front ++ back) = textOf front ++ textOf back := by
  suffices hc : Text.ofCodePoints (front ++ back) =
      Text.ofCodePoints front ++ Text.ofCodePoints back by
    simp [textOf, hc]
  induction front using Text.ofCodePoints.induct with
  | case1 => rfl
  | case2 n =>
    have hn : Text.isHighSurrogate n = false := by simpa using h
    cases back with
    | nil => simp [Text.ofCodePoints]
    | cons m back => simp [Text.ofCodePoints, hn]
  | case3 n m rest hp ih =>
    have hr : rest.getLast?.any Text.isHighSurrogate = false := by
      cases rest with
      | nil => rfl
      | cons k rest => simpa using h
    simp [Text.ofCodePoints, hp, ih hr]
  | case4 n m rest hp ih =>
    have hr : (m :: rest).getLast?.any Text.isHighSurrogate = false := by simpa using h
    have ih := ih hr
    rw [List.cons_append] at ih
    rw [List.cons_append, List.cons_append, Text.ofCodePoints, if_neg hp, ih, Text.ofCodePoints,
      if_neg hp, List.cons_append]

/-- Fragments may become characters before they are joined. -/
theorem characters_ofFragments (h : ∀ part ∈ parts, part.isHalved = false) :
    (ofFragments parts).characters = Template.ofFragments (parts.map CodeFragment.characters) := by
  induction parts with
  | nil => rfl
  | cons part parts ih =>
    rw [List.forall_mem_cons] at h
    rw [List.map_cons]
    cases part with
    | text codes =>
      rw [CodeFragment.characters, Template.ofFragments_text, ← ih h.2]
      simp only [ofFragments, characters, textOf_append h.1]
    | slot expression =>
      rw [CodeFragment.characters, Template.ofFragments_slot, ← ih h.2]
      rfl

end CodeTemplate

end Polyglot.Source
