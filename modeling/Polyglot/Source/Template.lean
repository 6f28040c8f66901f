import Polyglot.Source.Node

/-!
# Templates

A template is a text with slots: a head, then for each slot its expression and the text after it. A
list of fragments mixes texts and expressions freely; `ofFragments` puts it into the shape of a
template by joining texts that meet, and `fragments` lists a template again.
-/

namespace Polyglot.Source

/-- A slot of a template and the text after it. -/
structure Span where
  expression : Node
  literal : String
  deriving Inhabited

/-- A text with slots. -/
structure Template where
  head : String
  spans : List Span := []
  deriving Inhabited

/-- A piece of a template before texts are joined. -/
inductive Fragment where
  | text (text : String)
  | slot (expression : Node)
  deriving Inhabited

namespace Span

/-- A slot as a node. -/
def toNode (span : Span) : Node :=
  .templateSpan span.expression span.literal

/-- The slot that a node in the place of one stands for: any other node has no text after it. -/
def ofNode : Node → Span
  | .templateSpan expression literal => ⟨expression, literal⟩
  | node => ⟨node, ""⟩

@[simp] theorem ofNode_toNode (span : Span) : ofNode span.toNode = span := rfl

/-- The two fragments of a slot. -/
def fragments (span : Span) : List Fragment :=
  [.slot span.expression, .text span.literal]

end Span

namespace Template

/-- The template of a literal's head and of the nodes in the places of its slots. -/
def ofParts (head : String) (spans : List Node) : Template :=
  ⟨head, spans.map Span.ofNode⟩

/-- A template as a literal. -/
def toNode (template : Template) : Node :=
  .templateLiteral template.head (template.spans.map Span.toNode)

@[simp] theorem ofParts_map_toNode (template : Template) :
    ofParts template.head (template.spans.map Span.toNode) = template := by
  simp [ofParts, Function.comp_def]

/-- The fragments of a template: head, expression, text, expression, text and so on. -/
def fragments (template : Template) : List Fragment :=
  .text template.head :: template.spans.flatMap Span.fragments

/-- The static texts of a template, those between its slots. -/
def strings (template : Template) : List String :=
  template.head :: template.spans.map Span.literal

theorem length_strings (template : Template) :
    template.strings.length = template.spans.length + 1 := by
  simp [strings]

/-- The template of some fragments, texts that meet joined. -/
def ofFragments : List Fragment → Template
  | [] => ⟨"", []⟩
  | .text text :: rest =>
    let template := ofFragments rest
    ⟨text ++ template.head, template.spans⟩
  | .slot expression :: rest =>
    let template := ofFragments rest
    ⟨"", ⟨expression, template.head⟩ :: template.spans⟩

@[simp] theorem ofFragments_nil : ofFragments [] = ⟨"", []⟩ := rfl

@[simp] theorem ofFragments_text (text : String) (rest : List Fragment) :
    ofFragments (.text text :: rest) =
      ⟨text ++ (ofFragments rest).head, (ofFragments rest).spans⟩ := rfl

@[simp] theorem ofFragments_slot (expression : Node) (rest : List Fragment) :
    ofFragments (.slot expression :: rest) =
      ⟨"", ⟨expression, (ofFragments rest).head⟩ :: (ofFragments rest).spans⟩ := rfl

/-- A template comes back from its fragments. -/
@[simp] theorem ofFragments_fragments (template : Template) :
    ofFragments template.fragments = template := by
  obtain ⟨head, spans⟩ := template
  suffices h : ofFragments (spans.flatMap Span.fragments) = ⟨"", spans⟩ by
    simp [fragments, h]
  induction spans with
  | nil => rfl
  | cons span rest ih => simp [Span.fragments, ih]

end Template

end Polyglot.Source
