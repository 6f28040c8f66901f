import Polyglot.Proofs.Localize.Steps
import Polyglot.Proofs.Source.Rebuilt

/-!
# Flattening keeps the rendered text

A template renders to its texts with the values of its slots in between; a string renders to itself
and a template in a slot to its own text. Taking the strings and templates in the slots of a
template into it leaves the text that it renders to as it is, whatever the values of the other
expressions are, in markup and in plain text, and however the templates are nested.
-/

namespace Polyglot.Localize

open Source Scope

/-! ### Rendering -/

mutual

/-- The text that a node renders to, given the text of each expression that is no string and no
template. -/
def rendered (value : Node → String) : Node → String
  | .stringLiteral text => text
  | .templateSpan expression literal => rendered value expression ++ literal
  | .templateLiteral head spans => head ++ renderedAll value spans
  | .taggedTemplate (.identifier tag) template =>
    if tag == richTag then rendered value template
    else value (.taggedTemplate (.identifier tag) template)
  | node => value node

/-- The text that nodes render to side by side. -/
def renderedAll (value : Node → String) : List Node → String
  | [] => ""
  | node :: rest => rendered value node ++ renderedAll value rest

end

/-- The text that fragments render to. -/
def renderedFragments (value : Node → String) : List Fragment → String
  | [] => ""
  | .text text :: rest => text ++ renderedFragments value rest
  | .slot expression :: rest => rendered value expression ++ renderedFragments value rest

/-- Strings, templates, markup and, as their leaves, numbers, raw expressions and names that mean no
status event; and the slots of templates of these. -/
inductive IsTextual (scope : Scope) : Node → Prop
  | string {text : String} : IsTextual scope (.stringLiteral text)
  | number {raw : String} : IsTextual scope (.numericLiteral raw)
  | raw {text : String} : IsTextual scope (.rawExpression text)
  | name {x : String} (h : statusEvent? scope (.identifier x) = none) :
      IsTextual scope (.identifier x)
  | span {expression : Node} {literal : String} (h : IsTextual scope expression) :
      IsTextual scope (.templateSpan expression literal)
  | template {head : String} {spans : List Node} (h : ∀ span ∈ spans, IsTextual scope span) :
      IsTextual scope (.templateLiteral head spans)
  | markup {head : String} {spans : List Node} (h : ∀ span ∈ spans, IsTextual scope span) :
      IsTextual scope (.taggedTemplate (.identifier richTag) (.templateLiteral head spans))

variable {context : Context} {scope : Scope} {room : Nat} {isRich : Bool} {node : Node}
  {template : Template} {value : Node → String}

@[simp] theorem renderedFragments_append (front rest : List Fragment) :
    renderedFragments value (front ++ rest) =
      renderedFragments value front ++ renderedFragments value rest := by
  induction front with
  | nil => simp [renderedFragments]
  | cons fragment front ih =>
    cases fragment <;> simp [renderedFragments, ih, String.append_assoc]

/-- Joining the texts of fragments leaves the text that they render to as it is. -/
theorem rendered_ofFragments (fragments : List Fragment) :
    rendered value (Template.ofFragments fragments).toNode = renderedFragments value fragments := by
  induction fragments with
  | nil => simp [Template.toNode, rendered, renderedAll, renderedFragments]
  | cons fragment fragments ih =>
    cases fragment <;>
      simp_all [Template.toNode, Source.Span.toNode, rendered, renderedAll, renderedFragments,
        String.append_assoc]

theorem rendered_ofNode (node : Node) :
    rendered value (Source.Span.ofNode node).toNode = rendered value node := by
  cases node <;> simp [Source.Span.ofNode, Source.Span.toNode, rendered]

@[simp] theorem rendered_ofParts (head : String) (spans : List Node) :
    rendered value (Template.ofParts head spans).toNode =
      rendered value (.templateLiteral head spans) := by
  have hs : renderedAll value ((spans.map Source.Span.ofNode).map Source.Span.toNode) =
      renderedAll value spans := by
    induction spans with
    | nil => rfl
    | cons span spans ih =>
      rw [List.map_cons, List.map_cons, renderedAll, renderedAll, ih, rendered_ofNode]
  rw [Template.toNode, rendered, rendered, Template.ofParts, hs]

theorem IsTextual.expression {node : Node} (h : IsTextual scope node) :
    IsTextual scope (Source.Span.ofNode node).expression := by
  cases h with
  | span h => exact h
  | string => exact .string
  | number => exact .number
  | raw => exact .raw
  | name h => exact .name h
  | template h => exact .template h
  | markup h => exact .markup h

theorem textual_of_mem_ofParts {head : String} {spans : List Node}
    (h : ∀ span ∈ spans, IsTextual scope span) :
    ∀ span ∈ (Template.ofParts head spans).spans, IsTextual scope span.expression := by
  intro span hs
  obtain ⟨node, hn, rfl⟩ := List.mem_map.1 hs
  exact (h node hn).expression

/-! ### What the copy keeps -/

/-- The copy of a node is textual and renders to the same text. -/
def RendersAs (scope : Scope) (node out : Node) : Prop :=
  IsTextual scope out ∧ ∀ value, rendered value out = rendered value node

/-- Fragments that hold what a node renders to. -/
def GivesTextOf (scope : Scope) (node : Node) (fragments : List Fragment) : Prop :=
  (∀ expression, .slot expression ∈ fragments → IsTextual scope expression) ∧
    ∀ value, renderedFragments value fragments = rendered value node

theorem RendersAs.refl (h : IsTextual scope node) : RendersAs scope node node :=
  ⟨h, fun _ => rfl⟩

/-- The copy of one of these nodes renders to the same text, unless the levels run out. -/
def CopyRenders (context : Context) (scope : Scope) (room : Nat) : Prop :=
  ∀ node, IsTextual scope node →
    (copyNode context scope room node).YieldsOr (.depth context.limit) (RendersAs scope node)

/-- The fragments of a template of these render to its text, unless the levels run out. -/
def FlattenRenders (context : Context) (scope : Scope) (room : Nat) : Prop :=
  ∀ isRich (template : Template), (∀ span ∈ template.spans, IsTextual scope span.expression) →
    (flatten context scope room isRich template).YieldsOr (.depth context.limit)
      (GivesTextOf scope template.toNode)

/-- An expression that gives fragments as it is written gives its own text. -/
theorem yieldsOr_inlined (hf : FlattenRenders context scope room) (h : IsTextual scope node) :
    (inlined (flatten context scope room) isRich node).YieldsOr (.depth context.limit)
      fun answer => ∀ fragments ∈ answer, GivesTextOf scope node fragments := by
  have hnone : (pure none : Run (Option (List Fragment))).YieldsOr (.depth context.limit)
      fun answer => ∀ fragments ∈ answer, GivesTextOf scope node fragments := .pure (by simp)
  cases h with
  | @string text =>
    refine .pure ?_
    rintro _ ⟨⟩
    exact ⟨by simp, fun value => by simp [renderedFragments, rendered]⟩
  | number | raw | name | span => cases isRich <;> exact hnone
  | @template head spans h =>
    refine (hf false _ (textual_of_mem_ofParts h)).map fun fragments hg => ?_
    rintro _ ⟨⟩
    exact ⟨hg.1, fun value => by rw [hg.2, rendered_ofParts]⟩
  | @markup head spans h =>
    cases isRich with
    | false => exact hnone
    | true =>
      refine (hf true _ (textual_of_mem_ofParts h)).map fun fragments hg => ?_
      rintro _ ⟨⟩
      exact ⟨hg.1, fun value => by rw [hg.2, rendered_ofParts]; simp [rendered]⟩

/-- What a slot gives to the template around it is the text of its expression. -/
theorem yieldsOr_slotFragments (isRich : Bool) (hc : CopyRenders context scope room)
    (hf : FlattenRenders context scope room) (h : IsTextual scope node) :
    (slotFragments (flatten context scope room) (copyNode context scope room) isRich
      node).YieldsOr (.depth context.limit) (GivesTextOf scope node) := by
  refine .bind (yieldsOr_inlined hf h) fun answer ha => ?_
  cases answer with
  | some fragments => exact .pure (ha fragments rfl)
  | none =>
    refine .bind (hc node h) fun copied hcopied => ?_
    refine .bind (yieldsOr_inlined hf hcopied.1) fun again hagain => ?_
    cases again with
    | some fragments =>
      obtain ⟨hs, hv⟩ := hagain fragments rfl
      exact .pure ⟨hs, fun value => (hv value).trans (hcopied.2 value)⟩
    | none =>
      refine .pure ⟨?_, fun value => ?_⟩
      · rintro _ ⟨⟩
        · exact hcopied.1
        · contradiction
      · simp [renderedFragments, hcopied.2]

/-- The slots of a template give what they render to, one after the other. -/
theorem yieldsOr_spansFragments {slot : Node → Run (List Fragment)} {failure : Failure}
    {spans : List Source.Span} (h : ∀ span ∈ spans,
      (slot span.expression).YieldsOr failure (GivesTextOf scope span.expression)) :
    (spansFragments slot spans).YieldsOr failure fun fragments =>
      (∀ expression, .slot expression ∈ fragments → IsTextual scope expression) ∧
        ∀ value, renderedFragments value fragments =
          renderedAll value (spans.map Source.Span.toNode) := by
  induction spans with
  | nil => exact .pure ⟨by simp, fun value => rfl⟩
  | cons span spans ih =>
    rw [List.forall_mem_cons] at h
    refine .bind h.1 fun fragments hg => .bind (ih h.2) fun rest hr => .pure ⟨?_, fun value => ?_⟩
    · intro expression hm
      rcases List.mem_append.1 hm with hm | hm
      · exact hg.1 expression hm
      · exact hr.1 expression (by simpa using hm)
    · simp [renderedFragments, hg.2, hr.2, renderedAll, rendered, Source.Span.toNode,
        String.append_assoc]

theorem flattenRenders_succ (hc : CopyRenders context scope room)
    (hf : FlattenRenders context scope room) : FlattenRenders context scope (room + 1) := by
  intro isRich template h
  rw [flatten]
  have hs := yieldsOr_spansFragments fun span hm =>
    yieldsOr_slotFragments isRich hc hf (h span hm)
  refine .bind hs fun fragments hg => .pure ⟨?_, fun value => ?_⟩
  · intro expression hm
    exact hg.1 expression (by simpa using hm)
  · simp [renderedFragments, hg.2, rendered, Template.toNode]

/-! ### The copy -/

theorem spliced_of_isTextual (h : IsTextual scope node) : node.spliced = [node] := by
  cases h <;> rfl

/-- Copying nodes one by one keeps the text that they render to side by side. -/
theorem yieldsOr_traverseList {f : Node → Run Node} {failure : Failure} {nodes : List Node}
    (h : ∀ node ∈ nodes, (f node).YieldsOr failure (RendersAs scope node)) :
    (Node.traverseList f nodes).YieldsOr failure fun out =>
      (∀ node ∈ out, IsTextual scope node) ∧
        ∀ value, renderedAll value out = renderedAll value nodes := by
  induction nodes with
  | nil => exact .pure ⟨by simp, fun value => rfl⟩
  | cons node nodes ih =>
    rw [List.forall_mem_cons] at h
    refine .bind h.1 fun copied hc => .bind (ih h.2) fun rest hr => .pure ?_
    rw [spliced_of_isTextual hc.1]
    refine ⟨List.forall_mem_cons.2 ⟨hc.1, hr.1⟩, fun value => ?_⟩
    rw [List.singleton_append, renderedAll, renderedAll, hc.2, hr.2]

theorem step_of_isTextual (h : IsTextual scope node) :
    step context scope node = pure (match node with
      | .identifier x => .done (.identifier x)
      | .taggedTemplate tag (.templateLiteral head spans) => .markup tag (.ofParts head spans)
      | node => .inside scope node) := by
  cases h with
  | name h =>
    change (pure (.done ((statusEvent? scope _).getD _)) : Run Step) = _
    rw [h]
    rfl
  | _ => rfl

theorem copyRenders_zero : CopyRenders context scope 0 := by
  intro node h
  rw [copyNode_zero, step_of_isTextual h, pure_bind]
  cases h with
  | name h => exact .pure (.refl (.name h))
  | _ => exact .throw

theorem copyRenders_succ (hc : CopyRenders context scope room)
    (hf : FlattenRenders context scope room) : CopyRenders context scope (room + 1) := by
  intro node h
  rw [copyNode_succ, step_of_isTextual h, pure_bind]
  cases h with
  | name h => exact .pure (.refl (.name h))
  | string => exact .pure (.refl .string)
  | number => exact .pure (.refl .number)
  | raw => exact .pure (.refl .raw)
  | span h =>
    refine .bind (hc _ h) fun copied hcopied => .pure ⟨.span hcopied.1, fun value => ?_⟩
    rw [rendered, rendered, hcopied.2]
  | template h =>
    refine .bind (yieldsOr_traverseList fun node hm => hc node (h node hm)) fun copied hcopied =>
      .pure ⟨.template hcopied.1, fun value => ?_⟩
    rw [rendered, rendered, hcopied.2]
  | markup h =>
    refine .bind (hf true _ (textual_of_mem_ofParts h)) fun fragments hg =>
      .pure ⟨.markup ?_, fun value => ?_⟩
    · intro node hm
      obtain ⟨span, hs, rfl⟩ := List.mem_map.1 hm
      exact .span (hg.1 span.expression (slot_mem_of_mem_ofFragments hs))
    · have hr := (rendered_ofFragments fragments).trans (hg.2 value)
      rw [rendered_ofParts] at hr
      simpa [rendered, Template.toNode] using hr

theorem renders (context : Context) (scope : Scope) (room : Nat) :
    CopyRenders context scope room ∧ FlattenRenders context scope room := by
  induction room with
  | zero =>
    refine ⟨copyRenders_zero, fun isRich template h => ?_⟩
    rw [flatten]
    exact .throw
  | succ room ih => exact ⟨copyRenders_succ ih.1 ih.2, flattenRenders_succ ih.1 ih.2⟩

/-- **Flattening keeps the rendered text.** The slots of a template hold strings, plain templates
and markup templates, nested in any order, and as leaves numbers, raw expressions and names that
mean no status event. Then flattening, for markup or for plain text, either runs out of levels or
gives fragments that make up a template which renders to the same text, whatever the leaves are. -/
theorem rendered_flatten (context : Context) (scope : Scope) (room : Nat) (isRich : Bool)
    (template : Template) (h : ∀ span ∈ template.spans, IsTextual scope span.expression) :
    (flatten context scope room isRich template).YieldsOr (.depth context.limit) fun fragments =>
      ∀ value, rendered value (Template.ofFragments fragments).toNode =
        rendered value template.toNode := by
  intro before
  obtain ⟨after, ⟨fragments, hr, hg⟩ | hr⟩ :=
    (renders context scope room).2 isRich template h before
  · refine ⟨after, .inl ⟨fragments, hr, fun value => ?_⟩⟩
    rw [rendered_ofFragments, hg.2]
  · exact ⟨after, .inr hr⟩

/-! ### A nested template -/

/-- A file that imports the name of the status event. -/
def nestedFile : SourceFile where
  fileName := "app.ts"
  statements := [.importDeclaration
    { specifier := "library", named := [⟨statusEventName, some "event"⟩] }]

/-- A program with the file and the library. -/
def nestedProgram : Program where
  files := [nestedFile]
  modules := [⟨"library", [
    { name := "msg", marks := [Role.message.mark], module := "library" },
    { name := statusEventName, module := "library" }]⟩]

/-- The scope of the file. -/
def nestedScope : Scope :=
  .ofFile nestedProgram nestedFile

/-- A template with plain text around markup and markup around strings. -/
def nestedTemplate : Template where
  head := "Hi "
  spans := [
    ⟨.templateLiteral "a " [.templateSpan (.taggedTemplate (.identifier richTag)
      (.templateLiteral "<b>" [.templateSpan (.identifier "sum") "</b>"])) " "], ", "⟩,
    ⟨.taggedTemplate (.identifier richTag)
      (.templateLiteral "<i>" [.templateSpan (.stringLiteral "c") "</i>"]), "!"⟩,
    ⟨.rawExpression "x + 1", ""⟩]

theorem rendered_flatten_nested :
    (∀ span ∈ nestedTemplate.spans, IsTextual nestedScope span.expression) ∧
    ((flatten { locale := "de", fileName := "app.ts" } nestedScope 5 true
      nestedTemplate).YieldsOr (.depth Depth.standardLimit) fun fragments =>
        ∀ value, rendered value (Template.ofFragments fragments).toNode =
          rendered value nestedTemplate.toNode) ∧
    (Template.ofFragments <$> flatten { locale := "de", fileName := "app.ts" } nestedScope 5 true
      nestedTemplate).perform =
      (.ok ⟨"Hi a ", [
        ⟨.taggedTemplate (.identifier richTag)
          (.templateLiteral "<b>" [.templateSpan (.identifier "sum") "</b>"]), " , <i>c</i>!"⟩,
        ⟨.rawExpression "x + 1", ""⟩]⟩, []) := by
  have hs : ∀ span ∈ nestedTemplate.spans, IsTextual nestedScope span.expression := by
    have hsum : IsTextual nestedScope (.identifier "sum") := .name rfl
    simp only [nestedTemplate, List.forall_mem_cons, List.not_mem_nil, false_implies,
      implies_true, and_true]
    refine ⟨.template ?_, .markup ?_, .raw⟩
    · exact List.forall_mem_singleton.2 (.span (.markup (List.forall_mem_singleton.2 (.span hsum))))
    · exact List.forall_mem_singleton.2 (.span .string)
  refine ⟨hs, rendered_flatten _ nestedScope 5 true nestedTemplate hs, ?_⟩
  delta flatten
  rfl

end Polyglot.Localize
