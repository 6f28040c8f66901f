import Polyglot.Proofs.Source.Rebuilt

/-!
# Well-typed trees

The data model lets any node stand anywhere. In a well-typed file each node stands where its kind
may: statements in bodies, methods in classes, slots in templates, properties in objects, and
expressions elsewhere. Replacing children by nodes that may stand where they did keeps a tree
well-typed.
-/

namespace Polyglot.Source

/-- The places of a tree, by what may stand there. -/
inductive Place where
  | expression
  | template
  | span
  | property
  | statement
  | member
  deriving DecidableEq, Repr

/-- The place lies within an expression. -/
def Place.isInner : Place → Bool
  | statement | member => false
  | _ => true

namespace Node

mutual

/-- The node may stand in a place, and all nodes below it where they stand. -/
def fits : Place → Node → Bool
  | .expression, identifier _ | .expression, stringLiteral _ | .expression, numericLiteral _
  | .expression, rawExpression _ => true
  | .expression, templateLiteral _ spans | .template, templateLiteral _ spans =>
    fitsAll .span spans
  | .span, templateSpan expression _ => expression.fits .expression
  | .expression, taggedTemplate tag template =>
    tag.fits .expression && template.fits .template
  | .expression, callExpression callee arguments =>
    callee.fits .expression && fitsAll .expression arguments
  | .expression, propertyAccess expression _ => expression.fits .expression
  | .expression, arrowFunction _ body => body.fits .expression
  | .property, propertyAssignment _ value => value.fits .expression
  | .expression, objectLiteral properties => fitsAll .property properties
  | .expression, arrayLiteral elements => fitsAll .expression elements
  | .statement, importDeclaration _ => true
  | .statement, expressionStatement expression => expression.fits .expression
  | .statement, variableDeclaration _ initializer _ _ => fitsOption .expression initializer
  | .statement, returnStatement expression => fitsOption .expression expression
  | .statement, classDeclaration _ heritage members _ =>
    fitsOption .expression heritage && fitsAll .member members
  | .member, methodDeclaration _ _ body => fitsAll .statement body
  | _, _ => false

/-- Every node of a list may stand in a place. -/
def fitsAll : Place → List Node → Bool
  | _, [] => true
  | place, node :: rest => node.fits place && fitsAll place rest

/-- A node, if there is one, may stand in a place. -/
def fitsOption : Place → Option Node → Bool
  | _, none => true
  | place, some node => node.fits place

end

variable {place : Place} {node child : Node} {nodes : List Node}

theorem fitsAll_iff : fitsAll place nodes ↔ ∀ node ∈ nodes, node.fits place := by
  induction nodes with
  | nil => simp [fitsAll]
  | cons node nodes ih => simp [fitsAll, ih]

theorem fitsOption_iff {node : Option Node} : fitsOption place node ↔ ∀ n ∈ node, n.fits place := by
  cases node <;> simp [fitsOption]

theorem isInner_of_fits (hp : place.isInner) (h : node.fits place) : node.isInner := by
  fun_cases fits place node with
  | case15 | case16 | case17 | case18 | case19 | case20 => cases hp
  | case21 => simp [fits] at h
  | _ => rfl

theorem not_isInner_of_fits (hp : ¬place.isInner) (h : node.fits place) : ¬node.isInner := by
  fun_cases fits place node with
  | case15 | case16 | case17 | case18 | case19 | case20 => exact Bool.false_ne_true
  | case21 => simp [fits] at h
  | _ => exact absurd rfl hp

theorem exists_fits_child (hp : place.isInner) (h : node.fits place) (hc : child ∈ node.children) :
    ∃ place, place.isInner ∧ child.fits place := by
  fun_cases fits place node with
  | case1 | case2 | case3 | case4 => cases hc
  | case5 | case6 => exact ⟨.span, rfl, fitsAll_iff.1 h child hc⟩
  | case7 | case10 | case11 | case12 =>
    rw [List.mem_singleton.1 hc]
    exact ⟨.expression, rfl, h⟩
  | case8 tag template =>
    obtain ⟨ht, hl⟩ := Bool.and_eq_true_iff.1 h
    rcases List.mem_cons.1 hc with rfl | hc
    · exact ⟨.expression, rfl, ht⟩
    · rw [List.mem_singleton.1 hc]
      exact ⟨.template, rfl, hl⟩
  | case9 callee arguments =>
    obtain ⟨hf, ha⟩ := Bool.and_eq_true_iff.1 h
    rcases List.mem_cons.1 hc with rfl | hc
    · exact ⟨.expression, rfl, hf⟩
    · exact ⟨.expression, rfl, fitsAll_iff.1 ha child hc⟩
  | case13 => exact ⟨.property, rfl, fitsAll_iff.1 h child hc⟩
  | case14 => exact ⟨.expression, rfl, fitsAll_iff.1 h child hc⟩
  | case15 | case16 | case17 | case18 | case19 | case20 => cases hp
  | case21 => simp [fits] at h

theorem kind?_isSome_of_fits (h : node.fits place) : node.kind?.isSome := by
  cases node with
  | several => cases place <;> simp [fits] at h
  | _ => rfl

theorem exists_fits_of_mem_children (h : node.fits place) (hc : child ∈ node.children) :
    ∃ place, child.fits place := by
  have hoption {expression : Option Node} (h : fitsOption .expression expression)
      (hc : child ∈ expression.toList) : ∃ place, child.fits place :=
    ⟨.expression, fitsOption_iff.1 h child (Option.mem_toList.1 hc)⟩
  by_cases hp : place.isInner
  · obtain ⟨place, -, hf⟩ := exists_fits_child hp h hc
    exact ⟨place, hf⟩
  · fun_cases fits place node with
    | case15 => cases hc
    | case16 =>
      rw [List.mem_singleton.1 hc]
      exact ⟨.expression, h⟩
    | case17 | case18 => exact hoption h hc
    | case19 =>
      obtain ⟨hh, hm⟩ := Bool.and_eq_true_iff.1 h
      rcases List.mem_append.1 hc with hc | hc
      · exact hoption hh hc
      · exact ⟨.member, fitsAll_iff.1 hm child hc⟩
    | case20 => exact ⟨.statement, fitsAll_iff.1 h child hc⟩
    | case21 => simp [fits] at h
    | _ => exact absurd rfl hp

/-- A node stays where it may stand when each of its children is replaced by one that may stand
wherever the child may. -/
theorem fits_withChildren {answers : List Node} (hp : place.isInner) (h : node.fits place)
    (hc : List.Forall₂ (fun child answer =>
      ∀ place : Place, place.isInner → child.fits place → answer.fits place)
      node.children answers) :
    (node.withChildren answers).fits place := by
  have hall (place : Place) (hp : place.isInner) {nodes answers : List Node}
      (hn : fitsAll place nodes) (hc : List.Forall₂ (fun child answer =>
        ∀ place : Place, place.isInner → child.fits place → answer.fits place) nodes answers) :
      fitsAll place answers := by
    refine fitsAll_iff.2 fun answer ha => ?_
    obtain ⟨child, hm, hf⟩ := exists_left_of_forall₂ hc ha
    exact hf place hp (fitsAll_iff.1 hn child hm)
  fun_cases fits place node with
  | case1 | case2 | case3 | case4 =>
    cases hc
    rfl
  | case5 | case6 => exact hall .span rfl h hc
  | case7 | case10 | case11 | case12 =>
    obtain ⟨answer, _, ha, hn, rfl⟩ := List.forall₂_cons_left_iff.1 hc
    cases hn
    exact ha .expression rfl h
  | case8 tag template =>
    obtain ⟨ht, hl⟩ := Bool.and_eq_true_iff.1 h
    obtain ⟨tag', _, ha, hr, rfl⟩ := List.forall₂_cons_left_iff.1 hc
    obtain ⟨template', _, hb, hn, rfl⟩ := List.forall₂_cons_left_iff.1 hr
    cases List.forall₂_nil_left_iff.1 hn
    exact Bool.and_eq_true_iff.2 ⟨ha .expression rfl ht, hb .template rfl hl⟩
  | case9 callee arguments =>
    obtain ⟨hf, ha⟩ := Bool.and_eq_true_iff.1 h
    obtain ⟨callee', arguments', hb, hn, rfl⟩ := List.forall₂_cons_left_iff.1 hc
    exact Bool.and_eq_true_iff.2 ⟨hb .expression rfl hf, hall .expression rfl ha hn⟩
  | case13 => exact hall .property rfl h hc
  | case14 => exact hall .expression rfl h hc
  | case15 | case16 | case17 | case18 | case19 | case20 => cases hp
  | case21 => simp [fits] at h

end Node

/-- Every node of a file stands where its kind may. -/
def SourceFile.IsWellTyped (file : SourceFile) : Prop :=
  Node.fitsAll .statement file.statements

instance (file : SourceFile) : Decidable file.IsWellTyped :=
  inferInstanceAs (Decidable (_ = true))

end Polyglot.Source
