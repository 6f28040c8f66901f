import Polyglot.Proofs.Results
import Polyglot.Proofs.Runs

/-!
# Rebuilt expressions

Expressions are made of some kinds of nodes only: no statement stands in them, and nothing that a
traversal leaves for several nodes. Rebuilding a node of an expression from answers that are such
nodes gives the node with the answers in the places of its children, one for one.
-/

namespace Polyglot.Source

namespace Node

/-- The node is of a kind that expressions are made of. -/
def isInner : Node → Bool
  | identifier .. | stringLiteral .. | numericLiteral .. | rawExpression .. | templateSpan ..
  | templateLiteral .. | taggedTemplate .. | callExpression .. | propertyAccess ..
  | arrowFunction .. | propertyAssignment .. | objectLiteral .. | arrayLiteral .. => true
  | _ => false

/-- A node of an expression with other nodes in the places of its children. -/
def withChildren : Node → List Node → Node
  | templateSpan _ literal, [expression] => templateSpan expression literal
  | templateLiteral head _, spans => templateLiteral head spans
  | taggedTemplate _ _, [tag, template] => taggedTemplate tag template
  | callExpression _ _, callee :: arguments => callExpression callee arguments
  | propertyAccess _ name, [expression] => propertyAccess expression name
  | arrowFunction parameters _, [body] => arrowFunction parameters body
  | propertyAssignment name _, [value] => propertyAssignment name value
  | objectLiteral _, properties => objectLiteral properties
  | arrayLiteral _, elements => arrayLiteral elements
  | node, _ => node

variable {node : Node} {answers : List Node}

theorem spliced_of_isInner (h : node.isInner) : node.spliced = [node] := by
  cases node <;> first | rfl | cases h

theorem present?_of_isInner (h : node.isInner) : node.present? = some node := by
  cases node <;> first | rfl | cases h

@[simp] theorem withChildren_children : node.withChildren node.children = node := by
  cases node <;> rfl

theorem children_withChildren (h : node.isInner) (hl : node.children.length = answers.length) :
    (node.withChildren answers).children = answers := by
  cases node with
  | templateLiteral | objectLiteral | arrayLiteral => rfl
  | templateSpan | propertyAccess | arrowFunction | propertyAssignment =>
    obtain ⟨a, rfl⟩ := List.length_eq_one_iff.1 hl.symm
    rfl
  | taggedTemplate =>
    obtain ⟨a, b, rfl⟩ := List.length_eq_two.1 hl.symm
    rfl
  | callExpression callee arguments =>
    cases answers with
    | nil => cases hl
    | cons => rfl
  | identifier | stringLiteral | numericLiteral | rawExpression =>
    rw [List.length_eq_zero_iff.1 hl.symm]
    rfl
  | _ => cases h

/-! ### Traversals that return -/

variable {f : Node → Run Node} {nodes : List Node} {out : Node}

theorem exists_of_traverseList {out : List Node} (h : (traverseList f nodes).Returns out) :
    ∃ answers, List.Forall₂ (fun node answer => (f node).Returns answer) nodes answers ∧
      out = answers.flatMap spliced := by
  induction nodes generalizing out with
  | nil => exact ⟨[], .nil, (Run.Returns.of_pure h).symm⟩
  | cons node nodes ih =>
    obtain ⟨answer, ha, h⟩ := Run.Returns.of_bind h
    obtain ⟨rest, hr, h⟩ := Run.Returns.of_bind h
    obtain ⟨answers, hs, rfl⟩ := ih hr
    exact ⟨answer :: answers, .cons ha hs, (Run.Returns.of_pure h).symm⟩

theorem exists_of_traverseOption {node out : Option Node}
    (h : (traverseOption f node).Returns out) :
    ∃ answer, Option.Rel (fun node answer => (f node).Returns answer) node answer ∧
      out = answer.bind present? := by
  cases node with
  | none => exact ⟨none, .none, (Run.Returns.of_pure h).symm⟩
  | some node =>
    obtain ⟨answer, ha, rfl⟩ := Run.Returns.of_map h
    exact ⟨some answer, .some ha, rfl⟩

theorem flatMap_spliced (h : ∀ answer ∈ answers, answer.isInner) :
    answers.flatMap spliced = answers := by
  induction answers with
  | nil => rfl
  | cons answer answers ih =>
    rw [List.forall_mem_cons] at h
    rw [List.flatMap_cons, spliced_of_isInner h.1, ih h.2]
    rfl

/-- Answers that are nodes of expressions stay a list as it is. -/
theorem forall₂_of_traverseList {out : List Node} (h : (traverseList f nodes).Returns out)
    (hf : ∀ node ∈ nodes, ∀ answer, (f node).Returns answer → answer.isInner) :
    List.Forall₂ (fun node answer => (f node).Returns answer) nodes out := by
  obtain ⟨answers, ha, rfl⟩ := exists_of_traverseList h
  rw [flatMap_spliced]
  · exact ha
  · intro answer hm
    obtain ⟨node, hn, hr⟩ := exists_left_of_forall₂ ha hm
    exact hf node hn answer hr

/-- An answer that is a node of an expression stays where it may be absent. -/
theorem rel_of_traverseOption {node out : Option Node} (h : (traverseOption f node).Returns out)
    (hf : ∀ n ∈ node, ∀ answer, (f n).Returns answer → answer.isInner) :
    Option.Rel (fun node answer => (f node).Returns answer) node out := by
  obtain ⟨answer, ha, rfl⟩ := exists_of_traverseOption h
  cases ha with
  | none => exact .none
  | some hr =>
    rw [Option.bind_some, present?_of_isInner (hf _ rfl _ hr)]
    exact .some hr

/-- Rebuilding a node of an expression keeps its kind. -/
theorem kind?_of_traverse (hn : node.isInner) (h : (node.traverse f).Returns out) :
    out.kind? = node.kind? := by
  cases node with
  | identifier | stringLiteral | numericLiteral | rawExpression =>
    rw [← Run.Returns.of_pure h]
  | taggedTemplate | callExpression =>
    obtain ⟨_, _, h⟩ := Run.Returns.of_bind h
    obtain ⟨_, _, h⟩ := Run.Returns.of_bind h
    rw [← Run.Returns.of_pure h]
    rfl
  | templateSpan | templateLiteral | propertyAccess | arrowFunction | propertyAssignment
  | objectLiteral | arrayLiteral =>
    obtain ⟨_, _, h⟩ := Run.Returns.of_bind h
    rw [← Run.Returns.of_pure h]
    rfl
  | _ => cases hn

/-- A node of an expression is rebuilt with the answers in the places of its children. -/
theorem exists_of_traverse (hn : node.isInner) (h : (node.traverse f).Returns out)
    (hf : ∀ child ∈ node.children, ∀ answer, (f child).Returns answer → answer.isInner) :
    ∃ answers, List.Forall₂ (fun child answer => (f child).Returns answer) node.children answers ∧
      out = node.withChildren answers := by
  cases node with
  | identifier | stringLiteral | numericLiteral | rawExpression =>
    exact ⟨[], .nil, (Run.Returns.of_pure h).symm⟩
  | templateSpan | propertyAccess | arrowFunction | propertyAssignment =>
    obtain ⟨answer, ha, h⟩ := Run.Returns.of_bind h
    exact ⟨[answer], .cons ha .nil, (Run.Returns.of_pure h).symm⟩
  | templateLiteral | objectLiteral | arrayLiteral =>
    obtain ⟨answers, ha, h⟩ := Run.Returns.of_bind h
    exact ⟨answers, forall₂_of_traverseList ha hf, (Run.Returns.of_pure h).symm⟩
  | taggedTemplate =>
    obtain ⟨tag, ht, h⟩ := Run.Returns.of_bind h
    obtain ⟨template, hl, h⟩ := Run.Returns.of_bind h
    exact ⟨[tag, template], .cons ht (.cons hl .nil), (Run.Returns.of_pure h).symm⟩
  | callExpression =>
    obtain ⟨callee, hc, h⟩ := Run.Returns.of_bind h
    obtain ⟨arguments, ha, h⟩ := Run.Returns.of_bind h
    refine ⟨callee :: arguments, .cons hc (forall₂_of_traverseList ha ?_),
      (Run.Returns.of_pure h).symm⟩
    exact fun child hm => hf child (List.mem_cons_of_mem _ hm)
  | _ => cases hn

end Node

end Polyglot.Source
