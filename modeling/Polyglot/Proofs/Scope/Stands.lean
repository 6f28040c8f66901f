import Polyglot.Scope.Table
import Polyglot.Proofs.Source.Rebuilt
import Polyglot.Proofs.Source.Within

/-!
# Nodes and the scopes they stand in

Functions and methods add a frame for what stands in them; everywhere else a child stands in the
scope of its parent.
-/

namespace Polyglot.Scope

open Source

/-- The scope of a node's children. -/
def inside (scope : Scope) : Node → Scope
  | .methodDeclaration _ parameters body => scope.child parameters body
  | .arrowFunction parameters _ => scope.child parameters []
  | _ => scope

/-- A node stands in an inner scope somewhere in a tree that stands in a scope. -/
inductive Stands (inner : Scope) (place : Node) : Scope → Node → Prop
  | here : Stands inner place inner place
  | inside {scope : Scope} {node child : Node} (hc : child ∈ node.children)
      (h : Stands inner place (scope.inside node) child) : Stands inner place scope node

variable {scope inner : Scope} {node place : Node} {answers : List Node}

/-- A node stands in an inner scope in one of several trees. -/
def StandsIn (inner : Scope) (place : Node) (scope : Scope) (nodes : List Node) : Prop :=
  ∃ node ∈ nodes, Stands inner place scope node

@[simp] theorem standsIn_nil : ¬StandsIn inner place scope [] := by
  simp [StandsIn]

@[simp] theorem standsIn_cons {nodes : List Node} : StandsIn inner place scope (node :: nodes) ↔
    Stands inner place scope node ∨ StandsIn inner place scope nodes := by
  simp [StandsIn]

/-- Where a node may stand, step by step: on a tree that is written out, `simp` lists its nodes. -/
theorem stands_iff : Stands inner place scope node ↔
    inner = scope ∧ place = node ∨ StandsIn inner place (scope.inside node) node.children := by
  constructor
  · intro h
    cases h with
    | here => exact .inl ⟨rfl, rfl⟩
    | inside hc h => exact .inr ⟨_, hc, h⟩
  · rintro (⟨rfl, rfl⟩ | ⟨child, hc, h⟩)
    · exact .here
    · exact .inside hc h

theorem Stands.trans {middle : Scope} {part : Node} (h : Stands inner place middle part)
    (hp : Stands middle part scope node) : Stands inner place scope node := by
  induction hp with
  | here => exact h
  | inside hc _ ih => exact .inside hc ih

theorem Stands.within (h : Stands inner place scope node) : Node.Within place node := by
  induction h with
  | here => exact .here
  | inside hc _ ih => exact .inside hc ih

/-- What stands within a tree does so in some scope. -/
theorem exists_stands_of_within (scope : Scope) (h : Node.Within place node) :
    ∃ inner, Stands inner place scope node := by
  induction h generalizing scope with
  | here => exact ⟨scope, .here⟩
  | @inside node child hc _ ih =>
    obtain ⟨inner, h⟩ := ih (scope.inside node)
    exact ⟨inner, .inside hc h⟩

/-- Related scopes stay related in a tree if the same functions and methods keep them so. -/
theorem Stands.exists_of_related {other outer : Scope} (h : Stands other place outer node)
    (related : Scope → Scope → Prop)
    (hr : ∀ {scope outer} parameters statements, related scope outer →
      related (scope.child parameters statements) (outer.child parameters statements))
    (hs : related scope outer) : ∃ inner, Stands inner place scope node ∧ related inner other := by
  induction h generalizing scope with
  | here => exact ⟨scope, .here, hs⟩
  | @inside outer node child hc _ ih =>
    have hin : related (scope.inside node) (outer.inside node) := by
      cases node with
      | methodDeclaration | arrowFunction => exact hr _ _ hs
      | _ => exact hs
    obtain ⟨inner, h, hi⟩ := ih hin
    exact ⟨inner, .inside hc h, hi⟩

theorem inside_withChildren (h : node.isInner) :
    scope.inside (node.withChildren answers) = scope.inside node := by
  fun_cases Node.withChildren node answers <;> rfl

/-- What holds of all frames of a scope and of the frames of functions and methods holds of all
frames of the scopes below. -/
theorem forall_frames_of_stands {good : Frame → Prop} (h : Stands inner place scope node)
    (hg : ∀ parameters statements, good (.ofBody false parameters statements))
    (hs : ∀ frame ∈ scope.frames, good frame) : ∀ frame ∈ inner.frames, good frame := by
  induction h with
  | here => exact hs
  | @inside scope node child _ _ ih =>
    refine ih ?_
    cases node with
    | methodDeclaration | arrowFunction => exact List.forall_mem_cons.2 ⟨hg _ _, hs⟩
    | _ => exact hs

theorem program_of_stands (h : Stands inner place scope node) : inner.program = scope.program := by
  induction h with
  | here => rfl
  | @inside scope node child _ _ ih => cases node <;> exact ih

end Polyglot.Scope
