import Polyglot.Source.Node

/-!
# Nodes within a tree

Which nodes stand somewhere in a tree. A property of all of them holds of the root and of all nodes
within each child. The height of a tree counts the levels of nodes.
-/

namespace Polyglot.Source.Node

/-- A node stands somewhere in a tree. -/
inductive Within (place : Node) : Node → Prop
  | here : Within place place
  | inside {tree child : Node} (hc : child ∈ tree.children) (hw : Within place child) :
      Within place tree

/-- Every node of a tree has a property. -/
def Everywhere (good : Node → Prop) (tree : Node) : Prop :=
  ∀ place, Within place tree → good place

variable {good : Node → Prop} {tree child : Node}

theorem Everywhere.root (h : Everywhere good tree) : good tree :=
  h tree .here

theorem Everywhere.of_mem (h : Everywhere good tree) (hc : child ∈ tree.children) :
    Everywhere good child :=
  fun place hw => h place (.inside hc hw)

theorem Everywhere.of_within {place : Node} (h : Everywhere good tree) (hw : Within place tree) :
    Everywhere good place := by
  induction hw with
  | here => exact h
  | inside hc _ ih => exact ih (h.of_mem hc)

theorem everywhere_iff :
    Everywhere good tree ↔ good tree ∧ ∀ child ∈ tree.children, Everywhere good child := by
  constructor
  · exact fun h => ⟨h.root, fun _ => h.of_mem⟩
  · rintro ⟨hr, hc⟩ place hw
    cases hw with
    | here => exact hr
    | inside hm hw => exact hc _ hm place hw

/-! ### Height -/

/-- A tree is no higher than a number of levels. -/
def NoHigher : (levels : Nat) → (tree : Node) → Prop
  | 0, _ => False
  | levels + 1, tree => ∀ child ∈ tree.children, NoHigher levels child

instance decidableNoHigher : (levels : Nat) → (tree : Node) → Decidable (tree.NoHigher levels)
  | 0, _ => .isFalse id
  | levels + 1, tree =>
    have := decidableNoHigher levels
    inferInstanceAs (Decidable (∀ child ∈ tree.children, NoHigher levels child))

theorem NoHigher.succ {levels : Nat} (h : tree.NoHigher levels) : tree.NoHigher (levels + 1) := by
  induction levels generalizing tree with
  | zero => exact h.elim
  | succ levels ih => exact fun child hc => ih (h child hc)

end Polyglot.Source.Node
