import Polyglot.Source.Node
import Mathlib.Tactic.Common

/-!
# How deep a tree is nested

The levels that printing a tree takes. An expression counts one more than the deepest of the
expressions directly in it: operands, slots, arguments, elements, values of properties and the body
of a function. The template after a tag counts nothing of its own. A class body or method body that
is not empty counts one more than what is in it; statements, slots and properties count nothing.
-/

namespace Polyglot.Source.Node

mutual

/-- The number of levels that printing a tree takes. -/
def nesting : Node → Nat
  | identifier _ | stringLiteral _ | numericLiteral _ | rawExpression _ => 1
  | templateSpan expression _ => expression.nesting
  | templateLiteral _ spans => nestingAll spans + 1
  | taggedTemplate tag (templateLiteral _ spans) => max tag.nesting (nestingAll spans) + 1
  | callExpression callee arguments => max callee.nesting (nestingAll arguments) + 1
  | propertyAccess expression _ => expression.nesting + 1
  | arrowFunction _ body => body.nesting + 1
  | propertyAssignment _ value => value.nesting
  | objectLiteral properties => nestingAll properties + 1
  | arrayLiteral elements => nestingAll elements + 1
  | expressionStatement expression => expression.nesting
  | variableDeclaration _ initializer _ _ => nestingOption initializer
  | returnStatement expression => nestingOption expression
  | methodDeclaration _ _ body => nestingBody body
  | classDeclaration _ heritage members _ => max (nestingOption heritage) (nestingBody members)
  | sourceFile statements _ => nestingAll statements
  | _ => 0

/-- The number of levels that the highest of some trees takes. -/
def nestingAll : List Node → Nat
  | [] => 0
  | node :: rest => max node.nesting (nestingAll rest)

/-- The number of levels of a tree that may be absent. -/
def nestingOption : Option Node → Nat
  | none => 0
  | some node => node.nesting

/-- The number of levels of a body, which counts itself if anything is in it. -/
def nestingBody : List Node → Nat
  | [] => 0
  | node :: rest => max node.nesting (nestingAll rest) + 1

end

variable {nodes : List Node} {levels : Nat}

theorem nestingAll_le_iff : nestingAll nodes ≤ levels ↔ ∀ node ∈ nodes, node.nesting ≤ levels := by
  induction nodes with
  | nil => simp [nestingAll]
  | cons node nodes ih => rw [nestingAll, Nat.max_le, ih, List.forall_mem_cons]

theorem nestingBody_cons_le_iff {node : Node} :
    nestingBody (node :: nodes) ≤ levels + 1 ↔ ∀ n ∈ node :: nodes, n.nesting ≤ levels := by
  rw [nestingBody, Nat.add_le_add_iff_right, ← nestingAll, nestingAll_le_iff]

end Polyglot.Source.Node
