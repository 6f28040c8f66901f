import Polyglot.Depth

/-!
# Traversals

Reading a tree (`visit`) and rebuilding it (`rebuild`), with a hook for some kinds of nodes. A hook
takes the place of the plain step into the node's children and may take that step itself, on the
same node or on another one. The step counts as one level of depth. Names that a node binds or
spells are no children, so an identifier that a traversal meets is always a reference.

Two ready traversals follow: `record` notes nodes of chosen kinds, and `applyRules` renames
references, removes nodes and doubles them.
-/

namespace Polyglot.Source

variable {m : Type → Type} [Monad m] [MonadExceptOf Failure m]

/-- What to do at a node, given the plain step into the children of a node. -/
abbrev Hook (m : Type → Type) (α : Type) := (step : Node → m α) → Node → m α

/-- The hooks of a traversal. -/
abbrev Hooks (m : Type → Type) (α : Type) := Kind → Option (Hook m α)

/-- What to do at a node: its hook if it has one, else the plain step. -/
def Hooks.run {α : Type} (hooks : Hooks m α) (step : Node → m α) (node : Node) : m α :=
  match node.kind?.bind hooks with
  | some hook => hook step node
  | none => step node

/-- Read a tree within a number of levels. -/
def visit (hooks : Hooks m Unit) (limit : Int) : Nat → Node → m Unit
  | 0 => hooks.run fun _ => throw (Failure.depth limit)
  | room + 1 => hooks.run fun node => node.children.forM (visit hooks limit room)

/-- Rebuild a tree within a number of levels. -/
def rebuild (hooks : Hooks m Node) (limit : Int) : Nat → Node → m Node
  | 0 => hooks.run fun _ => throw (Failure.depth limit)
  | room + 1 => hooks.run fun node => node.traverse (rebuild hooks limit room)

/-! ### Recording -/

/-- A traversal that notes nodes, also those before a failure. -/
abbrev Recording := ExceptT Failure (StateM (List Node))

/-- Note a node. -/
def note (node : Node) : Recording Unit :=
  modify fun seen => seen ++ [node]

/-- Note the nodes of listed kinds and go no further at those of stopping kinds. -/
def recordHooks (listed stopping : Kind → Bool) : Hooks Recording Unit := fun kind =>
  if stopping kind then some fun _ node => note node
  else if listed kind then some fun step node => do
    note node
    step node
  else none

/-- The nodes of chosen kinds in reading order, and how the traversal ended. -/
def record (listed stopping : Kind → Bool) (limit : Int) (tree : Node) :
    Except Failure Unit × List Node :=
  StateT.run (ExceptT.run (visit (recordHooks listed stopping) limit limit.toNat tree)) []

/-- The word for a noted node: its kind, and for a reference its name. -/
def Node.label : Node → String
  | .identifier name => "Identifier:" ++ name
  | node => node.describe

/-! ### Rules -/

/-- What a set of rules does to the nodes of a kind. -/
inductive Action where
  | keep
  | remove
  | duplicate
  deriving DecidableEq, Repr

/-- Rules for rebuilding: new names for references, and what happens to each kind of node. -/
structure Rules where
  renames : List (String × String) := []
  action : Kind → Action := fun _ => .keep

namespace Rules

/-- The new name of a reference. -/
def newName (rules : Rules) (name : String) : String :=
  (rules.renames.lookup name).getD name

/-- The hook of an action. A doubled node stands rebuilt in front of itself. -/
def hook (rules : Rules) (kind : Kind) : Option (Hook (Except Failure) Node) :=
  match rules.action kind with
  | .remove => some fun _ _ => .ok (.several [])
  | .duplicate => some fun step node => return .several [← step node, node]
  | .keep =>
    if kind == .identifier && !rules.renames.isEmpty then
      some fun
        | _, .identifier name => .ok (.identifier (rules.newName name))
        | step, node => step node
    else none

end Rules

/-- Rebuild a tree by rules. -/
def applyRules (rules : Rules) (limit : Int) (tree : Node) : Except Failure Node :=
  rebuild rules.hook limit limit.toNat tree

end Polyglot.Source
