import Polyglot.Scope.Module

/-!
# Scopes

What a name means inside a file. The outermost frame of a scope holds the imports of the file and
its top-level declarations; each function or method body adds a frame of its own in front. In every
frame a constant that is set to a reference is another name for what the reference means there, and
any other declaration hides the name's outer meanings.

`Scope.resolve?` follows such names, through at most thirty-one of them, to an import or to a member
of a module imported as a whole, and from there to the export that declares it.
-/

namespace Polyglot.Scope

/-- An imported name: an export of a module, or the module as a whole. -/
structure Binding where
  module : String
  exportName : Option String
  deriving DecidableEq, Repr

/-- The names of one body. Of several entries for a name, the first counts. -/
structure Frame where
  bindings : List (String × Binding) := []
  renames : List (String × Source.Node) := []
  declared : List String := []
  deriving Inhabited

namespace Frame

/-- The binding of a name by an import. -/
def binding? (frame : Frame) (name : String) : Option Binding :=
  frame.bindings.lookup name

/-- The reference that a name stands for. -/
def rename? (frame : Frame) (name : String) : Option Source.Node :=
  frame.renames.lookup name

/-- The frame gives a name its meaning. -/
def owns (frame : Frame) (name : String) : Bool :=
  (frame.rename? name).isSome || frame.declared.contains name || (frame.binding? name).isSome

/-- Bind a name, over an earlier binding of it. -/
def bind (frame : Frame) (name : String) (binding : Binding) : Frame :=
  { frame with bindings := (name, binding) :: frame.bindings }

/-- Declare a name. -/
def declare (frame : Frame) (name : String) : Frame :=
  { frame with declared := name :: frame.declared }

/-- The names that an import binds, a named import before one by default and that before the whole
module. -/
def bindImport (frame : Frame) (d : Source.ImportDeclaration) : Frame :=
  let named := d.named.foldl
    (fun frame s => frame.bind s.localName ⟨d.specifier, some s.name⟩) frame
  let withDefault := d.byDefault.elim named (named.bind · ⟨d.specifier, some "default"⟩)
  d.whole.elim withDefault (withDefault.bind · ⟨d.specifier, none⟩)

/-- The reference that a constant declaration makes its name stand for. -/
def reference? (keyword : String) : Option Source.Node → Option Source.Node
  | some (.identifier name) =>
    if keyword == "const" then some (.identifier name) else none
  | some (.propertyAccess expression name) =>
    if keyword == "const" then some (.propertyAccess expression name) else none
  | _ => none

/-- The names that a statement adds to a frame; imports count only at the top of a file. -/
def addStatement (atTop : Bool) (frame : Frame) : Source.Node → Frame
  | .importDeclaration d => if atTop then frame.bindImport d else frame
  | .variableDeclaration name initializer keyword _ =>
    match reference? keyword initializer with
    | some target => { frame.declare name with renames := (name, target) :: frame.renames }
    | none => frame.declare name
  | .classDeclaration name .. => frame.declare name
  | _ => frame

/-- The frame of a body: a declaration takes the place of an import of the same name. -/
def ofBody (atTop : Bool) (parameters : List Source.Parameter) (statements : List Source.Node) :
    Frame :=
  let frame := statements.foldl (addStatement atTop) { declared := parameters.map (·.name) }
  { frame with bindings := frame.bindings.filter fun entry => !frame.declared.contains entry.1 }

end Frame

end Polyglot.Scope

namespace Polyglot

/-- The meaning of names at a place of a program: frames from the innermost outward. -/
structure Scope where
  program : Scope.Program
  frames : List Scope.Frame
  deriving Inhabited

namespace Scope

/-- The scope at the top of a file. -/
def ofFile (program : Program) (file : Source.SourceFile) : Scope :=
  ⟨program, [Frame.ofBody true [] file.statements]⟩

/-- The scope inside a function or method body. -/
def child (scope : Scope) (parameters : List Source.Parameter) (statements : List Source.Node) :
    Scope :=
  { scope with frames := Frame.ofBody false parameters statements :: scope.frames }

/-- The frames from the one that gives a name its meaning outward. -/
def owner (name : String) (frames : List Frame) : List Frame :=
  frames.dropWhile fun frame => !frame.owns name

/-- The import that a name comes from. -/
def binding? (scope : Scope) (name : String) : Option Binding := do
  let frame ← (owner name scope.frames).head?
  frame.binding? name

/-- The name stands for a reference in the innermost frame. -/
def isRename (scope : Scope) (name : String) : Bool :=
  scope.frames.head?.any fun frame => (frame.rename? name).isSome

/-- Follow a reference, through a bounded number of names, to the export it means. -/
def follow (program : Program) : Nat → Source.Node → List Frame → Option Export
  | 0, _, _ => none
  | fuel + 1, .identifier name, frames =>
    match owner name frames with
    | [] => none
    | frame :: outer =>
      match frame.rename? name, frame.binding? name with
      | some target, _ => follow program fuel target (frame :: outer)
      | none, some ⟨module, some exportName⟩ => program.resolve? module exportName
      | none, _ => none
  | fuel + 1, .propertyAccess (.identifier base) member, frames =>
    match owner base frames with
    | [] => none
    | frame :: outer =>
      match frame.rename? base, frame.binding? base with
      | some target, _ => follow program fuel (.propertyAccess target member) (frame :: outer)
      | none, some ⟨module, none⟩ => program.resolve? module member
      | none, _ => none
  | _ + 1, _, _ => none

/-- The export that a reference means. -/
def resolve? (scope : Scope) (reference : Source.Node) : Option Export :=
  follow scope.program Program.chainLimit reference scope.frames

/-- The marks of the export that a reference means. -/
def marks (scope : Scope) (reference : Source.Node) : List String :=
  ((scope.resolve? reference).map (·.marks)).getD []

/-- The reference means an export that plays a part. -/
def plays (scope : Scope) (role : Role) (reference : Source.Node) : Bool :=
  (scope.resolve? reference).any (·.plays role)

/-- The import names a module of the localization library. -/
def importsLocalizeModule (scope : Scope) (d : Source.ImportDeclaration) : Bool :=
  scope.program.isLocalizeModule d.specifier

end Scope

end Polyglot
