import Polyglot.Failure
import Polyglot.Keyed

/-!
# Modules and their exports

The localization library is recognized by marks on its exports, never by import paths or names. A
module has a table of exports; an export may be forwarded from another module, under another name if
one is given, and resolving it follows the forwarding to the module that declares it. A chain of
more than thirty-one forwards is taken for a cycle.
-/

namespace Polyglot.Scope

/-- The parts that the localization library plays in a program. -/
inductive Role where
  /-- Asks for a message. -/
  | message
  /-- Localizes a base class. -/
  | localized
  /-- Sets the locale when the program is built. -/
  | configureBuild
  /-- Sets the locale while the program runs. -/
  | configureRun
  deriving DecidableEq, Repr

/-- The mark of an export that plays a part. -/
def Role.mark : Role → String
  | message => "_LOCALEWEAVER_MSG_"
  | localized => "_LOCALEWEAVER_LOCALIZED_"
  | configureBuild => "_LOCALEWEAVER_CONFIGURE_TRANSFORM_LOCALIZATION_"
  | configureRun => "_LOCALEWEAVER_CONFIGURE_LOCALIZATION_"

/-- Every part. -/
def Role.all : List Role :=
  [message, localized, configureBuild, configureRun]

/-- A named export of a module. -/
structure Export where
  name : String
  marks : List String := []
  /-- The module it is forwarded from. -/
  forwardedFrom : Option String := none
  /-- Its name there, if it is another. -/
  forwardedName : Option String := none
  /-- The module whose table it stands in. -/
  module : String := ""
  deriving DecidableEq, Repr, Inhabited

namespace Export

/-- The export plays a part. -/
def plays (role : Role) (e : Export) : Bool :=
  e.marks.contains role.mark

/-- The export plays some part. -/
def playsAny (roles : List Role) (e : Export) : Bool :=
  roles.any fun role => e.plays role

/-- The name under which a forwarded export stands in the module it comes from. -/
def nameAtOrigin (e : Export) : String :=
  (e.forwardedName.filter (· != "")).getD e.name

end Export

/-- A module and its table of exports. -/
structure Module where
  specifier : String
  exports : List Export
  deriving DecidableEq, Repr, Inhabited

namespace Module

/-- The export of a given name. -/
def get? (module : Module) (name : String) : Option Export :=
  module.exports.find? (·.name == name)

/-- The first name that occurs twice among some exports. -/
def duplicate? : (seen : List String) → List Export → Option String
  | _, [] => none
  | seen, e :: rest =>
    if seen.contains e.name then some e.name else duplicate? (e.name :: seen) rest

/-- A module from its exports, each of which now stands in its table. -/
def make (specifier : String) (exports : List Export) : Except Failure Module :=
  match duplicate? [] exports with
  | some name => .error (.value (.duplicateExport specifier name))
  | none => .ok ⟨specifier, exports.map fun e => { e with module := specifier }⟩

/-- A module from names with marks; a repeated name keeps its place and takes the later marks. -/
def ofMarks (specifier : String) (marks : List (String × List String)) : Except Failure Module :=
  make specifier ((Keyed.ofPairs marks).map fun entry => { name := entry.1, marks := entry.2 })

end Module

/-- The files of an application and the modules that they import from. -/
structure Program where
  files : List Source.SourceFile
  modules : List Module
  deriving Inhabited

namespace Program

/-- Check the names of files, given those before them: none is empty and none occurs twice. -/
def checkNames : (seen : List String) → List Source.SourceFile → Except Failure Unit
  | _, [] => .ok ()
  | seen, file :: rest =>
    if file.fileName == "" then .error (.value .unnamedSourceFile)
    else if seen.contains file.fileName then .error (.value (.duplicateSourceFile file.fileName))
    else checkNames (file.fileName :: seen) rest

/-- A program from its files and modules. -/
def make (files : List Source.SourceFile) (modules : List Module) : Except Failure Program := do
  checkNames [] files
  return ⟨files, modules⟩

/-- The module of a specifier, the last one if several have it. -/
def module? (program : Program) (specifier : String) : Option Module :=
  program.modules.reverse.find? (·.specifier == specifier)

/-- The number of steps after which a chain of forwards or of names counts as a cycle. -/
def chainLimit : Nat := 32

/-- Follow an export through a bounded number of modules to the one that declares it. -/
def follow (program : Program) : Nat → String → String → Option Export
  | 0, _, _ => none
  | fuel + 1, specifier, name => do
    let module ← program.module? specifier
    let e ← module.get? name
    match e.forwardedFrom with
    | none => some e
    | some origin => program.follow fuel origin e.nameAtOrigin

/-- The declared export that a name of a module stands for. -/
def resolve? (program : Program) (specifier name : String) : Option Export :=
  program.follow chainLimit specifier name

/-- The module is the localization library or forwards the heart of it: some export of it asks for
messages or localizes a base class. -/
def isLocalizeModule (program : Program) (specifier : String) : Bool :=
  match program.module? specifier with
  | none => false
  | some module => module.exports.any fun e =>
    (program.resolve? specifier e.name).any (·.playsAny [.message, .localized])

end Program

end Polyglot.Scope
