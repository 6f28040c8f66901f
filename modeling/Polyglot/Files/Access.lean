import Polyglot.Failure
import Polyglot.Files.Glob
import Polyglot.Text.Lines
import Polyglot.Text.Utf8

/-!
# Texts on the disk

Reading and writing texts. A file is text in UTF-8. Reading makes a line feed of every line end;
writing leaves the text as it is and makes the directory first. An absent file is a failure of its
own, since callers may do without one; any other failure names the path that it is about.
-/

namespace Polyglot.Files

/-- An operation that may fail, uses a disk and reports events. The disk keeps what a failing
operation did. -/
abbrev Session := ExceptT Failure (StateT Disk Reporting)

namespace Session

/-- An operation that needs no disk. -/
def ofRun {α : Type} (run : Run α) : Session α :=
  ExceptT.mk (StateT.lift (ExceptT.run run))

instance : MonadLift Run Session := ⟨ofRun⟩

/-- A result as an operation. -/
def ofExcept {α : Type} (result : Except Failure α) : Session α :=
  ExceptT.mk (pure result)

/-- A change of the disk, with the failure that a fault of it means. -/
def ofChange {α : Type} (failure : AccessFault → Failure) (change : Disk.Change α) : Session α :=
  ExceptT.mk do
    let (outcome, disk) := (StateT.run (ExceptT.run change) (← get) : Id _)
    set disk
    return outcome.mapError failure

/-- Perform an operation on a disk. -/
def perform {α : Type} (session : Session α) (disk : Disk) : Reporting (Except Failure α × Disk) :=
  StateT.run (ExceptT.run session) disk

end Session

/-- The failure to read a file. -/
def readFailure (path : Path) (detail : String) : Failure :=
  .file (.fileReadFailed path.text detail) path.text

/-- The failure that a fault of reading means. -/
def readFailureOf (fault : AccessFault) : Failure :=
  if fault.cause = .absent then .missingFile fault.message
  else readFailure fault.path fault.message

/-- The text of a file on a disk. -/
def Disk.readText (disk : Disk) (path : Path) : Except Failure String := do
  let bytes ← (disk.read path).mapError readFailureOf
  let text ← (Text.decodeUtf8 bytes).mapError fun fault => readFailure path fault.message
  return String.ofList (Text.unifyLineEnds text)

/-- Read the text of a file. -/
def readText (path : Path) : Session String := do
  Session.ofExcept ((← getThe Disk).readText path)

/-- Write a text of a given kind to a file, making its directory first. -/
def writeText (path : Path) (text kind : String) : Session Unit := do
  let directory := path.parent
  Session.ofChange
    (fun fault => .file (.directoryCreateFailed kind directory.text fault.message) directory.text)
    (Disk.ensureDirectories directory)
  Session.ofChange (fun fault => .file (.fileWriteFailed kind path.text fault.message) path.text)
    (Disk.write path (Text.encodeUtf8 text.toList))
  report (.fileWritten kind path.text)

/-- The paths that a pattern stands for on a disk, in order. A relative pattern is taken from a base
directory, an anchored one from its root. -/
def Disk.glob (disk : Disk) (base pattern : Path) : Except Failure (List Path) :=
  if pattern.names.isEmpty then .error (.value .emptyPattern)
  else
    let start := if pattern.isAnchored then ⟨pattern.anchor, []⟩ else base
    .ok (Path.sorted (Pattern.paths disk (.ofNames pattern.names) start))

end Polyglot.Files
