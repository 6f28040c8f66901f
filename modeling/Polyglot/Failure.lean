import Polyglot.Diagnostic.Catalog
import Polyglot.Event
import Polyglot.Source.TemplateText
import Polyglot.Text.Quoted

/-!
# Failures

Everything that an operation of the library can fail with, by cause. `Failure.message` words each
one; those that carry a diagnostic show it in full. A parse failure may also name the file it was
read from, and `ParseFailure.locate` adds that name in front of the location it already has.

`Run` is the type of operations that may fail and report events, which stay reported when they
fail.
-/

namespace Polyglot

/-- A value that no object of its type may hold. -/
inductive ValueFault where
  /-- A message has no name. -/
  | emptyMessageName
  /-- A message of the program has no name. -/
  | emptyProgramMessageName
  | emptyBundleLocale
  | duplicateInBundle (name locale : String)
  | duplicateExport (specifier name : String)
  | unnamedSourceFile
  | duplicateSourceFile (name : String)
  /-- A text holds a character that a document cannot carry. -/
  | unwritableCharacter
  /-- An element of a document has no local name. -/
  | invalidTagName (name : String)
  /-- Tasks are given no worker. -/
  | noWorkers
  /-- A pattern of paths has no name. -/
  | emptyPattern
  /-- A caller refused a value in its own words. -/
  | stated (words : String)
  deriving DecidableEq, Repr

/-- The wording of a value fault. -/
def ValueFault.message : ValueFault → String
  | emptyMessageName => "Message name must be a non-empty string"
  | emptyProgramMessageName => "ProgramMessage name must be a non-empty string"
  | emptyBundleLocale => "Bundle locale must be a non-empty string"
  | duplicateInBundle name locale =>
    "Duplicate message '" ++ name ++ "' in bundle '" ++ locale ++ "'"
  | duplicateExport specifier name =>
    "Module '" ++ specifier ++ "' exports '" ++ name ++ "' more than once"
  | unnamedSourceFile => "Program source files must have a file name"
  | duplicateSourceFile name => "Duplicate source file '" ++ name ++ "'"
  | unwritableCharacter =>
    "All strings must be XML compatible: Unicode or ASCII, no NULL bytes or control characters"
  | invalidTagName name => "Invalid tag name " ++ Text.quoteSingle name
  | noWorkers => "max_workers must be greater than 0"
  | emptyPattern => "Unacceptable pattern: '.'"
  | stated words => words

/-- What a failure to read a document says: a bare text or a diagnostic. -/
inductive Report where
  | text (text : String)
  | diagnostic (diagnostic : Diagnostic)
  deriving DecidableEq, Repr

/-- The wording of a report. -/
def Report.message : Report → String
  | .text words => words
  | .diagnostic finding => finding.display

/-- A document could not be read, and the file that held it if it is known. -/
structure ParseFailure where
  report : Report
  sourcePath : Option String := none
  deriving DecidableEq, Repr

namespace ParseFailure

/-- A failure that carries a diagnostic and no file. -/
def ofDiagnostic (diagnostic : Diagnostic) : ParseFailure :=
  ⟨.diagnostic diagnostic, none⟩

/-- The location of a diagnostic with a file's path in front. -/
def locatedAt (path : String) (location : Option String) : String :=
  match Diagnostic.present location with
  | some location => path ++ ": " ++ location
  | none => path

/-- The failure in a file. -/
def locate (path : String) (failure : ParseFailure) : ParseFailure :=
  match failure.report with
  | .text text => ⟨.text (path ++ ": " ++ text), some path⟩
  | .diagnostic d =>
    ⟨.diagnostic { d with location := some (locatedAt path d.location) }, some path⟩

/-- The failure in a file that may be known, unless it already names one. -/
def locateIn (path : Option String) (failure : ParseFailure) : ParseFailure :=
  match path, failure.sourcePath with
  | some path, none => failure.locate path
  | _, _ => failure

end ParseFailure

/-- The position that a node is printed in. -/
inductive Position where
  | expression
  | statement
  deriving DecidableEq, Repr

/-- Why an operation failed. -/
inductive Failure where
  /-- The body of a template is not well-formed. -/
  | template (fault : Source.TemplateFault)
  /-- A node cannot be printed where it stands. -/
  | unprintable (node : String) (position : Position)
  /-- A value that no object of its type may hold. -/
  | value (fault : ValueFault)
  /-- An interchange document cannot be read. -/
  | parse (failure : ParseFailure)
  /-- A message cannot be written to an interchange document. -/
  | encode (diagnostic : Diagnostic)
  /-- A file that callers may do without is absent. -/
  | missingFile (detail : String)
  /-- A file cannot be read or written. -/
  | file (diagnostic : Diagnostic) (path : String)
  /-- The configuration is wrong. -/
  | configuration (diagnostic : Diagnostic)
  /-- A translation changed its placeholders. -/
  | shape (diagnostic : Diagnostic) (locale messageName : String)
  /-- A call site breaks the contract between extraction and localization. -/
  | contract (diagnostic : Diagnostic)
  /-- A tree is nested deeper than the limit. -/
  | depth (limit : Int)
  /-- A feature needs locale data that is not installed. -/
  | localeDataMissing (feature : String)
  deriving DecidableEq, Repr

namespace Failure

/-- The diagnostic that a failure carries, if it does. -/
def diagnostic? : Failure → Option Diagnostic
  | parse ⟨.diagnostic d, _⟩ => some d
  | encode d | file d _ | configuration d | shape d _ _ | contract d => some d
  | depth limit => some (.depthExceeded limit)
  | _ => none

/-- The wording of a failure. -/
def message : Failure → String
  | template fault => fault.message
  | unprintable node .expression => "Cannot serialize " ++ node ++ " as an expression"
  | unprintable node .statement => "Cannot serialize " ++ node ++ " as a statement"
  | value fault => fault.message
  | parse failure => failure.report.message
  | missingFile detail => detail
  | localeDataMissing feature =>
    feature ++ " requires Babel for CLDR locale data. " ++
      "Install with: pip install localeweaver[babel]"
  | encode d | file d _ | configuration d | shape d _ _ | contract d => d.display
  | depth limit => (Diagnostic.depthExceeded limit).display

end Failure

/-- An operation that reports events. -/
abbrev Reporting := StateM (List Event)

/-- An operation that may fail and reports events. -/
abbrev Run := ExceptT Failure Reporting

/-- Report an event. -/
def report (event : Event) : Reporting Unit :=
  modify (· ++ [event])

/-- Report several events. -/
def reportAll (events : List Event) : Reporting Unit :=
  modify (· ++ events)

/-- Perform an operation from no events on: its result and what it reported. -/
def Run.perform {α : Type} (run : Run α) : Except Failure α × List Event :=
  StateT.run (ExceptT.run run) []

/-- A result as an operation that reports nothing. -/
def Run.ofExcept {α : Type} (result : Except Failure α) : Run α :=
  ExceptT.mk (pure result)

end Polyglot
