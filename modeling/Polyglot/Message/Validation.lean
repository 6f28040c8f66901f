import Polyglot.Message.Bundle
import Polyglot.Text.Sorted

/-!
# Validation of translations

A translation may put the placeholders of its source in another order and change nothing else about
them. Placeholders are compared as multisets of payloads. A translation without a source is worth a
warning; one with other placeholders is an error.
-/

namespace Polyglot

/-- The elements of a list that are left after taking away each element of another one once. -/
def without (xs ys : List String) : List String :=
  ys.foldl List.erase xs

/-- The finding about a translation whose placeholders are not those of its source. -/
def placeholderMismatch? (locale : String) (source : ProgramMessage) (translation : Message) :
    Option Diagnostic :=
  let expected := source.contents.payloads
  let actual := translation.contents.payloads
  if expected.isPerm actual then none
  else some (.placeholderMismatch locale translation.name
    (Text.sorted (without expected actual)) (Text.sorted (without actual expected)))

/-- The source message of a given name, the last one if several have it. -/
def sourceMessage? (sources : List ProgramMessage) (name : String) : Option ProgramMessage :=
  sources.reverse.find? (·.name == name)

/-- The findings about one bundle. -/
structure ValidationResult where
  locale : String
  errors : List Diagnostic
  warnings : List Diagnostic
  deriving DecidableEq, Repr

namespace ValidationResult

/-- No translation changed its placeholders. -/
def isValid (result : ValidationResult) : Bool :=
  result.errors.isEmpty

end ValidationResult

/-- The finding about a translation that changed its placeholders, if it has a source. -/
def translationError? (sources : List ProgramMessage) (locale : String) (translation : Message) :
    Option Diagnostic := do
  placeholderMismatch? locale (← sourceMessage? sources translation.name) translation

/-- The finding about a translation that has no source. -/
def translationWarning? (sources : List ProgramMessage) (locale : String) (translation : Message) :
    Option Diagnostic :=
  match sourceMessage? sources translation.name with
  | none => some (.translationUnknownId locale translation.name)
  | some _ => none

/-- The findings about a bundle against the messages of the program. -/
def validate (sources : List ProgramMessage) (bundle : Bundle) : ValidationResult :=
  { locale := bundle.locale
    errors := bundle.messages.filterMap (translationError? sources bundle.locale)
    warnings := bundle.messages.filterMap (translationWarning? sources bundle.locale) }

/-- The findings about a bundle, reporting how many translations have no source. -/
def validateReporting (sources : List ProgramMessage) (bundle : Bundle) :
    Reporting ValidationResult := do
  let result := validate sources bundle
  unless result.warnings.isEmpty do
    report (.unmatchedTranslations result.warnings.length bundle.locale)
  return result

/-- The failure of the first translation of a bundle that changed its placeholders. -/
def shapeFailure? (sources : List ProgramMessage) (bundle : Bundle) : Option Failure :=
  bundle.messages.findSome? fun translation =>
    (translationError? sources bundle.locale translation).map fun d =>
      .shape d bundle.locale translation.name

/-- Refuse a bundle in which a translation changed its placeholders. -/
def ensureValid (sources : List ProgramMessage) (bundle : Bundle) : Except Failure Unit :=
  match shapeFailure? sources bundle with
  | some failure => .error failure
  | none => .ok ()

/-- Refuse the first bundle in which a translation changed its placeholders. -/
def ensureAllValid (sources : List ProgramMessage) (bundles : List Bundle) : Except Failure Unit :=
  bundles.forM (ensureValid sources)

end Polyglot
