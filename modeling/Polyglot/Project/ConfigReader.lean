import Polyglot.Project.Config

/-!
# Reading configurations

A configuration comes as a value of a data format: a record whose fields are texts, lists and
records. Settings that are unknown are passed over. The settings are checked in a fixed order and
the first fault counts: the source locale, the form of the target locales, the settings of
interchange, those of output, and last whether the locales are locale codes and differ.
-/

namespace Polyglot

/-- A value of a data format. -/
inductive Setting where
  | null
  | flag (value : Bool)
  | number (digits : String)
  | text (text : String)
  | list (items : List Setting)
  | record (fields : List (String × Setting))
  deriving Repr, Inhabited

namespace Setting

/-- The fields of a record. -/
abbrev Fields := List (String × Setting)

/-- The value of a field, the last one if several have its key. -/
def Fields.get? (fields : Fields) (key : String) : Option Setting :=
  fields.reverse.lookup key

/-- The text of a setting. -/
def text? : Setting → Option String
  | text words => some words
  | _ => none

/-- The items of a list. -/
def list? : Setting → Option (List Setting)
  | list items => some items
  | _ => none

/-- The text of a field, which must not be empty. -/
def Fields.text (fields : Fields) (key : String) : Except ConfigFault String :=
  match (fields.get? key).bind text? with
  | some words => if words = "" then .error (.notText key) else .ok words
  | none => .error (.notText key)

/-- The fields of a field that is a record. -/
def Fields.record (fields : Fields) (key : String) : Except ConfigFault Fields :=
  match fields.get? key with
  | some (.record inner) => .ok inner
  | _ => .error (.notRecord key)

end Setting

namespace Config

open Setting

/-- The target locales, none if they are absent. -/
def readTargets (fields : Fields) : Except ConfigFault (List String) :=
  match fields.get? "targetLocales" with
  | none => .ok []
  | some targets =>
    match (targets.list?).bind (·.mapM text?) with
    | some codes => .ok codes
    | none => .error .badTargets

/-- The settings of interchange. -/
def readInterchange (fields : Fields) : Except ConfigFault InterchangeSettings := do
  match ← fields.text "format" with
  | "xlb" => return .xlb ⟨← fields.text "outputFile", ← fields.text "translationsGlob"⟩
  | "xliff" => return .xliff ⟨← fields.text "xliffDir"⟩
  | format => throw (.unknownFormat format)

/-- The file of the module of locale codes; a null is as good as none. -/
def readCodesModule (fields : Fields) : Except ConfigFault (Option String) :=
  match fields.get? "localeCodesModule" with
  | none | some .null => .ok none
  | some (.text path) => .ok (some path)
  | some _ => .error (.notOptionalText "localeCodesModule")

/-- The directory of the output, the base directory if it is absent. -/
def readOutputDirectory (fields : Fields) : Except ConfigFault String :=
  match fields.get? "outputDir" with
  | none => .ok "."
  | some (.text path) => .ok path
  | some _ => .error (.notOptionalText "outputDir")

/-- The settings of output. -/
def readOutput (fields : Fields) : Except ConfigFault OutputSettings := do
  let mode ← fields.text "mode"
  unless mode = "transform" do throw (.unknownMode mode)
  let localeCodesModule ← readCodesModule fields
  return ⟨← readOutputDirectory fields, localeCodesModule⟩

/-- The configuration that some settings make, with a base directory. -/
def read (fields : Fields) (base : Files.Path) : Except ConfigFault Config := do
  let source ← fields.text "sourceLocale"
  let targets ← readTargets fields
  let interchange ← readInterchange (← fields.record "interchange")
  let output ← readOutput (← fields.record "output")
  make source targets interchange output base

end Config

end Polyglot
