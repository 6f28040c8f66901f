import Polyglot.Files.Path
import Polyglot.Locale.Code

/-!
# Configuration of a project

A project has a source locale, target locales, settings of the documents that it exchanges with
translators and settings of its output. All locales are locale codes and no two are the same. A
locale that locale data does not know is worth a warning and no fault. Paths in the settings are
taken from the base directory.
-/

namespace Polyglot

/-- Where bundle documents stand: the one written for translators and the pattern of those that come
back. -/
structure XlbSettings where
  outputFile : String
  translations : String
  deriving DecidableEq, Repr

/-- Where XLIFF documents stand: a directory with one for each target locale. -/
structure XliffSettings where
  directory : String
  deriving DecidableEq, Repr

/-- The documents that a project exchanges with translators. -/
inductive InterchangeSettings where
  | xlb (settings : XlbSettings)
  | xliff (settings : XliffSettings)
  deriving DecidableEq, Repr

/-- The name of the format of some settings. -/
def InterchangeSettings.format : InterchangeSettings → String
  | xlb _ => "xlb"
  | xliff _ => "xliff"

/-- Where the localized copies of a program stand. -/
structure OutputSettings where
  /-- The directory that holds a directory for each locale. -/
  directory : String
  /-- The file of the module of locale codes, if there is to be one. -/
  localeCodesModule : Option String
  deriving DecidableEq, Repr

/-- What is wrong with a configuration. -/
inductive ConfigFault where
  /-- A setting is absent, empty or no text. -/
  | notText (key : String)
  /-- A setting is absent or no record. -/
  | notRecord (key : String)
  /-- The target locales are no list of texts. -/
  | badTargets
  | unknownFormat (format : String)
  | unknownMode (mode : String)
  /-- A setting that may be absent or empty is no text. -/
  | notOptionalText (key : String)
  | badLocale (code : String)
  | sourceAmongTargets (code : String)
  | repeatedTarget (code : String)
  /-- The settings are those of another format than is asked for. -/
  | otherFormat (expected found : String)
  deriving DecidableEq, Repr

namespace ConfigFault

/-- The finding that shows a fault. -/
def diagnostic : ConfigFault → Diagnostic
  | notText key => .configInvalid ("'" ++ key ++ "' must be a non-empty string")
  | notRecord key => .configInvalid ("'" ++ key ++ "' must be an object")
  | badTargets => .configInvalid "'targetLocales' must be a list of strings"
  | unknownFormat format => .configInvalid ("unknown interchange format '" ++ format ++ "'")
  | unknownMode mode => .configInvalid ("unsupported output mode '" ++ mode ++ "'")
  | notOptionalText key => .configInvalid ("'" ++ key ++ "' must be a string")
  | badLocale code => .localeInvalid code
  | sourceAmongTargets code =>
    .configInvalid ("source locale '" ++ code ++ "' is also listed as a target locale")
  | repeatedTarget code => .configInvalid ("target locale '" ++ code ++ "' is listed twice")
  | otherFormat expected found =>
    .configInvalid ("expected interchange format '" ++ expected ++ "', got '" ++ found ++ "'")

/-- The first fault of some target locales, given those before them. -/
def ofTargets? (source : String) : (seen : List String) → List String → Option ConfigFault
  | _, [] => none
  | seen, code :: rest =>
    if !Locale.isCode code then some (badLocale code)
    else if code = source then some (sourceAmongTargets code)
    else if code ∈ seen then some (repeatedTarget code)
    else ofTargets? source (code :: seen) rest

/-- The first fault of the locales of a project. -/
def ofLocales? (source : String) (targets : List String) : Option ConfigFault :=
  if !Locale.isCode source then some (badLocale source) else ofTargets? source [] targets

theorem ofTargets?_eq_none_iff {source : String} {seen targets : List String} :
    ofTargets? source seen targets = none ↔
      (∀ code ∈ targets, Locale.isCode code = true ∧ code ≠ source ∧ code ∉ seen) ∧
        targets.Nodup := by
  induction targets generalizing seen with
  | nil => simp [ofTargets?]
  | cons code rest ih =>
    simp only [ofTargets?]
    split
    · next h => simp_all
    split
    · next h => simp_all
    split
    · next h => simp_all
    next hcode hsource hseen =>
      rw [ih]
      simp only [Bool.not_eq_true', Bool.not_eq_false] at hcode
      simp only [List.mem_cons, not_or, forall_eq_or_imp, List.nodup_cons]
      constructor
      · rintro ⟨hall, hnodup⟩
        exact ⟨⟨⟨hcode, hsource, hseen⟩, fun other ho => ⟨(hall other ho).1, (hall other ho).2.1,
          (hall other ho).2.2.2⟩⟩, fun hmem => (hall code hmem).2.2.1 rfl, hnodup⟩
      · rintro ⟨⟨-, hall⟩, hmem, hnodup⟩
        exact ⟨fun other ho => ⟨(hall other ho).1, (hall other ho).2.1,
          fun h => hmem (h ▸ ho), (hall other ho).2.2⟩, hnodup⟩

theorem ofLocales?_eq_none_iff {source : String} {targets : List String} :
    ofLocales? source targets = none ↔
      (∀ code ∈ source :: targets, Locale.isCode code = true) ∧ (source :: targets).Nodup := by
  unfold ofLocales?
  split
  · next h => simp_all
  next h =>
    simp only [Bool.not_eq_true', Bool.not_eq_false] at h
    simp only [ofTargets?_eq_none_iff, List.not_mem_nil, not_false_eq_true, and_true,
      List.mem_cons, forall_eq_or_imp, h, true_and, List.nodup_cons]
    constructor
    · rintro ⟨hall, hnodup⟩
      exact ⟨fun code hc => (hall code hc).1, fun hmem => (hall source hmem).2 rfl, hnodup⟩
    · rintro ⟨hall, hmem, hnodup⟩
      exact ⟨fun code hc => ⟨hall code hc, fun h => hmem (h ▸ hc)⟩, hnodup⟩

end ConfigFault

/-- What is odd about a configuration that is accepted. -/
inductive ConfigWarning where
  /-- Locale data does not know a locale. -/
  | unknownLocale (code : String)
  deriving DecidableEq, Repr

/-- The wording of a warning. -/
def ConfigWarning.message : ConfigWarning → String
  | unknownLocale code => "Locale '" ++ code ++ "' is not a known CLDR locale"

/-- The configuration of a project. -/
structure Config where
  sourceLocale : String
  /-- The locales to translate into, in the order that they are worked on. -/
  targetLocales : List String
  interchange : InterchangeSettings
  output : OutputSettings
  /-- The directory that paths in the settings are taken from. -/
  base : Files.Path
  isCode_of_mem : ∀ code ∈ sourceLocale :: targetLocales, Locale.isCode code = true
  nodup_locales : (sourceLocale :: targetLocales).Nodup

namespace Config

open Files (Path)

/-- A configuration, if its locales are locale codes and differ. -/
def make (sourceLocale : String) (targetLocales : List String) (interchange : InterchangeSettings)
    (output : OutputSettings) (base : Path) : Except ConfigFault Config :=
  match h : ConfigFault.ofLocales? sourceLocale targetLocales with
  | some fault => .error fault
  | none =>
    let locales := ConfigFault.ofLocales?_eq_none_iff.1 h
    .ok ⟨sourceLocale, targetLocales, interchange, output, base, locales.1, locales.2⟩

/-- The source locale and then the target locales. -/
def allLocales (config : Config) : List String :=
  config.sourceLocale :: config.targetLocales

/-- What there is to warn of when a configuration is made, given the locale data: its locales that
are not known. -/
def warnings (config : Config) (data : Option Locale.Data) : List ConfigWarning :=
  (config.allLocales.filter fun code => Locale.isKnown? code data == some false).map .unknownLocale

/-- The path that a text in the settings means. -/
def resolve (config : Config) (path : String) : Path :=
  config.base.join (.parse path)

/-- The settings of bundle documents; a fault if the project exchanges others. -/
def xlb (config : Config) : Except ConfigFault XlbSettings :=
  match config.interchange with
  | .xlb settings => .ok settings
  | other => .error (.otherFormat "xlb" other.format)

/-- The settings of XLIFF documents; a fault if the project exchanges others. -/
def xliff (config : Config) : Except ConfigFault XliffSettings :=
  match config.interchange with
  | .xliff settings => .ok settings
  | other => .error (.otherFormat "xliff" other.format)

/-- The directory of XLIFF documents. -/
def xliffDirectory (config : Config) (settings : XliffSettings) : Path :=
  config.resolve settings.directory

/-- The path of the XLIFF document of a locale. -/
def xliffPath (config : Config) (settings : XliffSettings) (locale : String) : Path :=
  (config.xliffDirectory settings).join (.parse (locale ++ ".xlf"))

/-- The directory that holds a directory of output for each locale. -/
def outputDirectory (config : Config) : Path :=
  config.resolve config.output.directory

/-- The directory of the output of a locale. -/
def localeDirectory (config : Config) (locale : String) : Path :=
  config.outputDirectory.join (.parse locale)

/-- The path of the copy of a file for a locale. -/
def outputPath (config : Config) (locale fileName : String) : Path :=
  (config.localeDirectory locale).join (.parse fileName)

end Config

end Polyglot
