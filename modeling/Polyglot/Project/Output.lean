import Polyglot.Files.Access
import Polyglot.Locale.CodesModule
import Polyglot.Localize.Transform
import Polyglot.Message.Validation
import Polyglot.Project.Config
import Polyglot.Tasks

/-!
# Output

The localized copies of a program on the disk: for each locale, the source locale included, a
directory with a copy of every file. Translations may be checked against the messages of the program
before anything is written. The locales are tasks of their own; within a locale all files are
localized before the first is written.
-/

namespace Polyglot

open Files (Path Session writeText)

/-- Write the module of locale codes. -/
def writeLocaleCodes (source : String) (targets : List String) (path : Path) : Session Unit := do
  writeText path (Locale.codesModule source targets) "locale codes module"
  report (.localeCodesWritten path.text)

namespace Config

/-- Write the copy of a file for a locale, and say where. -/
def writeCopy (config : Config) (locale : String) (file : Source.SourceFile) : Session Path := do
  let path := config.outputPath locale file.fileName
  writeText path (← Session.ofExcept file.toNode.print) "output"
  return path

/-- Write the copy of a program for a locale, and say where its files stand. -/
def writeLocale (config : Config) (program : Scope.Program) (locale : String)
    (translations : Option (List Message)) : Session (List Path) := do
  let files ← Localize.localizeProgram program locale translations Depth.standardLimit
  let paths ← files.mapM (config.writeCopy locale)
  report (.localeEmitted paths.length locale (config.localeDirectory locale).text)
  return paths

/-- Refuse translations that changed placeholders of the messages of the program, locale by
locale. -/
def checkTranslations (sources : List ProgramMessage)
    (translations : List (String × List Message)) : Run Unit :=
  translations.forM fun (locale, messages) => do
    let bundle ← Bundle.ofMessages locale messages
    Run.ofExcept (ensureValid sources bundle)

/-- The translations that each locale is written with: none for the source locale, and the first of
each name for a target locale. -/
def translationsByLocale (config : Config) (translations : List (String × List Message)) :
    Run (List (String × Option (List Message))) := do
  let targets ← config.targetLocales.mapM fun locale => do
    let first ← messagesByName (some locale) ((translations.lookup locale).getD [])
    return (locale, some first)
  return (config.sourceLocale, none) :: targets

/-- Write the module of locale codes where the settings ask for one. -/
def writeLocaleCodes (config : Config) : Session Unit :=
  match config.output.localeCodesModule with
  | none | some "" => return
  | some path =>
    Polyglot.writeLocaleCodes config.sourceLocale config.targetLocales (config.resolve path)

/-- Write the copies of a program for all locales, and say for each locale where its files stand.
Given the messages of the program, the translations are checked first. -/
def writeOutput (config : Config) (program : Scope.Program)
    (translations : List (String × List Message)) (sources : Option (List ProgramMessage)) :
    Session (List (String × List Path)) := do
  if let some sources := sources then
    checkTranslations sources translations
  config.writeLocaleCodes
  let versions ← config.translationsByLocale translations
  Tasks.perform (versions.map fun version =>
    (version.1, config.writeLocale program version.1 version.2))

end Config

end Polyglot
