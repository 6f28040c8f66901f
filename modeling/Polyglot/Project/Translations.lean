import Polyglot.Files.Access
import Polyglot.Interchange.Xlb
import Polyglot.Interchange.Xliff
import Polyglot.Project.Config
import Polyglot.Tasks

/-!
# Exchange with translators

The documents of a project on the disk. Bundle documents come back in any number of files, which a
pattern finds, and one is written with the messages of the source locale. XLIFF documents stand in
one file for each target locale, which is read and written anew; a locale without a file has no
translations yet.

Every file is a task of its own: a file that fails does not keep the others from being read or
written.
-/

namespace Polyglot

open Files (Path Disk Session readText writeText)
open Interchange (Xlb.parse Xlb.encode Xliff.parse Xliff.encodeReporting)

namespace Config

/-! ### Bundle documents -/

/-- The files with translated bundles, in order. -/
def translationFiles (config : Config) (settings : XlbSettings) : Session (List Path) := do
  Session.ofExcept ((← getThe Disk).glob config.base (.parse settings.translations))

/-- Read a translated bundle. -/
def readXlbFile (path : Path) : Session Bundle := do
  Xlb.parse (← readText path) (some path.text)

/-- Read all translated bundles. A file that several ways of the pattern lead to is read once and
counts each time. -/
def readXlb (config : Config) (settings : XlbSettings) : Session (List Bundle) := do
  let files ← config.translationFiles settings
  let results ← Tasks.perform (files.eraseDups.map fun path => (path.text, readXlbFile path))
  let bundles := files.filterMap fun path => results.lookup path.text
  report (.bundlesRead bundles.length)
  return bundles

/-- Write the bundle document for translators. -/
def writeXlb (config : Config) (settings : XlbSettings) (messages : List ProgramMessage) :
    Session Unit := do
  let path := config.resolve settings.outputFile
  let document ← Session.ofExcept (Xlb.encode config.sourceLocale messages)
  writeText path document "XLB"
  report (.bundleWritten messages.length path.text)

/-! ### XLIFF documents -/

/-- Read the document of a locale, if it has one. -/
def readXliffLocale (config : Config) (settings : XliffSettings) (locale : String) :
    Session (Option Bundle) := do
  let path := config.xliffPath settings locale
  match (← getThe Disk).readText path with
  | .ok text => some <$> (Xliff.parse text (some path.text) : Run Bundle)
  | .error (.missingFile _) => do
    report (.exchangeMissing locale path.text)
    return none
  | .error failure => throw failure

/-- Read the documents of all target locales. -/
def readXliff (config : Config) (settings : XliffSettings) : Session (List Bundle) := do
  let results ← Tasks.perform
    (config.targetLocales.map fun locale => (locale, config.readXliffLocale settings locale))
  let bundles := results.filterMap Prod.snd
  report (.exchangesRead bundles.length config.targetLocales.length)
  return bundles

/-- Write the document of a locale with its translations. -/
def writeXliffLocale (config : Config) (settings : XliffSettings) (messages : List ProgramMessage)
    (locale : String) (translations : List Message) : Session Unit := do
  let document ← Xliff.encodeReporting config.sourceLocale locale messages translations
  writeText (config.xliffPath settings locale) document "XLIFF"

/-- Write the documents of all target locales with their translations. -/
def writeXliff (config : Config) (settings : XliffSettings) (messages : List ProgramMessage)
    (translations : List (String × List Message)) : Session Unit := do
  let _ ← Tasks.perform (config.targetLocales.map fun locale =>
    (locale, config.writeXliffLocale settings messages locale
      ((translations.lookup locale).getD [])))
  report (.exchangesWritten messages.length config.targetLocales.length)

/-! ### Both formats -/

/-- Read the translations that a project has on the disk. -/
def readTranslations (config : Config) : Session (List Bundle) :=
  match config.interchange with
  | .xlb settings => config.readXlb settings
  | .xliff settings => config.readXliff settings

/-- Write the documents for translators; a format that flows both ways keeps the translations. -/
def writeForTranslators (config : Config) (messages : List ProgramMessage)
    (translations : List (String × List Message)) : Session Unit :=
  match config.interchange with
  | .xlb settings => config.writeXlb settings messages
  | .xliff settings => config.writeXliff settings messages translations

end Config

end Polyglot
