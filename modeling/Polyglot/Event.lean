/-!
# Events

What the library reports while it works, apart from its results: something a person may have to
look into (`warning`, `failure`), a step taken (`info`) or a detail of it (`debug`).
-/

namespace Polyglot

/-- How much an event matters. -/
inductive Level where
  | debug
  | info
  | warning
  | failure
  deriving DecidableEq, Repr

/-- Something worth reporting. -/
inductive Event where
  /-- A depth limit above the ceiling was lowered to it. -/
  | depthClamped (requested stack ceiling : Int)
  /-- A message was dropped because an earlier one has its name. -/
  | duplicateMessage (name : String) (locale : Option String)
  /-- Some translations belong to no source message. -/
  | unmatchedTranslations (count : Nat) (locale : String)
  /-- An import of the localization library went away. -/
  | importRemoved (specifier fileName : String)
  /-- A message has no translation and keeps its source text. -/
  | untranslated (locale id : String)
  /-- The translated bundles were read. -/
  | bundlesRead (count : Nat)
  /-- The source bundle was written. -/
  | bundleWritten (count : Nat) (path : String)
  /-- A locale has no exchange file yet. -/
  | exchangeMissing (locale path : String)
  /-- The exchange files of the locales were read. -/
  | exchangesRead (found locales : Nat)
  /-- The exchange files of the locales were written. -/
  | exchangesWritten (messages locales : Nat)
  /-- A file was written. -/
  | fileWritten (kind path : String)
  /-- The module of locale codes was written. -/
  | localeCodesWritten (path : String)
  /-- A localized copy of the program was written. -/
  | localeEmitted (files : Nat) (locale directory : String)
  /-- One of several independent tasks failed. -/
  | taskFailed (key reason : String)
  deriving DecidableEq, Repr

namespace Event

/-- How much an event matters. -/
def level : Event → Level
  | depthClamped .. | duplicateMessage .. => .warning
  | importRemoved .. | untranslated .. | exchangeMissing .. | fileWritten .. => .debug
  | taskFailed .. => .failure
  | _ => .info

/-- The text of an event. -/
def text : Event → String
  | depthClamped requested stack ceiling =>
    s!"Requested depth {requested} exceeds Python recursion limit ({stack}). " ++
      s!"Clamping to {ceiling} to prevent RecursionError."
  | duplicateMessage name locale =>
    "Duplicate message '" ++ name ++ "'" ++
      ((locale.filter (· != "")).map (" in locale '" ++ · ++ "'")).getD "" ++
      "; keeping the first occurrence"
  | unmatchedTranslations count locale =>
    s!"{count} translation(s) in locale '{locale}' match no source message"
  | importRemoved specifier fileName => s!"Removing import of '{specifier}' from {fileName}"
  | untranslated locale id => s!"No '{locale}' translation for message '{id}'; using source text"
  | bundlesRead count => s!"Read {count} XLB translation file(s)"
  | bundleWritten count path => s!"Wrote {count} message(s) to {path}"
  | exchangeMissing locale path => s!"No XLIFF file for locale '{locale}' at {path}; skipping"
  | exchangesRead found locales => s!"Read XLIFF translations for {found} of {locales} locale(s)"
  | exchangesWritten messages locales =>
    s!"Wrote {messages} message(s) to XLIFF for {locales} locale(s)"
  | fileWritten kind path => s!"Wrote {kind} file {path}"
  | localeCodesWritten path => s!"Wrote locale codes module {path}"
  | localeEmitted files locale directory =>
    s!"Emitted {files} file(s) for locale '{locale}' to {directory}"
  | taskFailed key reason => s!"Task for '{key}' failed: {reason}"

end Event

end Polyglot
