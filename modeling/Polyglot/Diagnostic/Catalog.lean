import Polyglot.Diagnostic.Basic

/-!
# The catalogue of findings

Every finding that the library reports is made here, so that its wording has one place. A finding
in a unit of an interchange document is located by the unit's element and name.
-/

namespace Polyglot.Diagnostic

/-- The location of a unit in an interchange document. -/
def unitLocation (unitTag unitName : String) : String :=
  unitTag ++ " '" ++ unitName ++ "'"

/-! ### Interchange documents -/

/-- The document is not well-formed. -/
def xmlMalformed (detail : String) (location : Option String) : Diagnostic where
  code := .xmlMalformed
  message := "Interchange file is not well-formed XML: " ++ detail
  hint := some "Check the file for unescaped '<' or '&' characters"
  location := location

/-- A required element is absent. -/
def elementMissing (tag : String) : Diagnostic where
  code := .xmlElementMissing
  message := "Expected exactly one <" ++ tag ++ "> element, found none"
  hint := some "Check that the file is a complete interchange document"

/-- An element that must be single occurs several times. -/
def elementAmbiguous (tag : String) (count : Int) : Diagnostic where
  code := .xmlElementAmbiguous
  message := "Expected exactly one <" ++ tag ++ "> element, found " ++ toString count
  hint := some "Split multi-bundle documents into one file per locale"

/-- A required attribute is absent or empty. -/
def attributeMissing (tag key : String) : Diagnostic where
  code := .xmlAttributeMissing
  message := "Expected <" ++ tag ++ "> to have a non-empty '" ++ key ++ "' attribute"

/-- A placeholder element holds something other than one run of text. -/
def placeholderShape (unitTag unitName : String) : Diagnostic where
  code := .xmlPlaceholderShape
  message := "Expected <ph> to have exactly one text node"
  hint := some "Restore the placeholder content exactly as it appears in the source"
  location := some (unitLocation unitTag unitName)

/-- A unit holds something other than text and placeholders. -/
def unexpectedNode (unitTag unitName node : String) : Diagnostic where
  code := .xmlUnexpectedNode
  message := "Unexpected node in <" ++ unitTag ++ ">: " ++ node
  hint := some "Only text and <ph> elements are allowed in translated content"
  location := some (unitLocation unitTag unitName)

/-- A unit has several targets. -/
def targetAmbiguous (unitName : String) (count : Int) : Diagnostic where
  code := .xmlTargetAmbiguous
  message := "Expected 0 or 1 <target> in <trans-unit>, got " ++ toString count
  location := some (unitLocation "trans-unit" unitName)

/-- A unit holds a character that a document cannot carry. -/
def characterInvalid (unitTag unitName detail : String) : Diagnostic where
  code := .xmlCharacterInvalid
  message := "Message cannot be written as XML: " ++ detail
  hint := some ("Remove control characters other than tab, newline and carriage" ++
    " return from the message")
  location := some (unitLocation unitTag unitName)

/-! ### Files -/

/-- A file exists but cannot be read. -/
def fileReadFailed (path detail : String) : Diagnostic where
  code := .fileReadFailed
  message := "Error reading file: " ++ path ++ "\n" ++ detail
  hint := some "Do you have read permission?"
  location := some path

/-- A directory cannot be created. -/
def directoryCreateFailed (kind path detail : String) : Diagnostic where
  code := .directoryCreateFailed
  message := "Error creating " ++ kind ++ " directory: " ++ path ++
    "\nDo you have write permission?\n" ++ detail
  location := some path

/-- A file cannot be written. -/
def fileWriteFailed (kind path detail : String) : Diagnostic where
  code := .fileWriteFailed
  message := "Error creating " ++ kind ++ " file: " ++ path ++
    "\nDo you have write permission?\n" ++ detail
  location := some path

/-! ### Configuration -/

/-- A setting is missing or has the wrong shape. -/
def configInvalid (detail : String) : Diagnostic where
  code := .configInvalid
  message := "Invalid configuration: " ++ detail

/-- A text is not a locale code. -/
def localeInvalid (locale : String) : Diagnostic where
  code := .localeInvalid
  message := "Invalid locale code: " ++ Text.quoteSingle locale
  hint := some "Use a code such as 'en', 'es-419' or 'zh_CN'"

/-- A file asks to be configured while running, which a localized copy cannot be. -/
def runtimeConfigInTransform (fileName : String) : Diagnostic where
  code := .runtimeConfigInTransform
  message := "Cannot use configureLocalization in transform mode. " ++
    "Use configureTransformLocalization instead."
  location := present (some fileName)

/-! ### Translations -/

/-- The placeholders of a translation are not those of its source. -/
def placeholderMismatch (locale name : String) (missing extra : List String) : Diagnostic where
  code := .placeholderMismatch
  message := "Placeholders in translation differ from source: " ++ ", ".intercalate
    ((if missing.isEmpty then [] else ["missing " ++ Text.quoteList missing]) ++
     (if extra.isEmpty then [] else ["unexpected " ++ Text.quoteList extra]))
  hint := some "Placeholders may be reordered but never edited, added or removed"
  location := some (locale ++ ": '" ++ name ++ "'")

/-- A translation belongs to no source message. -/
def translationUnknownId (locale name : String) : Diagnostic where
  code := .translationUnknownId
  message := "Translation '" ++ name ++ "' does not match any source message"
  location := some locale
  severity := .warning

/-! ### Call sites -/

/-- A slot of a parameterized template is not a parameter. -/
def slotNotParameter (description : String) : Diagnostic where
  code := .templateSlotNotParameter
  message := "Internal error: expected template expression to be a parameter, got " ++ description

/-- A parameter of a template has no argument. -/
def parameterUnbound (name : String) : Diagnostic where
  code := .templateParameterUnbound
  message := "Internal error: no value provided for template parameter '" ++ name ++ "'"

/-- A markup template came out as a plain string. -/
def richTemplateIsString : Diagnostic where
  code := .richTemplateIsString
  message := "Internal error: string literal cannot be html-tagged"

/-- The helper that localizes a base class has other than one argument. -/
def localizedArity (count : Int) : Diagnostic where
  code := .localizedArity
  message := "Internal error: expected Localized mixin call to have one argument, got " ++
    toString count

/-- The template argument of a message call has the wrong shape. -/
def templateArgumentInvalid (detail : String) : Diagnostic where
  code := .templateArgumentInvalid
  message := "Internal error: invalid msg template argument: " ++ detail

/-- The options argument of a message call has the wrong shape. -/
def optionsArgumentInvalid (detail : String) : Diagnostic where
  code := .optionsArgumentInvalid
  message := "Internal error: invalid msg options argument: " ++ detail

/-- A tree is nested deeper than the limit. -/
def depthExceeded (limit : Int) : Diagnostic where
  code := .maxDepthExceeded
  message := "Maximum nesting depth exceeded (max: " ++ toString limit ++ ")"
  hint := some "Check for programmatically constructed, deeply nested templates"

end Polyglot.Diagnostic
