/-!
# Diagnostic codes

Each kind of finding has a name and a number. The thousands digit of the number groups the kinds:
interchange documents (1), files (2), configuration (3), the shape of translations (4) and the
contract between extraction and localization (9).
-/

namespace Polyglot.Diagnostic

/-- The kinds of findings. -/
inductive Code where
  | xmlMalformed
  | xmlElementMissing
  | xmlElementAmbiguous
  | xmlAttributeMissing
  | xmlPlaceholderShape
  | xmlUnexpectedNode
  | xmlTargetAmbiguous
  | xmlCharacterInvalid
  | fileReadFailed
  | directoryCreateFailed
  | fileWriteFailed
  | configInvalid
  | localeInvalid
  | runtimeConfigInTransform
  | placeholderMismatch
  | translationUnknownId
  | templateSlotNotParameter
  | templateParameterUnbound
  | richTemplateIsString
  | localizedArity
  | templateArgumentInvalid
  | optionsArgumentInvalid
  | maxDepthExceeded
  deriving DecidableEq, Repr

namespace Code

/-- The name shown with a finding. -/
def name : Code → String
  | xmlMalformed => "XML_MALFORMED"
  | xmlElementMissing => "XML_ELEMENT_MISSING"
  | xmlElementAmbiguous => "XML_ELEMENT_AMBIGUOUS"
  | xmlAttributeMissing => "XML_ATTRIBUTE_MISSING"
  | xmlPlaceholderShape => "XML_PLACEHOLDER_SHAPE"
  | xmlUnexpectedNode => "XML_UNEXPECTED_NODE"
  | xmlTargetAmbiguous => "XML_TARGET_AMBIGUOUS"
  | xmlCharacterInvalid => "XML_CHARACTER_INVALID"
  | fileReadFailed => "FILE_READ_FAILED"
  | directoryCreateFailed => "DIRECTORY_CREATE_FAILED"
  | fileWriteFailed => "FILE_WRITE_FAILED"
  | configInvalid => "CONFIG_INVALID"
  | localeInvalid => "LOCALE_INVALID"
  | runtimeConfigInTransform => "RUNTIME_CONFIG_IN_TRANSFORM"
  | placeholderMismatch => "PLACEHOLDER_MISMATCH"
  | translationUnknownId => "TRANSLATION_UNKNOWN_ID"
  | templateSlotNotParameter => "TEMPLATE_SLOT_NOT_PARAMETER"
  | templateParameterUnbound => "TEMPLATE_PARAMETER_UNBOUND"
  | richTemplateIsString => "RICH_TEMPLATE_IS_STRING"
  | localizedArity => "LOCALIZED_ARITY"
  | templateArgumentInvalid => "TEMPLATE_ARGUMENT_INVALID"
  | optionsArgumentInvalid => "OPTIONS_ARGUMENT_INVALID"
  | maxDepthExceeded => "MAX_DEPTH_EXCEEDED"

/-- The number of a kind, unique to it. -/
def number : Code → Nat
  | xmlMalformed => 1001
  | xmlElementMissing => 1002
  | xmlElementAmbiguous => 1003
  | xmlAttributeMissing => 1004
  | xmlPlaceholderShape => 1005
  | xmlUnexpectedNode => 1006
  | xmlTargetAmbiguous => 1007
  | xmlCharacterInvalid => 1008
  | fileReadFailed => 2001
  | directoryCreateFailed => 2002
  | fileWriteFailed => 2003
  | configInvalid => 3001
  | localeInvalid => 3002
  | runtimeConfigInTransform => 3003
  | placeholderMismatch => 4001
  | translationUnknownId => 4002
  | templateSlotNotParameter => 9001
  | templateParameterUnbound => 9002
  | richTemplateIsString => 9003
  | localizedArity => 9004
  | templateArgumentInvalid => 9005
  | optionsArgumentInvalid => 9006
  | maxDepthExceeded => 9007

/-- Every kind, by increasing number. -/
def all : List Code :=
  [xmlMalformed, xmlElementMissing, xmlElementAmbiguous, xmlAttributeMissing, xmlPlaceholderShape,
   xmlUnexpectedNode, xmlTargetAmbiguous, xmlCharacterInvalid, fileReadFailed,
   directoryCreateFailed, fileWriteFailed, configInvalid, localeInvalid, runtimeConfigInTransform,
   placeholderMismatch, translationUnknownId, templateSlotNotParameter, templateParameterUnbound,
   richTemplateIsString, localizedArity, templateArgumentInvalid, optionsArgumentInvalid,
   maxDepthExceeded]

theorem mem_all (code : Code) : code ∈ all := by cases code <;> decide

/-- The kind with a given name. -/
def ofName? (text : String) : Option Code :=
  all.find? (·.name == text)

end Code

end Polyglot.Diagnostic
