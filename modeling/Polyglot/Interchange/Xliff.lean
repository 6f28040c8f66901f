import Polyglot.Interchange.Document
import Polyglot.Xml.Writer

/-!
# XLIFF documents

One document holds the messages of the program for one target locale, in the format XLIFF 1.2: a
unit for each message, with its source text and, once it is translated, its target. A unit without a
target is not translated yet and reading passes over it.
-/

namespace Polyglot.Interchange.Xliff

open Writing

/-- The namespace of the elements. -/
def xliffNamespace : String := "urn:oasis:names:tc:xliff:document:1.2"

/-- The namespace of schema attributes. -/
def schemaNamespace : String := "http://www.w3.org/2001/XMLSchema-instance"

/-- The namespaces that the root declares. -/
def rootDeclarations : List Xml.Attribute :=
  [("xmlns", xliffNamespace), ("xmlns:xsi", schemaNamespace)]

/-- The other attributes of the root. -/
def schemaAttributes : List Xml.Attribute :=
  [("version", "1.2"), ("xsi:schemaLocation", xliffNamespace ++ " xliff-core-1.2-strict.xsd")]

/-- The attributes of the file element. -/
def fileAttributes (sourceLocale targetLocale : String) : List Xml.Attribute :=
  [("target-language", targetLocale), ("source-language", sourceLocale),
   ("original", "localeweaver-inputs"), ("datatype", "plaintext")]

/-- Append the unit of a message with its translation, if there is one. -/
def appendUnit (targets : List Message) (message : ProgramMessage) : Writing Unit :=
  appendElement "trans-unit" do
    indent 1
    inUnit "trans-unit" message.name do
      setAttribute "id" message.name
      message.note?.forM fun note => do
        appendElement "note" (appendText note)
        indent 1
      appendElement "source" (appendContents true 0 message.contents)
      (lookupMessage message.name targets).forM fun translation => do
        indent 1
        appendElement "target" (appendContents true 0 translation.contents)
    indent 0

/-- Write a document. Of several translations of a message the first counts. -/
def encode (sourceLocale targetLocale : String) (messages : List ProgramMessage)
    (targets : List Message) : Except Failure String := do
  let root ← toElement "xliff" rootDeclarations do
    setAttributes schemaAttributes
    indent 0
    appendElement "file" do
      setAttributes (fileAttributes sourceLocale targetLocale)
      indent 0
      appendElement "body" do
        indent 0
        messages.forM fun message => do
          appendUnit targets message
          indent 0
      indent 0
    indent 0
  return root.writeDocument

/-- Write a document, reporting translations that repeat a name. -/
def encodeReporting (sourceLocale targetLocale : String) (messages : List ProgramMessage)
    (targets : List Message) : Run String := do
  let first ← messagesByName (some targetLocale) targets
  Run.ofExcept (encode sourceLocale targetLocale messages first)

/-- The message of a unit, if it has a target. -/
def readUnit (unit : Xml.Node) : Except Diagnostic (Option Message) := do
  let ⟨name, name_ne⟩ ← requireAttribute "id" unit
  match unit.childrenNamed "target" with
  | [] => return none
  | [target] =>
    return some ⟨name, ← readContents "trans-unit" name target.children, name_ne⟩
  | targets => throw (.targetAmbiguous name targets.length)

/-- The target locale and the translated messages of a document. -/
def readRoot (root : Xml.Node) : Except Diagnostic (String × List Message) := do
  let file ← requireOne "file" root
  let locale ← requireAttribute "target-language" file
  return (locale, (← (file.elementsNamed "trans-unit").mapM readUnit).filterMap id)

/-- Read a document into a bundle of its translated units, reporting units that repeat a name. A
failure names the file that held the document, if it is known. -/
def parse (text : String) (sourcePath : Option String) : Run Bundle :=
  readDocument readRoot text sourcePath

end Polyglot.Interchange.Xliff
