import Polyglot.Interchange.Document
import Polyglot.Xml.Writer

/-!
# Bundle documents

One document holds the messages of one locale: a bundle element with the locale, and in it a `msg`
element for each message, with its name and, in the document for translators, a note. Reading takes
every `msg` element of the document wherever it stands.
-/

namespace Polyglot.Interchange.Xlb

open Writing

/-- Append the element of a message of the program. -/
def appendMessage (message : ProgramMessage) : Writing Unit :=
  appendElement "msg" do
    inUnit "msg" message.name do
      setAttribute "name" message.name
      message.note?.forM (setAttribute "desc")
      appendContents false 0 message.contents

/-- Write the document for translators, each message on a line of its own. -/
def encode (sourceLocale : String) (messages : List ProgramMessage) : Except Failure String := do
  let root ← toElement "localizationbundle" [] do
    setAttribute "locale" sourceLocale
    indent 1
    appendElement "messages" do
      messages.forM fun message => do
        indent 2
        appendMessage message
      indent 1
    indent 0
  return root.writeDocument

/-- The message of an element. -/
def readMessage (element : Xml.Node) : Except Diagnostic Message := do
  let ⟨name, name_ne⟩ ← requireAttribute "name" element
  return ⟨name, ← readContents "msg" name element.children, name_ne⟩

/-- The locale and the messages of a document. -/
def readRoot (root : Xml.Node) : Except Diagnostic (String × List Message) := do
  let bundle ← requireOne "localizationbundle" root
  let locale ← requireAttribute "locale" bundle
  return (locale, ← (root.elementsNamed "msg").mapM readMessage)

/-- Read a document into a bundle, reporting messages that repeat a name. A failure names the file
that held the document, if it is known. -/
def parse (text : String) (sourcePath : Option String) : Run Bundle :=
  readDocument readRoot text sourcePath

end Polyglot.Interchange.Xlb
