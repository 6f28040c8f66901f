import Polyglot.Interchange.Content
import Polyglot.Message.Bundle
import Polyglot.Xml.Document

/-!
# Reading interchange documents

Both formats are read in the same way: the text into a tree, the tree into a locale and messages,
and these into a bundle. A failure of the first two steps names the file that held the document.
-/

namespace Polyglot.Interchange

/-- The locale and the messages of a document, read from its tree by a given function. Every element
must have a local name. -/
def readText (readRoot : Xml.Node → Except Diagnostic (String × List Message)) (text : String)
    (sourcePath : Option String) : Except Failure (String × List Message) :=
  match Xml.parse text with
  | none => .error (.parse
      ⟨.diagnostic (.xmlMalformed "it breaks the rules of XML" sourcePath), sourcePath⟩)
  | some root =>
    match Xml.Namespaces.strayName? [] root with
    | some name => .error (.value (.invalidTagName name))
    | none => (readRoot root).mapError fun d =>
        .parse ((ParseFailure.ofDiagnostic d).locateIn sourcePath)

/-- The bundle of a document, reporting messages that repeat a name. -/
def readDocument (readRoot : Xml.Node → Except Diagnostic (String × List Message)) (text : String)
    (sourcePath : Option String) : Run Bundle := do
  let (locale, messages) ← Run.ofExcept (readText readRoot text sourcePath)
  Bundle.ofMessages locale messages

end Polyglot.Interchange
