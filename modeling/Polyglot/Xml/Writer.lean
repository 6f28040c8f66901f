import Polyglot.Xml.Tree

/-!
# Writing documents

Text escapes what would be taken for markup and the carriage return, which reading would turn into a
line feed; attribute values escape the quote and all line ends and tabs as well. An element without
nodes is one tag; an element that holds an empty run of text has two.
-/

namespace Polyglot.Xml

/-- One character of a run of text. -/
def escapeTextChar (c : Char) : List Char :=
  match c with
  | '&' => "&amp;".toList
  | '<' => "&lt;".toList
  | '>' => "&gt;".toList
  | '\r' => "&#13;".toList
  | c => [c]

/-- One character of an attribute value. -/
def escapeValueChar (c : Char) : List Char :=
  match c with
  | '&' => "&amp;".toList
  | '<' => "&lt;".toList
  | '>' => "&gt;".toList
  | '"' => "&quot;".toList
  | '\t' => "&#9;".toList
  | '\n' => "&#10;".toList
  | '\r' => "&#13;".toList
  | c => [c]

/-- A run of text as a document holds it. -/
def escapeText (text : String) : String :=
  String.ofList (text.toList.flatMap escapeTextChar)

/-- An attribute value as a document holds it. -/
def escapeValue (value : String) : String :=
  String.ofList (value.toList.flatMap escapeValueChar)

/-- An attribute inside a tag. -/
def writeAttribute (entry : Attribute) : String :=
  " " ++ entry.1 ++ "=\"" ++ escapeValue entry.2 ++ "\""

namespace Node

mutual

/-- The text of a node. -/
def write : Node → String
  | element name attributes children =>
    let front := "<" ++ name ++ String.join (attributes.map writeAttribute)
    match children with
    | [] => front ++ "/>"
    | node :: rest => front ++ ">" ++ (write node ++ writeAll rest) ++ "</" ++ name ++ ">"
  | text words => escapeText words
  | comment words => "<!--" ++ words ++ "-->"
  | instruction target data =>
    "<?" ++ target ++ (if data == "" then "" else " " ++ data) ++ "?>"
  | reference name => "&" ++ name ++ ";"

/-- The text of some nodes. -/
def writeAll : List Node → String
  | [] => ""
  | node :: rest => write node ++ writeAll rest

end

/-- The text of a document with a given root element. -/
def writeDocument (root : Node) : String :=
  "<?xml version=\"1.0\" encoding=\"UTF-8\"?>\n" ++ root.write ++ "\n"

end Node

end Polyglot.Xml
