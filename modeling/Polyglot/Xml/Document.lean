import Polyglot.Text.CodePage
import Polyglot.Text.Lines
import Polyglot.Text.PairedPage
import Polyglot.Text.Utf8
import Polyglot.Xml.Content
import Polyglot.Xml.Doctype.Declaration

/-!
# Reading documents

A document is an optional declaration of version and encoding, an optional document type declaration
and one root element; comments, processing instructions and space may stand around these. Texts come
in one encoding and may declare another, which then holds: the bytes of the text are read again as
characters of that encoding. A text with a mark at its start has no other encoding than its own,
whatever it declares. All line ends become line feeds before anything else is read.

`parse` reads a document and reviews it; the findings decide whether it is accepted.
-/

namespace Polyglot.Xml

/-! ### Declarations of version and encoding -/

/-- The encodings that a document may declare: its own, one with a byte for each character, or one
with one or two bytes. -/
inductive Encoding where
  | utf8
  | single (page : Text.CodePage)
  | paired (page : Text.PairedPage)
  deriving Repr

namespace Encoding

/-- The text is the name of an encoding, known or not. -/
def isName (name : String) : Bool :=
  match name.toList with
  | [] => false
  | c :: rest => c.isAlpha && rest.all fun c => c.isAlphanum || c == '.' || c == '_' || c == '-'

/-- The encoding of a given name. -/
def ofName? (name : String) : Option Encoding :=
  if ["UTF-8", "UTF8"].contains (String.ofList (name.toList.map Char.toUpper)) then some utf8
  else
    match Text.CodePage.ofName? name with
    | some page => some (single page)
    | none => (Text.PairedPage.ofName? name).map paired

/-- The text that a document is when its bytes are read in an encoding. -/
def decode? (encoding : Encoding) (text : List Char) : Option (List Char) :=
  match encoding with
  | utf8 => some text
  | single page => page.decode? (Text.encodeUtf8 text)
  | paired page => page.decode? (Text.encodeUtf8 text)

end Encoding

/-- What a document declares at its start. -/
structure Declaration where
  version : String := "1.0"
  encoding : Option String := none
  /-- No declarations outside the document matter. -/
  standalone : Bool := false
  deriving DecidableEq, Repr

namespace Declaration

/-- The version is one of the first generation. -/
def isVersion (value : String) : Bool :=
  match value.toList with
  | '1' :: '.' :: digits => digits.all Char.isDigit
  | _ => false

/-- Take an item of the declaration if it has a given name: its value. -/
def item? (name : String) (entries : List (String × List Char)) :
    Option String × List (String × List Char) :=
  match entries with
  | (key, value) :: others =>
    if key == name then (some (String.ofList value), others) else (none, entries)
  | [] => (none, [])

/-- The declaration that its items make: a version, then an encoding and a statement on outside
declarations if they are there. -/
def ofItems? (entries : List (String × List Char)) : Option Declaration := do
  let (version, entries) := item? "version" entries
  let version ← version
  guard (isVersion version)
  let (encoding, entries) := item? "encoding" entries
  guard (encoding.all Encoding.isName)
  let (standalone, entries) := item? "standalone" entries
  guard entries.isEmpty
  match standalone with
  | none => return { version, encoding }
  | some "yes" => return { version, encoding, standalone := true }
  | some "no" => return { version, encoding }
  | some _ => none

/-- Take the items of a declaration up to its end. -/
def items : (fuel : Nat) → Scan (List (String × List Char))
  | 0 => failure
  | fuel + 1 => do
    let spaced ← Scan.space
    if ← Scan.tryLiteral "?>" then return []
    guard spaced
    let name ← Scan.plainName
    let _ ← Scan.space
    Scan.literal "="
    let _ ← Scan.space
    let value ← Scan.quoted
    return (name, value) :: (← items fuel)

/-- Take the declaration if there is one. -/
def scan : Scan Declaration := do
  match Scan.after? "<?xml".toList (← get) with
  | some (c :: text) =>
    if isSpace c then
      set (c :: text)
      let entries ← items 4
      match ofItems? entries with
      | some declaration => return declaration
      | none => failure
    else return {}
  | _ => return {}

/-- The text after a declaration in the encoding that is declared. -/
def decode? (declaration : Declaration) (text : List Char) : Option (List Char) := do
  match declaration.encoding with
  | none => return text
  | some name => (← Encoding.ofName? name).decode? text

/-- The document type that a declaration begins, for a document of a given number of bytes; the
version should be the first. -/
def doctype (declaration : Declaration) (length : Nat) : Doctype :=
  Doctype.noteWhen { standalone := declaration.standalone, review := { length } }
    (declaration.version != "1.0") .warning

end Declaration

/-! ### Documents -/

/-- Take what may stand in front of the root, with at most a given number of comments and
instructions, and say what the document declares. -/
def prolog : (fuel : Nat) → Doctype → Scan Doctype
  | 0, doctype => return doctype
  | fuel + 1, doctype => do
    let _ ← Scan.space
    if ← Scan.tryLiteral "<!--" then
      let _ ← Scan.comment
      prolog fuel doctype
    else if ← Scan.tryLiteral "<?" then
      let (target, _) ← Scan.instruction
      prolog fuel (doctype.noteAll (Findings.ofTarget target))
    else if ← Scan.tryLiteral "<!DOCTYPE" then Doctype.declaration doctype
    else return doctype

/-- The markup may stand outside the root. -/
def Markup.isOutside : Markup → Bool
  | .characters text literal => literal && text.all isSpace
  | .comment _ | .instruction .. => true
  | _ => false

/-- The root among the nodes of a document: its only element, no other node being text or a
reference. -/
def root? (nodes : List Node) : Option Node :=
  match nodes.filter fun node => (node.localName?).isSome with
  | [root] => some root
  | _ => none

/-- The nesting of tags outside of which only some markup may stand. -/
def isOutsideClean : (depth : Nat) → List Markup → Bool
  | _, [] => true
  | depth, .start _ _ closed :: later =>
    isOutsideClean (if closed then depth else depth + 1) later
  | depth, .finish _ :: later => isOutsideClean (depth - 1) later
  | depth, markup :: later => (depth != 0 || markup.isOutside) && isOutsideClean depth later

/-- The root of a document whose declaration was read, from the text after it. -/
def parseBody (declaration : Declaration) (text : List Char) : Option Node := do
  let (doctype, body) ← (prolog text.length (declaration.doctype (byteLength text))).run text
  let markup ← Markup.ofText? body
  guard (isOutsideClean 0 markup)
  let nodes ← Markup.nodes? markup
  let (nodes, review) ← (Review.reviewContent doctype nodes).run doctype.review
  guard review.findings.isAcceptable
  root? nodes

/-- The root of a document in characters. -/
def parseChars (text : List Char) : Option Node := do
  let (marked, text) := match text with
    | '\ufeff' :: rest => (true, rest)
    | text => (false, text)
  let (declaration, body) ← Declaration.scan.run text
  let body ← if marked then some body else declaration.decode? body
  guard (body.all isLegal)
  parseBody declaration (Text.unifyLineEnds body)

/-- The root of a document, unless it breaks the rules. -/
def parse (text : String) : Option Node :=
  parseChars text.toList

end Polyglot.Xml
