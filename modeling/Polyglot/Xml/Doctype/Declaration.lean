import Polyglot.Xml.Doctype.Basic
import Polyglot.Xml.Doctype.ContentModel

/-!
# Document type declarations

The declaration between the start of a document and its root, with declarations of entities,
attributes, elements and notations inside it. Names may stand for further declarations. Parts kept
outside the document are never read.
-/

namespace Polyglot.Xml.Doctype

open Scan

/-- The character may stand in a public identifier. -/
def isPublicChar (c : Char) : Bool :=
  c.isAlphanum || c == ' ' || c == '\r' || c == '\n' || "-'()+,./:=?;!*#@$_%".toList.contains c

/-- Take a public identifier. -/
def publicId : Scan Unit := do
  guard ((← quoted).all isPublicChar)

/-- Take the identifier of something kept outside: its place. -/
def externalId : Scan (Option (List Char)) := do
  if ← tryLiteral "SYSTEM" then
    someSpace
    return some (← quoted)
  if ← tryLiteral "PUBLIC" then
    someSpace
    publicId
    someSpace
    return some (← quoted)
  return none

/-- The text of an entity from the characters between the quotes of its declaration. A name for
further declarations may not stand in it; one that is not declared cuts it off. -/
def entityText? (doctype : Doctype) (text : List Char) : Option (Doctype × List Char) := do
  let front ← replacement? (text.takeWhile (· != '%'))
  match text.dropWhile (· != '%') with
  | [] => return (doctype, front)
  | _ :: back =>
    let (name, back) ← Scan.name.run back
    guard (back.head? == some ';' && (doctype.parameterEntities.lookup name).isNone &&
      !doctype.standalone)
    return (doctype.loosen.note .warning, front)

/-- Take the rest of a declaration of an entity. -/
def entityDeclaration (doctype : Doctype) : Scan Doctype := do
  someSpace
  let parameter ← tryLiteral "%"
  if parameter then someSpace
  let name ← plainName
  let doctype := doctype.noteWhen (← tryLiteral ":") .fault
  someSpace
  let add (doctype : Doctype) (entity : Entity) : Doctype :=
    if parameter then doctype.addParameterEntity name entity else doctype.addEntity name entity
  if let some place ← externalId then
    guard (!place.contains '#')
    let spaced ← space
    if !parameter then
      if ← tryLiteral "NDATA" then
        guard spaced
        someSpace
        let format ← takeWhile fun c => isNameChar c || c == ':'
        guard (format.isEmpty || isName format)
        close
        return add doctype .unparsed
    close
    return add doctype .external
  let some (doctype, text) := doctype.entityText? (← quoted) | failure
  close
  return add doctype (.internal text)

/-- Take alternatives with bars between them, up to a closing parenthesis. -/
def alternatives (test : List Char → Bool) : Scan Unit := do
  literal "("
  let text ← takeThrough ")"
  guard ((text.splitOn '|').all fun part => test (trimSpace part))

/-- The types of attributes that have a name. -/
def namedTypes : List (String × AttributeType) :=
  [("CDATA", .text), ("IDREFS", .names), ("IDREF", .name), ("ID", .identifier),
   ("ENTITIES", .names), ("ENTITY", .name), ("NMTOKENS", .marks), ("NMTOKEN", .mark)]

/-- Take the type of an attribute. -/
def attributeType : Scan AttributeType := do
  for (word, type) in namedTypes do
    if ← tryLiteral word then return type
  if ← tryLiteral "NOTATION" then
    someSpace
    alternatives isName
    return .name
  alternatives isMark
  return .marks

/-- Take what a declaration says about the absence of an attribute. -/
def attributeDefault (type : AttributeType) (room : Nat) (doctype : Doctype) :
    Scan (Doctype × Option String) := do
  if ← tryLiteral "#REQUIRED" then return (doctype, none)
  if ← tryLiteral "#IMPLIED" then return (doctype, none)
  if ← tryLiteral "#FIXED" then someSpace
  let text ← quoted
  let some (value, review) :=
    (Review.reviewValue doctype.entities .declarations room text).run doctype.review | failure
  return ({ doctype with review }, some (writtenValue (type.normalize value)))

/-- Take the rest of a declaration of attributes of an element. -/
def attributeList (element : String) (room : Nat) : (fuel : Nat) → Doctype → Scan Doctype
  | 0, _ => failure
  | fuel + 1, doctype => do
    let spaced ← space
    if ← tryLiteral ">" then return doctype
    guard spaced
    let key ← Scan.name
    someSpace
    let type ← attributeType
    someSpace
    let (doctype, standard) ← attributeDefault type room doctype
    attributeList element room fuel (doctype.addRule { element, key, type, standard })

/-- Take the rest of a declaration of an element. -/
def elementDeclaration (doctype : Doctype) : Scan Doctype := do
  someSpace
  let name ← Scan.name
  someSpace
  if ← tryLiteral "EMPTY" then close
  else if ← tryLiteral "ANY" then close
  else
    contentModel
    close
  return doctype.addElement name

/-- Take the identifier of a notation and the end of its declaration. -/
def notationId : Scan Unit := do
  if ← tryLiteral "SYSTEM" then
    someSpace
    let _ ← quoted
    close
  else
    literal "PUBLIC"
    someSpace
    publicId
    let spaced ← space
    if ← tryLiteral ">" then return
    guard spaced
    let _ ← quoted
    close

/-- Take the rest of a declaration of a notation. -/
def notationDeclaration (doctype : Doctype) : Scan Doctype := do
  someSpace
  let name ← Scan.name
  someSpace
  notationId
  return doctype.addNotation name

/-- Take the name of further declarations after its sign, and read the declarations that it stands
for. If it is not declared, a declaration outside the document could do so. -/
def furtherDeclarations (readText : Doctype → List Char → Option Doctype) (doctype : Doctype) :
    Scan Doctype := do
  let name ← Scan.name
  literal ";"
  let doctype := doctype.loosen
  match doctype.parameterEntities.lookup name with
  | some (.internal text) =>
    let before := doctype.review
    let some doctype := readText { doctype with review := { before with expanded := 0 } } text
      | failure
    let review := { doctype.review with expanded := before.expanded }
    let size := byteLength text + doctype.review.expanded
    let some (_, review) := (Review.charge size).run review | failure
    return { doctype with review }
  | some _ => return doctype
  | none =>
    guard !doctype.standalone
    return doctype.note .warning

/-- Take the next declaration or what may stand between two of them: a name for further
declarations, a comment or an instruction. The texts of names for further declarations are read by a
given function. -/
def nextDeclaration (readText : Doctype → List Char → Option Doctype) (room : Nat)
    (doctype : Doctype) : Scan Doctype := do
  if ← tryLiteral "%" then
    furtherDeclarations readText doctype
  else if ← tryLiteral "<!--" then
    let _ ← comment
    return doctype
  else if ← tryLiteral "<?" then
    let (target, _) ← instruction
    return doctype.noteAll (Findings.ofTarget target)
  else if ← tryLiteral "<!ENTITY" then
    entityDeclaration doctype
  else if ← tryLiteral "<!ATTLIST" then
    someSpace
    let element ← Scan.name
    let length := (← rest).length
    attributeList element room (length + 1) doctype
  else if ← tryLiteral "<!ELEMENT" then
    elementDeclaration doctype
  else
    literal "<!NOTATION"
    notationDeclaration doctype

/-- Take declarations up to the end of the text or, among the declarations of a document, up to a
closing bracket. -/
def declarations (readText : Doctype → List Char → Option Doctype) (room : Nat) (nested : Bool) :
    (fuel : Nat) → Doctype → Scan Doctype
  | 0, _ => failure
  | fuel + 1, doctype => do
    let _ ← space
    if (← rest).isEmpty then
      guard nested
      return doctype
    if ← tryLiteral "]" then
      guard !nested
      return doctype
    let doctype ← nextDeclaration readText room doctype
    declarations readText room nested fuel doctype

/-- The document type with the declarations of a text, in which names for further declarations may
be inside each other at most a given number of times. -/
def readText? : (room : Nat) → Doctype → List Char → Option Doctype
  | 0, _, _ => none
  | room + 1, doctype, text =>
    ((declarations (readText? room) room true (text.length + 1) doctype).run text).map Prod.fst

/-- Take the rest of a document type declaration. -/
def declaration (doctype : Doctype) : Scan Doctype := do
  someSpace
  let _ ← Scan.name
  let spaced ← space
  let place ← if spaced then externalId else pure none
  let _ ← space
  let doctype := if place.isSome then doctype.loosen else doctype
  if ← tryLiteral "[" then
    let length := (← rest).length
    let doctype ←
      declarations (readText? Review.maxNesting) Review.maxNesting false (length + 1) doctype
    close
    return doctype
  else
    close
    return doctype

end Polyglot.Xml.Doctype
