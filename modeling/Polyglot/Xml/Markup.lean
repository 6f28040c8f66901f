import Polyglot.Xml.Entity
import Polyglot.Xml.Tree

/-!
# Markup

The content of a document as a sequence of tags, runs of text and the rest, and the tree that such a
sequence makes. `Markup.ofText?` cuts a text up; `Markup.build` keeps the open elements on a stack
and closes each at its own end tag. Attribute values are still as they are written between their
quotes.
-/

namespace Polyglot.Xml

/-- A piece of the content of a document. -/
inductive Markup where
  /-- A start tag; `closed` if it is the whole element. -/
  | start (name : String) (attributes : List Attribute) (closed : Bool)
  /-- An end tag. -/
  | finish (name : String)
  /-- Characters; `literal` if they are written as they are, in no section and by no number. -/
  | characters (text : List Char) (literal : Bool)
  | comment (text : String)
  | instruction (target data : String)
  | reference (name : String)
  deriving Repr

namespace Markup

open Scan

/-! ### Cutting up -/

/-- Take the attributes of a tag, and say whether the tag is the whole element. -/
def attributes : (fuel : Nat) → Scan (List Attribute × Bool)
  | 0 => failure
  | fuel + 1 => do
    let spaced ← space
    if ← tryLiteral ">" then return ([], false)
    if ← tryLiteral "/>" then return ([], true)
    guard spaced
    let name ← Scan.name
    let _ ← space
    literal "="
    let _ ← space
    let value ← quoted
    let (others, closed) ← attributes fuel
    return ((name, String.ofList value) :: others, closed)

/-- The number of attributes that a tag of these characters could have, and one. -/
def attributeBound (text : List Char) : Nat :=
  (text.takeWhile (· != '<')).count '=' + 1

/-- Take a start tag after its bracket. -/
def startTag : Scan Markup := do
  let name ← Scan.name
  let bound := attributeBound (← rest)
  let (attributes, closed) ← attributes bound
  return .start name attributes closed

/-- Take markup after its opening bracket. -/
def bracketed : Scan Markup := do
  if ← tryLiteral "!--" then return .comment (String.ofList (← Scan.comment))
  if ← tryLiteral "![CDATA[" then return .characters (← takeThrough "]]>") false
  if ← tryLiteral "?" then
    let (target, data) ← Scan.instruction
    return .instruction target (String.ofList data)
  if ← tryLiteral "/" then
    let name ← Scan.name
    close
    return .finish name
  startTag

/-- The markup of the pieces of a run of text. -/
def ofPiece : Piece → Markup
  | .plain c => .characters [c] true
  | .reference (.character c) => .characters [c] false
  | .reference (.entity name) =>
    match predefined? name with
    | some c => .characters [c] false
    | none => .reference name

/-- The markup of a run of text, which must not hold the end of a section. -/
def ofRun (run : List Char) : Option (List Markup) :=
  match splitAt? "]]>".toList run with
  | some _ => none
  | none =>
    if run.contains '&' then (pieces none run).map fun ps => ps.map ofPiece
    else some [.characters run true]

/-- The markup of some content, of at most a given number of runs and tags. -/
def ofTextWithin : (fuel : Nat) → List Char → Option (List Markup)
  | _, [] => some []
  | 0, _ :: _ => none
  | fuel + 1, '<' :: text => do
    let (piece, later) ← bracketed.run text
    return piece :: (← ofTextWithin fuel later)
  | fuel + 1, c :: text => do
    let front ← ofRun ((c :: text).takeWhile (· != '<'))
    return front ++ (← ofTextWithin fuel ((c :: text).dropWhile (· != '<')))

/-- The markup of some content. -/
def ofText? (text : List Char) : Option (List Markup) :=
  ofTextWithin text.length text

/-! ### Building -/

/-- An element whose end tag has not come yet, with the nodes inside it, the last one first. -/
structure Opened where
  name : String
  attributes : List Attribute
  inside : List Node

/-- Add a node behind others, the last of which comes first; runs of text are joined. -/
def push (node : Node) (before : List Node) : List Node :=
  match node, before with
  | .text later, .text earlier :: others => .text (earlier ++ later) :: others
  | .text "", before => before
  | node, before => node :: before

/-- The element that is complete. -/
def Opened.complete (element : Opened) : Node :=
  .element element.name element.attributes element.inside.reverse

/-- The nodes that some markup makes inside some open elements, the innermost first; the last one
holds the nodes of the whole content. -/
def build : Opened → List Opened → List Markup → Option (List Node)
  | top, [], [] => some top.inside.reverse
  | _, _ :: _, [] => none
  | top, outer, .start name attributes true :: later =>
    build { top with inside := .element name attributes [] :: top.inside } outer later
  | top, outer, .start name attributes false :: later =>
    build ⟨name, attributes, []⟩ (top :: outer) later
  | _, [], .finish _ :: _ => none
  | top, next :: outer, .finish name :: later =>
    if top.name == name then
      build { next with inside := top.complete :: next.inside } outer later
    else none
  | top, outer, .characters text _ :: later =>
    build { top with inside := push (.text (String.ofList text)) top.inside } outer later
  | top, outer, .comment text :: later =>
    build { top with inside := .comment text :: top.inside } outer later
  | top, outer, .instruction target data :: later =>
    build { top with inside := .instruction target data :: top.inside } outer later
  | top, outer, .reference name :: later =>
    build { top with inside := .reference name :: top.inside } outer later

/-- The nodes that some markup makes. -/
def nodes? (markup : List Markup) : Option (List Node) :=
  build ⟨"", [], []⟩ [] markup

end Markup

end Polyglot.Xml
