import Polyglot.Text.Decimal
import Polyglot.Text.Hex
import Polyglot.Text.Utf16
import Polyglot.Xml.Scan

/-!
# References and entities

A reference stands for a character by its number or for an entity by its name. Five entities are
known to every document; others are declared in its type declaration, as a text or as something kept
outside. Inside an attribute value an entity stands for its text, in which other references may
occur.
-/

namespace Polyglot.Xml

/-- What an entity stands for. -/
inductive Entity where
  /-- A character that would be taken for markup. -/
  | character (c : Char)
  /-- A text with references in it. -/
  | internal (text : List Char)
  /-- Markup kept outside the document. -/
  | external
  /-- Data kept outside the document. -/
  | unparsed
  deriving DecidableEq, Repr

/-- A reference: to a character by its number or to an entity by its name. -/
inductive Reference where
  | character (c : Char)
  | entity (name : String)
  deriving DecidableEq, Repr

/-- The characters of the entities that every document knows. -/
def predefined? : String → Option Char
  | "lt" => some '<'
  | "gt" => some '>'
  | "amp" => some '&'
  | "quot" => some '"'
  | "apos" => some '\''
  | _ => none

/-- The legal character of a given number. -/
def legalChar? (n : Nat) : Option Char :=
  if h : n.isValidChar then
    let c := Char.ofNatAux n h
    if isLegal c then some c else none
  else none

namespace Reference

/-- The reference that the characters between the ampersand and the semicolon write. -/
def ofChars? : List Char → Option Reference
  | '#' :: 'x' :: digits =>
    if digits.isEmpty then none else (Text.hexNumber? digits >>= legalChar?).map character
  | '#' :: digits =>
    if digits.isEmpty then none else (Text.decimalNumber? digits >>= legalChar?).map character
  | name => if isName name then some (entity (String.ofList name)) else none

end Reference

/-- A piece of text with references: a character as it stands or a reference. -/
inductive Piece where
  | plain (c : Char)
  | reference (reference : Reference)
  deriving DecidableEq, Repr

/-- The pieces of a text, given the characters of a reference that is still open, the last one
first. -/
def pieces : (opened : Option (List Char)) → List Char → Option (List Piece)
  | none, [] => some []
  | some _, [] => none
  | none, '&' :: rest => pieces (some []) rest
  | none, c :: rest => (.plain c :: ·) <$> pieces none rest
  | some name, ';' :: rest => do
    let reference ← Reference.ofChars? name.reverse
    return .reference reference :: (← pieces none rest)
  | some name, c :: rest => pieces (some (c :: name)) rest

/-- The text of an entity from the characters between the quotes of its declaration: numbers become
characters, other references stay. -/
def replacement? (text : List Char) : Option (List Char) := do
  let inner ← (← pieces none text).mapM fun
    | .plain c => some [c]
    | .reference (.character c) => some [c]
    | .reference (.entity name) => some ('&' :: name.toList ++ [';'])
  return inner.flatten

/-- The entities of a document and how it treats names that none of them has. -/
structure Entities where
  declared : List (String × Entity) := []
  /-- Declarations that are not read could declare the name. -/
  lenient : Bool := false
  deriving Repr

/-- A part of an attribute value: a character or an entity that was declared. -/
inductive ValuePart where
  | character (c : Char)
  | entity (name : String)
  deriving DecidableEq, Repr

namespace Entities

/-- The entity of a given name. -/
def find? (entities : Entities) (name : String) : Option Entity :=
  match predefined? name with
  | some c => some (.character c)
  | none => entities.declared.lookup name

/-- The text that an entity stands for in a value, where at most a given number of entities are
inside each other. -/
def expand (entities : Entities) : (depth : Nat) → String → List Char
  | 0, _ => []
  | depth + 1, name =>
    match entities.find? name with
    | some (.character c) => [c]
    | some (.internal text) => ((pieces none text).getD []).flatMap fun
      | .plain c => [c]
      | .reference (.character c) => [c]
      | .reference (.entity other) => entities.expand depth other
    | _ => []

/-- The text of a value. No entity is inside itself, so that at most all of them are inside each
other. -/
def valueText (entities : Entities) (value : List ValuePart) : String :=
  String.ofList (value.flatMap fun
    | .character c => [c]
    | .entity name => entities.expand entities.declared.length name)

end Entities

/-! ### Values as they are written -/

/-- A character of an attribute value as it stands: space of any kind is a blank, and no tag may
start. -/
def valueChar? (c : Char) : Option Char :=
  if c == '<' then none else if isSpace c then some ' ' else some c

/-- Drop the blanks at both ends of a value and all but one between its parts; entities are no
blanks, whatever their text. The flags say whether a part came before and whether blanks came after
it. -/
def squeeze : (started pending : Bool) → List ValuePart → List ValuePart
  | _, _, [] => []
  | started, pending, part :: rest =>
    if part == .character ' ' then squeeze started true rest
    else
      (if started && pending then [.character ' '] else []) ++ part :: squeeze true false rest

/-- A value with its references to entities; only the ampersand is written by its number. -/
def writtenValue (value : List ValuePart) : String :=
  String.ofList (value.flatMap fun
    | .character '&' => "&#38;".toList
    | .character c => [c]
    | .entity name => '&' :: name.toList ++ [';'])

end Polyglot.Xml
