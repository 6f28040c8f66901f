import Polyglot.Failure
import Polyglot.Keyed
import Polyglot.Xml.Tree

/-!
# Writing elements

An element is written piece by piece: attributes, runs of text and elements inside, each behind what
stands there already. Every value and every run of text is looked at when it is written, and one
with a character that no document may hold is a wrong value. Within a unit that failure is one to
encode the unit, which it names.
-/

namespace Polyglot.Interchange

/-- What stands in an element so far. -/
structure Inside where
  attributes : List Xml.Attribute
  nodes : List Xml.Node

/-- Write into an element. -/
abbrev Writing := StateT Inside (Except Failure)

/-- Refuse a text with a character that no document may hold. -/
def requireLegal (text : String) : Except Failure Unit :=
  if Xml.isLegalText text then .ok () else .error (.value .unwritableCharacter)

namespace Writing

/-- Give the element an attribute, in the place of one of the same name. -/
def setAttribute (key value : String) : Writing Unit := do
  requireLegal value
  modify fun inside => { inside with attributes := Keyed.put key value inside.attributes }

/-- Give the element some attributes in turn. -/
def setAttributes (attributes : List Xml.Attribute) : Writing Unit :=
  attributes.forM fun entry => setAttribute entry.1 entry.2

/-- Append a run of text. -/
def appendText (text : String) : Writing Unit := do
  requireLegal text
  modify fun inside => { inside with nodes := inside.nodes ++ [.text text] }

/-- The space in front of what stands on a line of its own, two blanks deeper for each level. -/
def lineBreak (level : Nat) : String :=
  "\n" ++ String.ofList (List.replicate (2 * level) ' ')

/-- Begin a line at a level. -/
def indent (level : Nat) : Writing Unit :=
  appendText (lineBreak level)

/-- The element of a name that comes of writing into it, with the namespaces it declares in
front. -/
def toElement (name : String) (declarations : List Xml.Attribute) (write : Writing Unit) :
    Except Failure Xml.Node := do
  let (_, inside) ← write.run ⟨declarations, []⟩
  return .element name inside.attributes inside.nodes

/-- Append an element and write into it. -/
def appendElement (name : String) (write : Writing Unit) : Writing Unit := do
  let node ← toElement name [] write
  modify fun inside => { inside with nodes := inside.nodes ++ [node] }

/-- A failure inside a unit: a wrong value is a failure to encode the unit. -/
def unitFailure (unitTag unitName : String) : Failure → Failure
  | .value fault => .encode (.characterInvalid unitTag unitName fault.message)
  | failure => failure

/-- Write what belongs to a unit. -/
def inUnit (unitTag unitName : String) (write : Writing Unit) : Writing Unit := fun inside =>
  (write inside).mapError (unitFailure unitTag unitName)

end Writing

end Polyglot.Interchange
