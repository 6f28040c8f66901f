import Polyglot.Interchange.Writing
import Polyglot.Message.Basic

/-!
# Contents in documents

The contents of a message are text and placeholder elements inside the element of a unit. Reading
takes nothing else: any other node is a failure that names the unit, and so is a placeholder element
that holds anything but one run of text. Placeholders may be numbered from zero.
-/

namespace Polyglot.Interchange

open Writing

/-- The element of a placeholder. -/
def placeholderTag : String := "ph"

/-- The attributes of a placeholder with a given number. -/
def placeholderAttributes (numbered : Bool) (number : Nat) : List Xml.Attribute :=
  if numbered then [("id", toString number)] else []

/-- Append contents, placeholders numbered from a given number on. -/
def appendContents (numbered : Bool) : Nat → Contents → Writing Unit
  | _, [] => return
  | number, .text text :: rest => do
    appendText text
    appendContents numbered number rest
  | number, .placeholder payload :: rest => do
    appendElement placeholderTag do
      setAttributes (placeholderAttributes numbered number)
      appendText payload
    appendContents numbered (number + 1) rest

/-! ### Reading -/

/-- The payload of a placeholder element with these nodes inside. -/
def payload? : List Xml.Node → Option String
  | [.text payload] => if payload == "" then none else some payload
  | _ => none

/-- The contents that some nodes of a unit are. -/
def readContents (unitTag unitName : String) : List Xml.Node → Except Diagnostic Contents
  | [] => .ok []
  | .text text :: rest => do
    let contents ← readContents unitTag unitName rest
    return if text == "" then contents else .text text :: contents
  | node :: rest =>
    if node.localName? == some placeholderTag then do
      let some payload := payload? node.children | throw (.placeholderShape unitTag unitName)
      return .placeholder payload :: (← readContents unitTag unitName rest)
    else .error (.unexpectedNode unitTag unitName node.describe)

/-- The value of an attribute that must be there and not be empty. -/
def requireAttribute (key : String) (node : Xml.Node) :
    Except Diagnostic { value : String // value ≠ "" } :=
  let value := (node.attribute? key).getD ""
  if h : value = "" then .error (.attributeMissing (node.localName?.getD "") key)
  else .ok ⟨value, h⟩

/-- The only element of a given local name, from a node inward. -/
def requireOne (name : String) (node : Xml.Node) : Except Diagnostic Xml.Node :=
  match node.elementsNamed name with
  | [] => .error (.elementMissing name)
  | [element] => .ok element
  | elements => .error (.elementAmbiguous name elements.length)

end Polyglot.Interchange
