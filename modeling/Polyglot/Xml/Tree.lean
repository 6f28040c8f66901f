import Polyglot.Xml.Char

/-!
# Document trees

An element holds attributes and nodes; other nodes are runs of text, comments, processing
instructions and references to entities that are not expanded. Names stand as they are written, with
their namespace prefix; elements are looked up by the part after it. A tree that was read has no
empty run of text and no two runs side by side.
-/

namespace Polyglot.Xml

/-- A name and a value inside a tag. -/
abbrev Attribute := String × String

/-- A node of a document. -/
inductive Node where
  | element (name : String) (attributes : List Attribute) (children : List Node)
  | text (text : String)
  | comment (text : String)
  | instruction (target data : String)
  | reference (name : String)
  deriving Inhabited

namespace Node

/-- The name of an element without its namespace prefix. -/
def localName? : Node → Option String
  | element name _ _ => some (localPart name)
  | _ => none

/-- The value of an attribute without namespace prefix. -/
def attribute? (key : String) : Node → Option String
  | element _ attributes _ => attributes.lookup key
  | _ => none

/-- The nodes inside an element. -/
def children : Node → List Node
  | element _ _ children => children
  | _ => []

mutual

/-- The elements of a given local name, from a node inward, in document order. -/
def elementsNamed (name : String) : Node → List Node
  | element tag attributes children =>
    (if localPart tag == name then [element tag attributes children] else []) ++
      elementsNamedIn name children
  | _ => []

/-- The elements of a given local name among some nodes and inward, in document order. -/
def elementsNamedIn (name : String) : List Node → List Node
  | [] => []
  | node :: rest => elementsNamed name node ++ elementsNamedIn name rest

end

/-- The elements of a given local name directly inside a node. -/
def childrenNamed (name : String) (node : Node) : List Node :=
  node.children.filter fun child => child.localName? == some name

/-- The phrase for a node in messages. -/
def describe : Node → String
  | element name _ _ => "element <" ++ localPart name ++ ">"
  | text _ => "text"
  | comment _ => "comment"
  | instruction target _ => "processing instruction <?" ++ target ++ "?>"
  | reference name => "entity reference &" ++ name ++ ";"

end Node

end Polyglot.Xml
