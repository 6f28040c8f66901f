import Polyglot.Xml.Doctype.Basic
import Polyglot.Xml.Markup

/-!
# Reviewing content

The elements of a document and the entities that its content refers to, from front to back. A tag is
reviewed in a fixed order: its name, its attributes one by one with the namespaces that they
declare, the prefixes of the attributes, their repetitions, the attributes that it leaves out, its
own prefix, and the identifiers that it gives to its element.

The text of an entity is content as well, with declarations of namespaces of its own. It is reviewed
where the first reference to the entity stands, unless the entity is part of a value before that.
-/

namespace Polyglot.Xml

namespace Review

/-- The number of elements and entities that may be inside each other. -/
def maxDepth : Nat := 256

/-! ### Tags -/

/-- An attribute with its value as parts. -/
structure RawAttribute where
  key : String
  /-- The characters between the quotes. -/
  text : String
  value : List ValuePart

/-- Review an attribute of an element. -/
def reviewAttribute (doctype : Doctype) (room : Nat) (element : String) (entry : Attribute) :
    Reviewing RawAttribute := do
  let (key, text) := entry
  noteWhen (!isQualified key) .fault
  let value ← reviewValue doctype.entities .content room text.toList
  let value := (doctype.typeOf element key).normalize value
  noteWhen (key == "xml:space" && writtenValue value != "default" &&
    writtenValue value != "preserve") .warning
  match Namespaces.declared? key with
  | some front =>
    noteAll (Namespaces.declarationFindings front (doctype.entities.valueText value))
  | none => pure ()
  return { key, text, value }

/-- Review whether the attributes that a tag has or leaves out repeat each other. Names may not be
repeated at all. -/
def reviewNames (namespaces : Namespaces) (present standard : List String) : Reviewing Unit := do
  let isName (key : String) : Bool := (Namespaces.declared? key).isNone
  let names := present.filter isName
  let others := (standard.filter isName).filter fun key => !names.contains key
  let findings (names : List String) : List Finding :=
    List.replicate (names.countP namespaces.isUnbound) .fault
  noteAll (findings names)
  guard (decide names.Nodup)
  noteAll (List.replicate (namespaces.repetitions names) .fault)
  noteAll (findings others)
  noteAll (List.replicate
    (namespaces.repetitions (names ++ others) - namespaces.repetitions names) .fault)

/-- Review an identifier of an element, which no other may have. -/
def reviewIdentifier (value : String) : Reviewing Unit := do
  if value == "" || (← get).identifiers.contains value then note .fault
  else modify fun review => { review with identifiers := value :: review.identifiers }

/-- Review an attribute that may be an identifier of its element, if it refers to no entity. -/
def reviewIdentity (doctype : Doctype) (element : String) (entry : RawAttribute) :
    Reviewing Unit := do
  let isPlain := entry.value.all (fun
    | .character _ => true
    | .entity _ => false) && (entry.text == "" || !entry.value.isEmpty)
  let value := doctype.entities.valueText entry.value
  if isPlain then
    if entry.key == "xml:id" then
      noteWhen (!isPlainName (trimSpace value.toList)) .fault
      reviewIdentifier value
    else if doctype.typeOf element entry.key == .identifier then reviewIdentifier value

/-- Review a tag inside some namespaces: the namespaces inside its element, and its attributes with
those that it leaves out. -/
def reviewTag (doctype : Doctype) (room : Nat) (outer : Namespaces) (name : String)
    (attributes : List Attribute) : Reviewing (Namespaces × List Attribute) := do
  noteWhen (!isQualified name) .fault
  let raw ← attributes.mapM (reviewAttribute doctype room name)
  let present := raw.map fun entry =>
    (entry.key, doctype.entities.valueText entry.value)
  let own := Namespaces.declarations present
  guard (decide (own.map Prod.fst).Nodup)
  let missing := (doctype.standards name).filter fun entry =>
    !(present.map Prod.fst).contains entry.1
  let namespaces := own ++ Namespaces.declarations missing ++ outer
  reviewNames namespaces (present.map Prod.fst) ((doctype.standards name).map Prod.fst)
  noteWhen (namespaces.isUnbound name) .fault
  raw.forM (reviewIdentity doctype name)
  return (namespaces, present ++ missing)

/-! ### Nodes -/

mutual

/-- Review a node inside some namespaces and inside a given number of elements and entities: the
node with its values as texts. References are reviewed by a given function. -/
def reviewNode (doctype : Doctype) (room : Nat) (refer : Nat → String → Reviewing Unit)
    (namespaces : Namespaces) (depth : Nat) : Node → Reviewing Node
  | .element name attributes children => do
    guard (depth < maxDepth)
    let (inner, attributes) ← reviewTag doctype room namespaces name attributes
    return .element name attributes
      (← reviewNodes doctype room refer inner (depth + 1) children)
  | .instruction target data => do
    noteAll (Findings.ofTarget target)
    return .instruction target data
  | .reference name => do
    refer depth name
    return .reference name
  | node => return node

/-- Review some nodes. -/
def reviewNodes (doctype : Doctype) (room : Nat) (refer : Nat → String → Reviewing Unit)
    (namespaces : Namespaces) (depth : Nat) : List Node → Reviewing (List Node)
  | [] => return []
  | node :: rest => do
    let node ← reviewNode doctype room refer namespaces depth node
    return node :: (← reviewNodes doctype room refer namespaces depth rest)

end

/-- Review a reference in content, inside a given number of elements and entities, where at most a
given number of entities may be inside each other. -/
def reviewContentReference (doctype : Doctype) : (room depth : Nat) → String → Reviewing Unit
  | room, depth, name =>
    match doctype.entities.find? name with
    | some (.character _) => pure ()
    | some (.internal text) => do
      if !(← entity name).isRead then
        match room with
        | 0 => failure
        | room + 1 =>
          guard (depth < maxDepth)
          let outside := (← get).expanded
          modify fun review => { review with expanded := 0 }
          let _ ← reviewNodes doctype room (reviewContentReference doctype room) [] (depth + 1)
            (← Markup.nodes? (← Markup.ofText? text))
          let size := byteLength text + (← get).expanded
          setEntity name { ← entity name with size, isRead := true }
          modify fun review => { review with expanded := outside }
      charge (← entity name).size
    | some .external => charge 0
    | some .unparsed => failure
    | none => do
      guard doctype.entities.lenient
      note .warning

/-- Review the nodes of a document. -/
def reviewContent (doctype : Doctype) (nodes : List Node) : Reviewing (List Node) :=
  reviewNodes doctype maxNesting (reviewContentReference doctype maxNesting) [] 0 nodes

end Review

end Polyglot.Xml
