import Polyglot.Keyed
import Polyglot.Xml.Entity
import Polyglot.Xml.Findings

/-!
# Reviewing a document

A document is reviewed from front to back. A review keeps the findings, the identifiers of elements
and what is known about the entities, and it limits what entities come to: so many may be inside
each other, and their texts may not make the document much longer than it is.

The text of an entity is looked at once as content and once as part of a value. In a value it must
hold no start of a tag and refer to nothing outside the document.
-/

namespace Polyglot.Xml

/-- What is known about an entity. -/
structure EntityReview where
  /-- The length of its text with the texts that it refers to. -/
  size : Nat := 0
  /-- The text was read in the document. -/
  isRead : Bool := false
  /-- The text may stand in a value. -/
  fitsValues : Bool := false
  deriving DecidableEq, Repr

/-- What is known about a document while it is reviewed. -/
structure Review where
  /-- The number of bytes of the document. -/
  length : Nat := 0
  findings : Findings := {}
  entities : List (String × EntityReview) := []
  /-- The number of bytes that references stand for so far. -/
  expanded : Nat := 0
  /-- The identifiers of the elements so far. -/
  identifiers : List String := []
  deriving Repr

/-- A step of a review, which fails where the grammar is broken. -/
abbrev Reviewing := StateT Review Option

namespace Review

/-- The number of entities that may be inside each other. -/
def maxNesting : Nat := 19

/-- The number of bytes that references may always stand for. -/
def freeExpansion : Nat := 1000000

/-- How many times as long as the document the texts of its references may be beyond that. -/
def maxGrowth : Nat := 5

/-- The bytes that each reference counts for besides its text. -/
def referenceCost : Nat := 20

/-- Note a finding. -/
def note (finding : Finding) : Reviewing Unit :=
  modify fun review => { review with findings := review.findings.add finding }

/-- Note a finding if there is one. -/
def noteWhen (found : Bool) (finding : Finding) : Reviewing Unit :=
  if found then note finding else pure ()

/-- Note some findings. -/
def noteAll (findings : List Finding) : Reviewing Unit :=
  findings.forM note

/-- What is known about an entity. -/
def entity (name : String) : Reviewing EntityReview := do
  return ((← get).entities.lookup name).getD {}

/-- Keep what is known about an entity. -/
def setEntity (name : String) (entity : EntityReview) : Reviewing Unit :=
  modify fun review => { review with entities := Keyed.put name entity review.entities }

/-- Count a reference whose text has a given number of bytes. -/
def charge (size : Nat) : Reviewing Unit := do
  let review ← get
  let expanded := review.expanded + size + referenceCost
  guard (expanded ≤ freeExpansion || expanded / maxGrowth ≤ review.length)
  set { review with expanded }

/-! ### Values -/

/-- Where a value stands: among the declarations of the document or in its content. -/
inductive Place where
  | declarations
  | content
  deriving DecidableEq, Repr

/-- An entity needs no other look at its text as part of a value. Among the declarations a look does
not count for the content, since more may be declared by then. -/
def isSettled (place : Place) (entity : EntityReview) : Bool :=
  match place with
  | .declarations => entity.fitsValues
  | .content => entity.fitsValues && entity.isRead

/-- Keep that the text of an entity may stand in a value, where its parts are these. -/
def settle (place : Place) (name : String) (text : List Char) (parts : List ValuePart) :
    Reviewing Unit := do
  match place with
  | .declarations => setEntity name { ← entity name with fitsValues := true }
  | .content =>
    let sizes ← parts.mapM fun
      | .character _ => pure 0
      | .entity other => return (← entity other).size + referenceCost
    setEntity name
      { size := sizes.foldl (· + ·) (byteLength text), isRead := true, fitsValues := true }

/-- The part of a value that a reference to an entity is, at most a given number of entities being
inside each other. A name that could be declared outside the document stands for nothing. -/
def reviewReference (entities : Entities) (place : Place) :
    (room : Nat) → String → Reviewing (List ValuePart)
  | room, name =>
    match entities.find? name with
    | some (.character c) => return [.character c]
    | some (.internal text) => do
      if isSettled place (← entity name) then return [.entity name]
      match room with
      | 0 => failure
      | room + 1 =>
        let parts ← (← pieces none text).mapM fun
          | .plain c => do
            guard (c != '<')
            return []
          | .reference (.character _) => return []
          | .reference (.entity other) => reviewReference entities place room other
        settle place name text parts.flatten
        return [.entity name]
    | some _ => failure
    | none => do
      guard entities.lenient
      note .warning
      return []

/-- Count the entities among the parts of a value. -/
def chargeParts (parts : List ValuePart) : Reviewing Unit :=
  parts.forM fun
    | .character _ => pure ()
    | .entity name => do charge (← entity name).size

/-- The part of a value that a piece of it is. -/
def reviewPiece (entities : Entities) (place : Place) (room : Nat) :
    Piece → Reviewing (List ValuePart)
  | .plain c => do
    let some c := valueChar? c | failure
    return [.character c]
  | .reference (.character c) => return [.character c]
  | .reference (.entity name) => do
    let parts ← reviewReference entities place room name
    chargeParts parts
    return parts

/-- The parts of a value from the characters between its quotes. -/
def reviewValue (entities : Entities) (place : Place) (room : Nat) (text : List Char) :
    Reviewing (List ValuePart) := do
  return (← (← pieces none text).mapM (reviewPiece entities place room)).flatten

end Review

end Polyglot.Xml
