import Polyglot.Xml.Namespace
import Polyglot.Xml.Review

/-!
# Document types

What a document declares before its root. Entities and attribute lists matter for reading: an
attribute list gives values to attributes that a tag leaves out, and values that are not plain text
lose surplus blanks. A value from an attribute list keeps its references to entities as they are
written. Elements and notations are only checked for repetitions.
-/

namespace Polyglot.Xml

/-- What the value of an attribute is. -/
inductive AttributeType where
  | text
  /-- A name that no other element has. -/
  | identifier
  | name
  | names
  | mark
  | marks
  deriving DecidableEq, Repr

/-- The parts of a value of a type: only plain text keeps surplus blanks. -/
def AttributeType.normalize (type : AttributeType) (value : List ValuePart) : List ValuePart :=
  if type == text then value else squeeze false false value

/-- A value without surplus blanks is one of a type. -/
def AttributeType.admits (type : AttributeType) (value : List Char) : Bool :=
  match type with
  | text => true
  | identifier | name => isName value
  | names => (value.splitOn ' ').all isName
  | mark => isMark value
  | marks => (value.splitOn ' ').all isMark

/-- What is declared about an attribute of an element. -/
structure AttributeRule where
  element : String
  key : String
  type : AttributeType
  /-- The value where a tag has none. -/
  standard : Option String
  deriving Repr

/-- What a document declares before its root. -/
structure Doctype where
  entities : Entities := {}
  parameterEntities : List (String × Entity) := []
  attributeRules : List AttributeRule := []
  /-- The elements that are declared. -/
  elements : List String := []
  /-- The notations that are declared. -/
  notations : List String := []
  /-- No declarations outside the document matter. -/
  standalone : Bool := false
  review : Review := {}
  deriving Repr

namespace Doctype

/-- Note a finding. -/
def note (doctype : Doctype) (finding : Finding) : Doctype :=
  { doctype with
    review := { doctype.review with findings := doctype.review.findings.add finding } }

/-- Note some findings. -/
def noteAll (doctype : Doctype) (findings : List Finding) : Doctype :=
  findings.foldl note doctype

/-- Note a finding if there is one. -/
def noteWhen (doctype : Doctype) (found : Bool) (finding : Finding) : Doctype :=
  if found then doctype.note finding else doctype

/-- An entity that every document knows may be declared anew with a text that is its character, by
its number or, where it starts no markup, by itself. -/
def isPredefinedText (c : Char) : List Char → Bool
  | [other] => other == c && c != '<' && c != '&'
  | '&' :: '#' :: 'x' :: digits =>
    digits.map Char.toLower == Text.hexPadded 2 c.toNat ++ [';']
  | '&' :: '#' :: digits => digits == (toString c.toNat).toList ++ [';']
  | _ => false

/-- Declare an entity; the first declaration of a name counts. -/
def addEntity (doctype : Doctype) (name : String) (entity : Entity) : Doctype :=
  match predefined? name, entity with
  | none, _ =>
    if (doctype.entities.declared.lookup name).isSome then doctype
    else
      { doctype with
        entities := { doctype.entities with
          declared := doctype.entities.declared ++ [(name, entity)] } }
  | some c, .internal text => doctype.noteWhen (!isPredefinedText c text) .warning
  | some _, _ => doctype.note .warning

/-- Declare an entity for use among the declarations; the first declaration of a name counts. -/
def addParameterEntity (doctype : Doctype) (name : String) (entity : Entity) : Doctype :=
  if (doctype.parameterEntities.lookup name).isSome then doctype
  else { doctype with parameterEntities := doctype.parameterEntities ++ [(name, entity)] }

/-- Note that there are declarations that are not read. -/
def loosen (doctype : Doctype) : Doctype :=
  { doctype with entities := { doctype.entities with lenient := !doctype.standalone } }

/-- Declare an element. -/
def addElement (doctype : Doctype) (name : String) : Doctype :=
  if doctype.elements.contains name then doctype.note .fault
  else { doctype with elements := name :: doctype.elements }

/-- Declare a notation. -/
def addNotation (doctype : Doctype) (name : String) : Doctype :=
  let doctype := doctype.noteWhen (name.toList.contains ':') .fault
  if doctype.notations.contains name then doctype.note .fault
  else { doctype with notations := name :: doctype.notations }

/-! ### Attributes by their rules -/

/-- The rule for an attribute of an element. -/
def rule? (doctype : Doctype) (element key : String) : Option AttributeRule :=
  doctype.attributeRules.find? fun rule =>
    rule.element == element && rule.key == key

/-- Declare an attribute; the first declaration counts. An element has at most one identifier, the
attribute for identifiers can be nothing else, and a value that is not one of the type is none. -/
def addRule (doctype : Doctype) (rule : AttributeRule) : Doctype :=
  let fits := rule.standard.all fun value => rule.type.admits value.toList
  let doctype := doctype.noteWhen (rule.key == "xml:id" && rule.type != .identifier) .fault
  let doctype := doctype.noteWhen (!fits) .fault
  if (doctype.rule? rule.element rule.key).isSome then doctype.note .warning
  else
    let doctype := doctype.noteWhen
      (rule.type == .identifier && doctype.attributeRules.any fun other =>
        other.element == rule.element && other.type == .identifier) .fault
    { doctype with attributeRules := doctype.attributeRules ++
        [if fits then rule else { rule with standard := none }] }

/-- The type of an attribute of an element. -/
def typeOf (doctype : Doctype) (element key : String) : AttributeType :=
  ((doctype.rule? element key).map AttributeRule.type).getD .text

/-- The attributes of an element that have a standard value. -/
def standards (doctype : Doctype) (element : String) : List Attribute :=
  doctype.attributeRules.filterMap fun rule =>
    if rule.element == element then rule.standard.map (rule.key, ·) else none

end Doctype

end Polyglot.Xml
