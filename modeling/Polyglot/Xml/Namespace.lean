import Polyglot.Xml.Findings
import Polyglot.Xml.Tree
import Polyglot.Xml.Uri

/-!
# Namespaces

Attributes of a reserved name declare which namespace a prefix stands for, in an element and inward.
A declaration that breaks a rule of the reserved names has no effect; one whose namespace is no
reference to a resource has.

In a document that is read the name of an element need not be in order: it may not be qualified
correctly, or have a prefix that stands for no namespace. Such a name has no part of its own after a
prefix.
-/

namespace Polyglot.Xml

/-- The namespace of the prefix that every document knows. -/
def xmlNamespace : String := "http://www.w3.org/XML/1998/namespace"

/-- The namespace of declarations, which nothing else may use. -/
def declarationNamespace : String := "http://www.w3.org/2000/xmlns/"

/-- The namespaces that prefixes stand for, the innermost declaration first. -/
abbrev Namespaces := List (String × String)

namespace Namespaces

/-- The prefix that an attribute declares, the empty one for names without prefix. -/
def declared? (name : String) : Option String :=
  if isQualified name then
    match splitName name with
    | (none, "xmlns") => some ""
    | (some "xmlns", front) => some front
    | _ => none
  else none

/-- A declaration has an effect: it is not about a reserved prefix or a reserved namespace, and only
names without prefix are put into no namespace. -/
def isEffective (front uri : String) : Bool :=
  front != "xml" && front != "xmlns" && uri != xmlNamespace && uri != declarationNamespace &&
    (front == "" || uri != "")

/-- What is found about a declaration. -/
def declarationFindings (front uri : String) : List Finding :=
  if front == "xml" then if uri == xmlNamespace then [] else [.fault]
  else if !isEffective front uri then [.fault]
  else if !Uri.isReference uri.toList then [.fault]
  else if front == "" && uri != "" && !Uri.isAbsolute uri.toList then [.warning]
  else []

/-- The declarations among some attributes that have an effect. -/
def declarations (attributes : List Attribute) : Namespaces :=
  (attributes.filterMap fun (name, value) => (declared? name).map (·, value)).filter
    fun (front, uri) => isEffective front uri

/-- The namespace of a prefix. -/
def find? (namespaces : Namespaces) (front : String) : Option String :=
  if front == "xml" then some xmlNamespace else namespaces.lookup front

/-- The prefix of a name, which is qualified correctly, stands for no namespace. -/
def isUnbound (namespaces : Namespaces) (name : String) : Bool :=
  isQualified name && (splitName name).1.any fun front => (namespaces.find? front).isNone

/-- The namespace of an attribute with a prefix, and its local name. -/
def expandAttribute? (namespaces : Namespaces) (name : String) : Option (String × String) := do
  guard (isQualified name)
  let (front, back) := splitName name
  return (← namespaces.find? (← front), back)

/-- The number of the attributes that repeat the namespace and the local name of one in front of
them. -/
def repetitions (namespaces : Namespaces) (names : List String) : Nat :=
  let expanded := names.filterMap namespaces.expandAttribute?
  expanded.length - expanded.eraseDups.length

/-! ### Names of elements -/

/-- What stands for the local name of an element whose name is not in order. A namespace ends at its
first closing brace. -/
def strayLocalName? (namespaces : Namespaces) (name : String) : Option String :=
  if !isQualified name || namespaces.isUnbound name then some name
  else
    match ((namespaces.find? ((splitName name).1.getD "")).getD "").toList.dropWhile
        (· != '\x7d') with
    | [] => none
    | _ :: rest => some (String.ofList rest ++ "\x7d" ++ localPart name)

mutual

/-- The first local name, from a node inward, that is not in order. -/
def strayName? (namespaces : Namespaces) : Node → Option String
  | .element name attributes children =>
    let inner := declarations attributes ++ namespaces
    match strayLocalName? inner name with
    | some stray => some stray
    | none => strayNameIn? inner children
  | _ => none

/-- The first local name, from some nodes inward, that is not in order. -/
def strayNameIn? (namespaces : Namespaces) : List Node → Option String
  | [] => none
  | node :: rest =>
    match strayName? namespaces node with
    | some stray => some stray
    | none => strayNameIn? namespaces rest

end

end Namespaces

end Polyglot.Xml
