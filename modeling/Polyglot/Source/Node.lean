/-!
# Source trees

The part of an application's source that localization looks at: imports, declarations, calls,
template literals and the literal forms that localization produces. Template text is stored cooked,
its escapes resolved. Names that a node binds or spells are plain strings; a node that stands in
expression or statement position is a child.

`Node.children` lists the children in reading order and `Node.traverse` rebuilds a node from new
ones. A traversal may answer `several` nodes for one: in a list they take its place side by side, so
that `several []` removes it. The data model does not say which node may stand where.
-/

namespace Polyglot.Source

/-- The kinds of nodes. -/
inductive Kind where
  | identifier
  | stringLiteral
  | numericLiteral
  | rawExpression
  | templateSpan
  | templateLiteral
  | taggedTemplate
  | callExpression
  | propertyAccess
  | parameter
  | arrowFunction
  | propertyAssignment
  | objectLiteral
  | arrayLiteral
  | importSpecifier
  | importDeclaration
  | expressionStatement
  | variableDeclaration
  | returnStatement
  | methodDeclaration
  | classDeclaration
  | sourceFile
  deriving DecidableEq, Repr

/-- The name of a kind. -/
def Kind.name : Kind → String
  | identifier => "Identifier"
  | stringLiteral => "StringLiteral"
  | numericLiteral => "NumericLiteral"
  | rawExpression => "RawExpression"
  | templateSpan => "TemplateSpan"
  | templateLiteral => "TemplateLiteral"
  | taggedTemplate => "TaggedTemplate"
  | callExpression => "CallExpression"
  | propertyAccess => "PropertyAccess"
  | parameter => "Parameter"
  | arrowFunction => "ArrowFunction"
  | propertyAssignment => "PropertyAssignment"
  | objectLiteral => "ObjectLiteral"
  | arrayLiteral => "ArrayLiteral"
  | importSpecifier => "ImportSpecifier"
  | importDeclaration => "ImportDeclaration"
  | expressionStatement => "ExpressionStatement"
  | variableDeclaration => "VariableDeclaration"
  | returnStatement => "ReturnStatement"
  | methodDeclaration => "MethodDeclaration"
  | classDeclaration => "ClassDeclaration"
  | sourceFile => "SourceFile"

/-- A function parameter, with the source of its type if it has one. -/
structure Parameter where
  name : String
  typeAnnotation : Option String := none
  deriving DecidableEq, Repr

/-- A name imported from a module, bound under another name if one is given. -/
structure ImportSpecifier where
  name : String
  renamed : Option String := none
  deriving DecidableEq, Repr

/-- The name that an import specifier binds. -/
def ImportSpecifier.localName (s : ImportSpecifier) : String :=
  s.renamed.getD s.name

/-- An import: named bindings, one name for the whole module, one for its default export. -/
structure ImportDeclaration where
  specifier : String
  named : List ImportSpecifier := []
  whole : Option String := none
  byDefault : Option String := none
  deriving DecidableEq, Repr

/-- A node of a source tree, or what a traversal leaves where one node stood. -/
inductive Node where
  | identifier (name : String)
  | stringLiteral (value : String)
  | numericLiteral (raw : String)
  | rawExpression (text : String)
  | templateSpan (expression : Node) (literal : String)
  | templateLiteral (head : String) (spans : List Node)
  | taggedTemplate (tag template : Node)
  | callExpression (callee : Node) (arguments : List Node)
  | propertyAccess (expression : Node) (name : String)
  | parameter (parameter : Parameter)
  | arrowFunction (parameters : List Parameter) (body : Node)
  | propertyAssignment (name : String) (value : Node)
  | objectLiteral (properties : List Node)
  | arrayLiteral (elements : List Node)
  | importSpecifier (specifier : ImportSpecifier)
  | importDeclaration (declaration : ImportDeclaration)
  | expressionStatement (expression : Node)
  | variableDeclaration (name : String) (initializer : Option Node) (keyword : String)
      (exported : Bool)
  | returnStatement (expression : Option Node)
  | methodDeclaration (name : String) (parameters : List Parameter) (body : List Node)
  | classDeclaration (name : String) (heritage : Option Node) (members : List Node)
      (exported : Bool)
  | sourceFile (statements : List Node) (fileName : String)
  | several (nodes : List Node)
  deriving Inhabited

namespace Node

/-- The kind of a node; `several` nodes have none. -/
def kind? : Node → Option Kind
  | identifier .. => some .identifier
  | stringLiteral .. => some .stringLiteral
  | numericLiteral .. => some .numericLiteral
  | rawExpression .. => some .rawExpression
  | templateSpan .. => some .templateSpan
  | templateLiteral .. => some .templateLiteral
  | taggedTemplate .. => some .taggedTemplate
  | callExpression .. => some .callExpression
  | propertyAccess .. => some .propertyAccess
  | parameter .. => some .parameter
  | arrowFunction .. => some .arrowFunction
  | propertyAssignment .. => some .propertyAssignment
  | objectLiteral .. => some .objectLiteral
  | arrayLiteral .. => some .arrayLiteral
  | importSpecifier .. => some .importSpecifier
  | importDeclaration .. => some .importDeclaration
  | expressionStatement .. => some .expressionStatement
  | variableDeclaration .. => some .variableDeclaration
  | returnStatement .. => some .returnStatement
  | methodDeclaration .. => some .methodDeclaration
  | classDeclaration .. => some .classDeclaration
  | sourceFile .. => some .sourceFile
  | several .. => none

/-- The word for a node in messages. -/
def describe (node : Node) : String :=
  match node.kind?, node with
  | some kind, _ => kind.name
  | none, several (_ :: _) => "list"
  | none, _ => "NoneType"

/-- The name of what a node declares, imports or selects. -/
def name? : Node → Option String
  | propertyAccess _ name | propertyAssignment name _ | variableDeclaration name ..
  | methodDeclaration name .. | classDeclaration name .. => some name
  | parameter bound => some bound.name
  | importSpecifier specifier => some specifier.name
  | _ => none

/-- The nodes that a traversal's answer puts in a list. -/
def spliced : Node → List Node
  | several nodes => nodes
  | node => [node]

@[simp] theorem spliced_several (nodes : List Node) : (several nodes).spliced = nodes := rfl

theorem spliced_of_kind {node : Node} {kind : Kind} (h : node.kind? = some kind) :
    node.spliced = [node] := by
  cases node <;> first | rfl | simp [kind?] at h

/-- A node, unless it is the answer that removes one. -/
def present? : Node → Option Node
  | several [] => none
  | node => some node

theorem present?_of_kind {node : Node} {kind : Kind} (h : node.kind? = some kind) :
    node.present? = some node := by
  cases node <;> first | rfl | simp [kind?] at h

/-- The children of a node, in reading order. -/
def children : Node → List Node
  | templateSpan expression _ => [expression]
  | templateLiteral _ spans => spans
  | taggedTemplate tag template => [tag, template]
  | callExpression callee arguments => callee :: arguments
  | propertyAccess expression _ => [expression]
  | arrowFunction _ body => [body]
  | propertyAssignment _ value => [value]
  | objectLiteral properties => properties
  | arrayLiteral elements => elements
  | expressionStatement expression => [expression]
  | variableDeclaration _ initializer _ _ => initializer.toList
  | returnStatement expression => expression.toList
  | methodDeclaration _ _ body => body
  | classDeclaration _ heritage members _ => heritage.toList ++ members
  | sourceFile statements _ => statements
  | _ => []

section Traverse

variable {m : Type → Type} [Monad m]

/-- Answer for each node of a list, the answers side by side. -/
def traverseList (f : Node → m Node) : List Node → m (List Node)
  | [] => pure []
  | node :: rest => do
    let answer ← f node
    return answer.spliced ++ (← traverseList f rest)

/-- Answer for a node that may be absent; it is absent after it was removed. -/
def traverseOption (f : Node → m Node) : Option Node → m (Option Node)
  | none => pure none
  | some node => present? <$> f node

/-- Rebuild a node from an answer for each of its children. -/
def traverse (f : Node → m Node) : Node → m Node
  | templateSpan expression literal => return templateSpan (← f expression) literal
  | templateLiteral head spans => return templateLiteral head (← traverseList f spans)
  | taggedTemplate tag template => return taggedTemplate (← f tag) (← f template)
  | callExpression callee arguments =>
    return callExpression (← f callee) (← traverseList f arguments)
  | propertyAccess expression name => return propertyAccess (← f expression) name
  | arrowFunction parameters body => return arrowFunction parameters (← f body)
  | propertyAssignment name value => return propertyAssignment name (← f value)
  | objectLiteral properties => return objectLiteral (← traverseList f properties)
  | arrayLiteral elements => return arrayLiteral (← traverseList f elements)
  | expressionStatement expression => return expressionStatement (← f expression)
  | variableDeclaration name initializer keyword exported =>
    return variableDeclaration name (← traverseOption f initializer) keyword exported
  | returnStatement expression => return returnStatement (← traverseOption f expression)
  | methodDeclaration name parameters body =>
    return methodDeclaration name parameters (← traverseList f body)
  | classDeclaration name heritage members exported =>
    return classDeclaration name (← traverseOption f heritage) (← traverseList f members) exported
  | sourceFile statements fileName => return sourceFile (← traverseList f statements) fileName
  | node => return node

end Traverse

/-- The value of the first property of a given name in an object literal. -/
def property? (name : String) : Node → Option Node
  | objectLiteral properties => properties.findSome? fun
    | propertyAssignment key value => if key == name then some value else none
    | _ => none
  | _ => none

/-- A template literal with at least one slot. -/
def hasSubstitutions : Node → Bool
  | templateLiteral _ spans => !spans.isEmpty
  | _ => false

end Node

/-- A file of the application: its statements and its name, which locates it. -/
structure SourceFile where
  statements : List Node
  fileName : String := ""
  deriving Inhabited

/-- A file as the root of a tree. -/
def SourceFile.toNode (file : SourceFile) : Node :=
  .sourceFile file.statements file.fileName

end Polyglot.Source
