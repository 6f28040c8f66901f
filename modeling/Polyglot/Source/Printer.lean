import Polyglot.Depth
import Polyglot.Text.Quoted

/-!
# Printing source trees

A tree prints in one fixed format: two spaces of indentation, strings in double quotes, module
specifiers in single quotes. Every expression counts as one level of depth, and so does a class body
or a method body that is not empty; statements, slots and properties count as none. A printing
function takes the number of levels left (`room`), so the recursion is on that number, and the
limit it reports when they run out.

An object literal at the start of a statement or of an arrow function's body stands in parentheses,
and so does an operand (a callee, the base of a member, a tag) whose text could be read another way.
-/

namespace Polyglot.Source.Printer

/-- The blanks in front of a line. -/
def indentation (level : Nat) : String :=
  String.ofList (List.replicate (2 * level) ' ')

/-- One character of a module specifier. -/
def specifierChar (c : Char) : List Char :=
  if c == '\\' || c == '\'' then ['\\', c] else [c]

/-- A module specifier in single quotes. -/
def quoteSpecifier (specifier : String) : String :=
  String.ofList ('\'' :: specifier.toList.flatMap specifierChar ++ ['\''])

/-- Texts with a comma between them. -/
def commaSeparated (texts : List String) : String :=
  ", ".intercalate texts

/-- A parameter with its type. -/
def printParameter (parameter : Parameter) : String :=
  match parameter.typeAnnotation with
  | none => parameter.name
  | some type => parameter.name ++ ": " ++ type

/-- Parameters in parentheses. -/
def printParameters (parameters : List Parameter) : String :=
  "(" ++ commaSeparated (parameters.map printParameter) ++ ")"

/-- An imported name with the name it is bound under. -/
def printSpecifier (specifier : ImportSpecifier) : String :=
  match specifier.renamed with
  | none => specifier.name
  | some localName => specifier.name ++ " as " ++ localName

/-- The bindings of an import, each kind one clause. -/
def importClauses (declaration : ImportDeclaration) : List String :=
  declaration.byDefault.toList ++
    (declaration.whole.map ("* as " ++ ·)).toList ++
    (if declaration.named.isEmpty then []
      else ["\x7b" ++ commaSeparated (declaration.named.map printSpecifier) ++ "\x7d"])

/-- An import. -/
def printImport (declaration : ImportDeclaration) : String :=
  let clauses := importClauses declaration
  "import " ++ (if clauses.isEmpty then "" else commaSeparated clauses ++ " from ") ++
    quoteSpecifier declaration.specifier ++ ";"

/-- An operand of this shape needs parentheses. -/
def needsParentheses : Node → Bool
  | .arrowFunction .. | .objectLiteral .. | .numericLiteral .. | .rawExpression .. => true
  | _ => false

/-- An object literal could be taken for a block. -/
def isObjectLiteral : Node → Bool
  | .objectLiteral .. => true
  | _ => false

/-- Put a text into parentheses if a condition asks for it. -/
def parenthesizedIf (condition : Bool) (text : String) : String :=
  if condition then "(" ++ text ++ ")" else text

/-- The source of a template from its head and from the printed slots. -/
def templateSource (head : String) (slots : List (String × String)) : String :=
  "\x60" ++ TemplateText.escape head ++
    String.join (slots.map fun slot =>
      "$\x7b" ++ slot.1 ++ "\x7d" ++ TemplateText.escape slot.2) ++ "\x60"

/-- The nodes in the places of a template's slots, printed by a given function. -/
def printSlots (print : Node → Except Failure String) (spans : List Node) :
    Except Failure (List (String × String)) :=
  spans.mapM fun span => do
    let slot := Span.ofNode span
    return (← print slot.expression, slot.literal)

/-- A template literal with its slots printed by a given function. -/
def printTemplate (print : Node → Except Failure String) : Node → Except Failure String
  | .templateLiteral head spans => return templateSource head (← printSlots print spans)
  | node => .error (.unprintable node.describe .expression)

/-- A property with its value printed by a given function. -/
def printProperty (print : Node → Except Failure String) : Node → Except Failure String
  | .propertyAssignment name value => return name ++ ": " ++ (← print value)
  | node => .error (.unprintable node.describe .expression)

/-- An expression, within a number of levels. -/
def printExpression (limit : Int) : Nat → Node → Except Failure String
  | 0, _ => .error (.depth limit)
  | room + 1, node =>
    let print := printExpression limit room
    let printOperand := fun operand =>
      parenthesizedIf (needsParentheses operand) <$> print operand
    match node with
    | .identifier name => .ok name
    | .stringLiteral value => .ok (Text.quoteDouble value)
    | .numericLiteral raw => .ok raw
    | .rawExpression text => .ok text
    | .templateLiteral .. => printTemplate print node
    | .taggedTemplate tag template =>
      return (← printOperand tag) ++ (← printTemplate print template)
    | .callExpression callee arguments => do
      let callee ← printOperand callee
      return callee ++ "(" ++ commaSeparated (← arguments.mapM print) ++ ")"
    | .propertyAccess expression name => return (← printOperand expression) ++ "." ++ name
    | .arrowFunction parameters body =>
      return printParameters parameters ++ " => " ++
        parenthesizedIf (isObjectLiteral body) (← print body)
    | .objectLiteral properties =>
      return "\x7b" ++ commaSeparated (← properties.mapM (printProperty print)) ++ "\x7d"
    | .arrayLiteral elements => return "[" ++ commaSeparated (← elements.mapM print) ++ "]"
    | node => .error (.unprintable node.describe .expression)

/-- A body in braces: lines of one level more, or nothing on the line itself. -/
def printBody (level : Nat) (lines : List String) : String :=
  " \x7b\n" ++ String.join (lines.map (· ++ "\n")) ++ indentation level ++ "\x7d"

mutual

/-- A statement at a level of indentation, within a number of levels of depth. -/
def printStatement (limit : Int) (room level : Nat) (node : Node) : Except Failure String :=
  let print := printExpression limit room
  (indentation level ++ ·) <$>
    match node with
    | .importDeclaration declaration => .ok (printImport declaration)
    | .expressionStatement expression =>
      return parenthesizedIf (isObjectLiteral expression) (← print expression) ++ ";"
    | .variableDeclaration name initializer keyword exported => do
      let value ← match initializer with
        | none => pure ""
        | some value => (" = " ++ ·) <$> print value
      return (if exported then "export " else "") ++ keyword ++ " " ++ name ++ value ++ ";"
    | .returnStatement none => .ok "return;"
    | .returnStatement (some expression) => return "return " ++ (← print expression) ++ ";"
    | .classDeclaration name heritage members exported => do
      let base ← match heritage with
        | none => pure ""
        | some base => (" extends " ++ ·) <$> print base
      let body ← match members, room with
        | [], _ => pure " \x7b\x7d"
        | _ :: _, 0 => throw (.depth limit)
        | members, room + 1 =>
          printBody level <$> members.mapM (printMethod limit room (level + 1))
      return (if exported then "export " else "") ++ "class " ++ name ++ base ++ body
    | node => .error (.unprintable node.describe .statement)

/-- A method at a level of indentation, within a number of levels of depth. -/
def printMethod (limit : Int) (room level : Nat) (node : Node) : Except Failure String :=
  match node with
  | .methodDeclaration name parameters body => do
    let body ← match body, room with
      | [], _ => pure " \x7b\x7d"
      | _ :: _, 0 => throw (.depth limit)
      | body, room + 1 => printBody level <$> body.mapM (printStatement limit room (level + 1))
    return indentation level ++ name ++ printParameters parameters ++ body
  | node => .error (.unprintable node.describe .statement)

end

/-- A source file, a statement or an expression, within a number of levels of depth. -/
def printNode (limit : Int) (room : Nat) (node : Node) : Except Failure String :=
  match node with
  | .sourceFile statements _ => do
    let lines ← statements.mapM (printStatement limit room 0)
    return String.join (lines.map (· ++ "\n"))
  | .importDeclaration .. | .expressionStatement .. | .variableDeclaration ..
  | .returnStatement .. | .classDeclaration .. => printStatement limit room 0 node
  | node => printExpression limit room node

end Polyglot.Source.Printer

namespace Polyglot.Source

/-- The source text of a tree, for a requested depth limit. -/
def Node.printWithin (requested : Int) (node : Node) : Except Failure String :=
  let limit := Depth.clamp Depth.standardReserve requested
  Printer.printNode limit limit.toNat node

/-- The source text of a tree, reporting a depth limit that is lowered. -/
def Node.printReporting (requested : Int) (node : Node) : Run String := do
  reportAll (Depth.clampEvents Depth.standardReserve requested)
  Run.ofExcept (node.printWithin requested)

/-- The source text of a tree. -/
def Node.print (node : Node) : Except Failure String :=
  node.printWithin Depth.standardLimit

end Polyglot.Source
