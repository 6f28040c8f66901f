import Polyglot.Localize.CallSite
import Polyglot.Message.Bundle
import Polyglot.Source.Printer

/-!
# Localized copies

For one locale, a copy of a file without any trace of the localization library:

* a call that asks for a message becomes the message's text in that locale, or its own text where
  there is no translation;
* a markup template takes in the strings and templates in its slots;
* imports of the library and names for its exports go away;
* the call that sets the locale when the program is built becomes an object that knows the locale,
  the one that sets it while the program runs is refused;
* the helper that localizes a base class becomes that class, and the name of the status event
  becomes the event's text.

The functions take the number of levels of depth left (`room`). Every step into a node's children
takes one, and so does every step into a template's slots, also where a slot is looked at a second
time after it was localized; a helper around a base class takes none and is peeled off first.
-/

namespace Polyglot.Localize

open Source Scope

/-- What the copy of a file depends on besides the file. -/
structure Context where
  locale : String
  fileName : String
  /-- The translated messages; the source locale has none. -/
  translations : Option (List Message) := none
  limit : Int := Depth.standardLimit

/-- The name of the export that names the status event. -/
def statusEventName : String := "LOCALE_STATUS_EVENT"

/-- The text of the status event. -/
def statusEventText : String := "localeweaver-status"

/-- The text that a reference to the status event becomes. -/
def statusEvent? (scope : Scope) (reference : Node) : Option Node := do
  let e ← scope.resolve? reference
  if e.name == statusEventName && scope.program.isLocalizeModule e.module then
    some (.stringLiteral statusEventText)
  else none

/-- What the call that sets the locale becomes: an object with a function that answers it. -/
def localeObject (locale : String) : Node :=
  .objectLiteral [.propertyAssignment "getLocale" (.arrowFunction [] (.stringLiteral locale))]

/-- The declaration only gives another name to an export that plays a part, for this file. -/
def isRoleRename (scope : Scope) : Node → Bool
  | .variableDeclaration name _ _ exported =>
    !exported && scope.isRename name &&
      (scope.resolve? (.identifier name)).any (·.playsAny Role.all)
  | _ => false

/-- The base class inside any number of localizing helpers. -/
def peel (scope : Scope) : Node → Except Failure Node
  | .callExpression callee arguments =>
    match calleeRole? scope callee with
    | some .localized =>
      match arguments with
      | [base] => peel scope base
      | arguments => .error (.contract (.localizedArity arguments.length))
    | _ => .ok (.callExpression callee arguments)
  | node => .ok node

/-! ### Translations -/

/-- The template of a translation. -/
def translationTemplate (context : Context) (id : String) (translation : Message) :
    Except Failure Template :=
  match Template.parse translation.contents.body with
  | .ok template => .ok template
  | .error fault => .error (TemplateArgument.invalid
      ("'" ++ context.locale ++ "' translation of '" ++ id ++ "' is not a valid template: " ++
        fault.message))

/-- The text of a message in the locale, or its own text. -/
def localText (context : Context) (id : String) (own : MessageText) : Run MessageText :=
  match context.translations with
  | none => return own
  | some messages =>
    match lookupMessage id messages with
    | some translation =>
      .template <$> Run.ofExcept (translationTemplate context id translation)
    | none => do
      report (.untranslated context.locale id)
      return own

/-- Put the argument of a parameter into a slot that names it. -/
def substituteSlot (values : List (String × Node)) (span : Source.Span) :
    Except Failure Source.Span :=
  match span.expression with
  | .identifier name =>
    match values.lookup name with
    | some value => .ok { span with expression := value }
    | none => .error (.contract (.parameterUnbound name))
  | expression => do .error (.contract (.slotNotParameter (← expression.print)))

/-- Put arguments into the slots of a template, each of which must name a parameter. Of parameters
with the same name the last counts. -/
def substitute (parameters : List String) (arguments : List Node) (template : Template) :
    Except Failure Template :=
  let values := (parameters.zip arguments).reverse
  return { template with spans := ← template.spans.mapM (substituteSlot values) }

/-- The text of a call site with its arguments in place, if its template is a function. -/
def applyArguments (id : String) (argument : TemplateArgument) (options : Options) :
    MessageText → Except Failure MessageText
  | .plain text => .ok (.plain text)
  | .template template =>
    match argument.parameters with
    | none => .ok (.template template)
    | some parameters =>
      if template.spans.isEmpty then .ok (.template template)
      else match options.arguments with
        | none => .error (TemplateArgument.invalid
            ("parameterized message '" ++ id ++ "' has no args option"))
        | some arguments => .template <$> substitute parameters arguments template

/-- The text that a message call asks for, and whether it holds markup. -/
def messageText (context : Context) (arguments : List Node) : Run (MessageText × Bool) := do
  let argument ← Run.ofExcept (TemplateArgument.ofNode arguments[0]?)
  let options ← Run.ofExcept (Options.ofNode arguments[1]?)
  let id := options.id.getD argument.shapeId
  let own ← localText context id argument.text
  let applied ← Run.ofExcept (applyArguments id argument options own)
  return (applied, argument.isRich)

/-- The literal of a template whose slots were taken in: tagged again if it holds markup, a string
if no slot is left. -/
def literalOf (isRich : Bool) (template : Template) : Node :=
  if isRich then .taggedTemplate (.identifier richTag) template.toNode
  else if template.spans.isEmpty then .stringLiteral template.head
  else template.toNode

/-! ### Steps -/

/-- What the copy has in the place of a node. -/
inductive Step where
  /-- A node that needs no further work, or several. -/
  | done (node : Node)
  /-- The text of a message, its slots still to be taken in. -/
  | message (isRich : Bool) (template : Template)
  /-- A markup template, its slots still to be taken in. -/
  | markup (tag : Node) (template : Template)
  /-- The node itself, its children still to be copied in a scope. -/
  | inside (scope : Scope) (node : Node)
  deriving Inhabited

/-- The step at a call that is no localizing helper. -/
def callStep (context : Context) (scope : Scope) (callee : Node) (arguments : List Node) :
    Run Step :=
  match calleeRole? scope callee with
  | some .message => do
    match ← messageText context arguments with
    | (.plain text, false) => return .done (.stringLiteral text)
    | (.plain _, true) => throw (.contract .richTemplateIsString)
    | (.template template, isRich) => return .message isRich template
  | some .configureBuild => return .done (localeObject context.locale)
  | some .configureRun => throw (.configuration (.runtimeConfigInTransform context.fileName))
  | _ => return .inside scope (.callExpression callee arguments)

/-- The step at a node that is no localizing helper. -/
def nodeStep (context : Context) (scope : Scope) (node : Node) : Run Step :=
  match node with
  | .callExpression callee arguments => callStep context scope callee arguments
  | .identifier _ => return .done ((statusEvent? scope node).getD node)
  | .propertyAccess .. => return ((statusEvent? scope node).map Step.done).getD (.inside scope node)
  | .taggedTemplate tag _ =>
    return ((richTemplate? node).map (Step.markup tag)).getD (.inside scope node)
  | .importDeclaration declaration =>
    if scope.importsLocalizeModule declaration then do
      report (.importRemoved declaration.specifier context.fileName)
      return .done (.several [])
    else return .done node
  | .variableDeclaration .. =>
    return if isRoleRename scope node then .done (.several []) else .inside scope node
  | .methodDeclaration _ parameters body => return .inside (scope.child parameters body) node
  | .arrowFunction parameters _ => return .inside (scope.child parameters []) node
  | node => return .inside scope node

/-- The step at a node. -/
def step (context : Context) (scope : Scope) (node : Node) : Run Step := do
  nodeStep context scope (← Run.ofExcept (peel scope node))

/-! ### Slots -/

/-- The fragments that a slot's expression gives to the template around it, given how to flatten a
template inside it: a string and a plain template always give theirs, a markup template only to
markup. -/
def inlined (flatten : Bool → Template → Run (List Fragment)) (isRich : Bool) (expression : Node) :
    Run (Option (List Fragment)) :=
  match expression with
  | .stringLiteral text => return some [.text text]
  | .templateLiteral head spans => some <$> flatten false (.ofParts head spans)
  | node =>
    match isRich, richTemplate? node with
    | true, some template => some <$> flatten true template
    | _, _ => return none

/-- The fragments that a slot gives to the template around it. An expression that gives none as it
is written is copied and asked again; if it still gives none, it stays a slot. -/
def slotFragments (flatten : Bool → Template → Run (List Fragment)) (copy : Node → Run Node)
    (isRich : Bool) (expression : Node) : Run (List Fragment) := do
  if let some fragments ← inlined flatten isRich expression then
    return fragments
  let copied ← copy expression
  if let some fragments ← inlined flatten isRich copied then
    return fragments
  return [.slot copied]

/-- The fragments of some slots and of the texts after them. -/
def spansFragments (slot : Node → Run (List Fragment)) : List Source.Span → Run (List Fragment)
  | [] => return []
  | span :: rest => do
    let fragments ← slot span.expression
    return fragments ++ .text span.literal :: (← spansFragments slot rest)

/-! ### The copy -/

mutual

/-- The fragments of a template with everything taken in that can be, within a number of levels. -/
def flatten (context : Context) (scope : Scope) (room : Nat) (isRich : Bool) (template : Template) :
    Run (List Fragment) :=
  match room with
  | 0 => throw (.depth context.limit)
  | room + 1 => do
    let slot := slotFragments (flatten context scope room) (copyNode context scope room) isRich
    return .text template.head :: (← spansFragments slot template.spans)

/-- The localized copy of a node, within a number of levels. -/
def copyNode (context : Context) (scope : Scope) (room : Nat) (node : Node) : Run Node := do
  match ← step context scope node, room with
  | .done node, _ => return node
  | _, 0 => throw (.depth context.limit)
  | .message isRich template, room + 1 =>
    return literalOf isRich (.ofFragments (← flatten context scope room isRich template))
  | .markup tag template, room + 1 =>
    return .taggedTemplate tag
      (Template.ofFragments (← flatten context scope room true template)).toNode
  | .inside scope node, room + 1 => node.traverse (copyNode context scope room)

end

/-- The localized copy of a file. -/
def copyFile (context : Context) (scope : Scope) (file : SourceFile) : Run SourceFile :=
  match context.limit.toNat with
  | 0 => throw (.depth context.limit)
  | room + 1 => do
    let statements ← Node.traverseList (copyNode context scope room) file.statements
    return { file with statements }

/-- The localized copy of a file of a program, for a requested depth limit. -/
def localizeFile (program : Program) (locale : String) (translations : Option (List Message))
    (requested : Int) (file : SourceFile) : Run SourceFile := do
  let limit ← Depth.clampReporting Depth.standardReserve requested
  copyFile { locale, fileName := file.fileName, translations, limit } (.ofFile program file) file

/-- The localized copies of all files of a program, for a requested depth limit. -/
def localizeProgram (program : Program) (locale : String) (translations : Option (List Message))
    (requested : Int) : Run (List SourceFile) :=
  program.files.mapM (localizeFile program locale translations requested)

end Polyglot.Localize
