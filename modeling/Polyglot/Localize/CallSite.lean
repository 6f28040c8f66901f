import Polyglot.Message.Id
import Polyglot.Scope.Table

/-!
# Call sites of messages

A message is asked for by a call with a template and, if wanted, options. The template is a string,
a template literal, a template literal tagged as markup, or a function of some parameters whose body
is one of these. The options are an object literal with an explicit identifier, a description (both
static strings) and a list of arguments, one for each parameter.

Anything else at a call site breaks the contract with the extraction of messages and is a failure.
-/

namespace Polyglot.Localize

open Source Scope

/-- The tag of templates that hold markup. -/
def richTag : String := "html"

/-- A template tagged as markup. -/
def isRichTemplate : Node → Bool
  | .taggedTemplate (.identifier tag) _ => tag == richTag
  | _ => false

/-- The literal of a template tagged as markup. -/
def richTemplate? : Node → Option Template
  | .taggedTemplate (.identifier tag) (.templateLiteral head spans) =>
    if tag == richTag then some (.ofParts head spans) else none
  | _ => none

/-- The text that a call site asks for: a string or a template. -/
inductive MessageText where
  | plain (text : String)
  | template (template : Template)
  deriving Inhabited

namespace MessageText

/-- The literal of a text. -/
def toNode : MessageText → Node
  | plain words => .stringLiteral words
  | template literal => literal.toNode

/-- The static texts between the slots. -/
def strings : MessageText → List String
  | plain words => [words]
  | template literal => literal.strings

/-- The text of a literal. -/
def ofNode? : Node → Option MessageText
  | .stringLiteral text => some (plain text)
  | .templateLiteral head spans => some (template (.ofParts head spans))
  | _ => none

end MessageText

/-- The template argument of a call site. -/
structure TemplateArgument where
  text : MessageText
  isRich : Bool
  /-- The names of the parameters, when the argument is a function. -/
  parameters : Option (List String) := none
  deriving Inhabited

namespace TemplateArgument

/-- The argument that a literal is, without parameters. -/
def ofLiteral? (node : Node) : Option TemplateArgument :=
  match node with
  | .taggedTemplate _ literal =>
    if isRichTemplate node then (MessageText.ofNode? literal).map (⟨·, true, none⟩) else none
  | node => (MessageText.ofNode? node).map (⟨·, false, none⟩)

/-- The failure of a template argument of the wrong shape. -/
def invalid (detail : String) : Failure :=
  .contract (.templateArgumentInvalid detail)

/-- Read the template argument of a call site. -/
def ofNode : Option Node → Except Failure TemplateArgument
  | none => .error (invalid "msg() called without a template")
  | some (.arrowFunction parameters body) =>
    match ofLiteral? body with
    | some argument => .ok { argument with parameters := some (parameters.map (·.name)) }
    | none => .error (invalid
        ("arrow function body is " ++ body.describe ++ ", expected a template"))
  | some node =>
    match ofLiteral? node with
    | some argument => .ok argument
    | none => .error (invalid
        ("got " ++ node.describe ++ ", expected a string, template or arrow function"))

/-- The identifier that the argument has by its shape. -/
def shapeId (argument : TemplateArgument) : String :=
  MessageId.ofStrings argument.text.strings argument.isRich

end TemplateArgument

/-- The options of a call site. -/
structure Options where
  id : Option String := none
  description : Option String := none
  arguments : Option (List Node) := none
  deriving Inhabited

namespace Options

/-- The failure of an options argument of the wrong shape. -/
def invalid (detail : String) : Failure :=
  .contract (.optionsArgumentInvalid detail)

/-- The string that an option is. -/
def staticString (name : String) : Node → Except Failure String
  | .stringLiteral value => .ok value
  | .templateLiteral head [] => .ok head
  | _ => .error (invalid ("'" ++ name ++ "' must be a static string"))

/-- The failure of an option that is none of those known. -/
def unknown (name : String) : Failure :=
  invalid ("unknown option '" ++ name ++ "'")

/-- Take one property into the options; a later property of the same name counts. -/
def addProperty (options : Options) : Node → Except Failure Options
  | .propertyAssignment name value =>
    if name == "id" then return { options with id := some (← staticString name value) }
    else if name == "desc" then
      return { options with description := some (← staticString name value) }
    else if name == "args" then
      match value with
      | .arrayLiteral elements => .ok { options with arguments := some elements }
      | _ => .error (invalid "'args' must be an array literal")
    else .error (unknown name)
  | node =>
    match node.name? with
    | some name => .error (unknown name)
    | none => .error (invalid ("got " ++ node.describe ++ ", expected a property"))

/-- Read the options argument of a call site. -/
def ofNode : Option Node → Except Failure Options
  | none => .ok {}
  | some (.objectLiteral properties) => properties.foldlM addProperty {}
  | some node => .error (invalid ("got " ++ node.describe ++ ", expected an object literal"))

end Options

/-- The part that the callee of a call plays. Where an export plays several, messages come first and
base classes last. -/
def calleeRole? (scope : Scope) (callee : Node) : Option Role :=
  [Role.message, .configureBuild, .configureRun, .localized].find? fun role =>
    scope.plays role callee

/-- A call that asks for a message. -/
def isMessageCall (scope : Scope) : Node → Bool
  | .callExpression callee _ => scope.plays .message callee
  | _ => false

end Polyglot.Localize
