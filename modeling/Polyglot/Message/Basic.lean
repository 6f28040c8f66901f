import Polyglot.Failure

/-!
# Messages

A message is text with placeholders. A placeholder's payload is template source (markup, slots) that
every translation reproduces exactly; only its place among the text may change. A message of the
program also knows how its template was written; a message of a bundle is a name with contents. No
message has an empty name.
-/

namespace Polyglot

/-- A piece of a message: a run of text or a placeholder. -/
inductive Content where
  | text (text : String)
  | placeholder (payload : String)
  deriving DecidableEq, Repr

/-- The pieces of a message in reading order. -/
abbrev Contents := List Content

namespace Contents

/-- The body of the template that some contents make: text escaped, payloads as they are. -/
def body (contents : Contents) : String :=
  String.join (contents.map fun
    | .text text => Source.TemplateText.escape text
    | .placeholder payload => payload)

/-- What a translator reads: text and payloads as they are. -/
def readable (contents : Contents) : String :=
  String.join (contents.map fun
    | .text text => text
    | .placeholder payload => payload)

/-- The payloads in order. -/
def payloads (contents : Contents) : List String :=
  contents.filterMap fun
    | .text _ => none
    | .placeholder payload => some payload

@[simp] theorem payloads_nil : payloads [] = [] := rfl

@[simp] theorem payloads_text (text : String) (rest : Contents) :
    payloads (.text text :: rest) = payloads rest := rfl

@[simp] theorem payloads_placeholder (payload : String) (rest : Contents) :
    payloads (.placeholder payload :: rest) = payload :: payloads rest := rfl

/-- The static texts of the template that some contents make. -/
def templateStrings (contents : Contents) : Except Source.TemplateFault (List String) :=
  Source.Template.strings <$> Source.Template.parse contents.body

end Contents

/-- A message of a translated bundle. -/
structure Message where
  name : String
  contents : Contents
  name_ne : name ≠ ""
  deriving DecidableEq, Repr

/-- A message of a bundle, if its name is not empty. -/
def Message.make (name : String) (contents : Contents) : Except Failure Message :=
  if h : name = "" then .error (.value .emptyMessageName) else .ok ⟨name, contents, h⟩

/-- A message found in the program. -/
structure ProgramMessage where
  name : String
  contents : Contents
  /-- Labels that describe where the message stands, the outermost first. -/
  labels : List String := []
  /-- The template holds markup. -/
  isRich : Bool := false
  /-- The parameters of a template that is a function. -/
  parameters : Option (List String) := none
  name_ne : name ≠ ""
  deriving DecidableEq, Repr

namespace ProgramMessage

/-- A message of the program, if its name is not empty. -/
def make (name : String) (contents : Contents) (labels : List String) (isRich : Bool)
    (parameters : Option (List String)) : Except Failure ProgramMessage :=
  if h : name = "" then .error (.value .emptyProgramMessageName)
  else .ok ⟨name, contents, labels, isRich, parameters, h⟩

/-- The source text of a message, taken as its translation. -/
def toMessage (message : ProgramMessage) : Message :=
  ⟨message.name, message.contents, message.name_ne⟩

/-- The labels of a message as one note, if it has any. -/
def note? (message : ProgramMessage) : Option String :=
  if message.labels.isEmpty then none else some (" / ".intercalate message.labels)

end ProgramMessage

end Polyglot
