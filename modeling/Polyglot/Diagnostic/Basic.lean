import Polyglot.Diagnostic.Code
import Polyglot.Text.Quoted

/-!
# Diagnostics

A diagnostic is one finding for a person to read: its kind, a message, and optionally where it is
and how to mend it. `display` prints the three parts on lines of their own and leaves out a part
that is absent or empty; `brief` is one line and `json` is for tools.
-/

namespace Polyglot

/-- How grave a finding is. -/
inductive Severity where
  | error
  | warning
  deriving DecidableEq, Repr

/-- The word for a severity. -/
def Severity.name : Severity → String
  | error => "error"
  | warning => "warning"

/-- One finding. -/
structure Diagnostic where
  code : Diagnostic.Code
  message : String
  hint : Option String := none
  location : Option String := none
  severity : Severity := .error
  deriving DecidableEq, Repr

namespace Diagnostic

/-- A text that is present and not empty. -/
def present (text : Option String) : Option String :=
  text.filter (· != "")

/-- The finding under a given heading, with its location and its hint when it has them. -/
def displayUnder (heading : String) (d : Diagnostic) : String :=
  heading ++ "[" ++ d.code.name ++ "]: " ++ d.message ++
    ((present d.location).map ("\n  --> " ++ ·)).getD "" ++
    ((present d.hint).map ("\n  = help: " ++ ·)).getD ""

/-- The finding in full. -/
def display (d : Diagnostic) : String :=
  d.displayUnder d.severity.name

/-- The terminal sequence that starts the bold colour of a severity. -/
def colour : Severity → String
  | .error => "\x1b[1;31m"
  | .warning => "\x1b[1;33m"

/-- The finding in full with its severity in colour. -/
def displayColoured (d : Diagnostic) : String :=
  d.displayUnder (colour d.severity ++ d.severity.name ++ "\x1b[0m")

/-- The finding on one line. -/
def brief (d : Diagnostic) : String :=
  d.code.name ++ ": " ++ d.message

/-- A named text member of an object for tools. -/
def jsonMember (name value : String) : String :=
  Text.quoteDouble name ++ ": " ++ Text.quoteDouble value

/-- The finding as an object for tools, again without absent parts. -/
def json (d : Diagnostic) : String :=
  let members :=
    [jsonMember "code" d.code.name,
     Text.quoteDouble "code_value" ++ ": " ++ toString d.code.number,
     jsonMember "message" d.message,
     jsonMember "severity" d.severity.name] ++
    ((present d.location).map (jsonMember "location")).toList ++
    ((present d.hint).map (jsonMember "hint")).toList
  "\x7b" ++ ", ".intercalate members ++ "\x7d"

/-- Several findings in one style, a blank line between them. -/
def displayAll (style : Diagnostic → String) (ds : List Diagnostic) : String :=
  "\n\n".intercalate (ds.map style)

end Diagnostic

end Polyglot
