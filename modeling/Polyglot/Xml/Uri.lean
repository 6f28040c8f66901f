import Polyglot.Text.Decimal
import Polyglot.Text.Hex

/-!
# References to resources

Namespaces are named by references to resources. An absolute one begins with a scheme; a relative
one does not, and no colon stands in the first segment of its path. Both have an optional authority
(a user, a host and a port), a path, an optional query and an optional fragment. Each part is made
of its own characters and of escapes, a percent sign with two hexadecimal digits.
-/

namespace Polyglot.Xml.Uri

/-! ### Characters of the parts -/

/-- A letter, a digit or a mark that never separates anything. -/
def isUnreserved (c : Char) : Bool :=
  c.isAlphanum || "-._~".toList.contains c

/-- A mark that may separate things inside a part. -/
def isDelimiter (c : Char) : Bool :=
  "!$&'()*+,;=".toList.contains c

/-- The character may stand in a host that is a name. -/
def isHostChar (c : Char) : Bool :=
  isUnreserved c || isDelimiter c

/-- The character may stand in the name of a user. -/
def isUserChar (c : Char) : Bool :=
  isHostChar c || c == ':'

/-- The character may stand in a segment of a path. -/
def isSegmentChar (c : Char) : Bool :=
  isUserChar c || c == '@'

/-- The character may stand in a path behind its first segment. -/
def isPathChar (c : Char) : Bool :=
  isSegmentChar c || c == '/'

/-- The character may stand in a query. -/
def isQueryChar (c : Char) : Bool :=
  isPathChar c || c == '?'

/-- The character may stand in a fragment. -/
def isFragmentChar (c : Char) : Bool :=
  isQueryChar c || c == '[' || c == ']'

/-- The character may stand in a scheme behind its first letter. -/
def isSchemeChar (c : Char) : Bool :=
  c.isAlphanum || c == '+' || c == '-' || c == '.'

/-! ### Parts from the front -/

/-- What follows the longest front of a text that is made of some characters and of escapes. -/
def skip (allowed : Char → Bool) : List Char → List Char
  | '%' :: high :: low :: text =>
    if (Text.hexValue? high).isSome && (Text.hexValue? low).isSome then skip allowed text
    else '%' :: high :: low :: text
  | c :: text => if allowed c then skip allowed text else c :: text
  | [] => []

/-- The greatest number of a port. -/
def maxPort : Nat := 2147483647

/-- What follows a port, which has a digit at least. -/
def afterPort? (text : List Char) : Option (List Char) := do
  let digits := text.takeWhile Char.isDigit
  guard (!digits.isEmpty && (← Text.decimalNumber? digits) ≤ maxPort)
  return text.dropWhile Char.isDigit

/-- What follows a host: a name, which may be empty, or anything in brackets. -/
def afterHost? (text : List Char) : Option (List Char) :=
  match text with
  | '[' :: text =>
    match text.dropWhile (· != ']') with
    | [] => none
    | _ :: text => some text
  | text => some (skip isHostChar text)

/-- What follows an authority. -/
def afterAuthority? (text : List Char) : Option (List Char) := do
  let text := match skip isUserChar text with
    | '@' :: text => text
    | _ => text
  match ← afterHost? text with
  | ':' :: text => afterPort? text
  | text => return text

/-- What follows the slash that may stand in front of a path, and the path. -/
def afterPath (text : List Char) : List Char :=
  match text with
  | '/' :: text => skip isPathChar text
  | text => text

/-- What follows an authority and a path, either of which may be absent. A path that does not begin
with a slash has a first segment of some characters. -/
def afterLocation? (first : Char → Bool) (text : List Char) : Option (List Char) :=
  match text with
  | '/' :: '/' :: text => (afterAuthority? text).map afterPath
  | text => some (afterPath (skip first text))

/-- The text is an optional query and an optional fragment. -/
def isTail (text : List Char) : Bool :=
  let text := match text with
    | '?' :: text => skip isQueryChar text
    | text => text
  let text := match text with
    | '#' :: text => skip isFragmentChar text
    | text => text
  text.isEmpty

/-! ### References -/

/-- The text is a reference that begins with a scheme. -/
def isAbsolute (text : List Char) : Bool :=
  match text with
  | [] => false
  | c :: rest =>
    c.isAlpha &&
      match rest.dropWhile isSchemeChar with
      | ':' :: rest => (afterLocation? isSegmentChar rest).any isTail
      | _ => false

/-- The text is a reference without a scheme. -/
def isRelative (text : List Char) : Bool :=
  (afterLocation? (fun c => isSegmentChar c && c != ':') text).any isTail

/-- The text is a reference to a resource. -/
def isReference (text : List Char) : Bool :=
  isAbsolute text || isRelative text

end Polyglot.Xml.Uri
