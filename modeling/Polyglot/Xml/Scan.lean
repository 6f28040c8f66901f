import Polyglot.Xml.Char

/-!
# Scanning markup

A scan takes what it reads from the front of a text and leaves the rest, or it fails.
-/

namespace Polyglot.Xml

/-- A reader of the front of a text. -/
abbrev Scan := StateT (List Char) Option

namespace Scan

/-- The characters of a text after some given ones. -/
def after? : (front : List Char) → List Char → Option (List Char)
  | [], text => some text
  | _ :: _, [] => none
  | f :: front, c :: text => if f == c then after? front text else none

/-- Look at the rest. -/
def rest : Scan (List Char) := get

/-- Take given characters. -/
def literal (front : String) : Scan Unit := do
  set (← after? front.toList (← get))

/-- Take given characters if they stand here. -/
def tryLiteral (front : String) : Scan Bool := do
  match after? front.toList (← get) with
  | some text =>
    set text
    return true
  | none => return false

/-- Take the characters up to the first one that fails a test. -/
def takeWhile (test : Char → Bool) : Scan (List Char) := do
  let text ← get
  set (text.dropWhile test)
  return text.takeWhile test

/-- Take space, and say whether there was any. -/
def space : Scan Bool := do
  return !(← takeWhile isSpace).isEmpty

/-- Take space of at least one character. -/
def someSpace : Scan Unit := do
  guard (← space)

/-- The characters in front of the first place where given ones stand, and those after it. -/
def splitAt? (mark : List Char) : List Char → Option (List Char × List Char)
  | [] => (after? mark []).map ([], ·)
  | c :: text =>
    match after? mark (c :: text) with
    | some later => some ([], later)
    | none => (splitAt? mark text).map fun (front, later) => (c :: front, later)

/-- Take the characters up to the first place where given ones stand, and these too. -/
def takeThrough (mark : String) : Scan (List Char) := do
  let (front, later) ← splitAt? mark.toList (← get)
  set later
  return front

/-- Take a name, colons and all. -/
def name : Scan String := do
  let text ← takeWhile fun c => isNameChar c || c == ':'
  guard (isName text)
  return String.ofList text

/-- Take a name without colons. -/
def plainName : Scan String := do
  let text ← takeWhile isNameChar
  guard (isName text)
  return String.ofList text

/-- Take a text between quotes of either kind. -/
def quoted : Scan (List Char) := do
  let some mark := (← get).head? | failure
  guard (mark == '"' || mark == '\'')
  set (← get).tail
  takeThrough (String.singleton mark)

/-- Take the end of a tag or of a declaration. -/
def close : Scan Unit := do
  let _ ← space
  literal ">"

/-- Take the rest of a comment. -/
def comment : Scan (List Char) := do
  let text ← takeThrough "--"
  literal ">"
  return text

/-- Take the rest of a processing instruction: its target and its data. -/
def instruction : Scan (String × List Char) := do
  let target ← name
  guard (target.toList.map Char.toLower != "xml".toList)
  if ← tryLiteral "?>" then return (target, [])
  someSpace
  let data ← takeThrough "?>"
  return (target, data)

end Scan

end Polyglot.Xml
