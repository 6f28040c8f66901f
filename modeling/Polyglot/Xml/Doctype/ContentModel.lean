import Polyglot.Xml.Scan

/-!
# Content models

What the declaration of an element says about its content: text mixed with some elements, or groups
of elements in a sequence or as alternatives. Only the form matters.
-/

namespace Polyglot.Xml.Doctype

open Scan

/-- Take a mark of how often a part of a content model may come. -/
def occurrence : Scan Unit := do
  for mark in ["?", "*", "+"] do
    if ← tryLiteral mark then return

/-- Take the sign between the parts of a group, or the end of the group, which is no sign. -/
def separator : Scan (Option String) := do
  let _ ← space
  if ← tryLiteral ")" then return none
  if ← tryLiteral "|" then return some "|"
  literal ","
  return some ","

/-- The number of groups of a content model that may be inside each other. -/
def maxGroups : Nat := 256

mutual

/-- Take a part of a content model: a name, or a group if there is room for one. -/
def modelPart (room : Nat) : (fuel : Nat) → Scan Unit
  | 0 => failure
  | fuel + 1 => do
    if ← tryLiteral "(" then
      guard (0 < room)
      modelGroup (room - 1) fuel
    else
      let _ ← Scan.name
    occurrence

/-- Take the rest of a group of a content model. -/
def modelGroup (room : Nat) : (fuel : Nat) → Scan Unit
  | 0 => failure
  | fuel + 1 => do
    let _ ← space
    modelPart room fuel
    match ← separator with
    | none => return
    | some sign => modelParts room sign fuel

/-- Take the rest of a group after a sign, which stands between all of its parts. -/
def modelParts (room : Nat) (sign : String) : (fuel : Nat) → Scan Unit
  | 0 => failure
  | fuel + 1 => do
    let _ ← space
    modelPart room fuel
    match ← separator with
    | none => return
    | some next =>
      guard (next == sign)
      modelParts room sign fuel

end

/-- Take the rest of a content model that mixes text with elements. -/
def mixedModel : Scan Unit := do
  let names ← takeThrough ")"
  match (names.splitOn '|').map trimSpace with
  | [[]] =>
    let _ ← tryLiteral "*"
    return
  | [] :: names =>
    guard (names.all isName)
    literal "*"
  | _ => failure

/-- Take a content model. -/
def contentModel : Scan Unit := do
  literal "("
  let _ ← space
  if ← tryLiteral "#PCDATA" then mixedModel
  else
    let length := (← rest).length
    modelGroup (maxGroups - 1) (length + 1)
    occurrence

end Polyglot.Xml.Doctype
