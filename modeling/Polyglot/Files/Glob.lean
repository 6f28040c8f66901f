import Polyglot.Files.Disk

/-!
# Patterns of paths

A pattern is a path in which a name may stand for many. In a name, `*` stands for any run of
characters, `?` for any one character and a set in brackets for one of its characters, or for one
that is not in it when it starts with `!`. A set holds single characters and ranges; an empty range
holds nothing and is dropped before anything else. A bracket that is never closed stands for itself.
The name `**` stands for any number of directories, and at the end for everything below.

`Pattern.paths` gives the paths that a pattern stands for on a disk, below a path. A path may come
more than once if the pattern leads to it in several ways.
-/

namespace Polyglot.Files

/-- What stands for one character or a run of characters in a name. -/
inductive Wildcard where
  | literal (c : Char)
  | one
  | run
  | set (negated : Bool) (ranges : List (Char × Char))
  deriving DecidableEq, Repr

namespace Wildcard

/-- The wildcard stands for a given character; a run is matched by `matchesAll`. -/
def accepts : Wildcard → Char → Bool
  | literal c, other => c == other
  | one, _ => true
  | run, _ => true
  | set negated ranges, c => ranges.any (fun range => range.1 ≤ c && c ≤ range.2) != negated

/-- A property of some text that is left when characters are taken off the front. -/
def someSuffix (p : List Char → Bool) : List Char → Bool
  | [] => p []
  | c :: rest => p (c :: rest) || someSuffix p rest

/-- Wildcards one after the other stand for a text. -/
def matchesAll : List Wildcard → List Char → Bool
  | [], text => text.isEmpty
  | run :: later, text => someSuffix (matchesAll later) text
  | _ :: _, [] => false
  | wildcard :: later, c :: rest => wildcard.accepts c && matchesAll later rest

/-- The ranges of a set, a single character being a range of its own. -/
def ranges : List Char → List (Char × Char)
  | low :: '-' :: high :: rest => (low, high) :: ranges rest
  | c :: rest => (c, c) :: ranges rest
  | [] => []

/-- The ranges of the contents of a set, where a `!` in front belongs to no range. -/
def rangesOfContents : List Char → List (Char × Char)
  | '!' :: rest => ('!', '!') :: ranges rest
  | contents => ranges contents

/-- The set of what stands between brackets. -/
def ofContents (contents : List Char) : Wildcard :=
  match (rangesOfContents contents).filter fun range => range.1 ≤ range.2 with
  | ('!', '!') :: ranges => set true ranges
  | ranges => set false ranges

/-- How many characters at the front of a set cannot close it. -/
def leadLength : List Char → Nat
  | '!' :: ']' :: _ => 2
  | '!' :: _ => 1
  | ']' :: _ => 1
  | _ => 0

/-- The contents of a set up to its bracket and the text after it. A bracket that comes first, or
right after `!`, does not close the set. -/
def splitSet? (text : List Char) : Option (List Char × List Char) :=
  let (front, rest) := text.splitAt (leadLength text)
  match rest.dropWhile (· != ']') with
  | [] => none
  | _ :: later => some (front ++ rest.takeWhile (· != ']'), later)

theorem length_of_splitSet? {text contents later : List Char}
    (h : splitSet? text = some (contents, later)) : later.length < text.length := by
  simp only [splitSet?, List.splitAt_eq] at h
  split at h
  · contradiction
  next rest heq =>
    cases h
    have hd :=
      (List.dropWhile_suffix (p := (· != ']')) (l := text.drop (leadLength text))).length_le
    rw [heq, List.length_drop, List.length_cons] at hd
    omega

/-- The wildcards of a name. -/
def ofName (name : List Char) : List Wildcard :=
  match name with
  | [] => []
  | '*' :: rest => run :: ofName rest
  | '?' :: rest => one :: ofName rest
  | '[' :: rest =>
    match h : splitSet? rest with
    | some (contents, later) =>
      have := length_of_splitSet? h
      ofContents contents :: ofName later
    | none => literal '[' :: ofName rest
  | c :: rest => literal c :: ofName rest
termination_by name.length

end Wildcard

/-- What a name of a pattern stands for. -/
inductive PatternName where
  /-- The name itself. -/
  | exactly (name : String)
  /-- The names that match. -/
  | like (wildcards : List Wildcard)
  /-- Any number of directories. -/
  | anywhere
  deriving DecidableEq, Repr

/-- The character makes a name of a pattern stand for many. -/
def isMagic (c : Char) : Bool :=
  c == '*' || c == '?' || c == '['

/-- What a name of a pattern stands for. -/
def PatternName.ofText (name : String) : PatternName :=
  if name = "**" then .anywhere
  else if name.toList.any isMagic then .like (Wildcard.ofName name.toList)
  else .exactly name

/-- The names of a pattern from a path on. -/
abbrev Pattern := List PatternName

namespace Pattern

/-- The pattern that some names write; several `**` in a row are one. -/
def ofNames : List String → Pattern
  | [] => []
  | name :: rest =>
    match PatternName.ofText name, ofNames rest with
    | .anywhere, .anywhere :: later => .anywhere :: later
    | first, later => first :: later

/-- The paths that a pattern stands for below a path. -/
def paths (disk : Disk) : Pattern → Path → List Path
  | [], path => if (disk.find? path).isSome then [path] else []
  | .exactly name :: later, path => paths disk later (path.child name)
  | .like wildcards :: later, path =>
    ((disk.namesIn path).filter (Wildcard.matchesAll wildcards ·.toList)).flatMap fun name =>
      paths disk later (path.child name)
  | .anywhere :: later, path => (disk.within path).flatMap (paths disk later)

end Pattern

end Polyglot.Files
