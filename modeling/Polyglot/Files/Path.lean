/-!
# Paths

A path is a chain of names behind an anchor: nothing for a path that starts at some directory, or
the root, which is written with one slash or, as a root of its own, with exactly two. Empty parts
and parts that are a single dot vanish when a path is read; two dots stay, since what they lead to
is a matter of the disk.

`join` continues a path with another one, and an anchored path starts anew. `parent` takes the last
name away.
-/

namespace Polyglot.Files

/-- Where a path starts. -/
inductive Anchor where
  /-- Some directory that the path does not name. -/
  | here
  /-- The root. -/
  | root
  /-- The root that is written with two slashes. -/
  | doubleRoot
  deriving DecidableEq, Repr

/-- The spelling of an anchor. -/
def Anchor.text : Anchor → String
  | here => ""
  | root => "/"
  | doubleRoot => "//"

/-- The anchor of a spelled path. -/
def Anchor.ofChars : List Char → Anchor
  | '/' :: '/' :: '/' :: _ => root
  | '/' :: '/' :: _ => doubleRoot
  | '/' :: _ => root
  | _ => here

/-- A chain of names behind an anchor. -/
structure Path where
  anchor : Anchor
  names : List String
  deriving DecidableEq, Repr

namespace Path

/-- The text between two slashes counts: it is neither empty nor a single dot. -/
def isName (part : List Char) : Bool :=
  part != [] && part != ['.']

/-- The path that a text spells. -/
def parse (text : String) : Path :=
  ⟨.ofChars text.toList, ((text.toList.splitOn '/').filter isName).map String.ofList⟩

/-- The spelling of a path. -/
def text (path : Path) : String :=
  match path.anchor, path.names with
  | .here, [] => "."
  | anchor, names => anchor.text ++ "/".intercalate names

/-- A path continued with another one, which starts anew if it is anchored. -/
def join (path next : Path) : Path :=
  match next.anchor with
  | .here => ⟨path.anchor, path.names ++ next.names⟩
  | _ => next

/-- A path continued with one name. -/
def child (path : Path) (name : String) : Path :=
  ⟨path.anchor, path.names ++ [name]⟩

/-- A path without its last name. -/
def parent (path : Path) : Path :=
  ⟨path.anchor, path.names.dropLast⟩

/-- A path does not depend on where it is read. -/
def isAnchored (path : Path) : Bool :=
  path.anchor != .here

/-- Paths in the order of their names, one name after the other by code points. -/
def sorted (paths : List Path) : List Path :=
  paths.mergeSort fun p q => !List.lex q.names p.names fun s t => decide (s < t)

@[simp] theorem parent_child (path : Path) (name : String) : (path.child name).parent = path := by
  simp [parent, child]

theorem join_of_here {path next : Path} (h : next.anchor = .here) :
    path.join next = ⟨path.anchor, path.names ++ next.names⟩ := by
  simp [join, h]

theorem join_of_anchored {path next : Path} (h : next.isAnchored) : path.join next = next := by
  obtain ⟨anchor, names⟩ := next
  cases anchor <;> simp_all [join, isAnchored]

theorem join_assoc (p q r : Path) : (p.join q).join r = p.join (q.join r) := by
  obtain ⟨qa, qn⟩ := q
  obtain ⟨ra, rn⟩ := r
  cases qa <;> cases ra <;> simp [join]

end Path

end Polyglot.Files
