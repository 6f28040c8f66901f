import Polyglot.Files.Path
import Polyglot.Text.Quoted

/-!
# The disk

A disk is a tree of directories and files, kept as the list of its places: a place is the chain of
names that leads to it from the root, which is always a directory. A path leads to a place by going
from directory to directory, where two dots go one up; everything on the way must be there.

Operations on a disk fail with an `AccessFault`, which names the path, and leave the disk as far as
they came.
-/

namespace Polyglot.Files

/-- The names that lead from the root to a place. -/
abbrev Place := List String

/-- What stands at a place. -/
inductive Entry where
  | directory
  | file (bytes : List UInt8)
  deriving DecidableEq, Repr

/-- The places of a tree of directories and files, without its root. -/
structure Disk where
  entries : List (Place × Entry)
  deriving DecidableEq, Repr

/-- Why a path cannot be used. -/
inductive AccessCause where
  /-- Nothing stands there. -/
  | absent
  /-- Something stands there. -/
  | occupied
  /-- The way leads through a file. -/
  | notDirectory
  /-- A directory stands there. -/
  | isDirectory
  deriving DecidableEq, Repr

/-- The number of a cause. -/
def AccessCause.number : AccessCause → Nat
  | absent => 2
  | occupied => 17
  | notDirectory => 20
  | isDirectory => 21

/-- The wording of a cause. -/
def AccessCause.text : AccessCause → String
  | absent => "No such file or directory"
  | occupied => "File exists"
  | notDirectory => "Not a directory"
  | isDirectory => "Is a directory"

/-- A path that cannot be used. -/
structure AccessFault where
  cause : AccessCause
  path : Path
  deriving DecidableEq, Repr

/-- The wording of a fault. -/
def AccessFault.message (fault : AccessFault) : String :=
  s!"[Errno {fault.cause.number}] {fault.cause.text}: " ++ Text.quoteSingle fault.path.text

namespace Disk

/-- The disk with nothing but its root. -/
def empty : Disk := ⟨[]⟩

/-- What stands at a place. -/
def entry? (disk : Disk) : Place → Option Entry
  | [] => some .directory
  | place => disk.entries.lookup place

/-- An entry put at a place, instead of what stood there. -/
def put (disk : Disk) (place : Place) (entry : Entry) : Disk :=
  ⟨(place, entry) :: disk.entries.filter (·.1 != place)⟩

/-- Where a chain of names leads from a place, the last name being free to lead to nothing. -/
def walk (disk : Disk) : Place → List String → Except AccessCause Place
  | place, [] => .ok place
  | place, name :: rest =>
    match disk.entry? place with
    | none => .error .absent
    | some (.file _) => .error .notDirectory
    | some .directory => disk.walk (if name = ".." then place.dropLast else place ++ [name]) rest

/-- Where a path leads. -/
def locate (disk : Disk) (path : Path) : Except AccessFault Place :=
  (disk.walk [] path.names).mapError (⟨·, path⟩)

/-- What a path leads to. -/
def find? (disk : Disk) (path : Path) : Option Entry :=
  match disk.locate path with
  | .ok place => disk.entry? place
  | .error _ => none

/-- A path leads to a directory. -/
def isDirectory (disk : Disk) (path : Path) : Bool :=
  disk.find? path = some .directory

/-- The bytes of the file that a path leads to. -/
def read (disk : Disk) (path : Path) : Except AccessFault (List UInt8) := do
  match disk.entry? (← disk.locate path) with
  | none => throw ⟨.absent, path⟩
  | some .directory => throw ⟨.isDirectory, path⟩
  | some (.file bytes) => return bytes

/-! ### Changes -/

/-- A change of a disk that may fail. -/
abbrev Change := ExceptT AccessFault (StateM Disk)

/-- Write a file in a directory that is there. -/
def write (path : Path) (bytes : List UInt8) : Change Unit := do
  let disk ← get
  let place ← disk.locate path
  if disk.entry? place = some .directory then throw ⟨.isDirectory, path⟩
  set (disk.put place (.file bytes))

/-- Make a directory in one that is there. -/
def makeDirectory (path : Path) : Change Unit := do
  let disk ← get
  let place ← disk.locate path
  if (disk.entry? place).isSome then throw ⟨.occupied, path⟩
  set (disk.put place .directory)

/-- Make a directory unless it is there. -/
def ensureDirectory (path : Path) : Change Unit := do
  try makeDirectory path catch fault => do
    unless (← get).isDirectory path do throw fault

/-- Make a directory and those above it as far as they are absent, given its names from the last
one on. -/
def ensureNames (anchor : Anchor) : List String → Change Unit
  | [] => ensureDirectory ⟨anchor, []⟩
  | name :: above => do
    let path : Path := ⟨anchor, (name :: above).reverse⟩
    try ensureDirectory path catch fault => do
      unless fault.cause = .absent do throw fault
      ensureNames anchor above
      ensureDirectory path

/-- Make a directory and those above it as far as they are absent. -/
def ensureDirectories (path : Path) : Change Unit :=
  ensureNames path.anchor path.names.reverse

/-! ### Listings -/

/-- The way from one place down to another. -/
def below? : (above place : Place) → Option (List String)
  | [], place => some place
  | _ :: _, [] => none
  | a :: above, p :: place => if a = p then below? above place else none

/-- The ways from a place down to everything below it. -/
def waysBelow (disk : Disk) (place : Place) : List (List String) :=
  (disk.entries.filterMap fun entry => below? place entry.1).filter (· != [])

/-- The paths to a directory and everything below it; none if the path leads to no directory. -/
def within (disk : Disk) (path : Path) : List Path :=
  match disk.locate path with
  | .error _ => []
  | .ok place =>
    if disk.entry? place = some .directory then
      path :: (disk.waysBelow place).map fun way => ⟨path.anchor, path.names ++ way⟩
    else []

/-- The names in a directory; none if the path leads to no directory. -/
def namesIn (disk : Disk) (path : Path) : List String :=
  match disk.locate path with
  | .error _ => []
  | .ok place =>
    if disk.entry? place = some .directory then
      (disk.waysBelow place).filterMap fun
        | [name] => some name
        | _ => none
    else []

end Disk

end Polyglot.Files
