import BitcodeCache.Disk

/-!
# From paths to locations

A path is walked part by part: each part is looked up in what must be a directory. `locate` walks
to the very end of a path, so a slash at its end asks for a directory there; `place` stops before
the last part, for operations that make or replace what it names.
-/

namespace BitcodeCache

namespace Path

/-- The parts of a path between its slashes, empty ones too. -/
def pieces (p : Path) : List String := (splitSlash p.text.toList).map String.ofList

end Path

/-- The largest number of bytes of a name. -/
def maxNameLength : Nat := 255

/-- The largest number of bytes of a path. -/
def maxPathLength : Nat := 4095

/-- The absolute path of a location. -/
def Location.path (loc : Location) : Path := ⟨"/" ++ "/".intercalate loc.reverse⟩

namespace Disk

/-- A path as seen from the root. -/
def absolute (disk : Disk) (p : Path) : Path := (Location.path disk.workingDir).join p

/-- The location of one part of a path, seen from a location that must be a directory. -/
def enter (disk : Disk) (dir : Location) (piece : String) : Except FileError Location :=
  match disk.get? dir with
  | none => .error .notFound
  | some (.file ..) => .error .notDirectory
  | some (.directory _) =>
    if piece = "" ∨ piece = "." then .ok dir
    else if piece = ".." then .ok dir.tail
    else if maxNameLength < piece.utf8ByteSize then .error .nameTooLong
    else .ok (piece :: dir)

/-- The location of some parts, one after another. -/
def walk (disk : Disk) (start : Location) (pieces : List String) : Except FileError Location :=
  pieces.foldlM disk.enter start

/-- Where a path starts: at the root or in the working directory. An empty path starts nowhere. -/
def start (disk : Disk) (p : Path) : Except FileError Location :=
  if p.isEmpty then .error .notFound
  else if maxPathLength < p.text.utf8ByteSize then .error .nameTooLong
  else .ok (if p.isAbsolute then [] else disk.workingDir)

/-- The location a path leads to. All of its parts but the last are there. -/
def locate (disk : Disk) (p : Path) : Except FileError Location := do
  disk.walk (← disk.start p) p.pieces

/-- The node a path leads to. -/
def stat (disk : Disk) (p : Path) : Except FileError Node := do
  match disk.get? (← disk.locate p) with
  | some node => pure node
  | none => throw .notFound

/-- The directory that holds what a path names, the name, and whether slashes follow it. The name
is empty for the root. -/
structure Place where
  dir : Location
  name : String
  hasSlash : Bool
deriving DecidableEq, Repr

/-- The location of a place. -/
def Place.location (place : Place) : Location := place.name :: place.dir

/-- Whether a place has a name of its own, and none that stands for another directory. -/
def Place.isNamed (place : Place) : Bool :=
  place.name != "" && place.name != "." && place.name != ".."

/-- Whether the name of a place has too many bytes. -/
def Place.isLong (place : Place) : Bool := maxNameLength < place.name.utf8ByteSize

/-- The place that a path names in a directory that is there. -/
def place (disk : Disk) (p : Path) : Except FileError Place := do
  let start ← disk.start p
  let back := p.pieces.reverse
  match back.dropWhile (· == "") with
  | [] => pure ⟨[], "", true⟩
  | name :: way =>
    let dir ← disk.walk start way.reverse
    let dir ← disk.enter dir ""
    pure ⟨dir, name, back.head? == some ""⟩

end Disk

end BitcodeCache
