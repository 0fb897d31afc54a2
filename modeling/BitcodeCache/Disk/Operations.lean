import BitcodeCache.Disk.Walk

/-!
# File operations

The operations of a file system on a disk. Each is refused with the cause that comes first: an
unreachable directory, then a name that cannot be used, then what is or is not there.
-/

namespace BitcodeCache

namespace Disk

/-! ## Looking -/

/-- The content of a file. -/
def read (disk : Disk) (p : Path) : Except FileError Bytes := do
  match ← disk.stat p with
  | .file content _ => pure content
  | .directory _ => throw .isDirectory

/-- The time of the last change of what a path leads to. -/
def modified (disk : Disk) (p : Path) : Except FileError FileTime :=
  Node.modified <$> disk.stat p

/-- Whether a path leads to anything. -/
def isThere (disk : Disk) (p : Path) : Bool :=
  match disk.stat p with
  | .ok _ => true
  | .error _ => false

/-- Whether a path leads to a directory. -/
def isDirectory (disk : Disk) (p : Path) : Bool :=
  match disk.stat p with
  | .ok node => node.isDirectory
  | .error _ => false

/-- The names in a directory in the order of their bytes. A slash follows those of directories. -/
def list (disk : Disk) (p : Path) : Except FileError (List String) := do
  let dir ← disk.locate p
  match disk.get? dir with
  | none => throw .notFound
  | some (.file ..) => throw .notDirectory
  | some (.directory _) =>
    let names := (disk.children dir).map fun (name, node) =>
      if node.isDirectory then name ++ "/" else name
    pure (names.mergeSort fun a b => !decide (b < a))

/-! ## Making -/

/-- A place with a name that can be used; what to say of a place without one differs. -/
def usable (place : Place) (unnamed : FileError) : Except FileError Location :=
  if !place.isNamed then .error unnamed
  else if place.isLong then .error .nameTooLong
  else .ok place.location

/-- Makes a directory in one that is there. -/
def makeDir (disk : Disk) (p : Path) : Except FileError Disk := do
  let loc ← usable (← disk.place p) .alreadyExists
  match disk.get? loc with
  | some _ => throw .alreadyExists
  | none => pure (disk.set loc (.directory disk.clock))

/-- Makes a directory and those above it that are missing. Each single directory may be refused by
`refuse`. The directories that were made stay, whether or not the last one could be. -/
def makeDirs (refuse : Path → Option FileError) (disk : Disk) (p : Path) :
    Except FileError Unit × Disk :=
  let make (disk : Disk) : Except FileError Disk :=
    match refuse p with
    | some cause => .error cause
    | none => disk.makeDir p
  let settle (disk : Disk) (cause : FileError) : Except FileError Unit × Disk :=
    (if disk.isDirectory p then .ok () else .error cause, disk)
  if p.isEmpty then (.ok (), disk)
  else
    match make disk with
    | .ok disk => (.ok (), disk)
    | .error cause =>
      if cause ≠ .notFound then settle disk cause
      else
        match _h : p.parent? with
        | none => (.error (.stated "failed to create whole tree"), disk)
        | some parent =>
          match makeDirs refuse disk parent with
          | (.error cause, disk) => (.error cause, disk)
          | (.ok (), disk) =>
            match make disk with
            | .ok disk => (.ok (), disk)
            | .error cause => settle disk cause
termination_by p.text.length
decreasing_by exact Path.length_parent?_lt _h

/-- Writes a file: a new one, or new content of one that is there. -/
def write (disk : Disk) (p : Path) (content : Bytes) : Except FileError Disk := do
  let place ← disk.place p
  if place.hasSlash then throw .isDirectory
  let loc ← usable place .isDirectory
  match disk.get? loc with
  | some (.directory _) => throw .isDirectory
  | _ => pure (disk.set loc (.file content disk.clock))

/-- Makes an empty file where nothing is. -/
def create (disk : Disk) (p : Path) : Except FileError Disk := do
  let place ← disk.place p
  if place.hasSlash then throw .isDirectory
  let loc ← usable place .alreadyExists
  match disk.get? loc with
  | some _ => throw .alreadyExists
  | none => pure (disk.set loc (.file [] disk.clock))

/-- Changes the content of a file that is there. -/
def edit (disk : Disk) (p : Path) (change : Bytes → Bytes) : Except FileError Disk := do
  let loc ← disk.locate p
  match disk.get? loc with
  | none => throw .notFound
  | some (.directory _) => throw .isDirectory
  | some (.file content _) => pure (disk.set loc (.file (change content) disk.clock))

/-- Adds bytes at the end of a file. -/
def append (disk : Disk) (p : Path) (bytes : Bytes) : Except FileError Disk :=
  disk.edit p (· ++ bytes)

/-- Sets the time of the last change, as far as the disk can keep it. -/
def setModified (disk : Disk) (p : Path) (time : FileTime) : Except FileError Disk := do
  let loc ← disk.locate p
  match disk.get? loc with
  | none => throw .notFound
  | some node => pure (disk.set loc (node.touch time.kept))

/-! ## Removing and moving -/

/-- Removes a file. -/
def remove (disk : Disk) (p : Path) : Except FileError Disk := do
  let place ← disk.place p
  let loc ← usable place .isDirectory
  match disk.get? loc with
  | none => throw .notFound
  | some (.directory _) => throw .isDirectory
  | some (.file ..) => if place.hasSlash then throw .notDirectory else pure (disk.erase loc)

/-- A location after the directory at `source` has moved to `target`. -/
def moved (source target loc : Location) : Location :=
  if source.isSuffixOf loc then loc.take (loc.length - source.length) ++ target else loc

/-- Moves the directory at `source`, with all below it, to `target`. -/
def moveDir (disk : Disk) (source target : Location) : Disk :=
  { disk with
    nodes := (disk.erase target).nodes.map fun (loc, node) => (moved source target loc, node)
    workingDir := moved source target disk.workingDir }

/-- Renames a file or a directory. A file may replace a file, and a directory an empty one. -/
def rename (disk : Disk) (p q : Path) : Except FileError Disk := do
  let source ← disk.place p
  let target ← disk.place q
  if !source.isNamed || !target.isNamed then throw .busy
  if source.isLong then throw .nameTooLong
  let a := source.location
  let b := target.location
  match disk.get? a with
  | none => throw .notFound
  | some (.file content modified) =>
    if target.isLong then throw .nameTooLong
    if source.hasSlash || target.hasSlash then throw .notDirectory
    match disk.get? b with
    | some (.directory _) => throw (if b.isSuffixOf a then .notEmpty else .isDirectory)
    | _ => pure ((disk.erase a).set b (.file content modified))
  | some (.directory _) =>
    if target.isLong then throw .nameTooLong
    if a = b then pure disk
    else if a.isSuffixOf target.dir then throw .invalid
    else if b.isSuffixOf source.dir then throw .notEmpty
    else
      match disk.get? b with
      | none => pure (disk.moveDir a b)
      | some (.file ..) => throw .notDirectory
      | some (.directory _) =>
        if (disk.children b).isEmpty then pure (disk.moveDir a b) else throw .notEmpty

/-- Goes to another working directory. -/
def changeDir (disk : Disk) (p : Path) : Except FileError Disk := do
  let dir ← disk.enter (← disk.locate p) ""
  pure { disk with workingDir := dir }

end Disk

end BitcodeCache
