import BitcodeCache.Disk.Operations
import BitcodeCache.Event

/-!
# Storing entries

An entry is written to a temporary file beside its place and renamed over it, so that whoever reads
the place finds the old entry or the new one and nothing between. A store that fails takes its
temporary file away again. The temporary file's name starts with a dot and ends in `.tmp`, which no
cache file's does.
-/

namespace BitcodeCache

/-- Six digits that tell the names of temporary files apart. -/
def numberedTag (n : Nat) : String := String.ofList (Text.padLeft '0' 6 (Nat.toDigits 10 n))

/-- What a store meets: the random parts that it tries for the name of the temporary file, and the
steps that the system refuses. -/
structure Circumstances where
  tag : Nat → String := numberedTag
  noDirectory : Path → Option FileError := fun _ => none
  noTemporary : Option FileError := none
  noWrite : Option FileError := none
  noSync : Option FileError := none
  noRename : Option FileError := none

/-- A step's result, unless the system refuses the step. -/
def unlessRefused {α : Type} (refusal : Option FileError) (result : Except FileError α) :
    Except FileError α :=
  match refusal with
  | some cause => .error cause
  | none => result

/-- What became of a store. -/
structure StoreOutcome where
  result : Except WriteError Unit
  disk : Disk
  events : List Event

namespace Store

/-- The end of the names of temporary files. -/
def temporarySuffix : String := ".tmp"

/-- How many names are tried for a temporary file. -/
def attempts : Nat := 65536

/-- The name of a temporary file for a file name and a random part. -/
def temporaryName (name tag : String) : String :=
  "." ++ name ++ "." ++ tag ++ temporarySuffix

/-- The directory of a path; the working directory has the name `.`. -/
def directoryOf (path : Path) : Path :=
  match path.parent? with
  | some dir => if dir.isEmpty then ⟨"."⟩ else dir
  | none => ⟨"."⟩

/-- Makes an empty temporary file. It is named by its path from the root, which must not be too
long. -/
def createAt (disk : Disk) (path : Path) : Except FileError Disk :=
  if maxPathLength < (disk.absolute path).text.utf8ByteSize then .error .nameTooLong
  else disk.create path

/-- Makes the temporary file under the first name that is free, in the given number of attempts. -/
def createTemporary (c : Circumstances) (disk : Disk) (dir : Path) (name : String) :
    Nat → Except FileError (Path × Disk)
  | 0 => .error (.stated "too many temporary files exist")
  | n + 1 =>
    let path := dir.join ⟨temporaryName name (c.tag n)⟩
    match unlessRefused c.noTemporary (createAt disk path) with
    | .ok disk => .ok (path, disk)
    | .error cause =>
      if cause = .alreadyExists then createTemporary c disk dir name n else .error cause

/-- Fills a temporary file and flushes it. -/
def fill (c : Circumstances) (disk : Disk) (temporary : Path) (bytes : Bytes) :
    Except FileError Disk := do
  let disk ← unlessRefused c.noWrite (disk.append temporary bytes)
  unlessRefused c.noSync (.ok disk)

/-- Takes a temporary file away. -/
def discard (disk : Disk) (temporary : Path) : Disk :=
  match disk.remove temporary with
  | .ok disk => disk
  | .error _ => disk

/-- Puts bytes at a path by way of a temporary file beside it. -/
def writeAtomically (c : Circumstances) (disk : Disk) (path : Path) (bytes : Bytes) :
    Except WriteError Unit × Disk :=
  match path.fileName? with
  | none => (.error (.invalidPath path), disk)
  | some name =>
    let dir := directoryOf path
    match disk.makeDirs c.noDirectory dir with
    | (.error cause, disk) => (.error (.io dir cause), disk)
    | (.ok (), disk) =>
      match createTemporary c disk dir name attempts with
      | .error cause => (.error (.io dir cause), disk)
      | .ok (temporary, disk) =>
        match fill c disk temporary bytes with
        | .error cause => (.error (.io path cause), discard disk temporary)
        | .ok disk =>
          match unlessRefused c.noRename (disk.rename temporary path) with
          | .error cause => (.error (.rename temporary path cause), discard disk temporary)
          | .ok disk => (.ok (), disk)

end Store

/-- Stores the entry of an artifact under a fingerprint at a path. -/
def store (c : Circumstances) (disk : Disk) (path : Path) (fingerprint : Fingerprint)
    (artifact : Artifact) : StoreOutcome :=
  match Entry.encode artifact fingerprint with
  | .error cause => ⟨.error (.encode cause), disk, []⟩
  | .ok bytes =>
    match Store.writeAtomically c disk path bytes with
    | (.error e, disk) => ⟨.error e, disk, []⟩
    | (.ok (), disk) => ⟨.ok (), disk, [.stored path bytes.length]⟩

end BitcodeCache
