import BitcodeCache.Disk.Operations

/-!
# Reading access to files

What the command line needs of a file system, all of it reading. A disk gives this access at once;
the real file system gives it as actions.
-/

namespace BitcodeCache

/-- The ways to look at a file system, each as an action of `m`. -/
structure FileAccess (m : Type → Type) where
  workingDir : m (Except FileError Path)
  isThere : Path → m Bool
  isDirectory : Path → m Bool
  read : Path → m (Except FileError Bytes)
  modified : Path → m (Except FileError FileTime)

/-- The access to a disk. -/
def Disk.access (disk : Disk) : FileAccess Id where
  workingDir := .ok (Location.path disk.workingDir)
  isThere := disk.isThere
  isDirectory := disk.isDirectory
  read := disk.read
  modified := disk.modified

end BitcodeCache
