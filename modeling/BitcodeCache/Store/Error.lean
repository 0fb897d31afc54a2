import BitcodeCache.Entry.Error
import BitcodeCache.FileError
import BitcodeCache.Path

/-!
# Failed stores

Why an entry was not stored. The entry that was at the path before, if any, is still there.
-/

namespace BitcodeCache

/-- Why an entry was not stored: a step on the temporary file or its directory was refused, the
temporary file could not take the entry's place, the artifact has no entry, or the path has no file
name. -/
inductive WriteError where
  | io (path : Path) (cause : FileError)
  | rename (temporary target : Path) (cause : FileError)
  | encode (cause : EncodeError)
  | invalidPath (path : Path)
deriving DecidableEq, Repr

/-- What is said of a failed store. -/
def WriteError.message : WriteError → String
  | .io path cause => "cache write failed at " ++ path.text ++ ": " ++ cause.message
  | .rename temporary target cause =>
    "cannot rename " ++ temporary.text ++ " to " ++ target.text ++ ": " ++ cause.message
  | .encode cause => cause.message
  | .invalidPath path => "invalid cache path " ++ path.text

/-- The words of the cause under a failed store, if one is told apart from it. -/
def WriteError.cause? : WriteError → Option String
  | .io _ cause => some cause.message
  | .rename _ _ cause => some cause.message
  | .encode cause => cause.cause?
  | .invalidPath _ => none

end BitcodeCache
