import BitcodeCache.Path
import BitcodeCache.Settings.Error

/-!
# Cache paths

Every resource has its own file directly in the cache directory. The characters that separate the
parts of a resource name become one that does not, so no name leads out of the directory.
-/

namespace BitcodeCache.CachePath

/-- The extension of cache files. -/
def extension : String := "oBCC"

/-- Whether a character is a slash of either kind. -/
def isSlash (c : Char) : Bool := c == '/' || c == '\\'

/-- A character of a resource name as it stands in the file name. -/
def flatten (c : Char) : Char := if isSlash c || c == ':' then '@' else c

/-- A resource name without the slashes it starts with. -/
def trim (name : List Char) : List Char := name.dropWhile isSlash

/-- The file name of a resource, unless nothing or only a directory is named. -/
def fileName? (name : String) : Option String :=
  let trimmed := trim name.toList
  if trimmed = [] ∨ trimmed = ['.'] ∨ trimmed = ['.', '.'] then none
  else some (String.ofList (trimmed.map flatten) ++ "." ++ extension)

/-- The cache file of a resource in a cache directory. -/
def resolve (dir : Path) (name : String) : Except SettingsError Path :=
  match fileName? name with
  | none => .error (.invalidResourceName name)
  | some file => .ok (dir.join ⟨file⟩)

end BitcodeCache.CachePath
