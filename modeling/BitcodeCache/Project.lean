import BitcodeCache.CachePath
import BitcodeCache.Settings.Load

/-!
# Projects

A project is a directory with a settings file, and its settings. Without an explicit path it is the
nearest such directory at or above the working directory. A relative cache directory is taken from
the project's directory.
-/

namespace BitcodeCache

/-- A directory and the settings that were found there. -/
structure Project where
  root : Path
  settings : Settings
deriving DecidableEq, Repr

/-- Why no project could be loaded. -/
inductive ProjectError where
  | noWorkingDir (cause : FileError)
  | notFound (start : Path)
  | settings (file : Path) (cause : SettingsError)
deriving DecidableEq, Repr

/-- What is said where no project could be loaded. -/
def ProjectError.message : ProjectError → String
  | .noWorkingDir cause => cause.message
  | .notFound start =>
    "could not find " ++ Settings.fileName ++ " in " ++ start.text ++ " or any parent directory"
  | .settings file cause => file.text ++ ": " ++ cause.message

namespace Project

variable {m : Type → Type} [Monad m]

/-- The cache directory. -/
def cacheDir (p : Project) : Path := p.root.join p.settings.cache.dir

/-- The nearest directory at or above a path that holds a settings file. -/
def findRoot? (files : FileAccess m) (dir : Path) : m (Option Path) := do
  if ← files.isThere (dir.join ⟨Settings.fileName⟩) then pure (some dir)
  else
    match _h : dir.parent? with
    | none => pure none
    | some parent => findRoot? files parent
termination_by dir.text.length
decreasing_by exact Path.length_parent?_lt _h

/-- The directory and the settings file that a given path stands for: the file itself, or the one
in the directory. -/
def explicit (files : FileAccess m) (path : Path) : m (Path × Path) := do
  if ← files.isDirectory path then pure (path, path.join ⟨Settings.fileName⟩)
  else pure (path.parent?.getD ⟨"."⟩, path)

/-- The directory and the settings file of the project around the working directory. -/
def nearest (files : FileAccess m) : m (Except ProjectError (Path × Path)) := do
  match ← files.workingDir with
  | .error cause => pure (.error (.noWorkingDir cause))
  | .ok start =>
    match ← findRoot? files start with
    | none => pure (.error (.notFound start))
    | some root => pure (.ok (root, root.join ⟨Settings.fileName⟩))

/-- Loads the project that a path names, or the nearest one. Gives the settings file too. -/
def load (files : FileAccess m) (path : Option String) :
    m (Except ProjectError (Project × Path)) := do
  let found ← match path with
    | some path => Except.ok <$> explicit files ⟨path⟩
    | none => nearest files
  match found with
  | .error e => pure (.error e)
  | .ok (root, file) =>
    match ← Settings.load files file with
    | .error cause => pure (.error (.settings file cause))
    | .ok settings => pure (.ok (⟨root, settings⟩, file))

end Project

end BitcodeCache
