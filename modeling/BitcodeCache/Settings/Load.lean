import BitcodeCache.FileAccess
import BitcodeCache.Settings.Read

/-!
# Settings files

Settings live in a file `bcc.toml`. A path may name a settings file or the directory that holds it.
-/

namespace BitcodeCache.Settings

/-- The name of settings files. -/
def fileName : String := "bcc.toml"

/-- The settings in the content of a file. -/
def ofContent : Except FileError Bytes → Except SettingsError Settings
  | .error cause => .error (.unreadable cause)
  | .ok content =>
    match Text.ofUtf8? content with
    | none => .error (.unreadable .notText)
    | some text => parse text

/-- The settings in the file that a path names, or in the settings file of a directory. -/
def load {m : Type → Type} [Monad m] (files : FileAccess m) (path : Path) :
    m (Except SettingsError Settings) := do
  let path := if ← files.isDirectory path then path.join ⟨fileName⟩ else path
  pure (ofContent (← files.read path))

end BitcodeCache.Settings
