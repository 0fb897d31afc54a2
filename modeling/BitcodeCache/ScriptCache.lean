import BitcodeCache.CachePath
import BitcodeCache.Resolve
import BitcodeCache.Settings.Canonical

/-!
# Script caches

A script cache binds a directory, a toolchain signature and the bypass option, so that scripts are
loaded by resource name alone.
-/

namespace BitcodeCache

/-- A cache directory, the toolchain that it serves, and whether lookups are skipped. -/
structure ScriptCache where
  dir : Path
  toolchain : Signature
  bypass : Bool := false
deriving DecidableEq, Repr

namespace ScriptCache

/-- The script cache of some settings. -/
def ofSettings (settings : Settings) : Except SettingsError ScriptCache := do
  let toolchain ← settings.signature
  pure ⟨settings.cache.dir, toolchain, settings.cache.bypass⟩

/-- The cache file of a resource. -/
def path (cache : ScriptCache) (name : String) : Except SettingsError Path :=
  CachePath.resolve cache.dir name

/-- The artifact of the script of a resource. -/
def load (cache : ScriptCache) (c : Circumstances) (disk : Disk) (name : String) (source : Source)
    (compile : Compiler) : Resolution :=
  match cache.path name with
  | .error e => ⟨.error (.cachePath e), none, disk, []⟩
  | .ok path => resolve c disk cache.bypass source cache.toolchain path compile

end ScriptCache

end BitcodeCache
