import BitcodeCache.Path
import BitcodeCache.Settings.Error

/-!
# Settings

Where cache files live, which compiler makes them, and how the linker is called. `validate` holds
where the required values are there and in range.
-/

namespace BitcodeCache

/-- Where cache files live, and whether lookups are skipped. -/
structure CacheSettings where
  dir : Path := ⟨".bcc-cache"⟩
  bypass : Bool := false
deriving DecidableEq, Repr

/-- The identity of the compiler and the settings of its code generation. -/
structure ToolchainSettings where
  compilerVersion : String
  triple : String
  optimization : UInt8 := 2
  flags : List String := []
deriving DecidableEq, Repr

/-- The switches behind the linker's `-z` keywords. -/
structure LinkerSwitches where
  combineRelocations : Bool := true
  defs : Bool := false
  execStack : Bool := false
  initFirst : Bool := false
  interpose : Bool := false
  loadFilter : Bool := false
  multipleDefs : Bool := false
  noCopyRelocation : Bool := false
  noDefaultLib : Bool := false
  noDelete : Bool := false
  noDlopen : Bool := false
  noDump : Bool := false
  relro : Bool := true
  isLazy : Bool := true
  origin : Bool := false
deriving DecidableEq, Repr

/-- The settings of the linker. Symbols of `wrap` are routed through wrappers, those of `portable`
through their portable versions. -/
structure LinkerSettings where
  shared : Bool := false
  bsymbolic : Bool := false
  soname : Option String := none
  dyld : Option String := none
  sysroot : Option Path := none
  searchDirs : List Path := []
  wrap : List String := []
  portable : List String := []
  z : LinkerSwitches := {}
deriving DecidableEq, Repr

/-- All settings of a project. -/
structure Settings where
  cache : CacheSettings := {}
  toolchain : ToolchainSettings
  linker : LinkerSettings := {}
deriving DecidableEq, Repr

/-- Holds where the compiler, the triple and the cache directory are named and the optimization
level is at most 3; otherwise the first fault in the order compiler, triple, level, directory. -/
def Settings.validate (s : Settings) : Except SettingsError Unit :=
  if s.toolchain.compilerVersion.isEmpty then .error (.missingField "toolchain.compiler_version")
  else if s.toolchain.triple.isEmpty then .error (.missingField "toolchain.triple")
  else if 3 < s.toolchain.optimization then
    .error (.invalid (.optimization s.toolchain.optimization))
  else if s.cache.dir.isEmpty then .error (.missingField "cache.dir")
  else .ok ()

end BitcodeCache
