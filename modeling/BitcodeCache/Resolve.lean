import BitcodeCache.Settings.Error
import BitcodeCache.Store

/-!
# Reuse or compile

`resolve` gives the artifact of a source: from the cache where the entry fits, and from the
compiler where it does not. What the compiler makes is stored, and a store that fails is reported
and changes nothing else.
-/

namespace BitcodeCache

/-- Why a source has no artifact. -/
inductive ResolveError where
  | fingerprint (cause : FingerprintError)
  | cachePath (cause : SettingsError)
  | compile (cause : String)
deriving DecidableEq, Repr

/-- What is said where a source has no artifact. -/
def ResolveError.message : ResolveError → String
  | .fingerprint cause => cause.message
  | .cachePath cause => cause.message
  | .compile cause => "compilation failed: " ++ cause

/-- The words of the cause under an error, if one is told apart from it. -/
def ResolveError.cause? : ResolveError → Option String
  | .fingerprint e => some e.cause.message
  | .cachePath e => e.cause?
  | .compile cause => some cause

/-- Source bytes and where they came from. -/
structure Source where
  bytes : Bytes
  origin : Origin := .inMemory
deriving DecidableEq, Repr

/-- A compiler: the artifact of source bytes, or words on why there is none. -/
abbrev Compiler := Bytes → Except String Artifact

/-- What became of a source: the result, the bytes that the compiler was called with if it was, the
disk afterwards and what was reported on the way. -/
structure Resolution where
  result : Except ResolveError Artifact
  compiled : Option Bytes
  disk : Disk
  events : List Event

/-- Loads the entry at a path if it was built from the source with the expected fingerprint. -/
def tryLoad (disk : Disk) (path : Path) (expected : Fingerprint) : Except Miss Entry :=
  Entry.loadRead (disk.read path) expected

namespace Resolve

/-- Calls the compiler and stores what it makes. `before` was reported already. -/
def compileAndStore (c : Circumstances) (disk : Disk) (path : Path) (fingerprint : Fingerprint)
    (bytes : Bytes) (compile : Compiler) (before : List Event) : Resolution :=
  match compile bytes with
  | .error cause => ⟨.error (.compile cause), some bytes, disk, before⟩
  | .ok artifact =>
    let outcome := store c disk path fingerprint artifact
    let report : List Event := match outcome.result with
      | .ok () => []
      | .error e => [.storeFailed path e]
    ⟨.ok artifact, some bytes, outcome.disk, before ++ outcome.events ++ report⟩

end Resolve

/-- The artifact of a source. With `bypass` the cache is not looked at, but it is written. -/
def resolve (c : Circumstances) (disk : Disk) (bypass : Bool) (source : Source)
    (toolchain : Signature) (path : Path) (compile : Compiler) : Resolution :=
  match Fingerprint.build (m := Id) disk.modified source.bytes source.origin toolchain with
  | .error e => ⟨.error (.fingerprint e), none, disk, []⟩
  | .ok fingerprint =>
    if bypass then
      Resolve.compileAndStore c disk path fingerprint source.bytes compile [.cacheBypassed path]
    else
      match tryLoad disk path fingerprint with
      | .ok entry => ⟨.ok entry.artifact, none, disk, [.cacheHit path]⟩
      | .error miss =>
        Resolve.compileAndStore c disk path fingerprint source.bytes compile
          [.cacheMiss path miss, .recompiling path miss]

end BitcodeCache
