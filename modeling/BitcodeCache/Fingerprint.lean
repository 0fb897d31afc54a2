import BitcodeCache.Checksum
import BitcodeCache.Digest
import BitcodeCache.FileError
import BitcodeCache.FileTime
import BitcodeCache.Path
import BitcodeCache.Signature

/-!
# Source fingerprints

A fingerprint identifies a source at a point in time under a toolchain. One is made for every
lookup and compared, field by field, with the one that an entry carries; an entry is used again
only where all four fields agree. Times are whole seconds, `FileTime.seconds` cut towards the
epoch.
-/

namespace BitcodeCache

/-- Where source bytes came from, as far as their modification time goes. -/
inductive Origin where
  | inMemory
  | modTime (seconds : Int64)
  | file (path : Path)
deriving DecidableEq, Repr

/-- The identity of a source under a toolchain. -/
structure Fingerprint where
  contentDigest : Digest
  modTime : Int64
  crc32 : UInt32
  toolchain : Signature
deriving DecidableEq

/-- The field of a fingerprint that made an entry stale. -/
inductive StaleField where
  | toolchainSignature
  | crc32
  | contentDigest
  | modTime
deriving DecidableEq, Repr

/-- The words for a field. -/
def StaleField.display : StaleField → String
  | .toolchainSignature => "toolchain signature"
  | .crc32 => "source checksum"
  | .contentDigest => "source content"
  | .modTime => "modification time"

/-- No fingerprint: the time of the source file cannot be read. -/
structure FingerprintError where
  path : Path
  cause : FileError
deriving DecidableEq, Repr

/-- What is said of an unreadable file time. -/
def FingerprintError.message (e : FingerprintError) : String :=
  "cannot read metadata of " ++ e.path.text ++ ": " ++ e.cause.message

namespace Fingerprint

/-- The fingerprint of source bytes with a known modification time. -/
def ofSource (source : Bytes) (modTime : Int64) (toolchain : Signature) : Fingerprint :=
  ⟨Digest.ofSource source, modTime, BitcodeCache.crc32 source, toolchain⟩

/-- The fingerprint of source bytes whose modification time is that of their origin: zero in
memory, and for a file what `modified` answers. -/
def build {m : Type → Type} [Monad m] (modified : Path → m (Except FileError FileTime))
    (source : Bytes) (origin : Origin) (toolchain : Signature) :
    m (Except FingerprintError Fingerprint) :=
  match origin with
  | .inMemory => pure (.ok (ofSource source 0 toolchain))
  | .modTime seconds => pure (.ok (ofSource source seconds toolchain))
  | .file path => do
    match ← modified path with
    | .ok time => pure (.ok (ofSource source time.seconds toolchain))
    | .error cause => pure (.error ⟨path, cause⟩)

/-- The first field in which a stored fingerprint differs from the expected one. -/
def firstMismatch? (expected stored : Fingerprint) : Option StaleField :=
  if expected.toolchain ≠ stored.toolchain then some .toolchainSignature
  else if expected.crc32 ≠ stored.crc32 then some .crc32
  else if expected.contentDigest ≠ stored.contentDigest then some .contentDigest
  else if expected.modTime ≠ stored.modTime then some .modTime
  else none

/-- Fingerprints without a mismatch are equal. -/
theorem firstMismatch?_eq_none_iff {expected stored : Fingerprint} :
    firstMismatch? expected stored = none ↔ expected = stored := by
  obtain ⟨digest, time, crc, sig⟩ := expected
  obtain ⟨digest', time', crc', sig'⟩ := stored
  unfold firstMismatch?
  constructor
  · intro h
    split at h
    · cases h
    split at h
    · cases h
    split at h
    · cases h
    split at h
    · cases h
    simp_all
  · intro h
    cases h
    simp

end Fingerprint

end BitcodeCache
