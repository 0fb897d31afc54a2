import BitcodeCache.Entry.Field
import BitcodeCache.Fingerprint

/-!
# Entry headers

An entry opens with a header: the magic number, the format version, the fingerprint of the source,
and the length and checksum of the payload that follows. All its fields have a fixed width but the
toolchain signature, whose length stands before it. All numbers are little-endian.

    magic              4 bytes   "oBCC"
    version            4 bytes
    content digest    20 bytes
    modification time  8 bytes, signed
    source checksum    4 bytes
    signature length   4 bytes   at most `Signature.maxLength`
    signature
    payload length     8 bytes
    payload checksum   4 bytes
-/

namespace BitcodeCache

/-- What an entry says before its payload. -/
structure Header where
  version : UInt32
  fingerprint : Fingerprint
  payloadLength : UInt64
  payloadChecksum : UInt32
deriving DecidableEq

namespace Header

/-- The number that opens every cache file: the letters `oBCC`. -/
def magic : UInt32 := 0x4343426F

/-- The version of the format. -/
def formatVersion : UInt32 := 1

/-- The number of bytes up to and with the signature length. -/
def prefixLength : Nat := 44

/-- The number of bytes after the signature. -/
def tailLength : Nat := 12

/-- The number of bytes of a header. -/
def encodedLength (h : Header) : Nat :=
  prefixLength + h.fingerprint.toolchain.length + tailLength

/-- Refuses a number that does not fit a 32-bit field. -/
def fitWord32 (region : Region) (n : Nat) : Except EncodeError Unit :=
  if n < UInt32.size then .ok () else .error (.tooLarge region n)

/-- The bytes of a header whose signature length fits its field. -/
def bytes (h : Header) : Bytes :=
  Bytes.ofUInt32 magic ++ Bytes.ofUInt32 h.version ++ h.fingerprint.contentDigest.bytes ++
    Bytes.ofInt64 h.fingerprint.modTime ++ Bytes.ofUInt32 h.fingerprint.crc32 ++
    Bytes.ofNat 4 h.fingerprint.toolchain.length ++ h.fingerprint.toolchain.bytes ++
    Bytes.ofUInt64 h.payloadLength ++ Bytes.ofUInt32 h.payloadChecksum

/-- Writes a header. -/
def encode (h : Header) : Except EncodeError Bytes := do
  fitWord32 .signature h.fingerprint.toolchain.length
  pure h.bytes

/-- Takes a header off the front. The magic number and the version are checked before anything
else is looked at, and the signature length before the signature is. -/
def read : FieldReader Header := do
  let found ← FieldReader.word32 .header
  FieldReader.require (found == magic) (.badMagic found)
  let version ← FieldReader.word32 .header
  FieldReader.require (version == formatVersion) (.unsupportedVersion version formatVersion)
  let contentDigest ← FieldReader.digest .header
  let modTime ← FieldReader.int64 .header
  let crc32 ← FieldReader.word32 .header
  let length ← FieldReader.word32 .header
  FieldReader.require (length.toNat ≤ Signature.maxLength)
    (.badLength .signature (.overLimit length.toNat Signature.maxLength))
  let signature ← FieldReader.take .signature length.toNat
  let payloadLength ← FieldReader.word64 .header
  let payloadChecksum ← FieldReader.word32 .header
  pure ⟨version, ⟨contentDigest, modTime, crc32, ⟨signature⟩⟩, payloadLength, payloadChecksum⟩

/-- The header at the front of some bytes, whatever follows it. -/
def decode (bytes : Bytes) : Except DecodeError Header := (·.1) <$> read bytes

/-- How many bytes of a header follow its first `prefixLength`, where those are all there and give
a signature length within the limit. -/
def remainder? (start : Bytes) : Option Nat :=
  if prefixLength ≤ start.length then
    let length := Bytes.toNat ((start.take prefixLength).drop (prefixLength - 4))
    if length ≤ Signature.maxLength then some (length + tailLength) else none
  else none

theorem length_bytes (h : Header) : h.bytes.length = h.encodedLength := by
  simp only [bytes, encodedLength, prefixLength, tailLength, Signature.length, List.length_append,
    Bytes.length_ofUInt32, Bytes.length_ofUInt64, Bytes.length_ofInt64, Bytes.length_ofNat,
    h.fingerprint.contentDigest.length_eq]

end Header

end BitcodeCache
