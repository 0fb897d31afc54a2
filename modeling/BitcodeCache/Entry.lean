import BitcodeCache.Entry.Payload

/-!
# Cache entries

An entry is a header followed by the payload it describes. `Entry.encode` writes the entry of an
artifact under a fingerprint, and `Entry.decode` reads a whole file as one.
-/

namespace BitcodeCache

/-- A header and the artifact of the payload it describes. -/
structure Entry where
  header : Header
  artifact : Artifact
deriving DecidableEq

namespace Entry

/-- The bytes of the entry of an artifact that was built from the source with a fingerprint. -/
def encode (artifact : Artifact) (fingerprint : Fingerprint) : Except EncodeError Bytes :=
  match artifact.validate with
  | .error fault => .error (.invalidArtifact fault)
  | .ok () => do
    let payload ← Payload.encode artifact
    let header : Header :=
      ⟨Header.formatVersion, fingerprint, UInt64.ofNat payload.length, crc32 payload⟩
    let start ← header.encode
    pure (start ++ payload)

/-- Holds where a payload has the length and the checksum that a header says. -/
def verifyPayload (header : Header) (payload : Bytes) : Except DecodeError Unit :=
  let declared := header.payloadLength.toNat
  if payload.length < declared then .error (.truncated .payload declared payload.length)
  else if declared < payload.length then
    .error (.badLength .payload (.trailing (payload.length - declared)))
  else if crc32 payload = header.payloadChecksum then .ok ()
  else .error (.checksumMismatch header.payloadChecksum (crc32 payload))

/-- The entry that some bytes are, from the first to the last. -/
def decode (bytes : Bytes) : Except DecodeError Entry := do
  let (header, payload) ← Header.read bytes
  verifyPayload header payload
  let artifact ← Payload.decode payload
  pure ⟨header, artifact⟩

end Entry

end BitcodeCache
