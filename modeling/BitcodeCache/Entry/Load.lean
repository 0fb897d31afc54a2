import BitcodeCache.Entry

/-!
# Loading entries

`Entry.load` checks the content of a file in stages, cheapest first: the header and its fingerprint
before anything of the payload is read. What it cannot use is a `Miss`, and every miss is mended by
compiling again.
-/

namespace BitcodeCache

/-- Why a lookup gave no artifact. -/
inductive Miss where
  | notFound
  | foreignFile
  | versionSkew (found expected : UInt32)
  | stale (field : StaleField)
  | corrupt (fault : DecodeError)
deriving DecidableEq, Repr

namespace Miss

/-- The miss that a fault amounts to: bytes without the magic number are no entry at all, another
version is no damage, and every other fault is. -/
def ofDecodeError : DecodeError → Miss
  | .badMagic _ => .foreignFile
  | .unsupportedVersion found expected => .versionSkew found expected
  | fault => .corrupt fault

/-- The words for a miss. -/
def message : Miss → String
  | .notFound => "no readable cache entry"
  | .foreignFile => "not a cache file"
  | .versionSkew found expected =>
    "cache format version " ++ toString found ++ ", reader supports " ++ toString expected
  | .stale field => "stale entry: " ++ field.display ++ " changed"
  | .corrupt fault => "corrupt entry: " ++ fault.message

/-- A decoded value, with faults as misses. -/
def ofDecoded {α : Type} : Except DecodeError α → Except Miss α
  | .ok a => .ok a
  | .error fault => .error (ofDecodeError fault)

end Miss

namespace Entry

/-- The first bytes of a file, as many as its header takes: the bytes up to the signature length,
and those after them that the length asks for. A short file gives what it has. -/
def headerBytes (content : Bytes) : Bytes :=
  let start := content.take Header.prefixLength
  match Header.remainder? start with
  | none => start
  | some rest => start ++ (content.drop Header.prefixLength).take rest

/-- Holds where the payload length of a header is the number of bytes after the header. -/
def checkAvailable (header : Header) (available : Nat) : Except DecodeError Unit :=
  let declared := header.payloadLength.toNat
  if available < declared then .error (.truncated .payload declared available)
  else if declared < available then
    .error (.badLength .payload (.trailing (available - declared)))
  else .ok ()

/-- The payload after a header, and the artifact in it. -/
def loadPayload (header : Header) (rest : Bytes) : Except DecodeError Entry := do
  checkAvailable header rest.length
  let payload := rest.take header.payloadLength.toNat
  verifyPayload header payload
  let artifact ← Payload.decode payload
  pure ⟨header, artifact⟩

/-- The entry in a file's content, if it was built from the source with the expected
fingerprint. -/
def load (content : Bytes) (expected : Fingerprint) : Except Miss Entry :=
  let start := headerBytes content
  match Header.decode start with
  | .error fault => .error (.ofDecodeError fault)
  | .ok header =>
    match expected.firstMismatch? header.fingerprint with
    | some field => .error (.stale field)
    | none => Miss.ofDecoded (loadPayload header (content.drop start.length))

/-- The entry in a file that was read, if it could be. -/
def loadRead (content : Except FileError Bytes) (expected : Fingerprint) : Except Miss Entry :=
  match content with
  | .error _ => .error .notFound
  | .ok content => load content expected

end Entry

end BitcodeCache
