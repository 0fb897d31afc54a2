import BitcodeCache.Proofs.Entry.Size

/-!
# Entries are written anew

An entry that is accepted may lay out its strings in a way that `Entry.encode` never does: with bytes
that no string has, with strings that overlap, or with one string in several places. Writing its
artifact anew keeps everything that decoding gives, and the new entry is written as itself. All that
can stand in the way is that the strings, each by itself, are too many for one pool.
-/

namespace BitcodeCache

open Format

/-! ## What is refused -/

namespace StringPool

/-- A string is refused only because the pool grows too large. -/
theorem intern_eq_error {pool : StringPool} {s : String} {fault : EncodeError}
    (h : pool.intern s = .error fault) : ∃ length, fault = .tooLarge .strings length := by
  unfold intern at h
  split at h
  · cases h
  · split at h
    · cases h
      exact ⟨_, rfl⟩
    · split at h
      · cases h
        exact ⟨_, rfl⟩
      · split at h
        · cases h
          exact ⟨_, rfl⟩
        · cases h

/-- Strings are refused only because the pool grows too large. -/
theorem foldlM_intern_eq_error {pool : StringPool} {strings : List String} {fault : EncodeError}
    (h : strings.foldlM intern pool = .error fault) : ∃ length, fault = .tooLarge .strings length := by
  induction strings generalizing pool with
  | nil => cases h
  | cons s strings ih =>
    rw [List.foldlM_cons] at h
    cases interned : pool.intern s with
    | error other =>
      rw [interned] at h
      cases h
      exact intern_eq_error interned
    | ok middle =>
      rw [interned] at h
      exact ih h

end StringPool

namespace Payload

/-- Where the numbers of records fit, all that is left is to collect the strings. -/
theorem CountsFit.poolOf_eq {a : Artifact} (counts : CountsFit a) :
    poolOf a = a.strings.foldlM StringPool.intern .empty := by
  simp only [poolOf, internAll, Header.fitWord32_of_lt _ counts.symbols,
    Header.fitWord32_of_lt _ counts.relocations, Header.fitWord32_of_lt _ counts.functions,
    Header.fitWord32_of_lt _ counts.pragmas, Artifact.strings, List.foldlM_append,
    ← List.map_eq_flatMap, bind_assoc]
  rfl

/-- Where the counts fit, a payload is refused only for the size of its strings. -/
theorem CountsFit.encode_eq_error {a : Artifact} {fault : EncodeError} (counts : CountsFit a)
    (h : encode a = .error fault) : ∃ length, fault = .tooLarge .strings length := by
  rw [encode, counts.poolOf_eq] at h
  cases pooled : a.strings.foldlM StringPool.intern .empty with
  | error other =>
    rw [pooled] at h
    cases h
    exact StringPool.foldlM_intern_eq_error pooled
  | ok pool =>
    rw [pooled] at h
    cases h

end Payload

namespace Entry

variable {a : Artifact} {f : Fingerprint} {fault : EncodeError}

/-- An artifact in order, with few enough records and under a signature within the limit, is refused
for its strings only. -/
theorem encode_eq_error (valid : a.validate = .ok ()) (counts : Payload.CountsFit a)
    (limit : f.toolchain.length ≤ Signature.maxLength) (h : encode a f = .error fault) :
    ∃ length, fault = .tooLarge .strings length := by
  have signature : f.toolchain.length < 2 ^ 32 := by
    rw [Signature.maxLength] at limit
    omega
  rw [encode, valid] at h
  cases encoded : Payload.encode a with
  | error other =>
    rw [encoded] at h
    cases h
    exact counts.encode_eq_error encoded
  | ok payload =>
    simp only [encoded, Header.encode, Header.fitWord32_of_lt _ signature] at h
    cases h

/-! ## How long the new entry is -/

/-- Only the strings of an artifact can take more room when they are written anew, and they fit a pool
of less than 2^32 bytes. -/
theorem Written.length_lt_of_hasTable {payload payload' bytes : Bytes} {t : SectionTable}
    (written : Written a f payload' bytes) (holds : HasTable payload t a) :
    payload'.length < payload.length + 2 ^ 32 := by
  obtain ⟨pool, pooled, made⟩ := Payload.encode_eq_ok_iff.1 written.encoded
  obtain ⟨_, interned⟩ := Payload.poolOf_eq_ok_iff.1 pooled
  have strings := (Payload.serves_poolOf interned).size_lt
  rw [made, Payload.length_assemble, holds.length_eq]
  -- both lengths are the same sum but for the bytes of the strings
  simp only [Payload.lengthWith]
  omega

/-! ## Decoding, and encoding what it gives -/

/-- The artifact and the fingerprint of an accepted entry have an entry of their own, unless their
strings are too long together. It is accepted with the same artifact under the same fingerprint, and
encoding these again changes nothing. -/
theorem encode_decode {bytes : Bytes} {h : Header} (fits : bytes.length < 2 ^ 63)
    (decoded : decode bytes = .ok ⟨h, a⟩) :
    (∀ fault, encode a h.fingerprint = .error fault → ∃ length, fault = .tooLarge .strings length) ∧
    ∀ bytes', encode a h.fingerprint = .ok bytes' →
      ∃ h', decode bytes' = .ok ⟨h', a⟩ ∧ h'.fingerprint = h.fingerprint ∧
        encode a h'.fingerprint = .ok bytes' := by
  obtain ⟨payload, current, rfl, _, held⟩ := decode_eq_ok_iff.1 decoded
  obtain ⟨⟨t, holds⟩, valid⟩ := Payload.decode_eq_ok_iff.1 held
  constructor
  · intro fault refused
    exact encode_eq_error valid holds.countsFit current.signature refused
  · intro bytes' encoded
    obtain ⟨payload', written⟩ := encode_eq_ok_iff.1 encoded
    have longer := written.length_lt_of_hasTable holds
    have whole := written.length
    rw [List.length_append, Header.length_bytes, Header.encodedLength] at fits
    have again := written.decode current.signature (by omega)
    exact ⟨Header.forPayload h.fingerprint payload', again, rfl, encoded⟩

/-! ## An entry that is not written -/

namespace Sample

open Payload

/-- The payload of the sample with a byte after its strings that none of them has. -/
def looseFilling : Bytes :=
  assemble ((sections ⟨["f", "é", ""]⟩ Format.Sample.artifact).modifyHead (· ++ [0xFF]))

/-- The entry with that payload. -/
def loose : Bytes :=
  (Header.forPayload Format.Sample.fingerprint looseFilling).bytes ++ looseFilling

end Sample

/-- The byte that no string has is gone when the entry is written anew. -/
theorem encode_decode_loose : Sample.loose.length < 2 ^ 63 ∧
    decode Sample.loose =
      .ok ⟨Header.forPayload Format.Sample.fingerprint Sample.looseFilling, Format.Sample.artifact⟩ ∧
    encode Format.Sample.artifact Format.Sample.fingerprint = .ok Format.Sample.entry ∧
    Format.Sample.entry ≠ Sample.loose ∧
    ∃ h', decode Format.Sample.entry = .ok ⟨h', Format.Sample.artifact⟩ ∧
      h'.fingerprint = Format.Sample.fingerprint ∧
      encode Format.Sample.artifact h'.fingerprint = .ok Format.Sample.entry := by
  have fits : Sample.loose.length < 2 ^ 63 := by decide +kernel
  have decoded : decode Sample.loose =
      .ok ⟨Header.forPayload Format.Sample.fingerprint Sample.looseFilling,
        Format.Sample.artifact⟩ := by
    have held : Payload.decode Sample.looseFilling = .ok Format.Sample.artifact := by
      decide +kernel
    have length : Sample.looseFilling.length =
        (UInt64.ofNat Sample.looseFilling.length).toNat := by decide +kernel
    -- the header has the checksum of this very payload, so it is not computed
    exact decode_eq_ok_iff.2 ⟨Sample.looseFilling, ⟨rfl, by decide⟩, rfl,
      verifyPayload_eq_ok_iff.2 ⟨length, rfl⟩, held⟩
  have other : Format.Sample.entry ≠ Sample.loose := by decide +kernel
  exact ⟨fits, decoded, encode_sample, other,
    (encode_decode fits decoded).2 Format.Sample.entry encode_sample⟩

end Entry

end BitcodeCache
