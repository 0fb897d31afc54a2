import BitcodeCache.Proofs.Checksum
import BitcodeCache.Proofs.Entry.Encoding
import BitcodeCache.Proofs.Lookup

/-!
# Damaged entries are not used

Damage in place is a change of an entry that keeps its length. The header has no checksum of its own,
but all that a lookup accepts in its place is the header that was written: the fingerprint looked for
and the payload that follows settle every field. Damage to the payload is told by its checksum, as far
as it keeps to a window of 32 bits.
-/

namespace BitcodeCache

/-- A header is settled by its fingerprint and the payload that is accepted behind it. -/
theorem Header.eq_forPayload {h : Header} {payload : Bytes} (current : h.IsCurrent)
    (verified : Entry.verifyPayload h payload = .ok ()) :
    h = Header.forPayload h.fingerprint payload := by
  obtain ⟨length, checksum⟩ := Entry.verifyPayload_eq_ok_iff.1 verified
  obtain ⟨version, fingerprint, payloadLength, payloadChecksum⟩ := h
  obtain rfl : version = formatVersion := current.version
  rw [Header.forPayload, length, checksum, UInt64.ofNat_toNat]

namespace Entry

open Format

variable {a : Artifact} {f : Fingerprint} {payload bytes : Bytes}

/-! ## Damage to the header -/

/-- What is accepted in front of a payload for a fingerprint is the header of both. -/
theorem eq_of_load {front : Bytes} {entry : Entry}
    (width : front.length = (Header.forPayload f payload).bytes.length)
    (loaded : load (front ++ payload) f = .ok entry) :
    front = (Header.forPayload f payload).bytes := by
  obtain ⟨decoded, rfl⟩ := load_eq_ok_iff.1 loaded
  obtain ⟨rest, current, split, verified, _⟩ := decode_eq_ok_iff.1 decoded
  have widths : front.length = entry.header.bytes.length := by
    rw [width, Header.length_bytes, Header.length_bytes]
    rfl
  obtain ⟨rfl, rfl⟩ := List.append_inj split widths
  rw [← Header.eq_forPayload current verified]

/-! ## Damage to the payload -/

/-- A payload of the declared length with another checksum is refused as such. -/
theorem decode_of_crc32_ne {h : Header} {damaged : Bytes} (current : h.IsCurrent)
    (length : damaged.length = h.payloadLength.toNat)
    (differs : crc32 damaged ≠ h.payloadChecksum) : decode (h.bytes ++ damaged) =
      .error (.checksumMismatch h.payloadChecksum (crc32 damaged)) := by
  apply decode_of_verifyPayload_error current
  simp only [verifyPayload, length, Nat.lt_irrefl, if_false, differs]

/-- A lookup for the fingerprint of the header refuses a file as decoding the whole file does. -/
theorem load_of_decode_error {h : Header} {rest : Bytes} {fault : DecodeError}
    (current : h.IsCurrent) (refused : decode (h.bytes ++ rest) = .error fault) :
    load (h.bytes ++ rest) h.fingerprint = .error (.ofDecodeError fault) := by
  refine load_of_error refused fun header start => ?_
  rw [Header.decode_bytes_append current] at start
  cases start
  rfl

/-! ## Damage to a file -/

/-- No damage in place makes a lookup for the fingerprint of an entry hit: not a header with other
bytes, and not a payload with other bits inside a window of 32, which is a mismatch of checksums. -/
theorem miss_of_damage (limit : f.toolchain.length ≤ Signature.maxLength)
    (fits : bytes.length < 2 ^ 63) (encoded : encode a f = .ok bytes) :
    ∃ header payload, Header.read bytes = .ok (header, payload) ∧
      bytes = header.bytes ++ payload ∧
      (∀ front, front.length = header.bytes.length → front ≠ header.bytes →
        ∀ disk path, disk.read path = .ok (front ++ payload) →
          ∃ miss, tryLoad disk path f = .error miss) ∧
      ∀ damaged, payload.DiffersWithin 32 damaged →
        crc32 damaged ≠ header.payloadChecksum ∧
        decode (header.bytes ++ damaged) =
          .error (.checksumMismatch header.payloadChecksum (crc32 damaged)) ∧
        ∀ disk path, disk.read path = .ok (header.bytes ++ damaged) → tryLoad disk path f =
          .error (.corrupt (.checksumMismatch header.payloadChecksum (crc32 damaged))) := by
  obtain ⟨payload, written⟩ := encode_eq_ok_iff.1 encoded
  have current : (Header.forPayload f payload).IsCurrent := ⟨rfl, limit⟩
  have start := Header.read_eq_ok_iff.2 ⟨current, written.bytes⟩
  refine ⟨_, payload, start, written.bytes, ?_, ?_⟩
  · intro front width other disk path readable
    rw [tryLoad_of_read readable]
    cases loaded : load (front ++ payload) f with
    | error miss => exact ⟨miss, rfl⟩
    | ok entry => exact absurd (eq_of_load width loaded) other
  · intro damaged differs
    have short : payload.length < 2 ^ 64 := by
      have := written.length
      omega
    have length : damaged.length = (Header.forPayload f payload).payloadLength.toNat := by
      rw [differs.length]
      exact (UInt64.toNat_ofNat_of_lt' short).symm
    have checksum := crc32_ne_of_differsWithin differs
    have decoded := decode_of_crc32_ne current length checksum
    refine ⟨checksum, decoded, fun disk path readable => ?_⟩
    rw [tryLoad_of_read readable]
    exact load_of_decode_error current decoded

/-- The bytes of a file, under the name of the sample. -/
def diskOf (bytes : Bytes) : Disk where
  nodes := [(["sample.oBCC"], .file bytes .epoch)]

/-- The sample under another digest misses, and with its last byte inverted it fails its checksum. -/
theorem miss_of_damage_sample :
    Sample.fingerprint.toolchain.length ≤ Signature.maxLength ∧ Sample.entry.length < 2 ^ 63 ∧
      encode Sample.artifact Sample.fingerprint = .ok Sample.entry ∧
      (∃ miss, tryLoad (diskOf (Sample.entry.set 8 0)) ⟨"sample.oBCC"⟩ Sample.fingerprint =
        .error miss) ∧
      ∃ actual, actual ≠ Sample.header.payloadChecksum ∧
        decode (Sample.entry.set 262 0x6F) =
          .error (.checksumMismatch Sample.header.payloadChecksum actual) ∧
        tryLoad (diskOf (Sample.entry.set 262 0x6F)) ⟨"sample.oBCC"⟩ Sample.fingerprint =
          .error (.corrupt (.checksumMismatch Sample.header.payloadChecksum actual)) := by
  have limit : Sample.fingerprint.toolchain.length ≤ Signature.maxLength := by decide
  have fits : Sample.entry.length < 2 ^ 63 := by decide +kernel
  obtain ⟨header, payload, start, split, front, damage⟩ := miss_of_damage limit fits encode_sample
  have known : Header.read Sample.entry = .ok (Sample.header, Sample.entry.drop 58) := by
    decide +kernel
  cases known.symm.trans start
  have otherHeader : Sample.entry.set 8 0 =
      Sample.header.bytes.set 8 0 ++ Sample.entry.drop 58 := by decide +kernel
  have otherPayload : Sample.entry.set 262 0x6F =
      Sample.header.bytes ++ ((Sample.entry.drop 58).take 204 ++ [0x6F] ++ []) := by decide +kernel
  have samePayload : Sample.entry.drop 58 = (Sample.entry.drop 58).take 204 ++ [0x90] ++ [] := by
    decide +kernel
  have window : Bytes.DiffersWithin 32 (Sample.entry.drop 58)
      ((Sample.entry.drop 58).take 204 ++ [0x6F] ++ []) := by
    have burst : Bytes.DiffersWithin 32 ((Sample.entry.drop 58).take 204 ++ [0x90] ++ [])
        ((Sample.entry.drop 58).take 204 ++ [0x6F] ++ []) :=
      .of_append rfl (by decide) (by decide)
    rwa [← samePayload] at burst
  obtain ⟨checksum, decoded, loaded⟩ := damage _ window
  rw [otherHeader, otherPayload]
  refine ⟨limit, fits, encode_sample, ?_, _, checksum, decoded, ?_⟩
  · apply front (Sample.header.bytes.set 8 0)
    · decide +kernel
    · decide +kernel
    · decide +kernel
  · apply loaded
    decide +kernel

end Entry

end BitcodeCache
