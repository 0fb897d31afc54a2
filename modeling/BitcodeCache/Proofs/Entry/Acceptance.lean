import BitcodeCache.Proofs.Artifact
import BitcodeCache.Proofs.Entry.Header
import BitcodeCache.Proofs.Entry.Payload

/-!
# What files are accepted

`Entry.decode` accepts exactly the bytes that are an entry in the sense of `Format.IsEntry`, and
gives the header and the artifact that the bytes are an entry of. Nothing that the format asks for is
left unchecked, and nothing else is asked for.
-/

namespace BitcodeCache

namespace Format

/-- The fields of a header, told one by one, are the bytes that are written for a current header. -/
theorem isHeader_iff {field : Bytes} {h : Header} :
    IsHeader field h ↔ h.IsCurrent ∧ field = h.bytes := by
  constructor
  · rintro ⟨version, limit, rfl⟩
    refine ⟨⟨version, limit⟩, ?_⟩
    rw [Header.bytes, version]
    rfl
  · rintro ⟨current, rfl⟩
    refine ⟨current.version, current.signature, ?_⟩
    rw [Header.bytes, current.version]
    rfl

/-- The code is a section of the payload. -/
theorem HasTable.code_length_le {payload : Bytes} {t : SectionTable} {a : Artifact}
    (h : HasTable payload t a) : a.code.length ≤ payload.length := by
  rw [← h.code, Extent.slice, List.length_take, List.length_drop]
  omega

/-- In code of less than 2^64 bytes no function that ends inside goes past the last offset. -/
theorem pointsInside_iff {a : Artifact} (short : a.code.length < 2 ^ 64) :
    PointsInside a ↔ a.validate = .ok () := by
  rw [Artifact.validate_eq_ok_iff]
  constructor
  · intro h
    exact ⟨h.symbols, h.relocations, fun f member => (h.functions f member).1⟩
  · rintro ⟨symbols, relocations, functions⟩
    refine ⟨symbols, relocations, fun f member => ?_⟩
    have stop := functions f member
    rw [FunctionRange.stop] at stop
    exact ⟨stop, by omega⟩

/-- What a payload must be, told section by section, is what the decoder accepts. -/
theorem isPayload_iff {payload : Bytes} (short : payload.length < 2 ^ 64) {a : Artifact} :
    IsPayload payload a ↔ Payload.decode payload = .ok a := by
  rw [Payload.decode_eq_ok_iff, IsPayload]
  refine and_congr_right ?_
  rintro ⟨t, holds⟩
  have := holds.code_length_le
  exact pointsInside_iff (by omega)

end Format

namespace Entry

/-- A payload is verified by its length and its checksum. -/
theorem verifyPayload_eq_ok_iff {h : Header} {payload : Bytes} :
    verifyPayload h payload = .ok () ↔
      payload.length = h.payloadLength.toNat ∧ crc32 payload = h.payloadChecksum := by
  unfold verifyPayload
  rcases Nat.lt_trichotomy payload.length h.payloadLength.toNat with short | same | long
  · simp only [short, if_true]
    constructor
    · intro h
      cases h
    · rintro ⟨same, _⟩
      omega
  · simp [same]
  · have : ¬ payload.length < h.payloadLength.toNat := by omega
    simp only [this, long, if_false, if_true]
    constructor
    · intro h
      cases h
    · rintro ⟨same, _⟩
      omega

/-- A file is accepted in three steps: a header at its front, the length and the checksum of what
follows, and the artifact in it. -/
theorem decode_eq_ok_iff {bytes : Bytes} {h : Header} {a : Artifact} :
    decode bytes = .ok ⟨h, a⟩ ↔ ∃ payload, h.IsCurrent ∧ bytes = h.bytes ++ payload ∧
      verifyPayload h payload = .ok () ∧ Payload.decode payload = .ok a := by
  simp only [decode, except_bind_eq_ok_iff, Prod.exists, Header.read_eq_ok_iff]
  constructor
  · rintro ⟨_, payload, ⟨current, rfl⟩, _, verified, _, decoded, made⟩
    cases made
    exact ⟨payload, current, rfl, verified, decoded⟩
  · rintro ⟨payload, current, rfl, verified, decoded⟩
    exact ⟨h, payload, ⟨current, rfl⟩, (), verified, a, decoded, rfl⟩

/-- What follows a header is refused with its fault where length or checksum are wrong. -/
theorem decode_of_verifyPayload_error {h : Header} {rest : Bytes} {fault : DecodeError}
    (current : h.IsCurrent) (refused : verifyPayload h rest = .error fault) :
    decode (h.bytes ++ rest) = .error fault := by
  rw [decode, Header.read_eq_ok_iff.2 ⟨current, rfl⟩]
  change (verifyPayload h rest >>= fun _ => _) = _
  rw [refused]
  rfl

/-- Exactly the documented format is accepted. -/
theorem decode_eq_ok_iff_isEntry {bytes : Bytes} (fits : bytes.length < 2 ^ 63) {h : Header}
    {a : Artifact} : decode bytes = .ok ⟨h, a⟩ ↔ Format.IsEntry bytes h a := by
  have payloadFits {front payload : Bytes} (cut : bytes = front ++ payload) :
      payload.length < 2 ^ 64 := by
    rw [cut, List.length_append] at fits
    omega
  rw [decode_eq_ok_iff]
  constructor
  · rintro ⟨payload, current, cut, verified, decoded⟩
    obtain ⟨length, checksum⟩ := verifyPayload_eq_ok_iff.1 verified
    have isPayload := (Format.isPayload_iff (payloadFits cut)).2 decoded
    exact ⟨h.bytes, payload, Format.isHeader_iff.2 ⟨current, rfl⟩, isPayload, length, checksum, cut⟩
  · rintro ⟨field, payload, isHeader, isPayload, length, checksum, cut⟩
    obtain ⟨current, rfl⟩ := Format.isHeader_iff.1 isHeader
    have decoded := (Format.isPayload_iff (payloadFits cut)).1 isPayload
    exact ⟨payload, current, cut, verifyPayload_eq_ok_iff.2 ⟨length, checksum⟩, decoded⟩

/-- The checksum of the sample is slow to compute, so it is computed here and nowhere else. -/
theorem crc32_sample : crc32 Format.Sample.payload = Format.Sample.header.payloadChecksum := by
  decide +kernel

theorem entry_sample :
    Format.Sample.entry = Format.Sample.header.bytes ++ Format.Sample.payload := by
  decide +kernel

theorem decode_sample :
    decode Format.Sample.entry = .ok ⟨Format.Sample.header, Format.Sample.artifact⟩ := by
  have current : Format.Sample.header.IsCurrent := ⟨rfl, by decide⟩
  have length : Format.Sample.payload.length = Format.Sample.header.payloadLength.toNat := by
    decide +kernel
  have decoded : Payload.decode Format.Sample.payload = .ok Format.Sample.artifact := by
    decide +kernel
  have verified := verifyPayload_eq_ok_iff.2 ⟨length, crc32_sample⟩
  exact decode_eq_ok_iff.2 ⟨_, current, entry_sample, verified, decoded⟩

theorem isEntry_sample : Format.Sample.entry.length < 2 ^ 63 ∧
    decode Format.Sample.entry = .ok ⟨Format.Sample.header, Format.Sample.artifact⟩ ∧
    Format.IsEntry Format.Sample.entry Format.Sample.header Format.Sample.artifact := by
  have fits : Format.Sample.entry.length < 2 ^ 63 := by decide +kernel
  exact ⟨fits, decode_sample, (decode_eq_ok_iff_isEntry fits).1 decode_sample⟩

end Entry

end BitcodeCache
