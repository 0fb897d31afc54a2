import BitcodeCache.Entry.Load
import BitcodeCache.Proofs.Entry.Acceptance

/-!
# Loading in stages

`Entry.load` reads as many bytes of a file as the header seems to need, compares fingerprints, and
only then looks at the payload. `load_eq_decode` says what this amounts to on the whole content: the
fault of the header, the first field that differs, or whatever decoding the whole content gives.
-/

namespace BitcodeCache.Entry

/-! ## The header's share of a file -/

/-- The header's share of a file is a prefix of it, as long as the file itself says. -/
theorem headerBytes_eq_take (content : Bytes) : headerBytes content = content.take
    (Header.prefixLength + (Header.remainder? (content.take Header.prefixLength)).getD 0) := by
  simp only [headerBytes]
  cases Header.remainder? (content.take Header.prefixLength) with
  | none => rfl
  | some rest => exact List.take_add.symm

/-- The cut bytes give the same header, or the same fault, as the whole content. -/
theorem decode_headerBytes (content : Bytes) :
    Header.decode (headerBytes content) = Header.decode content := by
  rw [headerBytes_eq_take]
  refine Header.decode_take (Nat.le_add_right _ _) fun n asked => ?_
  rw [asked]
  exact Nat.le_refl _

/-- Where there is a header, the cut is at its end. -/
theorem headerBytes_append {h : Header} (current : h.IsCurrent) (rest : Bytes) :
    headerBytes (h.bytes ++ rest) = h.bytes := by
  rw [headerBytes_eq_take, Header.remainder?_of_isCurrent current]
  refine List.take_left' ?_
  rw [Header.length_bytes, Header.encodedLength, Nat.add_assoc]
  rfl

/-! ## The payload -/

/-- The length of the payload is checked twice, with the same outcome. -/
theorem loadPayload_eq (h : Header) (rest : Bytes) : loadPayload h rest =
    verifyPayload h rest >>= fun _ => (Payload.decode rest >>= fun a => pure ⟨h, a⟩) := by
  unfold loadPayload checkAvailable verifyPayload
  rcases Nat.lt_trichotomy rest.length h.payloadLength.toNat with short | same | long
  · simp only [short, if_true]
    rfl
  · simp only [← same, Nat.lt_irrefl, if_false, List.take_length]
    rfl
  · have : ¬ rest.length < h.payloadLength.toNat := by omega
    simp only [this, long, if_false, if_true]
    rfl

/-! ## The whole content -/

/-- What a staged load comes to. -/
theorem load_eq_decode (content : Bytes) (expected : Fingerprint) : load content expected =
    match Header.decode content with
    | .error fault => .error (.ofDecodeError fault)
    | .ok header =>
      match expected.firstMismatch? header.fingerprint with
      | some field => .error (.stale field)
      | none => Miss.ofDecoded (decode content) := by
  unfold load
  simp only [decode_headerBytes]
  cases start : Header.decode content with
  | error fault => rfl
  | ok h =>
    dsimp only
    cases expected.firstMismatch? h.fingerprint with
    | some field => rfl
    | none =>
      obtain ⟨⟨_, rest⟩, read, rfl⟩ := except_map_eq_ok_iff.1 start
      obtain ⟨current, rfl⟩ := Header.read_eq_ok_iff.1 read
      rw [headerBytes_append current, List.drop_left, loadPayload_eq, decode, read]
      rfl

/-- What decodes an entry decodes its header first. -/
theorem header_decode_of_decode {content : Bytes} {entry : Entry}
    (h : decode content = .ok entry) : Header.decode content = .ok entry.header := by
  obtain ⟨payload, current, rfl, _, _⟩ := decode_eq_ok_iff.1 h
  exact Header.decode_bytes_append current payload

/-- A fault of the header is the fault of the entry. -/
theorem decode_of_header_decode_error {content : Bytes} {fault : DecodeError}
    (h : Header.decode content = .error fault) : decode content = .error fault := by
  rw [Header.decode] at h
  rw [decode]
  cases read : Header.read content with
  | error other =>
    rw [read] at h
    cases h
    rfl
  | ok p =>
    rw [read] at h
    cases h

/-- A content that does not decode is not loaded, for the same fault, if what can be read of its header
has the expected fingerprint. -/
theorem load_of_error {content : Bytes} {expected : Fingerprint} {fault : DecodeError}
    (refused : decode content = .error fault)
    (own : ∀ header, Header.decode content = .ok header → header.fingerprint = expected) :
    load content expected = .error (.ofDecodeError fault) := by
  rw [load_eq_decode]
  cases start : Header.decode content with
  | error other =>
    have same := (decode_of_header_decode_error start).symm.trans refused
    cases same
    rfl
  | ok header =>
    obtain rfl := own header start
    rw [refused]
    simp only [Fingerprint.firstMismatch?_eq_none_iff.2 rfl]
    rfl

/-- A content is loaded where it decodes as an entry of the expected fingerprint. -/
theorem load_eq_ok_iff {content : Bytes} {expected : Fingerprint} {entry : Entry} :
    load content expected = .ok entry ↔
      decode content = .ok entry ∧ entry.header.fingerprint = expected := by
  rw [load_eq_decode]
  constructor
  · intro h
    split at h
    · cases h
    · rename_i header start
      split at h
      · cases h
      · rename_i agrees
        cases decoded : decode content with
        | error fault =>
          rw [decoded] at h
          cases h
        | ok e =>
          rw [decoded] at h
          cases h
          have same := start.symm.trans (header_decode_of_decode decoded)
          cases same
          exact ⟨rfl, (Fingerprint.firstMismatch?_eq_none_iff.1 agrees).symm⟩
  · rintro ⟨decoded, rfl⟩
    rw [header_decode_of_decode decoded, decoded]
    simp only [Fingerprint.firstMismatch?_eq_none_iff.2 rfl]
    rfl

end BitcodeCache.Entry
