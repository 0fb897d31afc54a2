import BitcodeCache.Proofs.Store.Reading
import BitcodeCache.Proofs.Text.ByteList

/-!
# The limit on signatures

`Signature.ofBytes` refuses signatures over the limit, and so does reading a header. Reading a signature
from its JSON text and writing an entry do not ask for the limit, so an entry can be stored under a
signature that no lookup accepts. The limit is all that tells the entries that are loaded from those
that never are.
-/

namespace BitcodeCache

/-! ## Signatures from their JSON text -/

/-- Every signature is read from its JSON text, whatever its length. -/
theorem Signature.ofJson?_toJson (s : Signature) : ofJson? s.toJson = some s := by
  rw [ofJson?, toJson, Text.ByteList.read?_write]
  rfl

/-! ## Headers over the limit -/

/-- What reading says of a signature over the limit. -/
def Signature.overLimit (length : Nat) : DecodeError :=
  .badLength .signature (.overLimit length maxLength)

namespace Header

open FieldReader

/-- A header with a signature over the limit is refused for its length. -/
theorem read_of_overLimit {h : Header} (version : h.version = formatVersion)
    (fits : h.fingerprint.toolchain.length < 2 ^ 32)
    (longer : Signature.maxLength < h.fingerprint.toolchain.length) (rest : Bytes) :
    read (h.bytes ++ rest) = .error (Signature.overLimit h.fingerprint.toolchain.length) := by
  have held := UInt32.toNat_ofNat_of_lt' fits
  have start : readStart (h.bytes ++ rest) =
      .ok (⟨h.version, h.fingerprint.contentDigest, h.fingerprint.modTime, h.fingerprint.crc32,
        UInt32.ofNat h.fingerprint.toolchain.length⟩,
        h.fingerprint.toolchain.bytes ++ (Bytes.ofUInt64 h.payloadLength ++
          (Bytes.ofUInt32 h.payloadChecksum ++ rest))) := by
    simp only [readStart, Header.bytes, ← Bytes.ofUInt32_ofNat fits, List.append_assoc,
      bind_eq_ok_iff, word32_eq_ok_iff, int64_eq_ok_iff, digest_eq_ok_iff, require_eq_ok_iff,
      pure_eq_ok_iff, beq_iff_eq]
    exact ⟨_, _, rfl, (), _, ⟨rfl, rfl⟩, _, _, rfl, (), _, ⟨version, rfl⟩, _, _, rfl, _, _, rfl,
      _, _, rfl, _, _, rfl, rfl, rfl⟩
  rw [read_eq_start_end, bind_of_ok start, readEnd_of_lt (by rw [held]; exact longer)]
  rw [held]
  rfl

end Header

/-! ## Entries over the limit -/

namespace Entry

variable {a : Artifact} {f : Fingerprint} {payload bytes : Bytes}

/-- An entry with a signature over the limit is written with a header that is refused. -/
theorem Written.header_decode_of_overLimit (h : Written a f payload bytes)
    (longer : Signature.maxLength < f.toolchain.length) :
    Header.decode bytes = .error (Signature.overLimit f.toolchain.length) := by
  rw [h.bytes, Header.decode, Header.read_of_overLimit rfl h.signature longer]
  rfl

/-- An entry with a signature over the limit is corrupt for every expected fingerprint. -/
theorem Written.load_of_overLimit (h : Written a f payload bytes)
    (longer : Signature.maxLength < f.toolchain.length) (expected : Fingerprint) :
    load bytes expected = .error (.corrupt (Signature.overLimit f.toolchain.length)) := by
  rw [load_eq_decode, h.header_decode_of_overLimit longer]
  rfl

end Entry

/-! ## What is stored and what is loaded -/

/-- An entry is decoded, and found where it was stored, where its signature is within the limit. An entry
under a longer one is written and stored as well, and is corrupt for every lookup. Such signatures are
refused as bytes but not as JSON texts. -/
theorem loaded_iff_within_limit (a : Artifact) (f : Fingerprint)
    (small : ∀ bytes, Entry.encode a f = .ok bytes → bytes.length < 2 ^ 63) :
    (∀ bytes, Signature.ofBytes bytes = .ok f.toolchain →
      f.toolchain.length ≤ Signature.maxLength) ∧
    Signature.ofJson? f.toolchain.toJson = some f.toolchain ∧
    (∀ bytes, Entry.encode a f = .ok bytes →
      ((∃ header, Entry.decode bytes = .ok ⟨header, a⟩ ∧ header.fingerprint = f) ↔
        f.toolchain.length ≤ Signature.maxLength) ∧
      (Signature.maxLength < f.toolchain.length →
        Entry.decode bytes = .error (.badLength .signature
          (.overLimit f.toolchain.length Signature.maxLength)))) ∧
    ∀ c disk path, (store c disk path f a).result = .ok () →
      ((∃ entry, tryLoad (store c disk path f a).disk path f = .ok entry ∧ entry.artifact = a) ↔
        f.toolchain.length ≤ Signature.maxLength) ∧
      (Signature.maxLength < f.toolchain.length → ∀ expected,
        tryLoad (store c disk path f a).disk path expected = .error (.corrupt (.badLength .signature
          (.overLimit f.toolchain.length Signature.maxLength)))) := by
  refine ⟨?_, Signature.ofJson?_toJson _, ?_, ?_⟩
  · intro bytes made
    obtain ⟨same, within⟩ := Signature.ofBytes_eq_ok_iff.1 made
    rwa [same]
  · intro bytes encoded
    obtain ⟨payload, written⟩ := Entry.encode_eq_ok_iff.1 encoded
    have refused (longer : Signature.maxLength < f.toolchain.length) :=
      Entry.decode_of_header_decode_error (written.header_decode_of_overLimit longer)
    have fits := small bytes encoded
    refine ⟨⟨?_, fun within => ⟨_, written.decode within (by omega), rfl⟩⟩, refused⟩
    rintro ⟨header, decoded, _⟩
    by_contra longer
    cases decoded.symm.trans (refused (Nat.lt_of_not_le longer))
  · intro c disk path stored
    have refused (longer : Signature.maxLength < f.toolchain.length) (expected : Fingerprint) :
        tryLoad (store c disk path f a).disk path expected =
          .error (.corrupt (Signature.overLimit f.toolchain.length)) := by
      have effect := store_effect c disk path f a
      rw [stored] at effect
      obtain ⟨bytes, encoded, readable⟩ := effect.read_self
      obtain ⟨payload, written⟩ := Entry.encode_eq_ok_iff.1 encoded
      rw [tryLoad_of_read readable]
      exact written.load_of_overLimit longer expected
    refine ⟨⟨?_, fun within => ?_⟩, refused⟩
    · rintro ⟨entry, found, _⟩
      by_contra longer
      cases found.symm.trans (refused (Nat.lt_of_not_le longer) f)
    · obtain ⟨header, own, answers⟩ := (holds_of_store stored within small).tryLoad_eq
      refine ⟨⟨header, a⟩, ?_, rfl⟩
      rw [answers, Fingerprint.firstMismatch?_eq_none_iff.2 rfl]

theorem loaded_iff_within_limit_sample :
    (∀ bytes, Entry.encode Format.Sample.artifact Format.Sample.fingerprint = .ok bytes →
      bytes.length < 2 ^ 63) ∧
    Signature.ofBytes [0x74, 0x31] = .ok Format.Sample.fingerprint.toolchain ∧
    (store {} {} ⟨"cache/x.oBCC"⟩ Format.Sample.fingerprint Format.Sample.artifact).result =
      .ok () ∧
    ∃ entry, tryLoad (store {} {} ⟨"cache/x.oBCC"⟩ Format.Sample.fingerprint
      Format.Sample.artifact).disk ⟨"cache/x.oBCC"⟩ Format.Sample.fingerprint = .ok entry ∧
      entry.artifact = Format.Sample.artifact := by
  have made : Signature.ofBytes [0x74, 0x31] = .ok Format.Sample.fingerprint.toolchain := by
    decide
  have stored : (store {} {} ⟨"cache/x.oBCC"⟩ Format.Sample.fingerprint
      Format.Sample.artifact).result = .ok () := by decide +kernel
  have small : ∀ bytes, Entry.encode Format.Sample.artifact Format.Sample.fingerprint = .ok bytes →
      bytes.length < 2 ^ 63 := by
    intro bytes encoded
    rw [Entry.encode_sample] at encoded
    cases encoded
    decide +kernel
  obtain ⟨within, _, _, found⟩ :=
    loaded_iff_within_limit Format.Sample.artifact Format.Sample.fingerprint small
  exact ⟨small, made, stored, (found _ _ _ stored).1.2 (within _ made)⟩

/-! ## An entry that is never loaded -/

/-- A signature of one byte more than the limit. -/
def Signature.oversized : Signature := ⟨List.replicate 4097 0⟩

/-- A fingerprint with that signature. -/
def Fingerprint.oversized : Fingerprint := { Format.Sample.fingerprint with toolchain := .oversized }

/-- It is read from its JSON text, an entry under it is encoded and stored, and the same lookup never
finds it. -/
theorem oversized_stored_not_loaded :
    Signature.ofJson? Signature.oversized.toJson = some .oversized ∧
      Signature.maxLength < Signature.oversized.length ∧
      (∃ bytes, Entry.encode {} .oversized = .ok bytes ∧
        ¬ ∃ entry, Entry.decode bytes = .ok entry) ∧
      (store {} {} ⟨"x.oBCC"⟩ .oversized {}).result = .ok () ∧
      ¬ ∃ entry, tryLoad (store {} {} ⟨"x.oBCC"⟩ .oversized {}).disk ⟨"x.oBCC"⟩ .oversized =
        .ok entry := by
  have longer : Signature.maxLength < Signature.oversized.length := by decide +kernel
  have stored : (store {} {} ⟨"x.oBCC"⟩ .oversized {}).result = .ok () := by decide +kernel
  have effect := store_effect {} {} ⟨"x.oBCC"⟩ .oversized {}
  rw [stored] at effect
  obtain ⟨bytes, encoded, readable⟩ := effect.read_self
  obtain ⟨payload, written⟩ := Entry.encode_eq_ok_iff.1 encoded
  refine ⟨Signature.ofJson?_toJson _, longer, ⟨bytes, encoded, ?_⟩, stored, ?_⟩
  · rintro ⟨entry, decoded⟩
    rw [Entry.decode_of_header_decode_error (written.header_decode_of_overLimit longer)] at decoded
    cases decoded
  · rintro ⟨entry, found⟩
    rw [tryLoad_of_read readable, written.load_of_overLimit longer] at found
    cases found

end BitcodeCache
