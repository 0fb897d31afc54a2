import BitcodeCache.Proofs.Entry.Reencoding

/-!
# How entries are laid out

Writing an artifact succeeds where its tables point inside its code and six numbers fit fields of 32
bits: how many records of each kind there are, how long its distinct strings are together, and how long
the signature is. Then every byte of the entry has its place: the parts follow one another without
gaps, the strings section holds each distinct string once, in the order of first use, and a reference
selects the string it was written for.
-/

namespace BitcodeCache

open Format

/-- The strings of an artifact, each once, in the order of first use. -/
def Artifact.distinctStrings (a : Artifact) : List String := a.strings.eraseDups

/-! ## Numbers that must fit -/

/-- The numbers that have 32 bits in the entry of an artifact: how many records of each kind there are,
and how many bytes the distinct strings and the signature have. -/
def Entry.narrow (a : Artifact) (f : Fingerprint) : List Nat :=
  [a.symbols.length, a.relocations.length, a.functions.length, a.pragmas.length,
    StringPool.sizeOf a.distinctStrings, f.toolchain.length]

namespace Payload

/-- A payload is written exactly if its counts and the size of its distinct strings fit, and these are
its pool. -/
theorem encode_eq_ok_iff_fits {a : Artifact} {payload : Bytes} : encode a = .ok payload ↔
    CountsFit a ∧ StringPool.sizeOf a.distinctStrings < 2 ^ 32 ∧
      payload = assemble (sections ⟨a.distinctStrings⟩ a) := by
  simp only [encode_eq_ok_iff, poolOf_eq_ok_iff, StringPool.foldlM_intern_eq_ok_iff]
  constructor
  · rintro ⟨_, ⟨counts, size, rfl⟩, made⟩
    exact ⟨counts, size, made⟩
  · rintro ⟨counts, size, made⟩
    exact ⟨_, ⟨counts, size, rfl⟩, made⟩

/-- A number that does not fit is too large for its region. -/
theorem fitWord32_eq_error {region : Region} {n : Nat} {fault : EncodeError}
    (h : Header.fitWord32 region n = .error fault) : fault = .tooLarge region n := by
  unfold Header.fitWord32 at h
  split at h
  · cases h
  · cases h
    rfl

/-- A payload is refused for the size of something. -/
theorem encode_eq_error {a : Artifact} {fault : EncodeError} (h : encode a = .error fault) :
    ∃ region length, fault = .tooLarge region length := by
  have counted {region : Region} {n : Nat} (h : Header.fitWord32 region n = .error fault) :
      ∃ region length, fault = .tooLarge region length := ⟨region, n, fitWord32_eq_error h⟩
  have pooled {uses : List String} {pool : StringPool}
      (h : uses.foldlM StringPool.intern pool = .error fault) :
      ∃ region length, fault = .tooLarge region length :=
    ⟨.strings, StringPool.foldlM_intern_eq_error h⟩
  simp only [encode, poolOf, internAll, except_bind_eq_error_iff] at h
  -- the count and the strings of each kind of record in turn
  rcases h with (h | ⟨_, _, h | ⟨_, _, h | ⟨_, _, h | ⟨_, _, h | ⟨_, _, h | ⟨_, _, h | ⟨_, _, h⟩⟩⟩⟩⟩⟩⟩) |
    ⟨_, _, h⟩
  · exact counted h
  · exact pooled h
  · exact counted h
  · exact pooled h
  · exact counted h
  · exact pooled h
  · exact counted h
  · exact pooled h
  · cases h

end Payload

namespace Entry

variable {a : Artifact} {f : Fingerprint}

/-- The six narrow numbers are the four counts, the size of the pool and the signature length. -/
theorem forall_narrow_iff : (∀ n ∈ narrow a f, n < 2 ^ 32) ↔
    Payload.CountsFit a ∧ StringPool.sizeOf a.distinctStrings < 2 ^ 32 ∧
      f.toolchain.length < 2 ^ 32 := by
  simp only [narrow, List.forall_mem_cons, List.not_mem_nil, false_implies, implies_true, and_true]
  constructor
  · rintro ⟨symbols, relocations, functions, pragmas, strings, signature⟩
    exact ⟨⟨symbols, relocations, functions, pragmas⟩, strings, signature⟩
  · rintro ⟨counts, strings, signature⟩
    exact ⟨counts.symbols, counts.relocations, counts.functions, counts.pragmas, strings, signature⟩

/-- An artifact that the check refuses is not written, and its first fault is told. -/
theorem encode_of_validate_error {fault : DecodeError} (invalid : a.validate = .error fault) :
    encode a f = .error (.invalidArtifact fault) := by
  rw [encode, invalid]

/-- An artifact that passes the check is refused only for a number that is too large. -/
theorem tooLarge_of_encode_eq_error {fault : EncodeError} (valid : a.validate = .ok ())
    (h : encode a f = .error fault) : ∃ region length, fault = .tooLarge region length := by
  simp only [encode, valid, Header.encode, except_bind_eq_error_iff] at h
  rcases h with unfilled | ⟨payload, _, (signature | ⟨_, _, made⟩) | ⟨_, _, made⟩⟩
  · exact Payload.encode_eq_error unfilled
  · exact ⟨_, _, Payload.fitWord32_eq_error signature⟩
  · cases made
  · cases made

/-- An artifact is written exactly if it passes the check and its narrow numbers fit. -/
theorem exists_encode_iff : (∃ bytes, encode a f = .ok bytes) ↔
    a.validate = .ok () ∧ ∀ n ∈ narrow a f, n < 2 ^ 32 := by
  simp only [encode_eq_ok_iff, forall_narrow_iff]
  constructor
  · rintro ⟨_, payload, written⟩
    obtain ⟨counts, strings, _⟩ := Payload.encode_eq_ok_iff_fits.1 written.encoded
    exact ⟨written.valid, counts, strings, written.signature⟩
  · rintro ⟨valid, counts, strings, signature⟩
    have encoded := Payload.encode_eq_ok_iff_fits.2 ⟨counts, strings, rfl⟩
    exact ⟨_, _, valid, encoded, signature, rfl⟩

end Entry

/-! ## Where everything is -/

namespace Format

/-- The parts of a payload in front of the code. -/
structure Parts where
  table : Bytes
  strings : Bytes
  symbols : Bytes
  relocations : Bytes
  functions : Bytes
  pragmas : Bytes

/-- The parts of the payload of an artifact: they follow one another up to the code, and the references
in the records select their strings in the strings section. The table says where each section is, as
long as the payload is no longer than its 64-bit numbers can say. -/
structure Parts.Fill (parts : Parts) (payload : Bytes) (a : Artifact) : Prop where
  whole : payload = parts.table ++ parts.strings ++ parts.symbols ++ parts.relocations ++
    parts.functions ++ parts.pragmas ++ a.code
  table : parts.table.length = 96
  strings : parts.strings = a.distinctStrings.flatMap Text.utf8
  records : HasRecords parts.strings parts.symbols parts.relocations parts.functions parts.pragmas a
  located : payload.length < 2 ^ 64 →
    ∃ t, HasTable payload t a ∧ t.strings.slice payload = parts.strings

/-- The length of a payload depends on the strings only through their size. -/
theorem Parts.Fill.length_eq {parts : Parts} {payload : Bytes} {a : Artifact}
    (h : parts.Fill payload a) : payload.length = Payload.lengthWith parts.strings.length a := by
  simp only [h.whole, List.length_append, h.table, h.records.symbols.length_eq,
    h.records.relocations.length_eq, h.records.functions.length_eq, h.records.pragmas.length_eq,
    Payload.lengthWith]

end Format

/-- What is written for an artifact has its distinct strings, its records and its code in this order. -/
theorem Payload.exists_fill {a : Artifact} {payload : Bytes} (h : encode a = .ok payload) :
    ∃ parts : Parts, parts.Fill payload a := by
  obtain ⟨counts, size, made⟩ := encode_eq_ok_iff_fits.1 h
  have serves : Serves ⟨a.distinctStrings⟩ a :=
    serves_poolOf (StringPool.foldlM_intern_eq_ok_iff.2 ⟨size, rfl⟩)
  let pool : StringPool := ⟨a.distinctStrings⟩
  let parts : Parts :=
    ⟨table tableLength ((sections pool a).map (·.length)), pool.bytes,
      symbolLayout.encode pool a.symbols, relocationLayout.encode pool a.relocations,
      functionLayout.encode pool a.functions, pragmaLayout.encode pool a.pragmas⟩
  refine ⟨parts, ?_, length_table _ _, rfl, serves.hasRecords counts,
    exists_hasTable made counts serves⟩
  rw [made, assemble]
  simp only [sections, List.flatten_cons, List.flatten_nil, List.append_nil, List.append_assoc, parts,
    pool]

namespace Entry

/-- An artifact whose tables point outside its code is refused for that. Any other is refused for a size
where one of six numbers does not fit 32 bits, and has an entry where all of them fit: a header and a
payload with each distinct string once, in the order of first use, where each reference selects its
string, and with a length that these numbers settle. -/
theorem encode_answers (a : Artifact) (f : Fingerprint) :
    (∀ fault, encode a f = .error (.invalidArtifact fault) ↔ a.validate = .error fault) ∧
    ((∃ region length, encode a f = .error (.tooLarge region length)) ↔
      a.validate = .ok () ∧ ∃ n ∈ narrow a f, 2 ^ 32 ≤ n) ∧
    ((∃ bytes, encode a f = .ok bytes) ↔ a.validate = .ok () ∧ ∀ n ∈ narrow a f, n < 2 ^ 32) ∧
    ∀ bytes, encode a f = .ok bytes → ∃ payload, ∃ parts : Parts,
      bytes = (Header.forPayload f payload).bytes ++ payload ∧ parts.Fill payload a ∧
      StringPool.InFirstUse a.strings a.distinctStrings ∧
      bytes.length = 44 + f.toolchain.length + 12 + 96 + parts.strings.length + 16 +
        20 * a.symbols.length + 28 * a.relocations.length + 24 * a.functions.length +
        16 * a.pragmas.length + a.code.length := by
  refine ⟨fun fault => ?_, ?_, exists_encode_iff, fun bytes encoded => ?_⟩
  · constructor
    · intro refused
      cases valid : a.validate with
      | error other =>
        cases (encode_of_validate_error valid).symm.trans refused
        rfl
      | ok u =>
        obtain ⟨_, _, made⟩ := tooLarge_of_encode_eq_error valid refused
        cases made
    · exact encode_of_validate_error
  · constructor
    · rintro ⟨region, length, refused⟩
      cases valid : a.validate with
      | error other => cases (encode_of_validate_error valid).symm.trans refused
      | ok u =>
        refine ⟨rfl, ?_⟩
        by_contra none
        have small : ∀ n ∈ narrow a f, n < 2 ^ 32 := fun n member =>
          Nat.lt_of_not_le fun large => none ⟨n, member, large⟩
        obtain ⟨bytes, encoded⟩ := exists_encode_iff.2 ⟨valid, small⟩
        cases encoded.symm.trans refused
    · rintro ⟨valid, n, member, large⟩
      cases encoded : encode a f with
      | ok bytes =>
        have small := (exists_encode_iff.1 ⟨bytes, encoded⟩).2 n member
        omega
      | error fault =>
        obtain ⟨region, length, rfl⟩ := tooLarge_of_encode_eq_error valid encoded
        exact ⟨region, length, rfl⟩
  · obtain ⟨payload, written⟩ := encode_eq_ok_iff.1 encoded
    obtain ⟨parts, fill⟩ := Payload.exists_fill written.encoded
    refine ⟨payload, parts, written.bytes, fill, StringPool.inFirstUse_eraseDups _, ?_⟩
    rw [written.length, fill.length_eq, Payload.lengthWith, Header.prefixLength, Header.tailLength]
    omega

/-- Three records of the sample share a string, which is in the entry once, and the last of its strings
is empty. -/
theorem encode_answers_sample :
    encode Format.Sample.artifact Format.Sample.fingerprint = .ok Format.Sample.entry ∧
    Format.Sample.artifact.strings = ["f", "f", "f", "é", ""] ∧
    ∃ payload, ∃ parts : Parts,
      Format.Sample.entry =
        (Header.forPayload Format.Sample.fingerprint payload).bytes ++ payload ∧
      parts.Fill payload Format.Sample.artifact ∧ parts.strings = [0x66, 0xC3, 0xA9] ∧
      Format.Sample.entry.length = 44 + 2 + 12 + 96 + 3 + 16 + 20 + 28 + 24 + 16 + 2 := by
  obtain ⟨_, _, _, laidOut⟩ := encode_answers Format.Sample.artifact Format.Sample.fingerprint
  obtain ⟨payload, parts, whole, fill, _, length⟩ := laidOut _ encode_sample
  have strings : parts.strings = [0x66, 0xC3, 0xA9] := by
    rw [fill.strings]
    decide +kernel
  rw [strings] at length
  exact ⟨encode_sample, rfl, payload, parts, whole, fill, strings, length⟩

end Entry

end BitcodeCache
