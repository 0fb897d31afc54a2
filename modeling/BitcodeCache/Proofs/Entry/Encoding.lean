import BitcodeCache.Proofs.Entry.Acceptance
import BitcodeCache.Proofs.Entry.Pool

/-!
# What is written

The payload that is written for an artifact holds that artifact, and the entry around it carries the
fingerprint, the length and the checksum of the payload: `Entry.Written` is all that a written entry
consists of, and decoding it gives the artifact and the fingerprint back.
-/

namespace BitcodeCache

open Format

/-! ## Pools of artifacts -/

/-- The strings of an artifact in the order of their first use. -/
def Artifact.strings (a : Artifact) : List String :=
  a.symbols.map (·.name) ++ a.relocations.map (·.symbol) ++ a.functions.map (·.name) ++
    a.pragmas.flatMap fun p => [p.key, p.value]

namespace Payload

/-- The numbers of records fit their fields. -/
structure CountsFit (a : Artifact) : Prop where
  symbols : a.symbols.length < 2 ^ 32
  relocations : a.relocations.length < 2 ^ 32
  functions : a.functions.length < 2 ^ 32
  pragmas : a.pragmas.length < 2 ^ 32

/-- A pool is made where the counts fit and all strings of the artifact go into it. -/
theorem poolOf_eq_ok_iff {a : Artifact} {pool : StringPool} : poolOf a = .ok pool ↔
    CountsFit a ∧ a.strings.foldlM StringPool.intern .empty = .ok pool := by
  simp only [poolOf, internAll, Artifact.strings, List.foldlM_append, except_bind_eq_ok_iff,
    Header.fitWord32_eq_ok_iff, ← List.map_eq_flatMap]
  constructor
  · rintro ⟨_, symbols, p, h, _, relocations, q, h', _, functions, r, h'', _, pragmas, h'''⟩
    exact ⟨⟨symbols, relocations, functions, pragmas⟩, r, ⟨q, ⟨p, h, h'⟩, h''⟩, h'''⟩
  · rintro ⟨⟨symbols, relocations, functions, pragmas⟩, r, ⟨q, ⟨p, h, h'⟩, h''⟩, h'''⟩
    exact ⟨(), symbols, p, h, (), relocations, q, h', (), functions, r, h'', (), pragmas, h'''⟩

/-- A payload is put together from the sections, once there is a pool. -/
theorem encode_eq_ok_iff {a : Artifact} {payload : Bytes} : encode a = .ok payload ↔
    ∃ pool, poolOf a = .ok pool ∧ payload = assemble (sections pool a) := by
  rw [encode, except_bind_eq_ok_iff]
  constructor
  · rintro ⟨pool, pooled, made⟩
    cases made
    exact ⟨pool, pooled, rfl⟩
  · rintro ⟨pool, pooled, rfl⟩
    exact ⟨pool, pooled, rfl⟩

/-! ## The section table -/

/-- The table entries of consecutive sections, the first at `start`. -/
def extentsFrom : Nat → List Bytes → List Extent
  | _, [] => []
  | start, piece :: pieces =>
    ⟨UInt64.ofNat start, UInt64.ofNat piece.length⟩ :: extentsFrom (start + piece.length) pieces

/-- A table of sections that end below 2^64 says where each of them is. -/
theorem extentsFrom_spec {payload : Bytes} {start : Nat} {pieces : List Bytes}
    (fits : start + pieces.flatten.length < 2 ^ 64) (body : payload.drop start = pieces.flatten) :
    (extentsFrom start pieces).flatMap Extent.bytes = table start (pieces.map (·.length)) ∧
      Consecutive start (extentsFrom start pieces) (start + pieces.flatten.length) ∧
      (extentsFrom start pieces).map (·.slice payload) = pieces := by
  induction pieces generalizing start with
  | nil => exact ⟨rfl, rfl, rfl⟩
  | cons piece pieces ih =>
    rw [List.flatten_cons, List.length_append] at fits
    have startFits : start < 2 ^ 64 := by omega
    have lengthFits : piece.length < 2 ^ 64 := by omega
    have after : payload.drop (start + piece.length) = pieces.flatten := by
      rw [← List.drop_drop, body, List.flatten_cons, List.drop_left]
    obtain ⟨bytes, consecutive, slices⟩ := ih (by omega) after
    refine ⟨?_, ⟨?_, ?_⟩, ?_⟩
    · rw [extentsFrom, List.flatMap_cons, bytes, List.map_cons, table, Extent.bytes,
        Bytes.ofUInt64_ofNat startFits, Bytes.ofUInt64_ofNat lengthFits]
    · exact UInt64.toNat_ofNat_of_lt' startFits
    · rw [UInt64.toNat_ofNat_of_lt' lengthFits, List.flatten_cons, List.length_append,
        ← Nat.add_assoc]
      exact consecutive
    · rw [extentsFrom, List.map_cons, slices, Extent.slice, UInt64.toNat_ofNat_of_lt' startFits,
        UInt64.toNat_ofNat_of_lt' lengthFits, body, List.flatten_cons, List.take_left]

/-- An extent takes 16 bytes of the table. -/
theorem length_table (start : Nat) (lengths : List Nat) :
    (table start lengths).length = 16 * lengths.length := by
  induction lengths generalizing start with
  | nil => rfl
  | cons length lengths ih =>
    simp only [table, List.length_append, Bytes.length_ofNat, ih, List.length_cons]
    omega

/-- Six sections after their table fill the payload, and each is where the table says. -/
theorem exists_table {payload strings symbols relocations functions pragmas code : Bytes}
    (made : payload = assemble [strings, symbols, relocations, functions, pragmas, code])
    (fits : payload.length < 2 ^ 64) :
    ∃ t : SectionTable, payload.take 96 = t.extents.flatMap Extent.bytes ∧
      Consecutive 96 t.extents payload.length ∧ t.strings.slice payload = strings ∧
      t.symbols.slice payload = symbols ∧ t.relocations.slice payload = relocations ∧
      t.functions.slice payload = functions ∧ t.pragmas.slice payload = pragmas ∧
      t.code.slice payload = code := by
  have tableSize : (table tableLength ([strings, symbols, relocations, functions, pragmas,
      code].map (·.length))).length = 96 := length_table _ _
  have whole : payload.length =
      96 + [strings, symbols, relocations, functions, pragmas, code].flatten.length := by
    rw [made, assemble, List.length_append, tableSize]
  have body : payload.drop 96 =
      [strings, symbols, relocations, functions, pragmas, code].flatten := by
    rw [made, assemble, List.drop_left' tableSize]
  have front : payload.take 96 = table tableLength ([strings, symbols, relocations, functions,
      pragmas, code].map (·.length)) := by
    rw [made, assemble, List.take_left' tableSize]
  obtain ⟨bytes, consecutive, slices⟩ := extentsFrom_spec (whole ▸ fits) body
  rw [← whole] at consecutive
  simp only [extentsFrom, List.map_cons, List.map_nil, List.cons.injEq, and_true] at slices
  exact ⟨⟨_, _, _, _, _, _⟩, front.trans bytes.symm, consecutive, slices⟩

/-! ## Records -/

/-- What a layout writes for records is the records' section, if it writes each record as a row. -/
theorem isRecords_encode {α : Type} {layout : RecordLayout α} {isRow : Bytes → Bytes → α → Prop}
    (reads : layout.Reads isRow) {pool : StringPool} {records : List α}
    (count : records.length < 2 ^ 32)
    (rows : ∀ r ∈ records, isRow pool.bytes (layout.write pool r) r) :
    IsRecords layout.width (isRow pool.bytes) (layout.encode pool records) records := by
  have rowsOf : List.Forall₂ (isRow pool.bytes) (records.map (layout.write pool)) records :=
    List.forall₂_map_left_iff.2 (List.forall₂_same.2 rows)
  refine ⟨UInt32.ofNat records.length, _, UInt32.toNat_ofNat_of_lt' count, rowsOf,
    RecordLayout.mem_width reads.width rowsOf, ?_⟩
  rw [RecordLayout.encode, Bytes.ofUInt32_ofNat count, List.flatMap_def]

/-! ## Payloads -/

/-- A pool that holds the strings of an artifact, small enough for references to them. -/
structure Serves (pool : StringPool) (a : Artifact) : Prop where
  size_lt : pool.size < 2 ^ 32
  symbols : ∀ s ∈ a.symbols, s.name ∈ pool.strings
  relocations : ∀ r ∈ a.relocations, r.symbol ∈ pool.strings
  functions : ∀ f ∈ a.functions, f.name ∈ pool.strings
  keys : ∀ p ∈ a.pragmas, p.key ∈ pool.strings
  values : ∀ p ∈ a.pragmas, p.value ∈ pool.strings

/-- The pool of an artifact holds its strings and is small enough for references. -/
theorem serves_poolOf {a : Artifact} {pool : StringPool}
    (h : a.strings.foldlM StringPool.intern .empty = .ok pool) : Serves pool a := by
  have grown := StringPool.extends_foldlM h
  have mem (s : String) (used : s ∈ a.strings) : s ∈ pool.strings := grown.mem s used
  simp only [Artifact.strings, List.mem_append, List.mem_map, List.mem_flatMap] at mem
  exact {
    size_lt := grown.size_lt (by decide)
    symbols := fun s member => mem _ (.inl (.inl (.inl ⟨s, member, rfl⟩)))
    relocations := fun r member => mem _ (.inl (.inl (.inr ⟨r, member, rfl⟩)))
    functions := fun f member => mem _ (.inl (.inr ⟨f, member, rfl⟩))
    keys := fun p member => mem _ (.inr ⟨p, member, by simp⟩)
    values := fun p member => mem _ (.inr ⟨p, member, by simp⟩) }

/-- The records of an artifact refer to the strings of a pool that has them all. -/
theorem Serves.hasRecords {a : Artifact} {pool : StringPool} (serves : Serves pool a)
    (counts : CountsFit a) :
    HasRecords pool.bytes (symbolLayout.encode pool a.symbols)
      (relocationLayout.encode pool a.relocations) (functionLayout.encode pool a.functions)
      (pragmaLayout.encode pool a.pragmas) a where
  symbols := isRecords_encode symbolLayout_reads counts.symbols fun s member =>
    ⟨_, StringPool.isReference_reference (serves.symbols s member) serves.size_lt, rfl⟩
  relocations := isRecords_encode relocationLayout_reads counts.relocations fun r member =>
    ⟨_, StringPool.isReference_reference (serves.relocations r member) serves.size_lt, rfl⟩
  functions := isRecords_encode functionLayout_reads counts.functions fun f member =>
    ⟨_, StringPool.isReference_reference (serves.functions f member) serves.size_lt, rfl⟩
  pragmas := isRecords_encode pragmaLayout_reads counts.pragmas fun p member =>
    ⟨_, _, StringPool.isReference_reference (serves.keys p member) serves.size_lt,
      StringPool.isReference_reference (serves.values p member) serves.size_lt, rfl⟩

/-- What is written for an artifact holds it. -/
theorem exists_hasTable {a : Artifact} {pool : StringPool} {payload : Bytes}
    (made : payload = assemble (sections pool a)) (counts : CountsFit a) (serves : Serves pool a)
    (fits : payload.length < 2 ^ 64) :
    ∃ t, HasTable payload t a ∧ t.strings.slice payload = pool.bytes := by
  obtain ⟨t, table, consecutive, strings, symbols, relocations, functions, pragmas, code⟩ :=
    exists_table made fits
  have records := serves.hasRecords counts
  rw [← strings, ← symbols, ← relocations, ← functions, ← pragmas] at records
  exact ⟨t, ⟨table, consecutive, records.symbols, records.relocations, records.functions,
    records.pragmas, code⟩, strings⟩

/-- A written payload is decoded as the artifact it was written for. -/
theorem decode_of_encode {a : Artifact} {payload : Bytes} (h : encode a = .ok payload)
    (valid : a.validate = .ok ()) (fits : payload.length < 2 ^ 64) : decode payload = .ok a := by
  obtain ⟨pool, pooled, made⟩ := encode_eq_ok_iff.1 h
  obtain ⟨counts, interned⟩ := poolOf_eq_ok_iff.1 pooled
  obtain ⟨t, holds, _⟩ := exists_hasTable made counts (serves_poolOf interned) fits
  exact decode_eq_ok_iff.2 ⟨⟨t, holds⟩, valid⟩

end Payload

/-! ## Entries -/

/-- The header of the entry of a payload. -/
def Header.forPayload (fingerprint : Fingerprint) (payload : Bytes) : Header :=
  ⟨formatVersion, fingerprint, UInt64.ofNat payload.length, crc32 payload⟩

namespace Entry

/-- Bytes are the entry that is written for an artifact under a fingerprint. -/
structure Written (a : Artifact) (f : Fingerprint) (payload bytes : Bytes) : Prop where
  valid : a.validate = .ok ()
  encoded : Payload.encode a = .ok payload
  signature : f.toolchain.length < 2 ^ 32
  bytes : bytes = (Header.forPayload f payload).bytes ++ payload

/-- What encoding gives is the entry that is written for the artifact. -/
theorem encode_eq_ok_iff {a : Artifact} {f : Fingerprint} {bytes : Bytes} :
    encode a f = .ok bytes ↔ ∃ payload, Written a f payload bytes := by
  unfold encode
  cases valid : a.validate with
  | error fault =>
    constructor
    · intro h
      cases h
    · rintro ⟨_, written⟩
      cases valid.symm.trans written.valid
  | ok u =>
    simp only [except_bind_eq_ok_iff, Header.encode, Header.fitWord32_eq_ok_iff]
    constructor
    · rintro ⟨payload, encoded, _, ⟨_, fits, start⟩, made⟩
      cases start
      cases made
      exact ⟨payload, valid, encoded, fits, rfl⟩
    · rintro ⟨payload, written⟩
      exact ⟨payload, written.encoded, _, ⟨(), written.signature, rfl⟩, written.bytes ▸ rfl⟩

/-- An entry is as long as its header and its payload together. -/
theorem Written.length {a : Artifact} {f : Fingerprint} {payload bytes : Bytes}
    (h : Written a f payload bytes) : bytes.length =
      Header.prefixLength + f.toolchain.length + Header.tailLength + payload.length := by
  rw [h.bytes, List.length_append, Header.length_bytes]
  rfl

/-- A written entry is decoded as the artifact it was written for, under the header of its payload. -/
theorem Written.decode {a : Artifact} {f : Fingerprint} {payload bytes : Bytes}
    (h : Written a f payload bytes) (limit : f.toolchain.length ≤ Signature.maxLength)
    (fits : bytes.length < 2 ^ 64) :
    decode bytes = .ok ⟨Header.forPayload f payload, a⟩ := by
  have short : payload.length < 2 ^ 64 := by
    rw [h.bytes, List.length_append] at fits
    omega
  have verified : verifyPayload (Header.forPayload f payload) payload = .ok () :=
    verifyPayload_eq_ok_iff.2 ⟨(UInt64.toNat_ofNat_of_lt' short).symm, rfl⟩
  exact decode_eq_ok_iff.2 ⟨payload, ⟨rfl, limit⟩, h.bytes, verified,
    Payload.decode_of_encode h.encoded h.valid short⟩

/-- A part of a written entry, from its front, decodes only as the whole entry. -/
theorem Written.eq_of_prefix {a : Artifact} {f : Fingerprint} {payload bytes content : Bytes}
    {entry : Entry} (h : Written a f payload bytes) (fits : bytes.length < 2 ^ 64)
    (part : content <+: bytes) (decoded : Entry.decode content = .ok entry) :
    entry = ⟨Header.forPayload f payload, a⟩ := by
  have whole := h.decode
  obtain ⟨_, _, signature, rfl⟩ := h
  obtain ⟨held, current, rfl, verified, _⟩ := decode_eq_ok_iff.1 decoded
  obtain ⟨cut, joined⟩ := part
  rw [List.append_assoc] at joined
  obtain ⟨header, joined⟩ := Header.bytes_append_inj current.length_lt signature joined
  rw [List.length_append] at fits
  have short : payload.length < 2 ^ 64 := by omega
  -- the same header says how long the payload is, so nothing of it is missing
  have length : held.length = payload.length := by
    rw [(verifyPayload_eq_ok_iff.1 verified).1, header]
    exact UInt64.toNat_ofNat_of_lt' short
  obtain ⟨same, _⟩ := List.append_inj (joined.trans (List.append_nil payload).symm) length
  rw [header, same] at decoded
  rw [header] at current
  rw [whole current.signature (by rw [List.length_append]; exact fits)] at decoded
  cases decoded
  rfl

/-- What is written for an artifact under a fingerprint is read back as the same artifact under the
same fingerprint, with the format version and the length and checksum of what follows the header. -/
theorem decode_encode {a : Artifact} {f : Fingerprint} {bytes : Bytes}
    (limit : f.toolchain.length ≤ Signature.maxLength) (fits : bytes.length < 2 ^ 63)
    (h : encode a f = .ok bytes) :
    ∃ header, Entry.decode bytes = .ok ⟨header, a⟩ ∧ header.version = Header.formatVersion ∧
      header.fingerprint = f ∧ header.payloadChecksum = crc32 (bytes.drop header.encodedLength) ∧
      header.encodedLength + header.payloadLength.toNat = bytes.length := by
  obtain ⟨payload, written⟩ := encode_eq_ok_iff.1 h
  have header := Header.length_bytes (Header.forPayload f payload)
  have decoded := written.decode limit (by omega)
  obtain ⟨_, _, _, rfl⟩ := written
  have short : payload.length < 2 ^ 64 := by
    rw [List.length_append] at fits
    omega
  have length : (Header.forPayload f payload).payloadLength.toNat = payload.length :=
    UInt64.toNat_ofNat_of_lt' short
  refine ⟨_, decoded, rfl, rfl, ?_, ?_⟩
  · rw [← header, List.drop_left]
    rfl
  · rw [List.length_append, header, length]

/-- The sample artifact is encoded under every signature whose length is in range. -/
theorem written_sample {f : Fingerprint} (short : f.toolchain.length < 2 ^ 32) :
    Written Sample.artifact f Sample.payload
      ((Header.forPayload f Sample.payload).bytes ++ Sample.payload) where
  valid := by decide +kernel
  encoded := by decide +kernel
  signature := short
  bytes := rfl

theorem encode_sample : encode Sample.artifact Sample.fingerprint = .ok Sample.entry := by
  have length : Sample.payload.length = 205 := by decide +kernel
  have header : Header.forPayload Sample.fingerprint Sample.payload = Sample.header := by
    rw [Header.forPayload, crc32_sample, length]
    rfl
  have written : Written Sample.artifact Sample.fingerprint Sample.payload _ :=
    written_sample (by decide)
  rw [header, ← entry_sample] at written
  exact encode_eq_ok_iff.2 ⟨_, written⟩

theorem decode_encode_sample : Sample.fingerprint.toolchain.length ≤ Signature.maxLength ∧
    Sample.entry.length < 2 ^ 63 ∧ encode Sample.artifact Sample.fingerprint = .ok Sample.entry ∧
    ∃ header, decode Sample.entry = .ok ⟨header, Sample.artifact⟩ ∧
      header.version = Header.formatVersion ∧ header.fingerprint = Sample.fingerprint ∧
      header.payloadChecksum = crc32 (Sample.entry.drop header.encodedLength) ∧
      header.encodedLength + header.payloadLength.toNat = Sample.entry.length := by
  have limit : Sample.fingerprint.toolchain.length ≤ Signature.maxLength := by decide
  have fits : Sample.entry.length < 2 ^ 63 := by decide +kernel
  exact ⟨limit, fits, encode_sample, decode_encode limit fits encode_sample⟩

end Entry

end BitcodeCache
