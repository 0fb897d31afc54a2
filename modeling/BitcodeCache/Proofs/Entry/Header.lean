import BitcodeCache.Entry.Header
import BitcodeCache.Proofs.Entry.Field

/-!
# Headers have one written form

Reading accepts a header exactly where its written form stands at the front of the bytes, and the
written form tells where it ends: two headers that start the same bytes are the same. Reading looks
no further than `prefixLength` bytes and the bytes that the signature length among them asks for.
-/

namespace BitcodeCache.Header

open FieldReader

/-- What reading asks of a header: the current version, and a signature within the limit. -/
structure IsCurrent (h : Header) : Prop where
  version : h.version = formatVersion
  signature : h.fingerprint.toolchain.length ≤ Signature.maxLength

/-- The length of a signature within the limit fits its field. -/
theorem IsCurrent.length_lt {h : Header} (current : h.IsCurrent) :
    h.fingerprint.toolchain.length < 2 ^ 32 := by
  have := current.signature
  rw [Signature.maxLength] at this
  omega

/-- A header is read exactly if it is current and its bytes stand first. -/
theorem read_eq_ok_iff {bytes rest : Bytes} {h : Header} :
    read bytes = .ok (h, rest) ↔ h.IsCurrent ∧ bytes = h.bytes ++ rest := by
  simp only [read, bind_eq_ok_iff, word32_eq_ok_iff, word64_eq_ok_iff, int64_eq_ok_iff,
    digest_eq_ok_iff, require_eq_ok_iff, take_eq_ok_iff, pure_eq_ok_iff, beq_iff_eq,
    decide_eq_true_eq]
  constructor
  · rintro ⟨_, _, rfl, _, _, ⟨rfl, rfl⟩, version, _, rfl, _, _, ⟨current, rfl⟩, digest, _, rfl,
      time, _, rfl, crc, _, rfl, length, _, rfl, _, _, ⟨limit, rfl⟩, signature, _, ⟨same, rfl⟩,
      payloadLength, _, rfl, payloadChecksum, _, rfl, rfl, rfl⟩
    have fits : signature.length ≤ Signature.maxLength := by rw [same]; exact limit
    refine ⟨⟨current, fits⟩, ?_⟩
    simp only [Header.bytes, Signature.length, same, List.append_assoc, Bytes.ofUInt32]
  · rintro ⟨current, rfl⟩
    have held := UInt32.toNat_ofNat_of_lt' current.length_lt
    have limit := current.signature
    simp only [Header.bytes, ← Bytes.ofUInt32_ofNat current.length_lt, List.append_assoc]
    exact ⟨_, _, rfl, (), _, ⟨rfl, rfl⟩, _, _, rfl, (), _, ⟨current.version, rfl⟩, _, _, rfl, _, _,
      rfl, _, _, rfl, _, _, rfl, (), _, ⟨by rw [held]; exact limit, rfl⟩, _, _, ⟨held.symm, rfl⟩,
      _, _, rfl, _, _, rfl, rfl, rfl⟩

/-- What follows a header is not looked at. -/
theorem decode_bytes_append {h : Header} (current : h.IsCurrent) (rest : Bytes) :
    decode (h.bytes ++ rest) = .ok h := by
  rw [decode, read_eq_ok_iff.2 ⟨current, rfl⟩]
  rfl

/-! ## Where a header ends -/

/-- The bytes of a header end where its own fields say, whatever follows them. -/
theorem bytes_append_inj {h k : Header} {xs ys : Bytes}
    (hh : h.fingerprint.toolchain.length < 2 ^ 32) (hk : k.fingerprint.toolchain.length < 2 ^ 32)
    (same : h.bytes ++ xs = k.bytes ++ ys) : h = k ∧ xs = ys := by
  obtain ⟨version, ⟨digest, time, crc, ⟨signature⟩⟩, payloadLength, payloadChecksum⟩ := h
  obtain ⟨version', ⟨digest', time', crc', ⟨signature'⟩⟩, payloadLength', payloadChecksum'⟩ := k
  simp only [Header.bytes, List.append_assoc, ← Bytes.ofUInt32_ofNat hh,
    ← Bytes.ofUInt32_ofNat hk, Bytes.ofUInt32_append_inj, Bytes.ofInt64_append_inj,
    Bytes.digest_append_inj, true_and] at same
  obtain ⟨rfl, rfl, rfl, rfl, length, same⟩ := same
  have lengths : signature.length = signature'.length := by
    have := congrArg UInt32.toNat length
    rwa [UInt32.toNat_ofNat_of_lt' hh, UInt32.toNat_ofNat_of_lt' hk] at this
  obtain ⟨rfl, tail⟩ := List.append_inj same lengths
  obtain ⟨rfl, rest⟩ := Bytes.ofUInt64_append_inj.1 tail
  obtain ⟨rfl, rfl⟩ := Bytes.ofUInt32_append_inj.1 rest
  exact ⟨rfl, rfl⟩

/-! ## How far reading looks -/

/-- The fields before the signature. -/
structure Start where
  version : UInt32
  contentDigest : Digest
  modTime : Int64
  crc32 : UInt32
  length : UInt32

/-- Takes the fields before the signature, with the checks on them. -/
def readStart : FieldReader Start := do
  let found ← word32 .header
  require (found == magic) (.badMagic found)
  let version ← word32 .header
  require (version == formatVersion) (.unsupportedVersion version formatVersion)
  let contentDigest ← digest .header
  let modTime ← int64 .header
  let crc32 ← word32 .header
  let length ← word32 .header
  pure ⟨version, contentDigest, modTime, crc32, length⟩

/-- Takes the signature, if its length is within the limit, and the fields after it. -/
def readEnd (start : Start) : FieldReader Header := do
  require (start.length.toNat ≤ Signature.maxLength)
    (.badLength .signature (.overLimit start.length.toNat Signature.maxLength))
  let signature ← take .signature start.length.toNat
  let payloadLength ← word64 .header
  let payloadChecksum ← word32 .header
  pure ⟨start.version, ⟨start.contentDigest, start.modTime, start.crc32, ⟨signature⟩⟩,
    payloadLength, payloadChecksum⟩

/-- Reading goes up to the signature length first, and the length says how far the rest goes. -/
theorem read_eq_start_end : read = readStart >>= readEnd := by
  simp only [read, readStart, readEnd, bind_assoc, pure_bind]

/-- The fields before the signature take the width of the prefix. -/
theorem hasWidth_readStart : HasWidth readStart prefixLength :=
  (HasWidth.word32 _).bind fun _ => (HasWidth.require _ _).bind fun _ =>
    (HasWidth.word32 _).bind fun _ => (HasWidth.require _ _).bind fun _ =>
    (HasWidth.digest _).bind fun _ => (HasWidth.int64 _).bind fun _ =>
    (HasWidth.word32 _).bind fun _ => (HasWidth.word32 _).bind fun _ => .pure _

/-- The signature and the fields after it take what the length says. -/
theorem hasWidth_readEnd (start : Start) :
    HasWidth (readEnd start) (start.length.toNat + tailLength) := by
  rw [← Nat.zero_add (_ + _)]
  exact (HasWidth.require _ _).bind fun _ => (HasWidth.take _ _).bind fun _ =>
    (HasWidth.word64 _).bind fun _ => (HasWidth.word32 _).bind fun _ => .pure _

/-- A signature over the limit is refused before any of it is read. -/
theorem readEnd_of_lt {start : Start} (long : Signature.maxLength < start.length.toNat)
    (bytes : Bytes) : readEnd start bytes =
      .error (.badLength .signature (.overLimit start.length.toNat Signature.maxLength)) := by
  rw [readEnd, bind_apply, require, if_neg (by simpa using long)]
  rfl

/-- The signature length is the last of the fields that `readStart` takes. -/
theorem length_of_readStart {bytes rest : Bytes} {start : Start}
    (h : readStart bytes = .ok (start, rest)) :
    ∃ fields : Bytes, fields.length = prefixLength - 4 ∧
      bytes = fields ++ Bytes.ofUInt32 start.length ++ rest := by
  simp only [readStart, bind_eq_ok_iff, word32_eq_ok_iff, int64_eq_ok_iff, digest_eq_ok_iff,
    require_eq_ok_iff, pure_eq_ok_iff] at h
  obtain ⟨magic, _, rfl, _, _, ⟨_, rfl⟩, version, _, rfl, _, _, ⟨_, rfl⟩, digest, _, rfl, time, _,
    rfl, crc, _, rfl, length, _, rfl, rfl, rfl⟩ := h
  refine ⟨Bytes.ofUInt32 magic ++ Bytes.ofUInt32 version ++ digest.bytes ++ Bytes.ofInt64 time ++
    Bytes.ofUInt32 crc, ?_, ?_⟩
  · simp [digest.length_eq, prefixLength]
  · simp only [List.append_assoc]

/-- The length that the prefix ends with says how many bytes the header has left. -/
theorem remainder?_eq_some {fields : Bytes} {length : UInt32}
    (h : fields.length = prefixLength - 4) (limit : length.toNat ≤ Signature.maxLength) :
    remainder? (fields ++ Bytes.ofUInt32 length) = some (length.toNat + tailLength) := by
  have whole : (fields ++ Bytes.ofUInt32 length).length = prefixLength := by
    rw [List.length_append, h, Bytes.length_ofUInt32]
    rfl
  have field : ((fields ++ Bytes.ofUInt32 length).take prefixLength).drop (prefixLength - 4) =
      Bytes.ofUInt32 length := by
    rw [← whole, List.take_length, whole, ← h, List.drop_left]
  have bound : length.toNat < 256 ^ 4 := length.toNat_lt
  have value : (Bytes.ofUInt32 length).toNat = length.toNat := by
    rw [Bytes.ofUInt32, Bytes.toNat_ofNat, Nat.mod_eq_of_lt bound]
  rw [remainder?, if_pos (Nat.le_of_eq whole.symm)]
  simp only [field, value, limit, if_true]

/-- The fields before the signature length. -/
def front (h : Header) : Bytes :=
  Bytes.ofUInt32 magic ++ Bytes.ofUInt32 h.version ++ h.fingerprint.contentDigest.bytes ++
    Bytes.ofInt64 h.fingerprint.modTime ++ Bytes.ofUInt32 h.fingerprint.crc32

/-- Before the signature length stand all bytes of the prefix but four. -/
theorem length_front (h : Header) : h.front.length = prefixLength - 4 := by
  simp [front, h.fingerprint.contentDigest.length_eq, prefixLength]

/-- The signature length stands between the front of a header and the signature. -/
theorem bytes_eq_front (h : Header) : h.bytes =
    h.front ++ Bytes.ofNat 4 h.fingerprint.toolchain.length ++
      (h.fingerprint.toolchain.bytes ++ Bytes.ofUInt64 h.payloadLength ++
        Bytes.ofUInt32 h.payloadChecksum) := by
  simp only [Header.bytes, front, List.append_assoc]

/-- A current header has as many bytes as `remainder?` asks for. -/
theorem remainder?_of_isCurrent {h : Header} (current : h.IsCurrent) (rest : Bytes) :
    remainder? ((h.bytes ++ rest).take prefixLength) =
      some (h.fingerprint.toolchain.length + tailLength) := by
  have held := UInt32.toNat_ofNat_of_lt' current.length_lt
  have width : (h.front ++ Bytes.ofNat 4 h.fingerprint.toolchain.length).length = prefixLength := by
    rw [List.length_append, h.length_front, Bytes.length_ofNat]
    rfl
  have limit : (UInt32.ofNat h.fingerprint.toolchain.length).toNat ≤ Signature.maxLength := by
    rw [held]
    exact current.signature
  rw [bytes_eq_front, List.append_assoc, List.take_left' width,
    ← Bytes.ofUInt32_ofNat current.length_lt, remainder?_eq_some h.length_front limit, held]

/-- Bytes after those that `remainder?` asks for change nothing. -/
theorem decode_take {bytes : Bytes} {k : Nat} (start : prefixLength ≤ k)
    (tail : ∀ n, remainder? (bytes.take prefixLength) = some n → prefixLength + n ≤ k) :
    decode (bytes.take k) = decode bytes := by
  have cut := hasWidth_readStart bytes k start
  rw [decode, decode, read_eq_start_end, bind_apply, bind_apply, cut]
  cases read : readStart bytes with
  | error fault => rfl
  | ok p =>
    obtain ⟨fields, rest⟩ := p
    obtain ⟨front, width, rfl⟩ := length_of_readStart read
    change Prod.fst <$> readEnd fields (rest.take (k - prefixLength)) =
      Prod.fst <$> readEnd fields rest
    by_cases limit : fields.length.toNat ≤ Signature.maxLength
    · have held : (front ++ Bytes.ofUInt32 fields.length).length = prefixLength := by
        rw [List.length_append, width, Bytes.length_ofUInt32]
        rfl
      have asked := tail _ (by
        rw [← held, List.take_left]
        exact remainder?_eq_some width limit)
      rw [hasWidth_readEnd fields rest (k - prefixLength) (by omega)]
      cases readEnd fields rest <;> rfl
    · rw [readEnd_of_lt (by omega), readEnd_of_lt (by omega)]

/-! ## One header, one form -/

/-- A number fits exactly if it is a word of 32 bits. -/
theorem fitWord32_eq_ok_iff {region : Region} {n : Nat} {u : Unit} :
    fitWord32 region n = .ok u ↔ n < 2 ^ 32 := by
  unfold fitWord32
  split
  · exact ⟨fun _ => ‹_›, fun _ => rfl⟩
  · exact ⟨nofun, fun fits => absurd fits ‹_›⟩

theorem fitWord32_of_lt {n : Nat} (region : Region) (fits : n < 2 ^ 32) :
    fitWord32 region n = .ok () := fitWord32_eq_ok_iff.2 fits

/-- A header is written as it is if its signature length fits. -/
theorem encode_of_lt {h : Header} (fits : h.fingerprint.toolchain.length < 2 ^ 32) :
    h.encode = .ok h.bytes := by
  rw [encode, fitWord32_of_lt _ fits]
  rfl

/-- A header is found at the front of the bytes that start with its written form, and nowhere else. -/
theorem decode_eq_ok_iff {bytes : Bytes} {h : Header} :
    decode bytes = .ok h ↔ h.IsCurrent ∧ h.bytes <+: bytes := by
  constructor
  · intro decoded
    cases start : read bytes with
    | error fault =>
      rw [decode, start] at decoded
      cases decoded
    | ok p =>
      rw [decode, start] at decoded
      cases decoded
      obtain ⟨current, split⟩ := read_eq_ok_iff.1 start
      exact ⟨current, p.2, split.symm⟩
  · rintro ⟨current, rest, rfl⟩
    exact decode_bytes_append current rest

/-- The header that is found has the bytes in front of it as its only written form. They end where
its length says, which is where reading stops and where the bytes asked for after the prefix end, and
they alone settle what is found. And what is written for a header of version 1 with a signature
within the limit is found as this header, whatever follows. -/
theorem decode_canonical :
    (∀ {bytes : Bytes} {h : Header}, decode bytes = .ok h →
      h.encodedLength ≤ bytes.length ∧
      h.encode = .ok (bytes.take h.encodedLength) ∧
      read bytes = .ok (h, bytes.drop h.encodedLength) ∧
      remainder? (bytes.take 44) = some (h.encodedLength - 44) ∧
      ∀ others : Bytes, others.take h.encodedLength = bytes.take h.encodedLength →
        decode others = .ok h) ∧
    ∀ h : Header, h.version = 1 → h.fingerprint.toolchain.length ≤ 4096 →
      ∃ field, h.encode = .ok field ∧ field.length = h.encodedLength ∧
        ∀ rest, decode (field ++ rest) = .ok h := by
  constructor
  · intro bytes h decoded
    obtain ⟨current, rest, rfl⟩ := decode_eq_ok_iff.1 decoded
    have front : (h.bytes ++ rest).take h.encodedLength = h.bytes := List.take_left' h.length_bytes
    have behind : (h.bytes ++ rest).drop h.encodedLength = rest := List.drop_left' h.length_bytes
    have asked : h.encodedLength - 44 = h.fingerprint.toolchain.length + tailLength := by
      rw [encodedLength, prefixLength]
      omega
    rw [front, behind, asked]
    refine ⟨?_, encode_of_lt current.length_lt, read_eq_ok_iff.2 ⟨current, rfl⟩,
      remainder?_of_isCurrent current rest, fun others same => ?_⟩
    · rw [List.length_append, h.length_bytes]
      omega
    · exact decode_eq_ok_iff.2 ⟨current, same ▸ List.take_prefix _ _⟩
  · intro h version limit
    have current : h.IsCurrent := ⟨version, limit⟩
    exact ⟨h.bytes, encode_of_lt current.length_lt, h.length_bytes, decode_bytes_append current⟩

/-- A header with every number at an end of its range. -/
def extreme : Header :=
  ⟨1, ⟨⟨List.replicate 20 255, rfl⟩, Int64.minValue, 0, ⟨[0x74]⟩⟩, UInt64.ofNat (2 ^ 64 - 1),
    0xFFFFFFFF⟩

/-- Another byte behind the header is not looked at, and the bytes are those of the header again. -/
theorem decode_canonical_extreme :
    (extreme.version = 1 ∧ extreme.fingerprint.toolchain.length ≤ 4096) ∧
    decode (extreme.bytes ++ [0x6F]) = .ok extreme ∧
    extreme.encode = .ok ((extreme.bytes ++ [0x6F]).take 57) ∧
    read (extreme.bytes ++ [0x6F]) = .ok (extreme, [0x6F]) ∧
    remainder? ((extreme.bytes ++ [0x6F]).take 44) = some 13 ∧
    extreme.bytes.take 57 = (extreme.bytes ++ [0x6F]).take 57 ∧ decode extreme.bytes = .ok extreme := by
  obtain ⟨found, written⟩ := decode_canonical
  obtain ⟨field, encoded, _, anywhere⟩ := written extreme rfl (by decide)
  cases (encode_of_lt (h := extreme) (by decide)).symm.trans encoded
  obtain ⟨_, again, stop, asked, settled⟩ := found (anywhere [0x6F])
  have same : extreme.bytes.take 57 = (extreme.bytes ++ [0x6F]).take 57 := by decide
  exact ⟨⟨rfl, by decide⟩, anywhere [0x6F], again, stop, asked, same, settled _ same⟩

end BitcodeCache.Header
