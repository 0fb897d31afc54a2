import BitcodeCache.Proofs.Entry.Damage

/-!
# Entries that are cut or grow

No accepted file is the beginning of another one. The fields of an entry follow each other without
gaps, so a cut leaves some field incomplete, `FieldLayout.cut`, and reading stops exactly there with
the numbers of that field. Bytes behind an entry are all counted as trailing.
-/

namespace BitcodeCache

/-- The fields of some bytes in their order, each with its region and its number of bytes. -/
abbrev FieldLayout := List (Region × Nat)

namespace FieldLayout

/-- The number of bytes of all fields. -/
def width : FieldLayout → Nat
  | [] => 0
  | (_, n) :: fields => n + width fields

/-- The fault of the first `n` bytes alone: the first field that is not all there, with what is there
of it. -/
def cut : FieldLayout → Nat → Option DecodeError
  | [], _ => none
  | (region, width) :: fields, n =>
    if n < width then some (.truncated region width n) else cut fields (n - width)

theorem width_append (fields more : FieldLayout) :
    width (fields ++ more) = fields.width + more.width := by
  induction fields with
  | nil => simp [width]
  | cons field fields ih => rw [List.cons_append, width, width, ih, Nat.add_assoc]

/-- A cut in the first fields is not seen by the ones that follow. -/
theorem cut_append_of_lt {fields more : FieldLayout} {n : Nat} (inside : n < fields.width) :
    cut (fields ++ more) n = fields.cut n := by
  induction fields generalizing n with
  | nil => cases inside
  | cons field fields ih =>
    obtain ⟨region, w⟩ := field
    rw [width] at inside
    rw [List.cons_append, cut, cut]
    by_cases first : n < w
    · rw [if_pos first, if_pos first]
    · rw [if_neg first, if_neg first]
      apply ih
      omega

/-- A cut behind the first fields lies in the ones that follow. -/
theorem cut_append_of_le {fields more : FieldLayout} {n : Nat} (behind : fields.width ≤ n) :
    cut (fields ++ more) n = cut more (n - fields.width) := by
  induction fields generalizing n with
  | nil => rfl
  | cons field fields ih =>
    obtain ⟨region, w⟩ := field
    rw [width] at behind
    have rest : width fields ≤ n - w := by omega
    rw [List.cons_append, cut, if_neg (by omega), ih rest, Nat.sub_sub]
    rfl

/-- A cut among fields of one region is a fault of that region. -/
theorem exists_cut {fields : FieldLayout} {region : Region} {n : Nat}
    (same : ∀ field ∈ fields, field.1 = region) (inside : n < fields.width) :
    ∃ needed available, fields.cut n = some (.truncated region needed available) ∧
      available < needed := by
  induction fields generalizing n with
  | nil => cases inside
  | cons field fields ih =>
    obtain ⟨r, w⟩ := field
    obtain ⟨rfl, same⟩ := List.forall_mem_cons.1 same
    rw [width] at inside
    rw [cut]
    by_cases first : n < w
    · rw [if_pos first]
      exact ⟨w, n, rfl, first⟩
    · rw [if_neg first]
      apply ih same
      omega

end FieldLayout

namespace FieldReader

variable {α β : Type} {reader : FieldReader α} {fields : FieldLayout} {bytes : Bytes} {a : α}

/-! ## Readers on cut fields -/

/-- A reader takes the fields, which stand in `bytes`: it gives the value where they are all there,
whatever follows, and the fault of the cut where they are not. -/
structure Takes (reader : FieldReader α) (fields : FieldLayout) (bytes : Bytes) (a : α) : Prop where
  width : bytes.length = fields.width
  whole : ∀ rest, reader (bytes ++ rest) = .ok (a, rest)
  short : ∀ {n fault}, fields.cut n = some fault → reader (bytes.take n) = .error fault

/-- A value that is changed after reading takes the same fields. -/
theorem Takes.map (h : Takes reader fields bytes a) (f : α → β) :
    Takes (f <$> reader) fields bytes (f a) where
  width := h.width
  whole := fun rest => by
    show (reader (bytes ++ rest) >>= fun p => Except.ok (f p.1, p.2)) = _
    rw [h.whole]
    rfl
  short := fun {n fault} cut => by
    show (reader (bytes.take n) >>= fun p => Except.ok (f p.1, p.2)) = _
    rw [h.short cut]
    rfl

theorem Takes.pure (a : α) : Takes (pure a) [] [] a where
  width := rfl
  whole := fun _ => rfl
  short := nofun

/-- One reader after another takes the fields of both. A cut in the second part leaves the first one
whole. -/
theorem Takes.bind {next : α → FieldReader β} {more : FieldLayout} {behind : Bytes} {b : β}
    (first : Takes reader fields bytes a) (second : Takes (next a) more behind b) :
    Takes (reader >>= next) (fields ++ more) (bytes ++ behind) b where
  width := by rw [List.length_append, first.width, second.width, FieldLayout.width_append]
  whole := fun rest => by
    rw [bind_apply, List.append_assoc, first.whole]
    exact second.whole rest
  short := fun {n fault} cut => by
    rw [bind_apply]
    by_cases inside : n < fields.width
    · rw [FieldLayout.cut_append_of_lt inside] at cut
      have front : (bytes ++ behind).take n = bytes.take n := by
        apply List.take_append_of_le_length
        rw [first.width]
        omega
      rw [front, first.short cut]
      rfl
    · rw [FieldLayout.cut_append_of_le (by omega)] at cut
      have split : (bytes ++ behind).take n = bytes ++ behind.take (n - fields.width) := by
        rw [List.take_append, first.width, List.take_of_length_le]
        rw [first.width]
        omega
      rw [split, first.whole]
      exact second.short cut

/-- A condition that holds takes no bytes. -/
theorem Takes.check {condition : Bool} {fault : DecodeError} {next : Unit → FieldReader β} {b : β}
    (holds : condition = true) (rest : Takes (next ()) fields bytes b) :
    Takes (require condition fault >>= next) fields bytes b := by
  rw [require, if_pos holds]
  exact rest

/-- A reader of a single field before another one. -/
theorem Takes.field {next : α → FieldReader β} {region : Region} {width : Nat} {more : FieldLayout}
    {behind : Bytes} {b : β} (first : Takes reader [(region, width)] bytes a)
    (rest : Takes (next a) more behind b) :
    Takes (reader >>= next) ((region, width) :: more) (bytes ++ behind) b := first.bind rest

/-! ## Single fields -/

/-- A cut in a single field is a fault with the width of the field and the bytes there are. -/
theorem cut_singleton {region : Region} {width n : Nat} {fault : DecodeError}
    (cut : FieldLayout.cut [(region, width)] n = some fault) :
    n < width ∧ fault = .truncated region width n := by
  rw [FieldLayout.cut] at cut
  split at cut
  · rename_i inside
    cases cut
    exact ⟨inside, rfl⟩
  · cases cut

theorem Takes.take (region : Region) (field : Bytes) :
    Takes (take region field.length) [(region, field.length)] field field where
  width := by simp [FieldLayout.width]
  whole := take_append region field
  short := fun {n fault} cut => by
    obtain ⟨inside, rfl⟩ := cut_singleton cut
    have held : (field.take n).length = n := List.length_take_of_le (by omega)
    rw [take_short (by omega), held]

/-- A value that is read from a field is taken with the width of the field. -/
theorem Takes.map_take {value : Bytes → α} {write : α → Bytes} {n : Nat}
    (lengths : ∀ a, (write a).length = n) (value_write : ∀ a, value (write a) = a)
    (region : Region) (a : α) : Takes (value <$> FieldReader.take region n) [(region, n)] (write a) a := by
  have taken := (Takes.take region (write a)).map value
  rwa [lengths, value_write] at taken

theorem Takes.word32 (region : Region) (w : UInt32) :
    Takes (word32 region) [(region, 4)] (Bytes.ofUInt32 w) w :=
  .map_take Bytes.length_ofUInt32 Bytes.toUInt32_ofUInt32 region w

theorem Takes.word64 (region : Region) (w : UInt64) :
    Takes (word64 region) [(region, 8)] (Bytes.ofUInt64 w) w :=
  .map_take Bytes.length_ofUInt64 Bytes.toUInt64_ofUInt64 region w

theorem Takes.int64 (region : Region) (n : Int64) :
    Takes (int64 region) [(region, 8)] (Bytes.ofInt64 n) n :=
  .map_take Bytes.length_ofInt64 Bytes.toInt64_ofInt64 region n

theorem Takes.digest (region : Region) (d : Digest) :
    Takes (digest region) [(region, 20)] d.bytes d where
  width := d.length_eq
  whole := fun _ => digest_eq_ok_iff.2 rfl
  short := fun {n fault} cut => by
    obtain ⟨inside, rfl⟩ := cut_singleton cut
    have held : (d.bytes.take n).length = n :=
      List.length_take_of_le (by rw [d.length_eq]; omega)
    have short : ¬ 20 ≤ (d.bytes.take n).length := by omega
    rw [FieldReader.digest, dif_neg short, held]

end FieldReader

/-! ## Headers -/

namespace Header

/-- The fields of a header. -/
def fields (h : Header) : FieldLayout :=
  [(.header, 4), (.header, 4), (.header, 20), (.header, 8), (.header, 4), (.header, 4),
    (.signature, h.fingerprint.toolchain.length), (.header, 8), (.header, 4)]

open FieldReader in
/-- Reading takes a current header field by field. -/
theorem takes_read {h : Header} (current : h.IsCurrent) : Takes read h.fields h.bytes h := by
  have held := UInt32.toNat_ofNat_of_lt' current.length_lt
  have limit : (UInt32.ofNat h.fingerprint.toolchain.length).toNat ≤ Signature.maxLength := by
    rw [held]
    exact current.signature
  have signature : Takes (take .signature (UInt32.ofNat h.fingerprint.toolchain.length).toNat)
      [(.signature, h.fingerprint.toolchain.length)] h.fingerprint.toolchain.bytes
      h.fingerprint.toolchain.bytes := by
    rw [held]
    exact .take .signature _
  have bytes : h.bytes = Bytes.ofUInt32 magic ++ (Bytes.ofUInt32 h.version ++
      (h.fingerprint.contentDigest.bytes ++ (Bytes.ofInt64 h.fingerprint.modTime ++
      (Bytes.ofUInt32 h.fingerprint.crc32 ++
      (Bytes.ofUInt32 (UInt32.ofNat h.fingerprint.toolchain.length) ++
      (h.fingerprint.toolchain.bytes ++ (Bytes.ofUInt64 h.payloadLength ++
      (Bytes.ofUInt32 h.payloadChecksum ++ [])))))))) := by
    simp only [Header.bytes, Bytes.ofUInt32_ofNat current.length_lt, List.append_assoc,
      List.append_nil]
  rw [bytes]
  unfold read fields
  refine .field (.word32 _ _) (.check (beq_self_eq_true _) ?_)
  refine .field (.word32 _ _) (.check (beq_iff_eq.2 current.version) ?_)
  refine .field (.digest _ _) (.field (.int64 _ _) (.field (.word32 _ _) ?_))
  refine .field (.word32 _ _) (.check (decide_eq_true limit) ?_)
  exact .field signature (.field (.word64 _ _) (.field (.word32 _ _) (.pure _)))

end Header

/-! ## Entries -/

namespace Entry

open Format

/-- The fields of an entry, as far as the header tells them apart: its own, and the payload as one. -/
def fields (h : Header) : FieldLayout := h.fields ++ [(.payload, h.payloadLength.toNat)]

/-- The region of the first byte that is missing behind `n` bytes of an entry. -/
def regionAt (h : Header) (n : Nat) : Region :=
  if n < Header.prefixLength then .header
  else if n < Header.prefixLength + h.fingerprint.toolchain.length then .signature
  else if n < h.encodedLength then .header
  else .payload

/-- A cut inside an entry leaves a field of the region that the cut lies in incomplete. -/
theorem exists_cut_fields {h : Header} {n : Nat}
    (inside : n < h.encodedLength + h.payloadLength.toNat) :
    ∃ needed available, (fields h).cut n = some (.truncated (regionAt h n) needed available) ∧
      available < needed := by
  let start : FieldLayout :=
    [(.header, 4), (.header, 4), (.header, 20), (.header, 8), (.header, 4), (.header, 4)]
  let signature : FieldLayout := [(.signature, h.fingerprint.toolchain.length)]
  let tail : FieldLayout := [(.header, 8), (.header, 4)]
  have groups : fields h = start ++ (signature ++ (tail ++ [(.payload, h.payloadLength.toNat)])) := rfl
  have startWidth : start.width = Header.prefixLength := rfl
  have signatureWidth : signature.width = h.fingerprint.toolchain.length := by
    simp [signature, FieldLayout.width]
  have tailWidth : tail.width = Header.tailLength := rfl
  rw [groups]
  unfold regionAt
  unfold Header.encodedLength at inside ⊢
  by_cases inStart : n < Header.prefixLength
  · rw [if_pos inStart, FieldLayout.cut_append_of_lt (by omega)]
    exact FieldLayout.exists_cut (by simp [start]) (by omega)
  rw [if_neg inStart, FieldLayout.cut_append_of_le (by omega), startWidth]
  by_cases inSignature : n < Header.prefixLength + h.fingerprint.toolchain.length
  · rw [if_pos inSignature, FieldLayout.cut_append_of_lt (by omega)]
    exact FieldLayout.exists_cut (by simp [signature]) (by omega)
  rw [if_neg inSignature, FieldLayout.cut_append_of_le (by omega), signatureWidth]
  by_cases inTail : n < Header.prefixLength + h.fingerprint.toolchain.length + Header.tailLength
  · rw [if_pos inTail, FieldLayout.cut_append_of_lt (by omega)]
    exact FieldLayout.exists_cut (by simp [tail]) (by omega)
  · rw [if_neg inTail, FieldLayout.cut_append_of_le (by omega), tailWidth]
    apply FieldLayout.exists_cut
    · simp
    · rw [FieldLayout.width, FieldLayout.width]
      omega

variable {h : Header} {payload : Bytes}

/-- An entry that was cut is refused for the field that is not all there. What can be read of its
header is the header. -/
theorem decode_take_of_cut (current : h.IsCurrent) (length : payload.length = h.payloadLength.toNat)
    {n : Nat} {fault : DecodeError} (cut : (fields h).cut n = some fault) :
    decode ((h.bytes ++ payload).take n) = .error fault ∧
      ∀ header, Header.decode ((h.bytes ++ payload).take n) = .ok header → header = h := by
  have taken := Header.takes_read current
  have width := taken.width
  unfold fields at cut
  by_cases inHeader : n < h.fields.width
  · rw [FieldLayout.cut_append_of_lt inHeader] at cut
    have front : (h.bytes ++ payload).take n = h.bytes.take n :=
      List.take_append_of_le_length (by omega)
    have refused : Header.decode (h.bytes.take n) = .error fault := by
      rw [Header.decode, taken.short cut]
      rfl
    rw [front]
    refine ⟨decode_of_header_decode_error refused, fun header start => ?_⟩
    rw [refused] at start
    cases start
  · rw [FieldLayout.cut_append_of_le (by omega)] at cut
    obtain ⟨inPayload, rfl⟩ := FieldReader.cut_singleton cut
    have split : (h.bytes ++ payload).take n = h.bytes ++ payload.take (n - h.fields.width) := by
      rw [List.take_append, width, List.take_of_length_le (by omega)]
    have held : (payload.take (n - h.fields.width)).length = n - h.fields.width :=
      List.length_take_of_le (by omega)
    rw [split]
    constructor
    · apply decode_of_verifyPayload_error current
      simp only [verifyPayload, held, inPayload, if_true]
    · intro header start
      rw [Header.decode_bytes_append current] at start
      cases start
      rfl

/-- An entry with bytes behind it is refused for their number. -/
theorem decode_append_of_ne_nil (current : h.IsCurrent)
    (length : payload.length = h.payloadLength.toNat) {tail : Bytes} (some : tail ≠ []) :
    decode (h.bytes ++ payload ++ tail) = .error (.badLength .payload (.trailing tail.length)) := by
  have more := List.length_pos_of_ne_nil some
  rw [List.append_assoc]
  apply decode_of_verifyPayload_error current
  have enough : ¬ payload.length + tail.length < payload.length := by omega
  have left : payload.length + tail.length - payload.length = tail.length := by omega
  have trailing : payload.length < payload.length + tail.length := by omega
  simp only [verifyPayload, List.length_append, ← length, enough, trailing, left, if_true, if_false]

/-- No beginning of an accepted file is accepted, and nothing is that it is the beginning of. A cut is
a truncation in the region that it lies in, and bytes that were added are trailing bytes of the
payload; a lookup for the fingerprint of the file reports the same fault. -/
theorem decode_of_cut_or_grown {bytes : Bytes} {h : Header} {a : Artifact}
    (decoded : decode bytes = .ok ⟨h, a⟩) :
    (∀ part, part <+: bytes → part ≠ bytes →
      ∃ needed available, available < needed ∧
        (fields h).cut part.length =
          some (.truncated (regionAt h part.length) needed available) ∧
        decode part = .error (.truncated (regionAt h part.length) needed available) ∧
        ∀ disk path, disk.read path = .ok part → tryLoad disk path h.fingerprint =
          .error (.corrupt (.truncated (regionAt h part.length) needed available))) ∧
    ∀ tail, tail ≠ [] →
      decode (bytes ++ tail) = .error (.badLength .payload (.trailing tail.length)) ∧
      ∀ disk path, disk.read path = .ok (bytes ++ tail) → tryLoad disk path h.fingerprint =
        .error (.corrupt (.badLength .payload (.trailing tail.length))) := by
  obtain ⟨payload, current, rfl, verified, _⟩ := decode_eq_ok_iff.1 decoded
  obtain ⟨length, _⟩ := verifyPayload_eq_ok_iff.1 verified
  constructor
  · intro part before other
    have shorter : part.length < h.encodedLength + h.payloadLength.toNat := by
      have size : (h.bytes ++ payload).length = h.encodedLength + h.payloadLength.toNat := by
        rw [List.length_append, h.length_bytes, length]
      have le := before.length_le
      have ne : part.length ≠ (h.bytes ++ payload).length := fun same =>
        other (before.eq_of_length same)
      omega
    obtain ⟨needed, available, cut, less⟩ := exists_cut_fields shorter
    obtain ⟨refused, start⟩ := decode_take_of_cut current length cut
    rw [← List.prefix_iff_eq_take.1 before] at refused start
    refine ⟨needed, available, less, cut, refused, fun disk path readable => ?_⟩
    rw [tryLoad_of_read readable]
    exact load_of_error refused fun header found => by rw [start header found]
  · intro tail some
    have refused := decode_append_of_ne_nil current length some
    refine ⟨refused, fun disk path readable => ?_⟩
    rw [tryLoad_of_read readable]
    rw [List.append_assoc] at refused ⊢
    exact load_of_decode_error current refused

/-- The sample cut inside its signature, cut at the end of its header, and with a byte more. -/
theorem decode_of_cut_or_grown_sample :
    decode Sample.entry = .ok ⟨Sample.header, Sample.artifact⟩ ∧
      decode (Sample.entry.take 45) = .error (.truncated .signature 2 1) ∧
      tryLoad (diskOf (Sample.entry.take 58)) ⟨"sample.oBCC"⟩ Sample.fingerprint =
        .error (.corrupt (.truncated .payload 205 0)) ∧
      tryLoad (diskOf (Sample.entry ++ [0])) ⟨"sample.oBCC"⟩ Sample.fingerprint =
        .error (.corrupt (.badLength .payload (.trailing 1))) := by
  obtain ⟨cuts, tails⟩ := decode_of_cut_or_grown decode_sample
  refine ⟨decode_sample, ?_, ?_, ?_⟩
  · obtain ⟨needed, available, _, cut, refused, _⟩ :=
      cuts (Sample.entry.take 45) (List.take_prefix _ _) (by decide +kernel)
    have known : (fields Sample.header).cut (Sample.entry.take 45).length =
        some (.truncated .signature 2 1) := by decide +kernel
    rw [refused]
    exact congrArg Except.error (Option.some.inj (cut.symm.trans known))
  · obtain ⟨needed, available, _, cut, _, lookups⟩ :=
      cuts (Sample.entry.take 58) (List.take_prefix _ _) (by decide +kernel)
    have known : (fields Sample.header).cut (Sample.entry.take 58).length =
        some (.truncated .payload 205 0) := by decide +kernel
    have lookup := lookups (diskOf (Sample.entry.take 58)) ⟨"sample.oBCC"⟩ (by decide +kernel)
    rwa [Option.some.inj (cut.symm.trans known)] at lookup
  · exact (tails [0] (by decide)).2 (diskOf (Sample.entry ++ [0])) ⟨"sample.oBCC"⟩
      (by decide +kernel)

end Entry

end BitcodeCache
