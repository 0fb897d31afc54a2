import BitcodeCache.Proofs.Entry.Encoding

/-!
# How long payloads are

All of a payload but its strings has a length that the artifact settles: the section table, a count
and rows of one width for each kind of record, and the code. So two payloads of one artifact differ in
length as their strings do, whether they are written by `Payload.encode` or laid out in another way.
-/

namespace BitcodeCache

open Format

/-- Rows of one width, one after another. -/
theorem Bytes.length_flatten {rows : List Bytes} {width : Nat}
    (widths : ∀ row ∈ rows, row.length = width) : rows.flatten.length = width * rows.length := by
  induction rows with
  | nil => rfl
  | cons row rows ih =>
    obtain ⟨here, widths⟩ := List.forall_mem_cons.1 widths
    rw [List.flatten_cons, List.length_append, here, ih widths, List.length_cons, Nat.mul_succ,
      Nat.add_comm]

namespace Payload

/-- The number of bytes of a payload of an artifact with so many bytes of strings. -/
def lengthWith (strings : Nat) (a : Artifact) : Nat :=
  96 + strings + (4 + 20 * a.symbols.length) + (4 + 28 * a.relocations.length) +
    (4 + 24 * a.functions.length) + (4 + 16 * a.pragmas.length) + a.code.length

/-! ## Written payloads -/

theorem length_reference (pool : StringPool) (s : String) : (pool.reference s).length = 8 := by
  simp [StringPool.reference]

/-- A section of records takes a count and so many rows. -/
theorem RecordLayout.length_encode {α : Type} {layout : RecordLayout α} {pool : StringPool}
    (widths : ∀ r, (layout.write pool r).length = layout.width) (records : List α) :
    (layout.encode pool records).length = 4 + layout.width * records.length := by
  have widths : ∀ row ∈ records.map (layout.write pool), row.length = layout.width := by
    intro row member
    obtain ⟨r, _, rfl⟩ := List.mem_map.1 member
    exact widths r
  rw [RecordLayout.encode, List.length_append, Bytes.length_ofNat, List.flatMap_def,
    Bytes.length_flatten widths, List.length_map]

/-- A written payload has the length that is computed for the size of its pool. -/
theorem length_assemble (pool : StringPool) (a : Artifact) :
    (assemble (sections pool a)).length = lengthWith pool.size a := by
  have symbols : (symbolLayout.encode pool a.symbols).length = 4 + 20 * a.symbols.length :=
    RecordLayout.length_encode (fun s => by simp [symbolLayout, length_reference]) _
  have relocations : (relocationLayout.encode pool a.relocations).length =
      4 + 28 * a.relocations.length :=
    RecordLayout.length_encode (fun r => by simp [relocationLayout, length_reference]) _
  have functions : (functionLayout.encode pool a.functions).length =
      4 + 24 * a.functions.length :=
    RecordLayout.length_encode (fun f => by simp [functionLayout, length_reference]) _
  have pragmas : (pragmaLayout.encode pool a.pragmas).length = 4 + 16 * a.pragmas.length :=
    RecordLayout.length_encode (fun p => by simp [pragmaLayout, length_reference]) _
  simp only [assemble, sections, List.length_append, length_table, List.length_map,
    List.length_cons, List.length_nil, List.flatten_cons, List.flatten_nil, StringPool.length_bytes,
    symbols, relocations, functions, pragmas, lengthWith]
  omega

end Payload

namespace Format

/-! ## Payloads in any layout -/

/-- A section of records has the length that its number of records says. -/
theorem IsRecords.length_eq {α : Type} {width : Nat} {isRow : Bytes → α → Prop} {bytes : Bytes}
    {records : List α} (h : IsRecords width isRow bytes records) :
    bytes.length = 4 + width * records.length := by
  obtain ⟨count, rows, _, rowsOf, widths, rfl⟩ := h
  rw [List.length_append, Bytes.length_ofUInt32, Bytes.length_flatten widths, rowsOf.length_eq]

/-- A number of records is read from a field of 32 bits. -/
theorem IsRecords.count_lt {α : Type} {width : Nat} {isRow : Bytes → α → Prop} {bytes : Bytes}
    {records : List α} (h : IsRecords width isRow bytes records) : records.length < 2 ^ 32 := by
  obtain ⟨count, _, same, _⟩ := h
  rw [← same]
  exact count.toNat_lt

/-- Consecutive sections lie inside, so that none of them is cut short. -/
theorem Consecutive.length_slice {payload : Bytes} {start : Nat} {extents : List Extent}
    (h : Consecutive start extents payload.length) :
    ∀ e ∈ extents, (e.slice payload).length = e.length.toNat := by
  induction extents generalizing start with
  | nil => exact fun e member => absurd member List.not_mem_nil
  | cons e es ih =>
    obtain ⟨placed, rest⟩ := h
    have inside := rest.le
    refine List.forall_mem_cons.2 ⟨?_, ih rest⟩
    rw [Extent.slice, List.length_take, List.length_drop]
    omega

/-- An accepted payload has the length that is computed for its strings section, in any layout. -/
theorem HasTable.length_eq {payload : Bytes} {t : SectionTable} {a : Artifact}
    (h : HasTable payload t a) :
    payload.length = Payload.lengthWith (t.strings.slice payload).length a := by
  have lengths := h.consecutive.length_slice
  have whole := h.consecutive
  simp only [SectionTable.extents, List.forall_mem_cons, List.not_mem_nil, false_implies,
    implies_true, and_true] at lengths
  simp only [SectionTable.extents, Consecutive] at whole
  obtain ⟨strings, symbols, relocations, functions, pragmas, code⟩ := lengths
  have symbolBytes := h.symbols.length_eq
  have relocationBytes := h.relocations.length_eq
  have functionBytes := h.functions.length_eq
  have pragmaBytes := h.pragmas.length_eq
  rw [h.code] at code
  rw [Payload.lengthWith]
  omega

/-- What is decoded has counts that fit their fields. -/
theorem HasTable.countsFit {payload : Bytes} {t : SectionTable} {a : Artifact}
    (h : HasTable payload t a) : Payload.CountsFit a :=
  ⟨h.symbols.count_lt, h.relocations.count_lt, h.functions.count_lt, h.pragmas.count_lt⟩

end Format

/-- A header under a signature within the limit has 4152 bytes at most. -/
theorem Entry.Written.length_le {a : Artifact} {f : Fingerprint} {payload bytes : Bytes}
    (h : Written a f payload bytes) (limit : f.toolchain.length ≤ Signature.maxLength) :
    bytes.length ≤ 4152 + payload.length := by
  rw [h.length, Header.prefixLength, Header.tailLength]
  rw [Signature.maxLength] at limit
  omega

end BitcodeCache
