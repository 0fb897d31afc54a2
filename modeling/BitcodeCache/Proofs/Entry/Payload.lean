import BitcodeCache.Proofs.Entry.Field
import BitcodeCache.Proofs.Entry.Format
import BitcodeCache.Proofs.Result

/-!
# What payloads are accepted

Reading a payload gives an artifact exactly where the payload holds that artifact in the sense of
`Format.IsPayload`. The parts come first: a reference, a record of each kind, a record section, the
section table; `decode_eq_ok_iff` puts them together.
-/

namespace BitcodeCache

open FieldReader Format

/-- Bytes are a string exactly if they are its encoding. -/
theorem Text.ofUtf8?_eq_some_iff {bs : Bytes} {s : String} :
    Text.ofUtf8? bs = some s ↔ bs = Text.utf8 s := by
  constructor
  · intro h
    exact (Text.utf8_of_ofUtf8? h).symm
  · rintro rfl
    exact Text.ofUtf8?_utf8 s

/-- A word is a kind exactly if it is the one of that kind. -/
theorem SymbolKind.ofTag?_eq_some_iff {tag : UInt32} {kind : SymbolKind} :
    SymbolKind.ofTag? tag = some kind ↔ tag = kindWord kind := by
  constructor
  · intro h
    unfold SymbolKind.ofTag? at h
    split at h
    · cases h
      assumption
    · split at h
      · cases h
        assumption
      · cases h
  · rintro rfl
    cases kind <;> rfl

namespace StringPool

/-- A string is found in the pool exactly if the reference names it. -/
theorem string_eq_ok_iff {pool : Bytes} {offset length : UInt32} {s : String} :
    string pool.toArray offset length = .ok s ↔ Names pool offset length s := by
  by_cases inside : offset.toNat + length.toNat ≤ pool.length
  · have held : offset.toNat + length.toNat ≤ pool.toArray.size := inside
    simp only [string, held, if_true, toList_extract_stop]
    cases text : Text.ofUtf8? ((pool.drop offset.toNat).take length.toNat) with
    | none =>
      constructor
      · intro h
        cases h
      · intro names
        rw [Text.ofUtf8?_eq_some_iff.2 names.bytes] at text
        cases text
    | some t =>
      have bytes := Text.ofUtf8?_eq_some_iff.1 text
      constructor
      · intro h
        cases h
        exact ⟨inside, bytes⟩
      · intro names
        rw [Text.utf8_injective (bytes.symm.trans names.bytes)]
  · have held : ¬ offset.toNat + length.toNat ≤ pool.toArray.size := inside
    simp only [string, held, if_false]
    constructor
    · intro h
      cases h
    · intro names
      exact absurd names.inside inside

end StringPool

namespace Payload

/-! ## Records -/

/-- A string is read exactly if a reference to it stands first. -/
theorem readString_eq_ok_iff {region : Region} {pool bytes rest : Bytes} {s : String} :
    readString region pool.toArray bytes = .ok (s, rest) ↔
      ∃ field, IsReference pool field s ∧ bytes = field ++ rest := by
  simp only [readString, bind_eq_ok_iff, word32_eq_ok_iff]
  constructor
  · rintro ⟨offset, _, rfl, length, middle, rfl, h⟩
    cases found : StringPool.string pool.toArray offset length with
    | error fault =>
      rw [found] at h
      exact absurd h refuse_ne_ok
    | ok t =>
      rw [found] at h
      obtain ⟨rfl, rfl⟩ := pure_eq_ok_iff.1 h
      have names := StringPool.string_eq_ok_iff.1 found
      exact ⟨_, ⟨offset, length, names, rfl⟩, (List.append_assoc ..).symm⟩
  · rintro ⟨_, ⟨offset, length, names, rfl⟩, rfl⟩
    refine ⟨offset, _, List.append_assoc .., length, _, rfl, ?_⟩
    rw [StringPool.string_eq_ok_iff.2 names]
    exact pure_eq_ok_iff.2 ⟨rfl, rfl⟩

namespace RecordLayout

variable {α : Type}

/-- A layout reads records of one form: each is a row of the layout's width, and all such rows are
read. -/
structure Reads (layout : RecordLayout α) (isRow : Bytes → Bytes → α → Prop) : Prop where
  read : ∀ {pool bytes rest : Bytes} {a : α}, layout.read pool.toArray bytes = .ok (a, rest) ↔
    ∃ row, isRow pool row a ∧ bytes = row ++ rest
  width : ∀ {pool row : Bytes} {a : α}, isRow pool row a → row.length = layout.width

/-- Rows of one width are together as long as their number says. -/
theorem length_flatten {isRow : Bytes → α → Prop} {width : Nat}
    (widths : ∀ {row a}, isRow row a → row.length = width) {rows : List Bytes} {records : List α}
    (rowsOf : List.Forall₂ isRow rows records) : rows.flatten.length = records.length * width := by
  induction rowsOf with
  | nil => simp
  | cons rowOf _ ih => rw [List.flatten_cons, List.length_append, widths rowOf, ih, List.length_cons,
      Nat.succ_mul, Nat.add_comm]

/-- Every row of records has the width of the form. -/
theorem mem_width {isRow : Bytes → α → Prop} {width : Nat}
    (widths : ∀ {row a}, isRow row a → row.length = width) {rows : List Bytes} {records : List α}
    (rowsOf : List.Forall₂ isRow rows records) : ∀ row ∈ rows, row.length = width := by
  induction rowsOf with
  | nil => simp
  | cons rowOf _ ih => exact List.forall_mem_cons.2 ⟨widths rowOf, ih⟩

/-- A section is decoded exactly if it counts its records, has a row for each and nothing else. -/
theorem Reads.decode_eq_ok_iff {layout : RecordLayout α} {isRow : Bytes → Bytes → α → Prop}
    (reads : layout.Reads isRow) {pool bytes : Bytes} {records : List α} :
    layout.decode pool.toArray bytes = .ok records ↔
      IsRecords layout.width (isRow pool) bytes records := by
  have item {bytes rest : Bytes} {a : α} : layout.read pool.toArray bytes = .ok (a, rest) ↔
      ∃ row, isRow pool row a ∧ bytes = row ++ rest := reads.read
  simp only [decode, except_map_eq_ok_iff, Prod.exists, reader, bind_eq_ok_iff, word32_eq_ok_iff,
    get_eq_ok_iff, require_eq_ok_iff, beq_iff_eq, exactly_eq_ok_iff item]
  constructor
  · rintro ⟨_, rest, ⟨count, _, rfl, _, _, ⟨rfl, rfl⟩, _, _, ⟨needed, rfl⟩, length, rows, rowsOf,
      body⟩, rfl⟩
    have filled := length_flatten reads.width rowsOf
    rw [body, List.length_append, ← length, filled] at needed
    obtain rfl : rest = [] := List.eq_nil_of_length_eq_zero (by omega)
    rw [List.append_nil] at body
    exact ⟨count, rows, length.symm, rowsOf, mem_width reads.width rowsOf, by rw [body]⟩
  · rintro ⟨count, rows, length, rowsOf, _, rfl⟩
    have filled := length_flatten reads.width rowsOf
    exact ⟨_, [], ⟨count, _, rfl, _, _, ⟨rfl, rfl⟩, (), _, ⟨by rw [filled, length], rfl⟩,
      length.symm, rows, rowsOf, (List.append_nil _).symm⟩, rfl⟩

end RecordLayout

/-- A symbol is read from a reference, a kind and an offset. -/
theorem symbolLayout_reads : symbolLayout.Reads IsSymbol where
  read := by
    intro pool bytes rest s
    simp only [symbolLayout, bind_eq_ok_iff, readString_eq_ok_iff, word32_eq_ok_iff]
    constructor
    · rintro ⟨name, _, ⟨field, isName, rfl⟩, tag, middle, rfl, h⟩
      cases kind : SymbolKind.ofTag? tag with
      | none =>
        rw [kind] at h
        exact absurd h refuse_ne_ok
      | some kind' =>
        rw [kind] at h
        simp only [bind_eq_ok_iff, word64_eq_ok_iff, pure_eq_ok_iff] at h
        obtain ⟨offset, _, rfl, rfl, rfl⟩ := h
        obtain rfl := SymbolKind.ofTag?_eq_some_iff.1 kind
        exact ⟨_, ⟨field, isName, rfl⟩, by simp only [List.append_assoc]⟩
    · rintro ⟨_, ⟨field, isName, rfl⟩, rfl⟩
      refine ⟨s.name, _, ⟨field, isName, by simp only [List.append_assoc]; rfl⟩, _, _, rfl, ?_⟩
      rw [SymbolKind.ofTag?_eq_some_iff.2 rfl]
      simp only [bind_eq_ok_iff, word64_eq_ok_iff, pure_eq_ok_iff]
      exact ⟨s.offset, _, rfl, rfl, rfl⟩
  width := IsSymbol.length_eq

theorem relocationLayout_reads : relocationLayout.Reads IsRelocation where
  read := by
    intro pool bytes rest r
    simp only [relocationLayout, bind_eq_ok_iff, readString_eq_ok_iff, word32_eq_ok_iff,
      word64_eq_ok_iff, int64_eq_ok_iff, pure_eq_ok_iff]
    constructor
    · rintro ⟨offset, _, rfl, kind, _, rfl, symbol, _, ⟨field, isSymbol, rfl⟩, addend, _, rfl, rfl,
        rfl⟩
      exact ⟨_, ⟨field, isSymbol, rfl⟩, by simp only [List.append_assoc]⟩
    · rintro ⟨_, ⟨field, isSymbol, rfl⟩, rfl⟩
      simp only [List.append_assoc]
      exact ⟨_, _, rfl, _, _, rfl, _, _, ⟨field, isSymbol, rfl⟩, _, _, rfl, rfl, rfl⟩
  width := IsRelocation.length_eq

theorem functionLayout_reads : functionLayout.Reads IsFunction where
  read := by
    intro pool bytes rest f
    simp only [functionLayout, bind_eq_ok_iff, readString_eq_ok_iff, word64_eq_ok_iff,
      pure_eq_ok_iff]
    constructor
    · rintro ⟨name, _, ⟨field, isName, rfl⟩, offset, _, rfl, length, _, rfl, rfl, rfl⟩
      exact ⟨_, ⟨field, isName, rfl⟩, by simp only [List.append_assoc]⟩
    · rintro ⟨_, ⟨field, isName, rfl⟩, rfl⟩
      simp only [List.append_assoc]
      exact ⟨_, _, ⟨field, isName, rfl⟩, _, _, rfl, _, _, rfl, rfl, rfl⟩
  width := IsFunction.length_eq

theorem pragmaLayout_reads : pragmaLayout.Reads IsPragma where
  read := by
    intro pool bytes rest p
    simp only [pragmaLayout, bind_eq_ok_iff, readString_eq_ok_iff, pure_eq_ok_iff]
    constructor
    · rintro ⟨key, _, ⟨field, isKey, rfl⟩, value, _, ⟨field', isValue, rfl⟩, rfl, rfl⟩
      exact ⟨_, ⟨field, field', isKey, isValue, rfl⟩, by simp only [List.append_assoc]⟩
    · rintro ⟨_, ⟨field, field', isKey, isValue, rfl⟩, rfl⟩
      simp only [List.append_assoc]
      exact ⟨_, _, ⟨field, isKey, rfl⟩, _, _, ⟨field', isValue, rfl⟩, rfl, rfl⟩
  width := IsPragma.length_eq

/-! ## The section table -/

/-- The table entries that are read up to the end of the payload are those of consecutive
sections. -/
theorem readTable_eq_ok_iff {total start : Nat} {regions : List Region} {bytes rest : Bytes}
    {lengths : List Nat} :
    readTable total start regions bytes = .ok ((lengths, total), rest) ↔
      ∃ extents : List Extent, extents.length = regions.length ∧
        Consecutive start extents total ∧ lengths = extents.map (·.length.toNat) ∧
        bytes = extents.flatMap Extent.bytes ++ rest := by
  induction regions generalizing start bytes lengths with
  | nil =>
    rw [readTable, pure_eq_ok_iff, Prod.mk.injEq]
    constructor
    · rintro ⟨⟨rfl, rfl⟩, rfl⟩
      exact ⟨[], rfl, rfl, rfl, rfl⟩
    · rintro ⟨extents, none, consecutive, rfl, rfl⟩
      obtain rfl := List.eq_nil_of_length_eq_zero none
      exact ⟨⟨rfl, consecutive.symm⟩, rfl⟩
  | cons region regions ih =>
    simp only [readTable, bind_eq_ok_iff, word64_eq_ok_iff, require_eq_ok_iff, pure_eq_ok_iff,
      beq_iff_eq, decide_eq_true_eq, Prod.mk.injEq]
    constructor
    · rintro ⟨offset, _, rfl, length, _, rfl, _, _, ⟨placed, rfl⟩, _, _, ⟨_, rfl⟩, ⟨tail, stop⟩, _,
        read, ⟨rfl, rfl⟩, rfl⟩
      obtain ⟨extents, count, consecutive, rfl, rfl⟩ := ih.1 read
      refine ⟨⟨offset, length⟩ :: extents, by simp [count], ⟨placed, consecutive⟩, rfl, ?_⟩
      simp only [List.flatMap_cons, Extent.bytes, List.append_assoc]
    · rintro ⟨extents, count, consecutive, rfl, rfl⟩
      cases extents with
      | nil => cases count
      | cons e es =>
        obtain ⟨placed, consecutive⟩ := consecutive
        have read := ih.2 ⟨es, Nat.succ.inj count, consecutive, rfl, rfl⟩
        simp only [List.flatMap_cons, Extent.bytes, List.append_assoc]
        exact ⟨_, _, rfl, _, _, rfl, (), _, ⟨placed, rfl⟩, (), _, ⟨consecutive.le, rfl⟩,
          _, _, read, ⟨rfl, rfl⟩, rfl⟩

/-- Cutting consecutive sections out of a payload is cutting off one length after another. -/
theorem slices_eq_map_slice (payload : Bytes) {start stop : Nat} {extents : List Extent}
    (h : Consecutive start extents stop) :
    slices (extents.map (·.length.toNat)) (payload.drop start) =
      extents.map (·.slice payload) := by
  induction extents generalizing start with
  | nil => rfl
  | cons e es ih =>
    obtain ⟨rfl, consecutive⟩ := h
    rw [List.map_cons, List.map_cons, slices, List.drop_drop, ih consecutive]
    rfl

/-- Six sections are read exactly if the table lists consecutive ones from its own end to that of the
payload. -/
theorem readSections_eq_ok_iff {payload : Bytes} {sections : List Bytes} :
    readSections payload = .ok sections ↔
      ∃ extents : List Extent, extents.length = 6 ∧ Consecutive 96 extents payload.length ∧
        payload.take 96 = extents.flatMap Extent.bytes ∧
        sections = extents.map (·.slice payload) := by
  have tableOf {extents : List Extent} (six : extents.length = 6) :
      (extents.flatMap Extent.bytes).length = 96 := by
    rw [Extent.length_flatMap_bytes, six]
  constructor
  · intro h
    unfold readSections at h
    split at h
    · cases h
    · rename_i lengths stop body read
      split at h
      · rename_i whole
        subst whole
        cases h
        obtain ⟨extents, six, consecutive, rfl, bytes⟩ := readTable_eq_ok_iff.1 read
        have front : payload.take 96 = extents.flatMap Extent.bytes := by
          rw [bytes, List.take_left' (tableOf six)]
        have back : payload.drop 96 = body := by
          rw [bytes, List.drop_left' (tableOf six)]
        have cut := slices_eq_map_slice payload consecutive
        rw [tableLength, back] at cut
        exact ⟨extents, six, consecutive, front, cut⟩
      · cases h
  · rintro ⟨extents, six, consecutive, table, rfl⟩
    have read : readTable payload.length tableLength regions payload =
        .ok ((extents.map (·.length.toNat), payload.length), payload.drop 96) :=
      readTable_eq_ok_iff.2 ⟨extents, six, consecutive, rfl, by
        rw [← table, List.take_append_drop]⟩
    rw [readSections, read]
    simp only [if_true, slices_eq_map_slice payload consecutive]

/-! ## Artifacts -/

/-- A payload is decoded exactly if it has a table for the artifact and the artifact passes the check.
-/
theorem decode_eq_ok_iff {payload : Bytes} {a : Artifact} :
    decode payload = .ok a ↔ (∃ t, HasTable payload t a) ∧ a.validate = .ok () := by
  rw [decode, except_bind_eq_ok_iff]
  constructor
  · rintro ⟨sections, read, h⟩
    obtain ⟨extents, six, consecutive, table, rfl⟩ := readSections_eq_ok_iff.1 read
    match extents, six with
    | [strings, symbols, relocations, functions, pragmas, code], _ =>
      simp only [List.map_cons, List.map_nil, except_bind_eq_ok_iff,
        symbolLayout_reads.decode_eq_ok_iff, relocationLayout_reads.decode_eq_ok_iff,
        functionLayout_reads.decode_eq_ok_iff, pragmaLayout_reads.decode_eq_ok_iff] at h
      obtain ⟨_, isSymbols, _, isRelocations, _, isFunctions, _, isPragmas, _, valid, made⟩ := h
      cases made
      exact ⟨⟨⟨strings, symbols, relocations, functions, pragmas, code⟩, table, consecutive,
        isSymbols, isRelocations, isFunctions, isPragmas, rfl⟩, valid⟩
  · rintro ⟨⟨t, holds⟩, valid⟩
    have read := readSections_eq_ok_iff.2 ⟨t.extents, rfl, holds.consecutive, holds.table, rfl⟩
    refine ⟨_, read, ?_⟩
    simp only [SectionTable.extents, List.map_cons, List.map_nil, except_bind_eq_ok_iff,
      symbolLayout_reads.decode_eq_ok_iff, relocationLayout_reads.decode_eq_ok_iff,
      functionLayout_reads.decode_eq_ok_iff, pragmaLayout_reads.decode_eq_ok_iff]
    refine ⟨_, holds.symbols, _, holds.relocations, _, holds.functions, _, holds.pragmas, (), ?_, ?_⟩
    · rw [holds.code]
      exact valid
    · rw [holds.code]
      rfl

end Payload

end BitcodeCache
