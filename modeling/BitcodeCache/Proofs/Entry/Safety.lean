import BitcodeCache.Proofs.Entry.Following
import BitcodeCache.Proofs.Entry.Size

/-!
# Payloads from anywhere are read safely

No checksum stands before `Payload.decode`, so that every number in a payload may be anything. Each
guard comes before what it guards: the ends of the table's ranges are known to be in the payload before
a range is cut out, a count is known to be that of the records that are there before there is room for
them, and the end of a string is known to be in the pool before its bytes are looked up. So no word
wraps, no slice leaves its buffer and no more room is made than the payload has bytes.
-/

namespace BitcodeCache.Machine

open Format Source

/-! ## Records -/

section

variable {α : Type} {src : Source} {limit : Nat}

/-- Reading as many records as are counted follows record by record. -/
theorem exactly_follows {item : Reading α} {reader : FieldReader α}
    (one : src.Follows limit Eq item reader) (n : Nat) :
    src.Follows limit Eq (exactly item n) (FieldReader.exactly reader n) := by
  induction n with
  | zero => exact .pure rfl
  | succ n ih =>
    refine one.value fun a => ?_
    refine ih.value fun rest => ?_
    exact .pure rfl

namespace Records

/-- Records are read as a layout says: in its region and width, and each as it reads them. -/
structure Implements (records : Records α) (layout : Payload.RecordLayout α) : Prop where
  region : layout.region = records.region
  width : layout.width = records.width.toNat
  small : layout.width < 2 ^ 32
  read : ∀ {limit : Nat} {pool : Bytes} {src : Source}, src.region = records.region →
    src.bytes.length < 2 ^ 63 → pool.length < 2 ^ 63 →
    src.Follows limit Eq (records.read pool src) (layout.read pool.toArray)

/-- Symbols are read on the machine as their layout says, and so are the other records. -/
theorem symbols_implements : symbols.Implements Payload.symbolLayout where
  region := rfl
  width := rfl
  small := by decide
  read := by
    rintro limit pool ⟨bytes, _⟩ rfl fits poolFits
    refine (string_follows fits poolFits).value fun name => ?_
    refine (word32_follows fits).value fun tag => ?_
    cases SymbolKind.ofTag? tag with
    | none => exact .fail _
    | some kind =>
      refine (word64_follows fits).value fun offset => ?_
      exact .pure rfl

theorem relocations_implements : relocations.Implements Payload.relocationLayout where
  region := rfl
  width := rfl
  small := by decide
  read := by
    rintro limit pool ⟨bytes, _⟩ rfl fits poolFits
    refine (word64_follows fits).value fun offset => ?_
    refine (word32_follows fits).value fun kind => ?_
    refine (string_follows fits poolFits).value fun symbol => ?_
    refine (int64_follows fits).value fun addend => ?_
    exact .pure rfl

theorem functions_implements : functions.Implements Payload.functionLayout where
  region := rfl
  width := rfl
  small := by decide
  read := by
    rintro limit pool ⟨bytes, _⟩ rfl fits poolFits
    refine (string_follows fits poolFits).value fun name => ?_
    refine (word64_follows fits).value fun offset => ?_
    refine (word64_follows fits).value fun length => ?_
    exact .pure rfl

theorem pragmas_implements : pragmas.Implements Payload.pragmaLayout where
  region := rfl
  width := rfl
  small := by decide
  read := by
    rintro limit pool ⟨bytes, _⟩ rfl fits poolFits
    refine (string_follows fits poolFits).value fun key => ?_
    refine (string_follows fits poolFits).value fun value => ?_
    exact .pure rfl

/-- The count is looked at together with the bytes that are there, so there is room for no more
records than these bytes hold. -/
theorem Implements.reader_follows {records : Records α} {layout : Payload.RecordLayout α}
    (h : records.Implements layout) {pool bytes : Bytes} (held : bytes.length ≤ limit)
    (fits : bytes.length < 2 ^ 63) (poolFits : pool.length < 2 ^ 63) :
    Follows ⟨bytes, records.region⟩ limit Eq (records.reader pool ⟨bytes, records.region⟩)
      (layout.reader pool.toArray) := by
  unfold Payload.RecordLayout.reader
  rw [h.region]
  refine (word32_follows fits).value fun count => ?_
  refine .remaining fits fun left (le : left.length ≤ bytes.length) => ?_
  have room : count.toUInt64.toNat * records.width.toNat < 2 ^ 64 := by
    have := Nat.mul_lt_mul'' count.toNat_lt h.small
    rw [UInt32.toNat_toUInt64, ← h.width]
    omega
  have needed : (count.toUInt64 * records.width).toNat = count.toNat * layout.width := by
    rw [UInt64.toNat_mul, Nat.mod_eq_of_lt room, UInt32.toNat_toUInt64, h.width]
  have body : (size left).toNat = left.length := toNat_size (by omega)
  refine .step (multiply_gives room) ?_
  rw [needed, body, ← h.width]
  refine .guard ?_ fun whole => ?_
  · rw [not_not, beq_iff_eq, ← UInt64.toNat_inj, needed, body]
  · rw [not_not, ← UInt64.toNat_inj, needed, body] at whole
    have bounded : count.toUInt64.toNat * records.width.toNat ≤ limit := by
      rw [UInt32.toNat_toUInt64, ← h.width, whole]
      exact Nat.le_trans le held
    exact .step (reserve_gives bounded) (exactly_follows (h.read rfl fits poolFits) _)

/-- A section of records is decoded on the machine as its layout says, and reserves no more than it has
bytes. -/
theorem Implements.decode_matches {records : Records α} {layout : Payload.RecordLayout α}
    (h : records.Implements layout) {pool bytes : Bytes} (held : bytes.length ≤ limit)
    (fits : bytes.length < 2 ^ 63) (poolFits : pool.length < 2 ^ 63) :
    (records.decode pool bytes).Matches limit Eq (layout.decode pool.toArray bytes) := by
  have read := h.reader_follows held fits poolFits 0 (Nat.zero_le _)
  refine read.map ?_
  rintro _ _ ⟨same, _⟩
  exact same

end Records

end

/-! ## Artifacts -/

/-- The outcome of a check that tells its fault. -/
def refusal : Option DecodeError → Except DecodeError Unit
  | none => .ok ()
  | some fault => .error fault

/-- Of two checks the second one is made only if the first one passes. -/
theorem refusal_or (first second : Option DecodeError) :
    refusal (first <|> second) = refusal first >>= fun _ => refusal second := by
  cases first <;> rfl

section

variable {α : Type} {limit : Nat}

/-- Checking records one after another tells the first fault. -/
theorem each_matches {check : α → Traced Unit} {fault? : α → Option DecodeError}
    (one : ∀ a, (check a).Matches limit Eq (refusal (fault? a))) (as : List α) :
    (each check as).Matches limit Eq (refusal (as.findSome? fault?)) := by
  induction as with
  | nil => exact .pure rfl
  | cons a as ih =>
    have first : refusal ((a :: as).findSome? fault?) =
        refusal (fault? a) >>= fun _ => refusal (as.findSome? fault?) := by
      rw [List.findSome?_cons]
      cases fault? a <;> rfl
    rw [first]
    exact (one a).bind fun _ _ _ => ih

/-- A guard in words refuses where the condition in numbers does not hold. -/
theorem guard_matches {bad inside : Prop} [Decidable bad] [Decidable inside]
    (opposite : bad ↔ ¬ inside) (fault : DecodeError) :
    (if bad then fail fault else pure ()).Matches limit Eq
      (refusal (if inside then none else some fault)) := by
  by_cases held : inside
  · rw [if_pos held, if_neg (fun refused => opposite.1 refused held)]
    exact .pure rfl
  · rw [if_neg held, if_pos (opposite.2 held)]
    exact .fail fault

theorem checkSymbol_matches (bound : UInt64) (s : ExportedSymbol) :
    (checkSymbol bound s).Matches limit Eq (refusal (Artifact.symbolFault? bound.toNat s)) :=
  guard_matches (UInt64.lt_iff_toNat_lt.trans Nat.not_le.symm) _

theorem checkRelocation_matches (bound : UInt64) (r : Relocation) :
    (checkRelocation bound r).Matches limit Eq
      (refusal (Artifact.relocationFault? bound.toNat r)) :=
  guard_matches (UInt64.le_iff_toNat_le.trans Nat.not_lt.symm) _

theorem lastOffset_eq : Artifact.lastOffset = 2 ^ 64 - 1 := by decide

/-- The end of a function is computed without wrapping, and capped at the largest word. -/
theorem functionStop_gives (f : FunctionRange) : Traced.Gives limit (functionStop f)
    (UInt64.ofNat (min f.stop Artifact.lastOffset)) := by
  have stop : (if f.offset.toNat + f.length.toNat < 2 ^ 64 then some (f.offset + f.length)
      else none).getD (UInt64.ofNat Artifact.lastOffset) =
      UInt64.ofNat (min f.stop Artifact.lastOffset) := by
    rw [lastOffset_eq]
    split
    · have whole : min f.stop (2 ^ 64 - 1) = f.offset.toNat + f.length.toNat := by
        rw [FunctionRange.stop]
        omega
      rw [whole, UInt64.ofNat_add, UInt64.ofNat_toNat, UInt64.ofNat_toNat]
      rfl
    · have beyond : min f.stop (2 ^ 64 - 1) = 2 ^ 64 - 1 := by
        rw [FunctionRange.stop]
        omega
      rw [beyond]
      rfl
  exact (checkedAdd_gives f.offset f.length).step (.pure stop)

/-- The last word is past the end of all code. -/
theorem checkFunction_matches {bound : UInt64} (fits : bound.toNat < 2 ^ 63) (f : FunctionRange) :
    (checkFunction bound f).Matches limit Eq
      (refusal (Artifact.functionFault? bound.toNat f)) := by
  refine .step (functionStop_gives f) ?_
  have stop : (UInt64.ofNat (min f.stop Artifact.lastOffset)).toNat =
      min f.stop Artifact.lastOffset := by
    refine UInt64.toNat_ofNat_of_lt' (Nat.lt_of_le_of_lt (Nat.min_le_right _ _) ?_)
    decide
  rw [stop]
  refine guard_matches ?_ _
  rw [UInt64.lt_iff_toNat_lt, stop, lastOffset_eq]
  omega

/-- The check of an artifact in words is the one in numbers. -/
theorem validate_matches {a : Artifact} (fits : a.code.length < 2 ^ 63) :
    (validate a).Matches limit Eq a.validate := by
  have code := toNat_size fits
  have split : a.validate = refusal (a.symbols.findSome? (Artifact.symbolFault? a.code.length)) >>=
      fun _ => refusal (a.relocations.findSome? (Artifact.relocationFault? a.code.length)) >>=
      fun _ => refusal (a.functions.findSome? (Artifact.functionFault? a.code.length)) := by
    rw [← refusal_or, ← refusal_or]
    rfl
  rw [split, ← code]
  refine (each_matches (checkSymbol_matches _) _).bind fun _ _ _ => ?_
  refine (each_matches (checkRelocation_matches _) _).bind fun _ _ _ => ?_
  exact each_matches (checkFunction_matches (by omega)) _

end

/-! ## Payloads -/

/-- A range does not end before its start, and not after the last of all bytes. -/
def Inside (total : Nat) (range : UInt64 × UInt64) : Prop :=
  range.1.toNat ≤ range.2.toNat ∧ range.2.toNat ≤ total

/-- The number of bytes of a range. -/
def width (range : UInt64 × UInt64) : Nat := range.2.toNat - range.1.toNat

/-- The bytes of a range. -/
def cut (payload : Bytes) (range : UInt64 × UInt64) : Bytes :=
  (payload.drop range.1.toNat).take (width range)

/-- Ranges follow each other, the first from one place on and the last up to another. -/
def Adjacent (total : Nat) : UInt64 → List (UInt64 × UInt64) → UInt64 → Prop
  | start, [], stop => start = stop
  | start, range :: ranges, stop =>
    range.1 = start ∧ Inside total range ∧ Adjacent total range.2 ranges stop

namespace Adjacent

variable {total : Nat} {start stop : UInt64} {ranges : List (UInt64 × UInt64)}

/-- Adjacent ranges all lie inside. -/
theorem inside (h : Adjacent total start ranges stop) : ∀ range ∈ ranges, Inside total range := by
  induction ranges generalizing start with
  | nil => exact fun range member => absurd member List.not_mem_nil
  | cons range ranges ih =>
    obtain ⟨_, here, rest⟩ := h
    exact List.forall_mem_cons.2 ⟨here, ih rest⟩

/-- The last of adjacent ranges ends inside. -/
theorem stop_le (h : Adjacent total start ranges stop) (some : ranges ≠ []) :
    stop.toNat ≤ total := by
  induction ranges generalizing start with
  | nil => exact absurd rfl some
  | cons range ranges ih =>
    obtain ⟨_, here, rest⟩ := h
    cases ranges with
    | nil => exact rest ▸ here.2
    | cons _ _ => exact ih rest (List.cons_ne_nil _ _)

/-- Cutting adjacent ranges out of a payload is cutting off one length after another. -/
theorem slices_eq (h : Adjacent total start ranges stop) (payload : Bytes) :
    Payload.slices (ranges.map width) (payload.drop start.toNat) = ranges.map (cut payload) := by
  induction ranges generalizing start with
  | nil => rfl
  | cons range ranges ih =>
    obtain ⟨rfl, here, rest⟩ := h
    have next : range.1.toNat + width range = range.2.toNat := Nat.add_sub_cancel' here.1
    rw [List.map_cons, List.map_cons, Payload.slices, List.drop_drop, next, ih rest]
    rfl

end Adjacent

/-- So many ranges are adjacent up to the given end, and have the given lengths. -/
structure Covers (total : Nat) (start : UInt64) (count : Nat)
    (table : List (UInt64 × UInt64) × UInt64) (read : List Nat × Nat) : Prop where
  count : table.1.length = count
  adjacent : Adjacent total start table.1 table.2
  lengths : read.1 = table.1.map width
  stop : read.2 = table.2.toNat

/-- Six ranges inside a payload, and what they cut out of it. -/
structure Cuts (payload : Bytes) (ranges : List (UInt64 × UInt64)) (sections : List Bytes) :
    Prop where
  count : ranges.length = 6
  inside : ∀ range ∈ ranges, Inside payload.length range
  sections : sections = ranges.map (cut payload)

section

variable {limit : Nat}

/-- The end of a section that is a word, and not past the end of the payload. -/
theorem filter_checkedAdd (offset length total : UInt64) :
    (if offset.toNat + length.toNat < 2 ^ 64 then some (offset + length) else none).filter
      (· ≤ total) =
      if offset.toNat + length.toNat ≤ total.toNat then some (offset + length) else none := by
  have := total.toNat_lt
  by_cases room : offset.toNat + length.toNat < 2 ^ 64
  · simp only [if_pos room, Option.filter_some, UInt64.le_iff_toNat_le, toNat_add room,
      decide_eq_true_eq]
  · rw [if_neg room, if_neg (by omega)]
    rfl

/-- The table is read on the machine as in numbers, and its ranges are adjacent. -/
theorem readTable_follows {bytes : Bytes} (fits : bytes.length < 2 ^ 63) (total : UInt64)
    (regions : List Region) (start : UInt64) :
    Follows ⟨bytes, .sectionTable⟩ limit (Covers total.toNat start regions.length)
      (readTable ⟨bytes, .sectionTable⟩ total start regions)
      (Payload.readTable total.toNat start.toNat regions) := by
  induction regions generalizing start with
  | nil => exact .pure ⟨rfl, rfl, rfl, rfl⟩
  | cons region regions ih =>
    refine (word64_follows fits).value fun offset => ?_
    refine (word64_follows fits).value fun length => ?_
    refine .guard ?_ fun placed => ?_
    · rw [not_not, beq_iff_eq, UInt64.toNat_inj]
    obtain rfl := not_not.1 placed
    refine .step (checkedAdd_gives offset length) ?_
    refine .step (saturatingSubtract_gives total offset) ?_
    rw [filter_checkedAdd]
    by_cases inside : offset.toNat + length.toNat ≤ total.toNat
    · have stop : (offset + length).toNat = offset.toNat + length.toNat :=
        toNat_add (Nat.lt_of_le_of_lt inside total.toNat_lt)
      have tail := ih (offset + length)
      rw [stop] at tail
      rw [if_pos inside]
      refine .passed (decide_eq_true inside) (tail.bind ?_)
      rintro ⟨ranges, last⟩ ⟨lengths, _⟩ ⟨count, adjacent, rfl, rfl⟩
      have here : Inside total.toNat (offset, offset + length) :=
        ⟨stop ▸ Nat.le_add_right _ _, stop ▸ inside⟩
      have long : width (offset, offset + length) = length.toNat := by
        rw [width, stop, Nat.add_sub_cancel_left]
      refine .pure ⟨congrArg Nat.succ count, ⟨rfl, here, adjacent⟩, ?_, rfl⟩
      rw [List.map_cons, long]
    -- the start may be past the end here, and then nothing is left
    · have left : (UInt64.ofNat (total.toNat - offset.toNat)).toNat =
          total.toNat - offset.toNat := by
        have := total.toNat_lt
        exact UInt64.toNat_ofNat_of_lt' (show _ < 2 ^ 64 by omega)
      rw [if_neg inside, left]
      exact .refused (by rwa [decide_eq_true_eq])

/-- The sections start after the table, where the last of them ends with the payload. -/
theorem drop_of_readTable {payload body : Bytes} {lengths : List Nat}
    (read : Payload.readTable payload.length Payload.tableLength Payload.regions payload =
      .ok ((lengths, payload.length), body)) : payload.drop 96 = body := by
  obtain ⟨extents, six, _, _, bytes⟩ := Payload.readTable_eq_ok_iff.1 read
  have width : (extents.flatMap Extent.bytes).length = 96 := by
    rw [Extent.length_flatMap_bytes, six]
    rfl
  rw [bytes, List.drop_left' width]

/-- The ranges of the sections lie inside the payload and cut out the sections. -/
theorem readSections_matches {payload : Bytes} (fits : payload.length < 2 ^ 63) :
    (readSections payload).Matches limit (Cuts payload) (Payload.readSections payload) := by
  have whole := toNat_size fits
  have table : Traced.Matches limit (Left ⟨payload, .sectionTable⟩ (Covers payload.length 96 6))
      (readTable ⟨payload, .sectionTable⟩ (size payload) 96 Payload.regions 0)
      (Payload.readTable payload.length Payload.tableLength Payload.regions payload) :=
    whole ▸ readTable_follows fits (size payload) Payload.regions 96 0 (Nat.zero_le _)
  have steps : Payload.readSections payload =
      Payload.readTable payload.length Payload.tableLength Payload.regions payload >>= fun read =>
        if read.1.2 = payload.length then .ok (Payload.slices read.1.1 read.2)
        else .error (.badLength .payload (.afterLast (payload.length - read.1.2))) := by
    unfold Payload.readSections
    cases Payload.readTable payload.length Payload.tableLength Payload.regions payload <;> rfl
  rw [steps]
  refine table.known.bind ?_
  rintro ⟨⟨ranges, stop⟩, _⟩ ⟨⟨_, _⟩, body⟩ ⟨⟨⟨count, adjacent, rfl, rfl⟩, _, _⟩, read⟩
  dsimp only at count adjacent read ⊢
  by_cases last : stop.toNat = payload.length
  · have done : stop = size payload := by rw [← UInt64.toNat_inj, last, whole]
    rw [last] at read
    rw [if_neg (not_not.2 done), if_pos last]
    refine .pure ⟨count, adjacent.inside, ?_⟩
    rw [← drop_of_readTable read]
    exact adjacent.slices_eq payload
  · have undone : stop ≠ size payload := fun same => last (same ▸ whole)
    -- the last range ends in the payload, so that what is left of it is no negative number
    have some : ranges ≠ [] := by
      rintro rfl
      cases count
    have le : stop.toNat ≤ (size payload).toNat := whole ▸ adjacent.stop_le some
    have left : (size payload - stop).toNat = payload.length - stop.toNat := by
      rw [UInt64.toNat_sub_of_le _ _ (UInt64.le_iff_toNat_le.2 le), whole]
    rw [if_pos undone, if_neg last]
    refine .step (subtract_gives le) ?_
    rw [left]
    exact .fail _

/-- A section is no longer than the payload. -/
theorem length_cut_le (payload : Bytes) (range : UInt64 × UInt64) :
    (cut payload range).length ≤ payload.length := by
  rw [cut, List.length_take, List.length_drop]
  omega

/-- A range inside the payload is cut out safely. -/
theorem cut_gives {payload : Bytes} {range : UInt64 × UInt64}
    (inside : Inside payload.length range) :
    Traced.Gives limit (slice payload range.1 range.2) (cut payload range) :=
  slice_gives inside.1 inside.2

/-- The records of a section are decoded safely with the payload's length as the limit. -/
theorem Records.Implements.cut_matches {α : Type} {records : Records α}
    {layout : Payload.RecordLayout α} (h : records.Implements layout) {payload pool : Bytes}
    {range : UInt64 × UInt64} (fits : payload.length < 2 ^ 63) (poolFits : pool.length < 2 ^ 63)
    (inside : Inside payload.length range) :
    (slice payload range.1 range.2 >>= records.decode pool).Matches payload.length Eq
      (layout.decode pool.toArray (cut payload range)) := by
  have held := length_cut_le payload range
  exact .step (cut_gives inside) (h.decode_matches held (Nat.lt_of_le_of_lt held fits) poolFits)

/-- Words of 64 bits do what numbers without bound do. -/
theorem decode_matches {payload : Bytes} (fits : payload.length < 2 ^ 63) :
    (decode payload).Matches payload.length Eq (Payload.decode payload) := by
  refine (readSections_matches fits).bind ?_
  rintro ranges _ ⟨six, inside, rfl⟩
  match ranges, six with
  | [poolRange, symbolRange, relocationRange, functionRange, pragmaRange, codeRange], _ =>
    simp only [List.forall_mem_cons, List.not_mem_nil, false_implies, implies_true, and_true]
      at inside
    obtain ⟨inPool, inSymbols, inRelocations, inFunctions, inPragmas, inCode⟩ := inside
    have poolFits := Nat.lt_of_le_of_lt (length_cut_le payload poolRange) fits
    have codeFits := Nat.lt_of_le_of_lt (length_cut_le payload codeRange) fits
    refine .step (cut_gives inPool) ?_
    refine (Records.symbols_implements.cut_matches fits poolFits inSymbols).bind ?_
    rintro symbols _ rfl
    refine (Records.relocations_implements.cut_matches fits poolFits inRelocations).bind ?_
    rintro relocations _ rfl
    refine (Records.functions_implements.cut_matches fits poolFits inFunctions).bind ?_
    rintro functions _ rfl
    refine (Records.pragmas_implements.cut_matches fits poolFits inPragmas).bind ?_
    rintro pragmas _ rfl
    refine .step (cut_gives inCode) ?_
    exact (validate_matches codeFits).bind fun _ _ _ => .pure rfl

end

/-- Whatever the bytes of a payload are, reading it in words of 64 bits finds what `Payload.decode`
finds, and does safe operations only: up to its fault, where there is one, and else up to an artifact
with all its tables inside its code, whose parts fill the payload. -/
theorem decode_safe {payload : Bytes} (fits : payload.length < 2 ^ 63) :
    (decode payload).result = Payload.decode payload ∧
    (∀ op ∈ (decode payload).operations, op.Safe payload.length) ∧
    ((∃ fault, Payload.decode payload = .error fault) ∨
      ∃ a t, Payload.decode payload = .ok a ∧ a.validate = .ok () ∧ HasTable payload t a ∧
        payload.length = 96 + (t.strings.slice payload).length + 16 + 20 * a.symbols.length +
          28 * a.relocations.length + 24 * a.functions.length + 16 * a.pragmas.length +
          a.code.length) := by
  obtain ⟨outcome, safe⟩ := decode_matches fits
  refine ⟨outcome.eq, safe, ?_⟩
  cases decoded : Payload.decode payload with
  | error fault => exact .inl ⟨fault, rfl⟩
  | ok a =>
    obtain ⟨⟨t, holds⟩, valid⟩ := Payload.decode_eq_ok_iff.1 decoded
    refine .inr ⟨a, t, rfl, valid, holds, ?_⟩
    rw [holds.length_eq, Payload.lengthWith]
    omega

namespace Sample

/-- The payload of the entry written out byte by byte. -/
def payload : Bytes := Format.Sample.entry.drop 58

/-- That payload with the greatest of all counts before its one symbol. -/
def overcounted : Bytes := payload.take 99 ++ [0xFF, 0xFF, 0xFF, 0xFF] ++ payload.drop 103

end Sample

/-- With the count that is too great no room is made: the last operation is the product which tells that
the records are not there. With the count that is right there is room for one symbol. -/
theorem decode_safe_overcounted :
    (Sample.overcounted.length < 2 ^ 63 ∧ Sample.payload.length < 2 ^ 63) ∧
    (decode Sample.overcounted).result =
      .error (.badLength .symbols (.recordCount 4294967295 20 85899345900 20)) ∧
    (decode Sample.overcounted).operations.getLast? = some (.product 4294967295 20) ∧
    (∀ op ∈ (decode Sample.overcounted).operations, op.Safe 205) ∧
    (decode Sample.payload).result = .ok Format.Sample.artifact ∧
    Operation.reserve 1 20 ∈ (decode Sample.payload).operations ∧
    (∀ op ∈ (decode Sample.payload).operations, op.Safe 205) := by
  have fits : Sample.overcounted.length < 2 ^ 63 := by decide +kernel
  have fits' : Sample.payload.length < 2 ^ 63 := by decide +kernel
  obtain ⟨same, safe, _⟩ := decode_safe fits
  obtain ⟨same', safe', _⟩ := decode_safe fits'
  have refused : Payload.decode Sample.overcounted =
      .error (.badLength .symbols (.recordCount 4294967295 20 85899345900 20)) := by decide +kernel
  have found : Payload.decode Sample.payload = .ok Format.Sample.artifact := by decide +kernel
  exact ⟨⟨fits, fits'⟩, same.trans refused, by decide +kernel, safe, same'.trans found,
    by decide +kernel, safe'⟩

end BitcodeCache.Machine
