import BitcodeCache.Proofs.Artifact
import BitcodeCache.Proofs.Entry.Safety
import BitcodeCache.Proofs.Lookup
import BitcodeCache.Proofs.Resolve

/-!
# Lookups in artifacts

An artifact is checked in one place and looked into in others, and the places agree: what is found by
name in an artifact that was accepted lies in its code. The check and the lookup of a function bound
its end each in its own way, with words of 64 bits; `Machine.functionCode?` is that lookup, and both come
to what the numbers without bound say.
-/

namespace BitcodeCache

/-! ## Lookups in words of 64 bits -/

/-- What a traced computation gives is its result. -/
theorem Machine.Traced.Gives.result_eq {α : Type} {limit : Nat} {x : Traced α} {a : α}
    (given : Gives limit x a) : x.result = .ok a := by
  obtain ⟨result, _⟩ := x
  obtain ⟨outcome, _⟩ := given
  cases outcome with
  | ok same => exact congrArg Except.ok same

/-- The machine code of the first function with a name: the slice up to the end of the function, where
this end is a word and not after the end of the code. -/
def Machine.functionCode? (a : Artifact) (name : String) : Traced (Option Bytes) :=
  match a.functions.find? (·.name == name) with
  | none => pure none
  | some f => do
    match ← checkedAdd f.offset f.length with
    | none => pure none
    | some stop =>
      if size a.code < stop then pure none
      else do
        let bytes ← slice a.code f.offset stop
        pure (some bytes)

open Machine in
/-- A sum that is no word is past the end of all code. -/
theorem Machine.functionCode?_gives {limit : Nat} {a : Artifact} (fits : a.code.length < 2 ^ 63)
    (name : String) : Traced.Gives limit (functionCode? a name) (a.functionCode? name) := by
  have whole := toNat_size fits
  unfold functionCode? Artifact.functionCode?
  cases a.functions.find? (·.name == name) with
  | none => exact .pure rfl
  | some f =>
    refine .step (checkedAdd_gives f.offset f.length) ?_
    rw [Option.bind_some]
    by_cases word : f.offset.toNat + f.length.toNat < 2 ^ 64
    · have stop : (f.offset + f.length).toNat = f.stop := toNat_add word
      rw [if_pos word]
      dsimp only
      by_cases inside : f.stop ≤ a.code.length
      · have order : f.offset.toNat ≤ (f.offset + f.length).toNat := by
          rw [stop]
          exact Nat.le_add_right _ _
        rw [if_pos inside, if_neg (by rw [UInt64.lt_iff_toNat_lt, stop, whole]; omega)]
        refine .step (slice_gives order (stop ▸ inside)) (.pure ?_)
        rw [stop, FunctionRange.stop, Nat.add_sub_cancel_left]
      · rw [if_neg inside, if_pos (by rw [UInt64.lt_iff_toNat_lt, stop, whole]; omega)]
        exact .pure rfl
    · have outside : ¬ f.stop ≤ a.code.length := by
        rw [FunctionRange.stop]
        omega
      rw [if_neg word, if_neg outside]
      exact .pure rfl

namespace Artifact

variable {α : Type} {a : Artifact} {name : String}

/-! ## What is found -/

/-- The first value of a list with a name. -/
def FirstNamed (nameOf : α → String) (values : List α) (name : String) (value : α) : Prop :=
  ∃ before after, values = before ++ value :: after ∧ nameOf value = name ∧
    ∀ other ∈ before, nameOf other ≠ name

/-- A search by name finds the first value so named. -/
theorem find?_eq_some_iff_firstNamed {nameOf : α → String} {values : List α} {value : α} :
    values.find? (nameOf · == name) = some value ↔ FirstNamed nameOf values name value := by
  rw [List.find?_eq_some_iff_append, FirstNamed]
  simp only [beq_iff_eq, Bool.not_eq_true', beq_eq_false_iff_ne]
  constructor
  · rintro ⟨named, before, after, split, others⟩
    exact ⟨before, after, split, named, others⟩
  · rintro ⟨before, after, split, named, others⟩
    exact ⟨named, before, after, split, others⟩

/-- A listed name has a first value. -/
theorem exists_firstNamed {nameOf : α → String} {values : List α}
    (listed : name ∈ values.map nameOf) : ∃ value, FirstNamed nameOf values name value := by
  cases found : values.find? (nameOf · == name) with
  | some value => exact ⟨value, find?_eq_some_iff_firstNamed.1 found⟩
  | none =>
    obtain ⟨value, member, named⟩ := List.mem_map.1 listed
    exact absurd (beq_iff_eq.2 named) (List.find?_eq_none.1 found value member)

theorem FirstNamed.mem {nameOf : α → String} {values : List α} {value : α}
    (first : FirstNamed nameOf values name value) : value ∈ values ∧ nameOf value = name := by
  obtain ⟨before, after, rfl, named, _⟩ := first
  exact ⟨List.mem_append_right _ List.mem_cons_self, named⟩

/-- The bytes of a function: so many as it is long, from its offset in the code on. -/
def IsCodeOf (a : Artifact) (f : FunctionRange) (bytes : Bytes) : Prop :=
  ∃ front back, a.code = front ++ bytes ++ back ∧ front.length = f.offset.toNat ∧
    bytes.length = f.length.toNat

/-- A range that ends inside the code is cut out as it stands. -/
theorem isCodeOf_of_stop_le {f : FunctionRange} (inside : f.stop ≤ a.code.length) :
    a.IsCodeOf f ((a.code.drop f.offset.toNat).take f.length.toNat) := by
  rw [FunctionRange.stop] at inside
  refine ⟨a.code.take f.offset.toNat, (a.code.drop f.offset.toNat).drop f.length.toNat, ?_, ?_, ?_⟩
  · rw [List.append_assoc, List.take_append_drop, List.take_append_drop]
  · rw [List.length_take]
    omega
  · rw [List.length_take, List.length_drop]
    omega

/-- The code of a function is that of the first one so named, if its range is inside the code. -/
theorem functionCode?_of_firstNamed {f : FunctionRange}
    (first : FirstNamed FunctionRange.name a.functions name f) : a.functionCode? name =
      if f.stop ≤ a.code.length then some ((a.code.drop f.offset.toNat).take f.length.toNat)
      else none := by
  rw [functionCode?, find?_eq_some_iff_firstNamed.2 first]
  rfl

theorem functionCode?_of_not_mem (unlisted : name ∉ a.functionNames) :
    a.functionCode? name = none := by
  cases found : a.functions.find? (·.name == name) with
  | none => rw [functionCode?, found, Option.bind_none]
  | some f =>
    obtain ⟨member, named⟩ := (find?_eq_some_iff_firstNamed.1 found).mem
    exact absurd (List.mem_map.2 ⟨f, member, named⟩) unlisted

/-- Nothing is found where the name is not listed, or its first function does not fit the code. -/
theorem functionCode?_eq_none_iff : a.functionCode? name = none ↔ name ∉ a.functionNames ∨
    ∃ f, FirstNamed FunctionRange.name a.functions name f ∧ a.code.length < f.stop := by
  constructor
  · intro missing
    by_cases listed : name ∈ a.functionNames
    · obtain ⟨f, first⟩ := exists_firstNamed listed
      refine .inr ⟨f, first, Nat.lt_of_not_le fun inside => ?_⟩
      rw [functionCode?_of_firstNamed first, if_pos inside] at missing
      cases missing
    · exact .inl listed
  · rintro (unlisted | ⟨f, first, outside⟩)
    · exact functionCode?_of_not_mem unlisted
    · rw [functionCode?_of_firstNamed first, if_neg (Nat.not_le.2 outside)]

/-! ## What is checked -/

/-- The first entry that does not point inside the code, with symbols before relocations and these
before functions, as the fault that is told for it. -/
inductive FirstFault (a : Artifact) : DecodeError → Prop where
  | symbol {before after : List ExportedSymbol} {s : ExportedSymbol}
    (split : a.symbols = before ++ s :: after)
    (earlier : ∀ s ∈ before, s.offset.toNat ≤ a.code.length)
    (outside : a.code.length < s.offset.toNat) :
    FirstFault a (.badOffset .symbols s.offset.toNat a.code.length)
  | relocation {before after : List Relocation} {r : Relocation}
    (symbols : ∀ s ∈ a.symbols, s.offset.toNat ≤ a.code.length)
    (split : a.relocations = before ++ r :: after)
    (earlier : ∀ r ∈ before, r.offset.toNat < a.code.length)
    (outside : a.code.length ≤ r.offset.toNat) :
    FirstFault a (.badOffset .relocations r.offset.toNat a.code.length)
  | function {before after : List FunctionRange} {f : FunctionRange}
    (symbols : ∀ s ∈ a.symbols, s.offset.toNat ≤ a.code.length)
    (relocations : ∀ r ∈ a.relocations, r.offset.toNat < a.code.length)
    (split : a.functions = before ++ f :: after)
    (earlier : ∀ f ∈ before, f.stop ≤ a.code.length)
    (outside : a.code.length < f.stop) :
    FirstFault a (.badOffset .functions (min f.stop (2 ^ 64 - 1)) a.code.length)

/-- A symbol is at fault behind the end of the code. -/
theorem symbolFault?_eq_some_iff {limit : Nat} {s : ExportedSymbol} {fault : DecodeError} :
    symbolFault? limit s = some fault ↔
      limit < s.offset.toNat ∧ fault = .badOffset .symbols s.offset.toNat limit := by
  simp [symbolFault?, eq_comm]

/-- A relocation is at fault at the end of the code already. -/
theorem relocationFault?_eq_some_iff {limit : Nat} {r : Relocation} {fault : DecodeError} :
    relocationFault? limit r = some fault ↔
      limit ≤ r.offset.toNat ∧ fault = .badOffset .relocations r.offset.toNat limit := by
  simp [relocationFault?, eq_comm]

/-- A function is at fault where its range ends behind the code; the end that is told is at most the
largest word. -/
theorem functionFault?_eq_some_iff {limit : Nat} {f : FunctionRange} {fault : DecodeError} :
    functionFault? limit f = some fault ↔
      limit < f.stop ∧ fault = .badOffset .functions (min f.stop (2 ^ 64 - 1)) limit := by
  simp [functionFault?, Machine.lastOffset_eq, eq_comm]

theorem validate_eq_error_iff_fault? {fault : DecodeError} :
    a.validate = .error fault ↔ a.fault? = some fault := by
  unfold validate
  cases a.fault? <;> simp

/-- An artifact is refused for the first entry that does not point inside its code. -/
theorem validate_eq_error_iff {fault : DecodeError} :
    a.validate = .error fault ↔ FirstFault a fault := by
  rw [validate_eq_error_iff_fault?, fault?]
  simp only [Option.orElse_eq_orElse, Option.orElse_eq_or, Option.or_eq_some_iff,
    List.findSome?_eq_some_iff, List.findSome?_eq_none_iff, symbolFault?_eq_none_iff,
    relocationFault?_eq_none_iff, functionFault?_eq_none_iff, symbolFault?_eq_some_iff,
    relocationFault?_eq_some_iff, functionFault?_eq_some_iff]
  constructor
  · rintro (⟨before, s, after, split, ⟨outside, rfl⟩, earlier⟩ |
      ⟨symbols, ⟨before, r, after, split, ⟨outside, rfl⟩, earlier⟩ |
        ⟨relocations, before, f, after, split, ⟨outside, rfl⟩, earlier⟩⟩)
    · exact .symbol split earlier outside
    · exact .relocation symbols split earlier outside
    · exact .function symbols relocations split earlier outside
  · intro first
    cases first with
    | symbol split earlier outside =>
      exact .inl ⟨_, _, _, split, ⟨outside, rfl⟩, earlier⟩
    | relocation symbols split earlier outside =>
      exact .inr ⟨symbols, .inl ⟨_, _, _, split, ⟨outside, rfl⟩, earlier⟩⟩
    | function symbols relocations split earlier outside =>
      exact .inr ⟨symbols, .inr ⟨relocations, _, _, _, split, ⟨outside, rfl⟩, earlier⟩⟩

/-! ## Accepted artifacts -/

/-- What is listed is found, and lies in the code; what is not listed is not found. -/
structure LookupsLand (a : Artifact) : Prop where
  function : ∀ name ∈ a.functionNames, ∃ f bytes,
    FirstNamed FunctionRange.name a.functions name f ∧ a.functionCode? name = some bytes ∧
      a.IsCodeOf f bytes
  noFunction : ∀ name, name ∉ a.functionNames → a.functionCode? name = none
  symbol : ∀ name ∈ a.symbols.map ExportedSymbol.name, ∃ s,
    FirstNamed ExportedSymbol.name a.symbols name s ∧ a.lookup? name = some s.offset ∧
      s.offset.toNat ≤ a.code.length
  noSymbol : ∀ name, name ∉ a.symbols.map ExportedSymbol.name → a.lookup? name = none

/-- A lookup answers the offset of the first symbol so named. -/
theorem lookup?_of_firstNamed {s : ExportedSymbol}
    (first : FirstNamed ExportedSymbol.name a.symbols name s) : a.lookup? name = some s.offset := by
  rw [lookup?, find?_eq_some_iff_firstNamed.2 first, Option.map_some]

theorem lookup?_of_not_mem (unlisted : name ∉ a.symbols.map ExportedSymbol.name) :
    a.lookup? name = none := by
  cases found : a.symbols.find? (·.name == name) with
  | none => rw [lookup?, found, Option.map_none]
  | some s =>
    obtain ⟨member, named⟩ := (find?_eq_some_iff_firstNamed.1 found).mem
    exact absurd (List.mem_map.2 ⟨s, member, named⟩) unlisted

/-- In an accepted artifact every lookup lands in the code. -/
theorem lookupsLand_of_validate (accepted : a.validate = .ok ()) : a.LookupsLand := by
  obtain ⟨symbols, _, functions⟩ := validate_eq_ok_iff.1 accepted
  refine ⟨?_, fun _ => functionCode?_of_not_mem, ?_, fun _ => lookup?_of_not_mem⟩
  · intro name listed
    obtain ⟨f, first⟩ := exists_firstNamed listed
    have inside := functions f first.mem.1
    refine ⟨f, _, first, ?_, isCodeOf_of_stop_le inside⟩
    rw [functionCode?_of_firstNamed first, if_pos inside]
  · intro name listed
    obtain ⟨s, first⟩ := exists_firstNamed listed
    exact ⟨s, first, lookup?_of_firstNamed first, symbols s first.mem.1⟩

/-- An artifact that was decoded, loaded from a file, or given for a source without a compilation. -/
inductive Obtained (a : Artifact) : Prop where
  | decoded {bytes : Bytes} {header : Header} (held : Entry.decode bytes = .ok ⟨header, a⟩)
  | loaded {disk : Disk} {path : Path} {expected : Fingerprint} {header : Header}
    (held : tryLoad disk path expected = .ok ⟨header, a⟩)
  | hit {c : Circumstances} {disk : Disk} {bypass : Bool} {source : BitcodeCache.Source}
    {toolchain : Signature} {path : Path} {compile : Compiler}
    (gave : (resolve c disk bypass source toolchain path compile).result = .ok a)
    (uncompiled : (resolve c disk bypass source toolchain path compile).compiled = none)

/-- What is decoded has passed the check. -/
theorem validate_of_decode {bytes : Bytes} {header : Header}
    (held : Entry.decode bytes = .ok ⟨header, a⟩) : a.validate = .ok () := by
  obtain ⟨payload, _, _, _, decoded⟩ := Entry.decode_eq_ok_iff.1 held
  exact (Payload.decode_eq_ok_iff.1 decoded).2

/-- What a lookup serves has passed the check. -/
theorem validate_of_tryLoad {disk : Disk} {path : Path} {expected : Fingerprint} {header : Header}
    (held : tryLoad disk path expected = .ok ⟨header, a⟩) : a.validate = .ok () := by
  cases readable : disk.read path with
  | error cause =>
    rw [tryLoad, readable] at held
    cases held
  | ok content =>
    rw [tryLoad_of_read readable] at held
    exact validate_of_decode (Entry.load_eq_ok_iff.1 held).1

/-- A source that has an artifact without a compilation has it from the file at the path. -/
theorem tryLoad_of_uncompiled {c : Circumstances} {disk : Disk} {bypass : Bool}
    {source : BitcodeCache.Source} {toolchain : Signature} {path : Path} {compile : Compiler}
    (gave : (resolve c disk bypass source toolchain path compile).result = .ok a)
    (uncompiled : (resolve c disk bypass source toolchain path compile).compiled = none) :
    ∃ expected header, tryLoad disk path expected = .ok ⟨header, a⟩ := by
  rw [resolve] at gave uncompiled
  split at gave
  · cases gave
  · rename_i expected built
    rw [built] at uncompiled
    dsimp only at uncompiled
    split at gave
    · rename_i bypassed
      rw [if_pos bypassed, Resolve.compiled_compileAndStore] at uncompiled
      cases uncompiled
    · rename_i looked
      rw [if_neg looked] at uncompiled
      cases loaded : tryLoad disk path expected with
      | ok entry =>
        rw [loaded] at gave
        cases gave
        exact ⟨expected, entry.header, loaded⟩
      | error miss =>
        rw [loaded] at uncompiled
        dsimp only at uncompiled
        rw [Resolve.compiled_compileAndStore] at uncompiled
        cases uncompiled

/-- However an artifact was obtained from the cache, it has passed the check. -/
theorem Obtained.validate (obtained : Obtained a) : a.validate = .ok () := by
  cases obtained with
  | decoded held => exact validate_of_decode held
  | loaded held => exact validate_of_tryLoad held
  | hit gave uncompiled =>
    obtain ⟨_, _, held⟩ := tryLoad_of_uncompiled gave uncompiled
    exact validate_of_tryLoad held

/-! ## Checks and lookups together -/

/-- The check and the lookup of functions have different bounds for the end of a function, and agree on
what lies in the code: an accepted artifact finds all it lists there, and so does every artifact that
was decoded, loaded or hit. Of a refused one the first fault is told, and only those functions are
missing in it that do not fit the code. -/
theorem lookups_land {a : Artifact} (fits : a.code.length < 2 ^ 63) :
    ((Machine.validate a).result = a.validate ∧
      ∀ name, (Machine.functionCode? a name).result = .ok (a.functionCode? name) ∧
        ∀ op ∈ (Machine.functionCode? a name).operations, op.Safe a.code.length) ∧
    (a.validate = .ok () ↔
      (∀ s ∈ a.symbols, s.offset.toNat ≤ a.code.length) ∧
      (∀ r ∈ a.relocations, r.offset.toNat < a.code.length) ∧
      ∀ f ∈ a.functions, f.offset.toNat + f.length.toNat ≤ a.code.length) ∧
    (∀ fault, a.validate = .error fault ↔ FirstFault a fault) ∧
    (a.validate = .ok () → a.LookupsLand) ∧
    (Obtained a → a.validate = .ok ()) ∧
    ∀ name, a.functionCode? name = none ↔ name ∉ a.functionNames ∨
      ∃ f, FirstNamed FunctionRange.name a.functions name f ∧
        a.code.length < f.offset.toNat + f.length.toNat := by
  refine ⟨⟨?_, fun name => ?_⟩, validate_eq_ok_iff, fun _ => validate_eq_error_iff,
    lookupsLand_of_validate, Obtained.validate, fun _ => functionCode?_eq_none_iff⟩
  · have checked : (Machine.validate a).Matches a.code.length Eq a.validate :=
      Machine.validate_matches fits
    exact checked.outcome.eq
  · have looked : Machine.Traced.Gives a.code.length (Machine.functionCode? a name)
        (a.functionCode? name) := Machine.functionCode?_gives fits name
    exact ⟨looked.result_eq, looked.safe⟩

namespace Sample

/-- Two functions and two symbols of one name, and a function without bytes at the end of the code. -/
def doubled : Artifact where
  code := [1, 2, 3]
  symbols := [⟨"f", .function, 3⟩, ⟨"f", .variable, 0⟩]
  functions := [⟨"f", 1, 2⟩, ⟨"f", 0, 1⟩, ⟨"end", 3, 0⟩]

/-- A function whose end is no word, before one of the same name that lies in the code. -/
def wrapped : Artifact where
  code := [1, 2, 3]
  functions := [⟨"g", 1, 1⟩, ⟨"f", 18446744073709551615, 2⟩, ⟨"f", 0, 1⟩]

end Sample

/-- The first of each name counts, for the check as for the lookups. -/
theorem lookups_land_doubled :
    (Sample.doubled.code.length < 2 ^ 63 ∧ Sample.doubled.validate = .ok () ∧
      Sample.doubled.LookupsLand ∧ Sample.doubled.functionCode? "f" = some [2, 3] ∧
      Sample.doubled.functionCode? "end" = some [] ∧ Sample.doubled.lookup? "f" = some 3) ∧
    (Sample.wrapped.code.length < 2 ^ 63 ∧
      Sample.wrapped.validate = .error (.badOffset .functions 18446744073709551615 3) ∧
      Sample.wrapped.functionCode? "f" = none ∧ Sample.wrapped.functionCode? "g" = some [2]) ∧
    Obtained Format.Sample.artifact ∧ Format.Sample.artifact.validate = .ok () := by
  have fits : Sample.doubled.code.length < 2 ^ 63 := by decide
  have fits' : Sample.wrapped.code.length < 2 ^ 63 := by decide
  have fits'' : Format.Sample.artifact.code.length < 2 ^ 63 := by decide
  have accepted : Sample.doubled.validate = .ok () :=
    (lookups_land fits).2.1.2 (by decide)
  have split : Sample.wrapped.functions =
      [⟨"g", 1, 1⟩] ++ ⟨"f", 18446744073709551615, 2⟩ :: [⟨"f", 0, 1⟩] := rfl
  have first : FirstFault Sample.wrapped (.badOffset .functions 18446744073709551615 3) :=
    .function (by decide) (by decide) split (by decide) (by decide)
  have missing : Sample.wrapped.functionCode? "f" = none :=
    ((lookups_land fits').2.2.2.2.2 "f").2
      (.inr ⟨_, ⟨_, _, split, rfl, by decide⟩, by decide⟩)
  have obtained : Obtained Format.Sample.artifact := .decoded Entry.decode_sample
  exact ⟨⟨fits, accepted, (lookups_land fits).2.2.2.1 accepted, by decide, by decide, by decide⟩,
    ⟨fits', ((lookups_land fits').2.2.1 _).2 first, missing, by decide⟩, obtained,
    (lookups_land fits'').2.2.2.2.1 obtained⟩

end Artifact

end BitcodeCache
