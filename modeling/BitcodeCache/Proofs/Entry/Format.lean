import Mathlib.Algebra.Group.Nat.Defs
import Mathlib.Data.List.Forall2
import BitcodeCache.Entry

/-!
# The format of entries

What it means that bytes are the entry of an artifact, field by field. Nothing here reads or writes:
a payload may lay out its strings in any way, so one artifact has many payloads. The words of a
header and of a record stand in the order of their fields, least significant byte first.
-/

namespace BitcodeCache.Format

/-! ## Headers -/

/-- The fields of a header of version 1, one after another. -/
structure IsHeader (field : Bytes) (h : Header) : Prop where
  version : h.version = 1
  limit : h.fingerprint.toolchain.bytes.length ≤ 4096
  fields : field =
    [0x6F, 0x42, 0x43, 0x43] ++ Bytes.ofUInt32 1 ++ h.fingerprint.contentDigest.bytes ++
      Bytes.ofInt64 h.fingerprint.modTime ++ Bytes.ofUInt32 h.fingerprint.crc32 ++
      Bytes.ofNat 4 h.fingerprint.toolchain.bytes.length ++ h.fingerprint.toolchain.bytes ++
      Bytes.ofUInt64 h.payloadLength ++ Bytes.ofUInt32 h.payloadChecksum

/-! ## Records -/

/-- An offset and a length name a string: they select bytes inside the pool, and these are the
string's. -/
structure Names (pool : Bytes) (offset length : UInt32) (s : String) : Prop where
  inside : offset.toNat + length.toNat ≤ pool.length
  bytes : (pool.drop offset.toNat).take length.toNat = Text.utf8 s

/-- A reference to a string of the pool: its offset and its length. -/
def IsReference (pool field : Bytes) (s : String) : Prop :=
  ∃ offset length : UInt32,
    Names pool offset length s ∧ field = Bytes.ofUInt32 offset ++ Bytes.ofUInt32 length

/-- The word for a symbol's kind. -/
def kindWord : SymbolKind → UInt32
  | .function => 0
  | .variable => 1

/-- The record of a symbol. -/
def IsSymbol (pool row : Bytes) (s : ExportedSymbol) : Prop :=
  ∃ name, IsReference pool name s.name ∧
    row = name ++ Bytes.ofUInt32 (kindWord s.kind) ++ Bytes.ofUInt64 s.offset

/-- The record of a relocation. -/
def IsRelocation (pool row : Bytes) (r : Relocation) : Prop :=
  ∃ symbol, IsReference pool symbol r.symbol ∧
    row = Bytes.ofUInt64 r.offset ++ Bytes.ofUInt32 r.kind ++ symbol ++ Bytes.ofInt64 r.addend

/-- The record of a function. -/
def IsFunction (pool row : Bytes) (f : FunctionRange) : Prop :=
  ∃ name, IsReference pool name f.name ∧
    row = name ++ Bytes.ofUInt64 f.offset ++ Bytes.ofUInt64 f.length

/-- The record of a pragma. -/
def IsPragma (pool row : Bytes) (p : Pragma) : Prop :=
  ∃ key value, IsReference pool key p.key ∧ IsReference pool value p.value ∧ row = key ++ value

/-- A reference is two numbers of four bytes. -/
theorem IsReference.length_eq {pool field : Bytes} {s : String} (h : IsReference pool field s) :
    field.length = 8 := by
  obtain ⟨offset, length, _, rfl⟩ := h
  simp

theorem IsSymbol.length_eq {pool row : Bytes} {s : ExportedSymbol} (h : IsSymbol pool row s) :
    row.length = 20 := by
  obtain ⟨name, isName, rfl⟩ := h
  simp [isName.length_eq]

theorem IsRelocation.length_eq {pool row : Bytes} {r : Relocation} (h : IsRelocation pool row r) :
    row.length = 28 := by
  obtain ⟨symbol, isSymbol, rfl⟩ := h
  simp [isSymbol.length_eq]

theorem IsFunction.length_eq {pool row : Bytes} {f : FunctionRange} (h : IsFunction pool row f) :
    row.length = 24 := by
  obtain ⟨name, isName, rfl⟩ := h
  simp [isName.length_eq]

theorem IsPragma.length_eq {pool row : Bytes} {p : Pragma} (h : IsPragma pool row p) :
    row.length = 16 := by
  obtain ⟨key, value, isKey, isValue, rfl⟩ := h
  simp [isKey.length_eq, isValue.length_eq]

/-- A record section: the number of the records, and after it a row of one width for each. -/
def IsRecords {α : Type} (width : Nat) (isRow : Bytes → α → Prop) (bytes : Bytes)
    (records : List α) : Prop :=
  ∃ (count : UInt32) (rows : List Bytes), count.toNat = records.length ∧
    List.Forall₂ isRow rows records ∧ (∀ row ∈ rows, row.length = width) ∧
    bytes = Bytes.ofUInt32 count ++ rows.flatten

/-- The record sections of an artifact. -/
structure HasRecords (pool symbols relocations functions pragmas : Bytes) (a : Artifact) : Prop where
  symbols : IsRecords 20 (IsSymbol pool) symbols a.symbols
  relocations : IsRecords 28 (IsRelocation pool) relocations a.relocations
  functions : IsRecords 24 (IsFunction pool) functions a.functions
  pragmas : IsRecords 16 (IsPragma pool) pragmas a.pragmas

/-! ## Payloads -/

/-- An entry of the section table: where a section starts in the payload, and its length. -/
structure Extent where
  offset : UInt64
  length : UInt64

/-- The sixteen bytes of a table entry. -/
def Extent.bytes (e : Extent) : Bytes := Bytes.ofUInt64 e.offset ++ Bytes.ofUInt64 e.length

/-- An extent is two numbers of eight bytes. -/
theorem Extent.length_flatMap_bytes (extents : List Extent) :
    (extents.flatMap Extent.bytes).length = 16 * extents.length := by
  induction extents with
  | nil => rfl
  | cons e es ih =>
    rw [List.flatMap_cons, List.length_append, ih, List.length_cons]
    simp only [Extent.bytes, List.length_append, Bytes.length_ofUInt64]
    omega

/-- The section that a table entry selects. -/
def Extent.slice (e : Extent) (payload : Bytes) : Bytes :=
  (payload.drop e.offset.toNat).take e.length.toNat

/-- The first section starts at one place, each other one where the section before it ends, and the
last ends at another place. -/
def Consecutive : Nat → List Extent → Nat → Prop
  | start, [], stop => start = stop
  | start, e :: es, stop => e.offset.toNat = start ∧ Consecutive (start + e.length.toNat) es stop

/-- Consecutive sections end nowhere before they start. -/
theorem Consecutive.le {start stop : Nat} {extents : List Extent}
    (h : Consecutive start extents stop) : start ≤ stop := by
  induction extents generalizing start with
  | nil => exact Nat.le_of_eq h
  | cons e es ih =>
    have := ih h.2
    omega

/-- The table entries of a payload. -/
structure SectionTable where
  strings : Extent
  symbols : Extent
  relocations : Extent
  functions : Extent
  pragmas : Extent
  code : Extent

/-- The table entries in their order. -/
def SectionTable.extents (t : SectionTable) : List Extent :=
  [t.strings, t.symbols, t.relocations, t.functions, t.pragmas, t.code]

/-- All tables of an artifact point inside its code, and no function's end is past the last
offset. -/
structure PointsInside (a : Artifact) : Prop where
  symbols : ∀ s ∈ a.symbols, s.offset.toNat ≤ a.code.length
  relocations : ∀ r ∈ a.relocations, r.offset.toNat < a.code.length
  functions : ∀ f ∈ a.functions, f.offset.toNat + f.length.toNat ≤ a.code.length ∧
    f.offset.toNat + f.length.toNat < 2 ^ 64

/-- A payload with its table: the sections fill it from the end of the table to its own end, and each
holds its part of the artifact. -/
structure HasTable (payload : Bytes) (t : SectionTable) (a : Artifact) : Prop where
  table : payload.take 96 = t.extents.flatMap Extent.bytes
  consecutive : Consecutive 96 t.extents payload.length
  symbols : IsRecords 20 (IsSymbol (t.strings.slice payload)) (t.symbols.slice payload) a.symbols
  relocations : IsRecords 28 (IsRelocation (t.strings.slice payload)) (t.relocations.slice payload)
    a.relocations
  functions : IsRecords 24 (IsFunction (t.strings.slice payload)) (t.functions.slice payload)
    a.functions
  pragmas : IsRecords 16 (IsPragma (t.strings.slice payload)) (t.pragmas.slice payload) a.pragmas
  code : t.code.slice payload = a.code

/-- A payload holds an artifact. -/
def IsPayload (payload : Bytes) (a : Artifact) : Prop :=
  (∃ t, HasTable payload t a) ∧ PointsInside a

/-! ## Entries -/

/-- Bytes are a header and a payload of the length and the checksum that the header says. -/
def IsEntry (bytes : Bytes) (h : Header) (a : Artifact) : Prop :=
  ∃ field payload, IsHeader field h ∧ IsPayload payload a ∧
    payload.length = h.payloadLength.toNat ∧ crc32 payload = h.payloadChecksum ∧
    bytes = field ++ payload

/-! ## An entry, byte by byte -/

namespace Sample

/-- Code with a record of each kind. The symbol, the relocation and the function share a string. -/
def artifact : Artifact where
  code := [0xC3, 0x90]
  symbols := [⟨"f", .variable, 2⟩]
  relocations := [⟨1, 0xFFFFFFFF, "f", -9223372036854775808⟩]
  functions := [⟨"f", 0, 2⟩]
  pragmas := [⟨"é", ""⟩]

/-- A source from just before the epoch. -/
def fingerprint : Fingerprint := ⟨⟨List.replicate 20 7, rfl⟩, -1, 5, ⟨[0x74, 0x31]⟩⟩

/-- The header of the entry below. -/
def header : Header := ⟨1, fingerprint, 205, 0x8D7FDCCF⟩

/-- The entry of the code above under the fingerprint above. -/
def entry : Bytes :=
  [ -- magic number and version
    111, 66, 67, 67, 1, 0, 0, 0,
    -- content digest
    7, 7, 7, 7, 7, 7, 7, 7, 7, 7, 7, 7, 7, 7, 7, 7, 7, 7, 7, 7,
    -- modification time and checksum of the source
    255, 255, 255, 255, 255, 255, 255, 255, 5, 0, 0, 0,
    -- signature length and signature
    2, 0, 0, 0, 116, 49,
    -- payload length and checksum
    205, 0, 0, 0, 0, 0, 0, 0, 207, 220, 127, 141,
    -- section table
    96, 0, 0, 0, 0, 0, 0, 0, 3, 0, 0, 0, 0, 0, 0, 0,
    99, 0, 0, 0, 0, 0, 0, 0, 24, 0, 0, 0, 0, 0, 0, 0,
    123, 0, 0, 0, 0, 0, 0, 0, 32, 0, 0, 0, 0, 0, 0, 0,
    155, 0, 0, 0, 0, 0, 0, 0, 28, 0, 0, 0, 0, 0, 0, 0,
    183, 0, 0, 0, 0, 0, 0, 0, 20, 0, 0, 0, 0, 0, 0, 0,
    203, 0, 0, 0, 0, 0, 0, 0, 2, 0, 0, 0, 0, 0, 0, 0,
    -- strings
    102, 195, 169,
    -- a symbol
    1, 0, 0, 0, 0, 0, 0, 0, 1, 0, 0, 0, 1, 0, 0, 0, 2, 0, 0, 0, 0, 0, 0, 0,
    -- a relocation
    1, 0, 0, 0, 1, 0, 0, 0, 0, 0, 0, 0, 255, 255, 255, 255, 0, 0, 0, 0, 1, 0, 0, 0, 0, 0, 0, 0, 0,
    0, 0, 128,
    -- a function
    1, 0, 0, 0, 0, 0, 0, 0, 1, 0, 0, 0, 0, 0, 0, 0, 0, 0, 0, 0, 2, 0, 0, 0, 0, 0, 0, 0,
    -- a pragma
    1, 0, 0, 0, 1, 0, 0, 0, 2, 0, 0, 0, 3, 0, 0, 0, 0, 0, 0, 0,
    -- code
    195, 144]

/-- The payload of the entry, which is the same under all fingerprints. -/
def payload : Bytes := entry.drop 58

end Sample

end BitcodeCache.Format
