import BitcodeCache.Artifact
import BitcodeCache.Entry.Header
import BitcodeCache.Entry.Pool

/-!
# Payloads

The payload of an entry holds an artifact in six sections. A table of their offsets and lengths
comes first; the sections follow it in table order without gaps. A record section is the number of
its records and then the records, all of one width.

    section table      6 times (offset 8 bytes, length 8 bytes)
    strings            the bytes of the string pool
    symbols            count 4 bytes, then (name 8, kind 4, offset 8)
    relocations        count 4 bytes, then (offset 8, kind 4, symbol 8, addend 8)
    functions          count 4 bytes, then (name 8, offset 8, length 8)
    pragmas            count 4 bytes, then (key 8, value 8)
    code               the machine code

A reference to a string is its offset in the pool and its length, 4 bytes each. Reading checks every
offset and length against the bytes at hand before it uses them.
-/

namespace BitcodeCache.Payload

/-- The number of bytes of the section table. -/
def tableLength : Nat := 96

/-! ## Records -/

/-- The written form of one kind of record. -/
structure RecordLayout (α : Type) where
  region : Region
  width : Nat
  write : StringPool → α → Bytes
  read : Array UInt8 → FieldReader α

/-- Reads a reference and looks it up in the bytes of the pool. -/
def readString (region : Region) (pool : Array UInt8) : FieldReader String := do
  let offset ← FieldReader.word32 region
  let length ← FieldReader.word32 region
  match StringPool.string pool offset length with
  | .ok s => pure s
  | .error fault => FieldReader.refuse fault

/-- Exported symbols. -/
def symbolLayout : RecordLayout ExportedSymbol where
  region := .symbols
  width := 20
  write pool s := pool.reference s.name ++ Bytes.ofUInt32 s.kind.tag ++ Bytes.ofUInt64 s.offset
  read pool := do
    let name ← readString .symbols pool
    let tag ← FieldReader.word32 .symbols
    match SymbolKind.ofTag? tag with
    | none => FieldReader.refuse (.badTag .symbols tag)
    | some kind =>
      let offset ← FieldReader.word64 .symbols
      pure ⟨name, kind, offset⟩

/-- Relocations. -/
def relocationLayout : RecordLayout Relocation where
  region := .relocations
  width := 28
  write pool r :=
    Bytes.ofUInt64 r.offset ++ Bytes.ofUInt32 r.kind ++ pool.reference r.symbol ++
      Bytes.ofInt64 r.addend
  read pool := do
    let offset ← FieldReader.word64 .relocations
    let kind ← FieldReader.word32 .relocations
    let symbol ← readString .relocations pool
    let addend ← FieldReader.int64 .relocations
    pure ⟨offset, kind, symbol, addend⟩

/-- Function extents. -/
def functionLayout : RecordLayout FunctionRange where
  region := .functions
  width := 24
  write pool f := pool.reference f.name ++ Bytes.ofUInt64 f.offset ++ Bytes.ofUInt64 f.length
  read pool := do
    let name ← readString .functions pool
    let offset ← FieldReader.word64 .functions
    let length ← FieldReader.word64 .functions
    pure ⟨name, offset, length⟩

/-- Pragmas. -/
def pragmaLayout : RecordLayout Pragma where
  region := .pragmas
  width := 16
  write pool p := pool.reference p.key ++ pool.reference p.value
  read pool := do
    let key ← readString .pragmas pool
    let value ← readString .pragmas pool
    pure ⟨key, value⟩

namespace RecordLayout

variable {α : Type}

/-- The section of a list of records. -/
def encode (layout : RecordLayout α) (pool : StringPool) (records : List α) : Bytes :=
  Bytes.ofNat 4 records.length ++ records.flatMap (layout.write pool)

/-- Reads a section: a count, and exactly as many records as it says. -/
def reader (layout : RecordLayout α) (pool : Array UInt8) : FieldReader (List α) := do
  let count ← FieldReader.word32 layout.region
  let body ← get
  let needed := count.toNat * layout.width
  FieldReader.require (needed == body.length)
    (.badLength layout.region (.recordCount count.toNat layout.width needed body.length))
  FieldReader.exactly (layout.read pool) count.toNat

/-- The records of a section. -/
def decode (layout : RecordLayout α) (pool : Array UInt8) (bytes : Bytes) :
    Except DecodeError (List α) :=
  (·.1) <$> layout.reader pool bytes

end RecordLayout

/-! ## Writing -/

/-- The pool of the strings of a list of records, added to a pool. -/
def internAll {α : Type} (strings : α → List String) (pool : StringPool) (records : List α) :
    Except EncodeError StringPool :=
  (records.flatMap strings).foldlM StringPool.intern pool

/-- The pool of all strings of an artifact: of symbols, relocations, functions and pragmas, in this
order. The number of records of each kind must fit a 32-bit field. -/
def poolOf (a : Artifact) : Except EncodeError StringPool := do
  Header.fitWord32 .symbols a.symbols.length
  let pool ← internAll (fun s => [s.name]) .empty a.symbols
  Header.fitWord32 .relocations a.relocations.length
  let pool ← internAll (fun r => [r.symbol]) pool a.relocations
  Header.fitWord32 .functions a.functions.length
  let pool ← internAll (fun f => [f.name]) pool a.functions
  Header.fitWord32 .pragmas a.pragmas.length
  internAll (fun p => [p.key, p.value]) pool a.pragmas

/-- The table entries of consecutive sections of the given lengths, the first at `start`. -/
def table : Nat → List Nat → Bytes
  | _, [] => []
  | start, length :: lengths =>
    Bytes.ofNat 8 start ++ Bytes.ofNat 8 length ++ table (start + length) lengths

/-- The six sections of an artifact, in table order. -/
def sections (pool : StringPool) (a : Artifact) : List Bytes :=
  [pool.bytes, symbolLayout.encode pool a.symbols, relocationLayout.encode pool a.relocations,
    functionLayout.encode pool a.functions, pragmaLayout.encode pool a.pragmas, a.code]

/-- A section table and its sections. -/
def assemble (sections : List Bytes) : Bytes :=
  table tableLength (sections.map (·.length)) ++ sections.flatten

/-- The payload of an artifact. -/
def encode (a : Artifact) : Except EncodeError Bytes := do
  let pool ← poolOf a
  pure (assemble (sections pool a))

/-! ## Reading -/

/-- The payload's sections in table order. -/
def regions : List Region := [.strings, .symbols, .relocations, .functions, .pragmas, .code]

/-- Reads table entries for consecutive sections, the first of which must start at `start`. Each
must end within the `total` bytes of the payload. Gives the lengths and the end of the last. -/
def readTable (total : Nat) : Nat → List Region → FieldReader (List Nat × Nat)
  | start, [] => pure ([], start)
  | start, region :: regions => do
    let offset ← FieldReader.word64 .sectionTable
    let length ← FieldReader.word64 .sectionTable
    FieldReader.require (offset.toNat == start)
      (.badLength region (.misplaced offset.toNat start))
    FieldReader.require (start + length.toNat ≤ total)
      (.truncated region length.toNat (total - start))
    let rest ← readTable total (start + length.toNat) regions
    pure (length.toNat :: rest.1, rest.2)

/-- Cuts bytes into pieces of the given lengths. -/
def slices : List Nat → Bytes → List Bytes
  | [], _ => []
  | length :: lengths, bytes => bytes.take length :: slices lengths (bytes.drop length)

/-- The sections of a payload, in table order, where its table covers it without gap or rest. -/
def readSections (payload : Bytes) : Except DecodeError (List Bytes) :=
  match readTable payload.length tableLength regions payload with
  | .error fault => .error fault
  | .ok ((lengths, stop), body) =>
    if stop = payload.length then .ok (slices lengths body)
    else .error (.badLength .payload (.afterLast (payload.length - stop)))

/-- The artifact in a payload. Checksums are not looked at. -/
def decode (payload : Bytes) : Except DecodeError Artifact := do
  match ← readSections payload with
  | [pool, symbols, relocations, functions, pragmas, code] =>
    let pool := pool.toArray
    let symbols ← symbolLayout.decode pool symbols
    let relocations ← relocationLayout.decode pool relocations
    let functions ← functionLayout.decode pool functions
    let pragmas ← pragmaLayout.decode pool pragmas
    let artifact : Artifact := ⟨code, symbols, relocations, functions, pragmas⟩
    artifact.validate
    pure artifact
  | _ => throw (.truncated .sectionTable tableLength payload.length)

end BitcodeCache.Payload
