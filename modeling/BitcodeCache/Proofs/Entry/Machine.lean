import Mathlib.Algebra.Group.Nat.Defs
import BitcodeCache.Entry.Payload

/-!
# Payloads read in words of 64 bits

`Payload.decode` counts in numbers without bound and takes pieces of lists, which cannot go wrong. On a
machine the same reading has a position in a buffer, sections as ranges, and sums and products of words
that wrap. Here it is done so, step by step and with every guard in its place, and each computation
tells its operations, whether it succeeds or fails. So it can be asked of all of them, up to the
last one before a fault, whether they are safe.
-/

namespace BitcodeCache.Machine

/-! ## Operations -/

/-- What a computation does to words and to memory. -/
inductive Operation where
  /-- The sum of two words. -/
  | sum (a b : UInt64)
  /-- The first word less the second. -/
  | difference (a b : UInt64)
  /-- The product of two words. -/
  | product (a b : UInt64)
  /-- The part between two positions of a buffer with some number of bytes. -/
  | slice (start stop : UInt64) (size : Nat)
  /-- So many bytes copied to a place that has its own number of bytes. -/
  | copy (source target : Nat)
  /-- Room for records of one width, made before the first of them is read. -/
  | reserve (count width : UInt64)
deriving DecidableEq, Repr

/-- No word wraps, no slice leaves its buffer, a copy fills its place, and the records that room is made
for have no more bytes together than all input, whose number of bytes is the limit. -/
def Operation.Safe (limit : Nat) : Operation → Prop
  | .sum a b => a.toNat + b.toNat < 2 ^ 64
  | .difference a b => b.toNat ≤ a.toNat
  | .product a b => a.toNat * b.toNat < 2 ^ 64
  | .slice start stop size => start.toNat ≤ stop.toNat ∧ stop.toNat ≤ size
  | .copy source target => source = target
  | .reserve count width => count.toNat * width.toNat ≤ limit

/-- A computation that succeeds or fails, with the operations it did until then. -/
structure Traced (α : Type) where
  result : Except DecodeError α
  operations : List Operation

namespace Traced

variable {α β : Type}

/-- Goes on with the value of a computation that succeeds. -/
def andThen (x : Traced α) (next : α → Traced β) : Traced β :=
  match x.result with
  | .error fault => ⟨.error fault, x.operations⟩
  | .ok a => ⟨(next a).result, x.operations ++ (next a).operations⟩

instance : Monad Traced where
  pure a := ⟨.ok a, []⟩
  bind := andThen

end Traced

/-- Stops with a fault. -/
def fail {α : Type} (fault : DecodeError) : Traced α := ⟨.error fault, []⟩

/-- The number of bytes of a buffer. -/
def size (bytes : Bytes) : UInt64 := UInt64.ofNat bytes.length

def add (a b : UInt64) : Traced UInt64 := ⟨.ok (a + b), [.sum a b]⟩

def subtract (a b : UInt64) : Traced UInt64 := ⟨.ok (a - b), [.difference a b]⟩

def multiply (a b : UInt64) : Traced UInt64 := ⟨.ok (a * b), [.product a b]⟩

/-- The bytes from `start` on and before `stop`. -/
def slice (bytes : Bytes) (start stop : UInt64) : Traced Bytes :=
  ⟨.ok ((bytes.drop start.toNat).take (stop.toNat - start.toNat)), [.slice start stop bytes.length]⟩

/-- Bytes, put into a place for `n` of them. -/
def copy (bytes : Bytes) (n : Nat) : Traced Bytes := ⟨.ok bytes, [.copy bytes.length n]⟩

def reserve (count width : UInt64) : Traced Unit := ⟨.ok (), [.reserve count width]⟩

/-- The sum of two words, if it is a word. -/
def checkedAdd (a b : UInt64) : Traced (Option UInt64) :=
  if a.toNat + b.toNat < 2 ^ 64 then some <$> add a b else pure none

/-- The first word less the second, and zero where that is less than nothing. -/
def saturatingSubtract (a b : UInt64) : Traced UInt64 :=
  if b ≤ a then subtract a b else pure 0

/-! ## Fields -/

/-- A buffer, and the region that faults in it are told for. -/
structure Source where
  bytes : Bytes
  region : Region

/-- A computation with a position in a buffer. -/
abbrev Reading := StateT UInt64 Traced

namespace Source

/-- The number of bytes after the position. -/
def remaining (src : Source) : Reading UInt64 := do
  let position ← get
  subtract (size src.bytes) position

/-- The next `n` bytes. -/
def take (src : Source) (n : UInt64) : Reading Bytes := do
  let available ← src.remaining
  if available < n then
    fail (.truncated src.region n.toNat available.toNat)
  else do
    let position ← get
    let stop ← add position n
    let field ← slice src.bytes position stop
    let next ← add position n
    set next
    pure field

/-- The next `n` bytes, for a place of their own. -/
def array (src : Source) (n : UInt64) : Reading Bytes := do
  let field ← src.take n
  copy field n.toNat

def word32 (src : Source) : Reading UInt32 := Bytes.toUInt32 <$> src.array 4

def word64 (src : Source) : Reading UInt64 := Bytes.toUInt64 <$> src.array 8

def int64 (src : Source) : Reading Int64 := Bytes.toInt64 <$> src.array 8

/-- A reference, looked up in the bytes of the pool. -/
def string (src : Source) (pool : Bytes) : Reading String := do
  let offset ← src.word32
  let length ← src.word32
  let stop ← add offset.toUInt64 length.toUInt64
  if size pool < stop then
    fail (.badOffset .strings stop.toNat (size pool).toNat)
  else do
    let field ← slice pool offset.toUInt64 stop
    match Text.ofUtf8? field with
    | some s => pure s
    | none => fail (.badString offset)

end Source

/-! ## Records -/

/-- How records of one kind are read. -/
structure Records (α : Type) where
  region : Region
  width : UInt64
  read : Bytes → Source → Reading α

def symbols : Records ExportedSymbol where
  region := .symbols
  width := 20
  read pool src := do
    let name ← src.string pool
    let tag ← src.word32
    match SymbolKind.ofTag? tag with
    | none => fail (.badTag .symbols tag)
    | some kind => do
      let offset ← src.word64
      pure ⟨name, kind, offset⟩

def relocations : Records Relocation where
  region := .relocations
  width := 28
  read pool src := do
    let offset ← src.word64
    let kind ← src.word32
    let symbol ← src.string pool
    let addend ← src.int64
    pure ⟨offset, kind, symbol, addend⟩

def functions : Records FunctionRange where
  region := .functions
  width := 24
  read pool src := do
    let name ← src.string pool
    let offset ← src.word64
    let length ← src.word64
    pure ⟨name, offset, length⟩

def pragmas : Records Pragma where
  region := .pragmas
  width := 16
  read pool src := do
    let key ← src.string pool
    let value ← src.string pool
    pure ⟨key, value⟩

/-- The given number of values, one after another. -/
def exactly {α : Type} (item : Reading α) : Nat → Reading (List α)
  | 0 => pure []
  | n + 1 => do
    let a ← item
    let rest ← exactly item n
    pure (a :: rest)

namespace Records

variable {α : Type}

/-- A count and as many records as it says. There is room for them only once they are known to be
there. -/
def reader (records : Records α) (pool : Bytes) (src : Source) : Reading (List α) := do
  let count ← src.word32
  let body ← src.remaining
  let needed ← multiply count.toUInt64 records.width
  if needed ≠ body then
    fail (.badLength records.region
      (.recordCount count.toNat records.width.toNat needed.toNat body.toNat))
  else do
    reserve count.toUInt64 records.width
    exactly (records.read pool src) count.toNat

/-- The records of a section. -/
def decode (records : Records α) (pool bytes : Bytes) : Traced (List α) :=
  (·.1) <$> records.reader pool ⟨bytes, records.region⟩ 0

end Records

/-! ## Artifacts -/

/-- Checks values one after another, up to the first fault. -/
def each {α : Type} (check : α → Traced Unit) : List α → Traced Unit
  | [] => pure ()
  | a :: rest => do
    check a
    each check rest

def checkSymbol (limit : UInt64) (s : ExportedSymbol) : Traced Unit :=
  if limit < s.offset then fail (.badOffset .symbols s.offset.toNat limit.toNat) else pure ()

def checkRelocation (limit : UInt64) (r : Relocation) : Traced Unit :=
  if limit ≤ r.offset then fail (.badOffset .relocations r.offset.toNat limit.toNat) else pure ()

/-- The end of a function, or the last word where it is no word. -/
def functionStop (f : FunctionRange) : Traced UInt64 :=
  (·.getD (UInt64.ofNat Artifact.lastOffset)) <$> checkedAdd f.offset f.length

def checkFunction (limit : UInt64) (f : FunctionRange) : Traced Unit := do
  let stop ← functionStop f
  if limit < stop then fail (.badOffset .functions stop.toNat limit.toNat) else pure ()

/-- Accepts an artifact whose tables all point inside its code. -/
def validate (a : Artifact) : Traced Unit := do
  let limit := size a.code
  each (checkSymbol limit) a.symbols
  each (checkRelocation limit) a.relocations
  each (checkFunction limit) a.functions

/-! ## Payloads -/

/-- The ranges that the table gives for consecutive sections, the first of which must start at
`start`, and the end of the last. -/
def readTable (src : Source) (total : UInt64) :
    UInt64 → List Region → Reading (List (UInt64 × UInt64) × UInt64)
  | start, [] => pure ([], start)
  | start, region :: regions => do
    let offset ← src.word64
    let length ← src.word64
    if offset ≠ start then
      fail (.badLength region (.misplaced offset.toNat start.toNat))
    else do
      let stop? ← checkedAdd offset length
      let available ← saturatingSubtract total offset
      match stop?.filter (· ≤ total) with
      | none => fail (.truncated region length.toNat available.toNat)
      | some stop => do
        let rest ← readTable src total stop regions
        pure ((offset, stop) :: rest.1, rest.2)

/-- The ranges of the six sections, which must end with the payload. -/
def readSections (payload : Bytes) : Traced (List (UInt64 × UInt64)) := do
  let total := size payload
  let ((ranges, stop), _) ← readTable ⟨payload, .sectionTable⟩ total 96 Payload.regions 0
  if stop ≠ total then do
    let rest ← subtract total stop
    fail (.badLength .payload (.afterLast rest.toNat))
  else
    pure ranges

/-- The artifact in a payload. -/
def decode (payload : Bytes) : Traced Artifact := do
  let cut (range : UInt64 × UInt64) := slice payload range.1 range.2
  match ← readSections payload with
  | [pool, symbolRange, relocationRange, functionRange, pragmaRange, code] => do
    let pool ← cut pool
    let symbols ← cut symbolRange >>= symbols.decode pool
    let relocations ← cut relocationRange >>= relocations.decode pool
    let functions ← cut functionRange >>= functions.decode pool
    let pragmas ← cut pragmaRange >>= pragmas.decode pool
    let code ← cut code
    let artifact : Artifact := ⟨code, symbols, relocations, functions, pragmas⟩
    validate artifact
    pure artifact
  | _ => fail (.truncated .sectionTable Payload.tableLength payload.length)

end BitcodeCache.Machine
