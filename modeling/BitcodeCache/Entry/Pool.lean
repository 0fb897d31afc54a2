import BitcodeCache.Bytes
import BitcodeCache.Entry.Error
import BitcodeCache.Text.Utf8

/-!
# String pools

The strings of an artifact are kept once each, in the order of their first use, and records refer
to them by offset and length.
-/

namespace BitcodeCache

/-- Distinct strings in the order of their first use. -/
structure StringPool where
  strings : List String
deriving DecidableEq, Repr

namespace StringPool

/-- The pool without strings. -/
def empty : StringPool := ⟨[]⟩

/-- The number of bytes of a list of strings. -/
def sizeOf : List String → Nat
  | [] => 0
  | s :: strings => s.utf8ByteSize + sizeOf strings

/-- The number of bytes of the pool. -/
def size (pool : StringPool) : Nat := sizeOf pool.strings

/-- The bytes of the pool: those of its strings, one after another. -/
def bytes (pool : StringPool) : Bytes := pool.strings.flatMap Text.utf8

/-- Adds a string that is not there yet. The offset, the length and the end of the string must fit
a 32-bit field. -/
def intern (pool : StringPool) (s : String) : Except EncodeError StringPool :=
  if s ∈ pool.strings then .ok pool
  else if UInt32.size ≤ pool.size then .error (.tooLarge .strings pool.size)
  else if UInt32.size ≤ s.utf8ByteSize then .error (.tooLarge .strings s.utf8ByteSize)
  else if UInt32.size ≤ pool.size + s.utf8ByteSize then
    .error (.tooLarge .strings (pool.size + s.utf8ByteSize))
  else .ok ⟨pool.strings ++ [s]⟩

/-- Where a string of the pool starts. -/
def offset (pool : StringPool) (s : String) : Nat := sizeOf (pool.strings.takeWhile (· != s))

/-- The written reference to a string of the pool: its offset and its length. -/
def reference (pool : StringPool) (s : String) : Bytes :=
  Bytes.ofNat 4 (pool.offset s) ++ Bytes.ofNat 4 s.utf8ByteSize

/-- The string at an offset, of a length, in the bytes of a pool. -/
def string (pool : Array UInt8) (offset length : UInt32) : Except DecodeError String :=
  let stop := offset.toNat + length.toNat
  if stop ≤ pool.size then
    match Text.ofUtf8? (pool.extract offset.toNat stop).toList with
    | some s => .ok s
    | none => .error (.badString offset)
  else .error (.badOffset .strings stop pool.size)

theorem length_bytes (pool : StringPool) : pool.bytes.length = pool.size := by
  have each (s : String) : (Text.utf8 s).length = s.utf8ByteSize := Array.length_toList
  obtain ⟨strings⟩ := pool
  rw [bytes, size]
  induction strings with
  | nil => rfl
  | cons s strings ih => rw [List.flatMap_cons, List.length_append, each, ih, sizeOf]

/-- What is looked up lies between the offset and the end of the string in the list of bytes. -/
theorem toList_extract_stop (pool : Bytes) (offset length : Nat) :
    (pool.toArray.extract offset (offset + length)).toList = (pool.drop offset).take length := by
  simp [List.take_drop]

end StringPool

end BitcodeCache
