import BitcodeCache.Digest
import BitcodeCache.Entry.Error

/-!
# Fields of entries

A `FieldReader` takes a value off the front of some bytes, or tells what is missing. Every fixed
field is read through `take`, which never looks past the end of the bytes it is given.
-/

namespace BitcodeCache

/-- Takes a value off the front of some bytes, or gives the fault. -/
abbrev FieldReader := StateT Bytes (Except DecodeError)

namespace FieldReader

variable {α : Type}

/-- The next `n` bytes of a region. -/
def take (region : Region) (n : Nat) : FieldReader Bytes := fun bytes =>
  let field := bytes.take n
  if field.length = n then .ok (field, bytes.drop n)
  else .error (.truncated region n bytes.length)

/-- A 32-bit word. -/
def word32 (region : Region) : FieldReader UInt32 := Bytes.toUInt32 <$> take region 4

/-- A 64-bit word. -/
def word64 (region : Region) : FieldReader UInt64 := Bytes.toUInt64 <$> take region 8

/-- A signed 64-bit number. -/
def int64 (region : Region) : FieldReader Int64 := Bytes.toInt64 <$> take region 8

/-- A digest. -/
def digest (region : Region) : FieldReader Digest := fun bytes =>
  if h : 20 ≤ bytes.length then .ok (⟨bytes.take 20, by simp [h]⟩, bytes.drop 20)
  else .error (.truncated region 20 bytes.length)

/-- Refuses the bytes. -/
def refuse (fault : DecodeError) : FieldReader α := fun _ => .error fault

/-- Goes on where a condition holds and gives the fault where it fails. -/
def require (condition : Bool) (fault : DecodeError) : FieldReader Unit :=
  if condition then pure () else refuse fault

/-- The given number of values, one after another. -/
def exactly (item : FieldReader α) : Nat → FieldReader (List α)
  | 0 => pure []
  | n + 1 => do
    let a ← item
    let rest ← exactly item n
    pure (a :: rest)

/-- A field that is there is taken, and what follows it is left. -/
theorem take_append (region : Region) (field rest : Bytes) :
    take region field.length (field ++ rest) = .ok (field, rest) := by
  simp [take]

/-- Too few bytes are refused with the number asked for and the number there are. -/
theorem take_short {region : Region} {n : Nat} {bytes : Bytes} (short : bytes.length < n) :
    take region n bytes = .error (.truncated region n bytes.length) := by
  have held : (bytes.take n).length ≠ n := by rw [List.length_take]; omega
  simp only [take, held, if_false]

end FieldReader

end BitcodeCache
