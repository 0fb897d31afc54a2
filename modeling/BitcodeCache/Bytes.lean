/-!
# Byte strings and little-endian words

Files, payloads and signatures are lists of bytes. A number of `width` bytes is written least
significant byte first by `Bytes.ofNat` and read back by `Bytes.toNat`.
-/

namespace BitcodeCache

/-- A byte string. -/
abbrev Bytes := List UInt8

namespace Bytes

/-- The `width` bytes of `n`, least significant first; the part of `n` above them is dropped. -/
def ofNat : (width : Nat) → Nat → Bytes
  | 0, _ => []
  | width + 1, n => UInt8.ofNat (n % 256) :: ofNat width (n / 256)

/-- The number whose bytes, least significant first, are the given ones. -/
def toNat : Bytes → Nat
  | [] => 0
  | b :: bs => b.toNat + 256 * toNat bs

@[simp] theorem length_ofNat (width n : Nat) : (ofNat width n).length = width := by
  induction width generalizing n with
  | zero => rfl
  | succ width ih => simp [ofNat, ih]

/-! ## Words -/

/-- The four bytes of a 32-bit word. -/
def ofUInt32 (w : UInt32) : Bytes := ofNat 4 w.toNat

/-- The eight bytes of a 64-bit word. -/
def ofUInt64 (w : UInt64) : Bytes := ofNat 8 w.toNat

/-- The eight bytes of a signed 64-bit number, in two's complement. -/
def ofInt64 (n : Int64) : Bytes := ofUInt64 n.toUInt64

/-- The 32-bit word with the given bytes. -/
def toUInt32 (bs : Bytes) : UInt32 := UInt32.ofNat bs.toNat

/-- The 64-bit word with the given bytes. -/
def toUInt64 (bs : Bytes) : UInt64 := UInt64.ofNat bs.toNat

/-- The signed 64-bit number with the given bytes. -/
def toInt64 (bs : Bytes) : Int64 := bs.toUInt64.toInt64

@[simp] theorem length_ofUInt32 (w : UInt32) : (ofUInt32 w).length = 4 := length_ofNat 4 _

@[simp] theorem length_ofUInt64 (w : UInt64) : (ofUInt64 w).length = 8 := length_ofNat 8 _

@[simp] theorem length_ofInt64 (n : Int64) : (ofInt64 n).length = 8 := length_ofNat 8 _

/-! ## Hexadecimal text -/

/-- The lower-case hexadecimal digit of a number below sixteen. -/
def hexDigit (n : Nat) : Char := Nat.digitChar n

/-- Two lower-case hexadecimal digits for each byte. -/
def hex (bs : Bytes) : String :=
  String.ofList (bs.flatMap fun b => [hexDigit (b.toNat / 16), hexDigit (b.toNat % 16)])

end Bytes

end BitcodeCache
