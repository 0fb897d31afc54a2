import BitcodeCache.Bytes

/-!
# CRC-32

The checksum of the reflected polynomial `0xEDB88320`. A `Crc32` is a running register that takes
any number of byte chunks; `shiftBit` is the step of the defining shift register for one bit, and
the table holds the outcome of eight such steps for each low byte.
-/

namespace BitcodeCache

/-- A running CRC-32: the shift register after the bytes fed so far. -/
structure Crc32 where
  register : UInt32
deriving DecidableEq, Repr

namespace Crc32

/-- The reflected generator polynomial. -/
def polynomial : UInt32 := 0xEDB88320

/-- One step of the shift register on a zero input bit. -/
def shiftBit (register : UInt32) : UInt32 :=
  if register &&& 1 = 1 then (register >>> 1) ^^^ polynomial else register >>> 1

/-- Eight steps of the shift register, for one byte already added to its low end. -/
def shiftByte (register : UInt32) : UInt32 := Nat.repeat shiftBit 8 register

/-- `shiftByte` of every single byte. -/
def table : Vector UInt32 256 := Vector.ofFn fun i => shiftByte (UInt32.ofNat i)

/-- The register before any byte: all ones. -/
def start : Crc32 := ⟨0xFFFFFFFF⟩

/-- Feeds one byte. -/
def feedByte (crc : Crc32) (b : UInt8) : Crc32 :=
  ⟨table.get (crc.register.toUInt8 ^^^ b).toFin ^^^ (crc.register >>> 8)⟩

/-- Feeds a chunk of bytes. -/
def feed (crc : Crc32) (bytes : Bytes) : Crc32 := bytes.foldl feedByte crc

/-- The checksum of the bytes fed so far: the complement of the register. -/
def finish (crc : Crc32) : UInt32 := crc.register ^^^ 0xFFFFFFFF

@[simp] theorem feed_append (crc : Crc32) (xs ys : Bytes) :
    crc.feed (xs ++ ys) = (crc.feed xs).feed ys := List.foldl_append

end Crc32

/-- The CRC-32 of a byte string. -/
def crc32 (bytes : Bytes) : UInt32 := (Crc32.start.feed bytes).finish

end BitcodeCache
