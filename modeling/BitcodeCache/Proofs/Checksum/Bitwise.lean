import BitcodeCache.Proofs.Checksum

/-!
# Checksums bit by bit

CRC-32 is defined by a shift register that takes one bit at a time. The running checksum takes chunks
of bytes instead, and eight bits at once through its table. Both come to the same value however the
bytes are cut into chunks: a chunk leaves the register that its bits leave one after another, and the
register is all that goes from one chunk to the next.
-/

namespace BitcodeCache.Crc32

open Bytes

/-- The defining register takes one bit: it moves down by one, and where the bit that leaves it is not
the one that is fed, the polynomial is added. -/
def moveDown (register : UInt32) (bit : Bool) : UInt32 :=
  if register.toNat.testBit 0 = bit then register >>> 1 else (register >>> 1) ^^^ 0xEDB88320

/-- The CRC-32 of some bits by its definition: the register starts with all bits set, and the complement
of what is left after the last bit is the checksum. -/
def bitwise (bits : List Bool) : UInt32 := ~~~ bits.foldl moveDown 0xFFFFFFFF

/-- Adding the polynomial on a bit that is moved out is the step that the table is made of. -/
theorem moveDown_eq_feedBit : moveDown = feedBit := by
  funext register bit
  simp only [moveDown, feedBit, polynomial, ne_eq, ite_not]

theorem finish_eq_complement (crc : Crc32) : crc.finish = ~~~ crc.register := UInt32.xor_neg_one

/-! ## Chunks -/

/-- The chunks of a list leave what their bytes leave one after another. -/
theorem foldl_feed (crc : Crc32) (chunks : List Bytes) :
    chunks.foldl feed crc = crc.feed chunks.flatten := by
  induction chunks generalizing crc with
  | nil => rfl
  | cons chunk chunks ih => rw [List.foldl_cons, ih, List.flatten_cons, feed_append]

/-- The checksum that is fed byte by byte is the one that goes bit by bit. -/
theorem finish_feed_start (bytes : Bytes) : (start.feed bytes).finish = bitwise (bits bytes) := by
  rw [finish_eq_complement, register_feed, bitwise, moveDown_eq_feedBit]
  rfl

/-- After any number of chunks the finished value is the checksum, bit by bit, of all bytes fed so
far. So it is the same for all ways to cut these bytes, and `crc32` is the one with a single chunk. -/
theorem checksum_eq_bitwise :
    (∀ (chunks : List Bytes) (n : Nat), ((chunks.take n).foldl feed start).finish =
      bitwise (bits (chunks.take n).flatten)) ∧
    (∀ chunks others : List Bytes, chunks.flatten = others.flatten →
      (chunks.foldl feed start).finish = (others.foldl feed start).finish) ∧
    ∀ bytes : Bytes, crc32 bytes = bitwise (bits bytes) := by
  refine ⟨fun chunks n => ?_, fun chunks others same => ?_, finish_feed_start⟩
  · rw [foldl_feed, finish_feed_start]
  · rw [foldl_feed, foldl_feed, same]

/-- The digits from one to nine, with an empty chunk among them and as two chunks, have the check
value that is published for this checksum. -/
theorem checksum_eq_bitwise_digits :
    [[0x31, 0x32, 0x33, 0x34], [], [0x35, 0x36, 0x37, 0x38, 0x39]].flatten =
      ([[0x31], [0x32, 0x33, 0x34, 0x35, 0x36, 0x37, 0x38, 0x39]] : List Bytes).flatten ∧
    ([[0x31, 0x32, 0x33, 0x34], [], [0x35, 0x36, 0x37, 0x38, 0x39]].foldl feed start).finish =
      ([[0x31], [0x32, 0x33, 0x34, 0x35, 0x36, 0x37, 0x38, 0x39]].foldl feed start).finish ∧
    crc32 [0x31, 0x32, 0x33, 0x34, 0x35, 0x36, 0x37, 0x38, 0x39] = 0xCBF43926 := by
  obtain ⟨_, chunking, whole⟩ := checksum_eq_bitwise
  refine ⟨rfl, chunking _ _ rfl, ?_⟩
  rw [whole]
  decide +kernel

end BitcodeCache.Crc32
