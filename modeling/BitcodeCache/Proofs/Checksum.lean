import Mathlib.Algebra.Group.Nat.Defs
import Mathlib.Logic.Function.Basic
import BitcodeCache.Checksum

/-!
# Checksums tell bursts apart

A byte that is fed through the table does what its eight bits do one after another. A bit is added to
the low end of the register and the register moves down by one, which loses nothing: so bytes that
two texts have in common never make different registers equal. Up to 32 bits may be added all at
once before the register moves, so different words leave different registers. Together: texts of one
length that differ, and only inside a window of 32 bits, have different checksums.
-/

namespace BitcodeCache

/-! ## Bits of numbers -/

/-- A number has no bits above its width. -/
theorem testBit_of_le {n width i : Nat} (h : n < 2 ^ width) (le : width ≤ i) :
    n.testBit i = false :=
  Nat.testBit_lt_two_pow (Nat.lt_of_lt_of_le h (Nat.pow_le_pow_right (by decide) le))

/-- Numbers of one width with the same bits are equal. -/
theorem eq_of_testBit_lt {m n width : Nat} (hm : m < 2 ^ width) (hn : n < 2 ^ width)
    (h : ∀ i < width, m.testBit i = n.testBit i) : m = n := by
  refine Nat.eq_of_testBit_eq fun i => ?_
  by_cases inside : i < width
  · exact h i inside
  · rw [testBit_of_le hm (by omega), testBit_of_le hn (by omega)]

namespace Bytes

/-! ## Bits of bytes -/

/-- The bits of a byte, least significant first. -/
def bitsOf (b : UInt8) : List Bool := (List.range 8).map b.toNat.testBit

/-- The bits of a byte string, those of each byte least significant first. -/
def bits (bytes : Bytes) : List Bool := bytes.flatMap bitsOf

/-- The second byte string is as long as the first and not the same; all bits that differ lie in a
window of some width. -/
structure DiffersWithin (width : Nat) (xs ys : Bytes) : Prop where
  length : ys.length = xs.length
  ne : ys ≠ xs
  window : ∃ start, ∀ i, (bits ys)[i]? ≠ (bits xs)[i]? → start ≤ i ∧ i < start + width

@[simp] theorem length_bitsOf (b : UInt8) : (bitsOf b).length = 8 := by simp [bitsOf]

theorem getD_bitsOf (b : UInt8) {i : Nat} (h : i < 8) :
    (bitsOf b).getD i false = b.toNat.testBit i := by
  simp [bitsOf, h]

theorem bitsOf_injective : Function.Injective bitsOf := by
  intro b c same
  refine UInt8.toNat_inj.1 (eq_of_testBit_lt b.toNat_lt c.toNat_lt fun i inside => ?_)
  rw [← getD_bitsOf b inside, ← getD_bitsOf c inside, same]

theorem length_bits (bytes : Bytes) : (bits bytes).length = 8 * bytes.length := by
  induction bytes with
  | nil => rfl
  | cons b bytes ih =>
    rw [bits, List.flatMap_cons, List.length_append, length_bitsOf, ← bits, ih, List.length_cons]
    omega

theorem bits_injective : Function.Injective bits := by
  intro xs ys same
  have lengths : xs.length = ys.length := by
    have := congrArg List.length same
    rw [length_bits, length_bits] at this
    omega
  induction xs generalizing ys with
  | nil => exact (List.eq_nil_of_length_eq_zero lengths.symm).symm
  | cons x xs ih =>
    cases ys with
    | nil => cases lengths
    | cons y ys =>
      obtain ⟨first, rest⟩ := List.append_inj same (by rw [length_bitsOf, length_bitsOf])
      rw [bitsOf_injective first, ih rest (Nat.succ.inj lengths)]

theorem bits_append (xs ys : Bytes) : bits (xs ++ ys) = bits xs ++ bits ys := List.flatMap_append

/-- Bytes that are replaced by others are a window of eight times their number of bits. -/
theorem DiffersWithin.of_append {width : Nat} {before after u v : Bytes}
    (length : v.length = u.length) (ne : v ≠ u) (short : 8 * u.length ≤ width) :
    DiffersWithin width (before ++ u ++ after) (before ++ v ++ after) where
  length := by simp [length]
  ne same := ne (List.append_cancel_left (List.append_cancel_right same))
  window := by
    refine ⟨8 * before.length, fun i differs => ?_⟩
    by_contra outside
    refine differs ?_
    simp only [bits_append, List.append_assoc, List.getElem?_append, length_bits, length]
    grind

/-- The bits before the window and those after it are the same. -/
theorem DiffersWithin.split {width : Nat} {xs ys : Bytes} (h : DiffersWithin width xs ys) :
    ∃ before after u v, bits xs = before ++ u ++ after ∧ bits ys = before ++ v ++ after ∧
      u.length = v.length ∧ u.length ≤ width ∧ u ≠ v := by
  obtain ⟨start, window⟩ := h.window
  have outside {i : Nat} (away : i < start ∨ start + width ≤ i) : (bits ys)[i]? = (bits xs)[i]? := by
    by_contra differs
    have := window i differs
    omega
  have parts (zs : List Bool) :
      zs = zs.take start ++ (zs.drop start).take width ++ zs.drop (start + width) := by
    rw [List.append_assoc, ← List.drop_drop, List.take_append_drop, List.take_append_drop]
  have before : (bits ys).take start = (bits xs).take start := by
    refine List.ext_getElem? fun i => ?_
    by_cases early : i < start
    · rw [List.getElem?_take_of_lt early, List.getElem?_take_of_lt early, outside (.inl early)]
    · rw [List.getElem?_take_eq_none (by omega), List.getElem?_take_eq_none (by omega)]
  have after : (bits ys).drop (start + width) = (bits xs).drop (start + width) := by
    refine List.ext_getElem? fun i => ?_
    rw [List.getElem?_drop, List.getElem?_drop, outside (.inr (by omega))]
  have lengths : (bits ys).length = (bits xs).length := by
    rw [length_bits, length_bits, h.length]
  refine ⟨_, _, _, _, parts (bits xs), by rw [← before, ← after]; exact parts (bits ys), ?_, ?_, ?_⟩
  · rw [List.length_take, List.length_take, List.length_drop, List.length_drop, lengths]
  · exact List.length_take_le _ _
  · intro same
    refine h.ne (bits_injective ?_)
    rw [parts (bits ys), before, after, ← same, ← parts]

end Bytes

namespace Crc32

open Bytes

/-! ## Bit by bit -/

/-- Feeds one bit to the register. -/
def feedBit (register : UInt32) (bit : Bool) : UInt32 :=
  if register.toNat.testBit 0 ≠ bit then (register >>> 1) ^^^ polynomial else register >>> 1

theorem eq_of_testBit {r s : UInt32} (h : ∀ i < 32, r.toNat.testBit i = s.toNat.testBit i) :
    r = s :=
  UInt32.toNat_inj.1 (eq_of_testBit_lt r.toNat_lt s.toNat_lt h)

theorem testBit_shiftRight (r : UInt32) {n : Nat} (h : n < 32) (i : Nat) :
    (r >>> UInt32.ofNat n).toNat.testBit i = r.toNat.testBit (i + n) := by
  have amount : (UInt32.ofNat n).toNat % 32 = n := by
    rw [UInt32.toNat_ofNat_of_lt' (Nat.lt_of_lt_of_le h (by decide)), Nat.mod_eq_of_lt h]
  rw [UInt32.toNat_shiftRight, amount, Nat.testBit_shiftRight, Nat.add_comm]

/-- Bits move down by one; the bit that leaves and the bit that is fed decide together whether the
polynomial is added. -/
theorem testBit_feedBit (r : UInt32) (bit : Bool) (i : Nat) :
    (feedBit r bit).toNat.testBit i =
      (r.toNat.testBit (i + 1) ^^ ((r.toNat.testBit 0 ^^ bit) && polynomial.toNat.testBit i)) := by
  have moved : (r >>> 1).toNat.testBit i = r.toNat.testBit (i + 1) :=
    testBit_shiftRight r (by decide) i
  unfold feedBit
  cases r.toNat.testBit 0 <;> cases bit
  all_goals
    simp only [ne_eq, reduceCtorEq, not_true_eq_false, not_false_eq_true, if_true, if_false,
      UInt32.toNat_xor, Nat.testBit_xor, moved, Bool.xor_false, Bool.xor_true, Bool.not_false,
      Bool.not_true, Bool.true_and, Bool.false_and]

/-- Shifting is feeding a zero. -/
theorem shiftBit_eq_feedBit (r : UInt32) : shiftBit r = feedBit r false := by
  have low : r &&& 1 = 1 ↔ r.toNat.testBit 0 = true := by
    rw [← UInt32.toNat_inj, UInt32.toNat_and, Nat.testBit_zero, decide_eq_true_eq]
    exact Eq.congr_left (Nat.and_one_is_mod r.toNat)
  simp only [shiftBit, feedBit, low, ne_eq, Bool.not_eq_false]

/-- Nothing is lost: the top bit tells whether the polynomial was added. -/
theorem feedBit_injective (bit : Bool) : Function.Injective (feedBit · bit) := by
  intro r s same
  have each (i : Nat) := congrArg (fun r => r.toNat.testBit i) same
  simp only [testBit_feedBit] at each
  have top : polynomial.toNat.testBit 31 = true := by decide
  have low : r.toNat.testBit 0 = s.toNat.testBit 0 := by
    have := each 31
    rw [testBit_of_le r.toNat_lt (Nat.le_refl _), testBit_of_le s.toNat_lt (Nat.le_refl _), top]
      at this
    simpa using this
  refine eq_of_testBit fun i _ => ?_
  cases i with
  | zero => exact low
  | succ i =>
    have := each i
    rw [low] at this
    exact Bool.xor_left_inj.1 this

/-- After the same bits, different registers are still different. -/
theorem foldl_feedBit_injective (bits : List Bool) :
    Function.Injective fun register => bits.foldl feedBit register := by
  induction bits with
  | nil => exact Function.injective_id
  | cons bit bits ih => exact ih.comp (feedBit_injective bit)

/-! ## Word by word -/

/-- The register with the given bits, least significant first. -/
def word (bits : List Bool) : UInt32 := ⟨(BitVec.ofBoolListLE bits).setWidth 32⟩

/-- Behind the end of the list the word has no bits. -/
theorem testBit_word (bits : List Bool) {i : Nat} (h : i < 32) :
    (word bits).toNat.testBit i = bits.getD i false := by
  change ((BitVec.ofBoolListLE bits).setWidth 32).getLsbD i = _
  simp [h]

/-- Lists of one length, of at most 32 bits, are told apart by their words. -/
theorem word_injective {u v : List Bool} (lengths : u.length = v.length) (short : u.length ≤ 32)
    (same : word u = word v) : u = v := by
  refine List.ext_getElem lengths fun i hu hv => ?_
  have := testBit_word u (i := i) (by omega)
  rw [same, testBit_word v (by omega)] at this
  rw [← List.getElem_eq_getD (h := hu) false, ← List.getElem_eq_getD (h := hv) false] at this
  exact this.symm

/-- A bit may be added together with those after it, which move down with the register. -/
theorem shiftBit_xor {r w v : UInt32}
    (moved : ∀ i < 32, v.toNat.testBit i = w.toNat.testBit (i + 1)) :
    shiftBit (r ^^^ w) = feedBit r (w.toNat.testBit 0) ^^^ v := by
  refine eq_of_testBit fun i inside => ?_
  rw [shiftBit_eq_feedBit, UInt32.toNat_xor, Nat.testBit_xor, testBit_feedBit, testBit_feedBit,
    moved i inside, UInt32.toNat_xor, Nat.testBit_xor, Nat.testBit_xor, Bool.xor_false,
    Bool.xor_right_comm]

/-- A step before the others is one more step. -/
theorem repeat_apply {α : Type} (f : α → α) (n : Nat) (a : α) :
    Nat.repeat f n (f a) = Nat.repeat f (n + 1) a := by
  induction n with
  | zero => rfl
  | succ n ih => exact congrArg f ih

/-- To feed up to 32 bits is to add their word to the register and shift as many times. -/
theorem foldl_feedBit (r : UInt32) {bits : List Bool} (short : bits.length ≤ 32) :
    bits.foldl feedBit r = Nat.repeat shiftBit bits.length (r ^^^ word bits) := by
  induction bits generalizing r with
  | nil => exact UInt32.xor_zero.symm
  | cons bit bits ih =>
    rw [List.length_cons] at short
    have low : (word (bit :: bits)).toNat.testBit 0 = bit := testBit_word _ (by decide)
    have moved (i : Nat) (inside : i < 32) :
        (word bits).toNat.testBit i = (word (bit :: bits)).toNat.testBit (i + 1) := by
      rw [testBit_word _ inside]
      by_cases last : i = 31
      · rw [testBit_of_le (UInt32.toNat_lt _) (by omega)]
        simp [List.getElem?_eq_none (l := bits) (i := i) (by omega)]
      · rw [testBit_word _ (by omega), List.getD_cons_succ]
    rw [List.foldl_cons, ih _ (by omega), List.length_cons, ← repeat_apply, shiftBit_xor moved, low]

theorem repeat_shiftBit_injective (n : Nat) : Function.Injective (Nat.repeat shiftBit n) := by
  induction n with
  | zero => exact Function.injective_id
  | succ n ih =>
    intro r s same
    rw [Nat.repeat, Nat.repeat, shiftBit_eq_feedBit, shiftBit_eq_feedBit] at same
    exact ih (feedBit_injective false same)

/-- Different words leave different registers. -/
theorem eq_of_foldl_feedBit {r : UInt32} {u v : List Bool} (lengths : u.length = v.length)
    (short : u.length ≤ 32) (same : u.foldl feedBit r = v.foldl feedBit r) : u = v := by
  rw [foldl_feedBit r short, foldl_feedBit r (lengths ▸ short), lengths] at same
  have words := repeat_shiftBit_injective _ same
  exact word_injective lengths short ((UInt32.xor_right_inj r).1 words)

/-! ## Byte by byte -/

/-- Low bits that are clear leave the register without a trace. -/
theorem repeat_shiftBit_xor (r w : UInt32) {n : Nat} (h : n < 32)
    (clear : ∀ i < n, w.toNat.testBit i = false) :
    Nat.repeat shiftBit n (r ^^^ w) = Nat.repeat shiftBit n r ^^^ (w >>> UInt32.ofNat n) := by
  induction n with
  | zero => exact congrArg (r ^^^ ·) UInt32.shiftRight_zero.symm
  | succ n ih =>
    have low : (w >>> UInt32.ofNat n).toNat.testBit 0 = false := by
      rw [testBit_shiftRight w (by omega), Nat.zero_add]
      exact clear n (Nat.lt_succ_self n)
    have moved (i : Nat) (_ : i < 32) : (w >>> UInt32.ofNat (n + 1)).toNat.testBit i =
        (w >>> UInt32.ofNat n).toNat.testBit (i + 1) := by
      rw [testBit_shiftRight w h, testBit_shiftRight w (by omega), Nat.add_right_comm]
      rfl
    rw [Nat.repeat, ih (by omega) fun i early => clear i (by omega), shiftBit_xor moved, low,
      ← shiftBit_eq_feedBit]
    rfl

theorem word_bitsOf (b : UInt8) : word (bitsOf b) = b.toUInt32 := by
  refine eq_of_testBit fun i inside => ?_
  rw [testBit_word _ inside, UInt8.toNat_toUInt32]
  by_cases low : i < 8
  · exact getD_bitsOf b low
  · rw [testBit_of_le b.toNat_lt (by omega)]
    simp [List.getElem?_eq_none (l := bitsOf b) (i := i) (by simpa using low)]

/-- The table holds the shifted bytes. -/
theorem get_table (b : UInt8) : table.get b.toFin = shiftByte b.toUInt32 := by
  have entry : table.get b.toFin = shiftByte (UInt32.ofNat b.toFin) :=
    Vector.getElem_ofFn b.toFin.isLt
  rw [entry, UInt8.toFin_val, UInt32.ofNat_uInt8ToNat]

/-- The low byte of a register has the lowest eight of its bits. -/
theorem testBit_lowByte (r : UInt32) (i : Nat) :
    r.toUInt8.toUInt32.toNat.testBit i = (decide (i < 8) && r.toNat.testBit i) := by
  rw [UInt8.toNat_toUInt32, UInt32.toNat_toUInt8, Nat.testBit_mod_two_pow]

/-- The table holds what eight steps of the register do. -/
theorem register_feedByte (crc : Crc32) (b : UInt8) :
    (crc.feedByte b).register = (bitsOf b).foldl feedBit crc.register := by
  obtain ⟨r⟩ := crc
  have testBit_rest (i : Nat) : (r ^^^ r.toUInt8.toUInt32).toNat.testBit i =
      (r.toNat.testBit i ^^ (decide (i < 8) && r.toNat.testBit i)) := by
    rw [UInt32.toNat_xor, Nat.testBit_xor, testBit_lowByte]
  have clear (i : Nat) (low : i < 8) : (r ^^^ r.toUInt8.toUInt32).toNat.testBit i = false := by
    rw [testBit_rest, decide_eq_true low, Bool.true_and, Bool.xor_self]
  have rest : (r ^^^ r.toUInt8.toUInt32) >>> UInt32.ofNat 8 = r >>> UInt32.ofNat 8 := by
    refine eq_of_testBit fun i _ => ?_
    have high : ¬ i + 8 < 8 := by omega
    rw [testBit_shiftRight _ (by decide), testBit_shiftRight _ (by decide), testBit_rest,
      decide_eq_false high, Bool.false_and, Bool.xor_false]
  have split : r ^^^ b.toUInt32 =
      (r.toUInt8 ^^^ b).toUInt32 ^^^ (r ^^^ r.toUInt8.toUInt32) := by
    refine eq_of_testBit fun i _ => ?_
    simp only [UInt8.toUInt32_xor, UInt32.toNat_xor, Nat.testBit_xor]
    generalize r.toUInt8.toUInt32.toNat.testBit i = low
    cases low <;> simp [Bool.xor_comm]
  rw [foldl_feedBit r (by simp), word_bitsOf, length_bitsOf, split,
    repeat_shiftBit_xor _ _ (by decide) clear, rest, feedByte, get_table]
  rfl

/-- Feeding bytes is feeding their bits, the lowest of each byte first. -/
theorem register_feed (crc : Crc32) (bytes : Bytes) :
    (crc.feed bytes).register = (bits bytes).foldl feedBit crc.register := by
  induction bytes generalizing crc with
  | nil => rfl
  | cons b bytes ih =>
    rw [bits, List.flatMap_cons, List.foldl_append, ← register_feedByte]
    exact ih (crc.feedByte b)

end Crc32

/-- A change of at least one bit and of no bits outside a window of 32 changes the checksum. -/
theorem crc32_ne_of_differsWithin {xs ys : Bytes} (h : xs.DiffersWithin 32 ys) :
    crc32 ys ≠ crc32 xs := by
  obtain ⟨before, after, u, v, hx, hy, lengths, short, differ⟩ := h.split
  intro same
  have registers := (UInt32.xor_left_inj _).1 same
  rw [Crc32.register_feed, Crc32.register_feed, hx, hy] at registers
  simp only [List.foldl_append] at registers
  have windows := Crc32.foldl_feedBit_injective after registers
  exact differ (Crc32.eq_of_foldl_feedBit lengths short windows.symm)

end BitcodeCache
