import BitcodeCache.FileTime
import Mathlib.Data.Rat.Floor
import Mathlib.Tactic.Linarith

/-!
# Whole seconds of file times

A time is a rational number of seconds from the epoch, and a span one without a sign. The span between
two times is their distance, although its seconds are subtracted in 64 bits. `FileTime.seconds` is the
number of the time cut towards zero: the seconds of a span after the epoch always have room with a sign,
and before it only those of the first time have none, which is the least number itself.
-/

namespace BitcodeCache

/-! ## Cutting towards zero -/

/-- A number without the part behind the point: the nearest integer on the side of zero. -/
def towardsZero (q : ℚ) : ℤ := if 0 ≤ q then ⌊q⌋ else ⌈q⌉

theorem towardsZero_of_nonneg {q : ℚ} (nonneg : 0 ≤ q) : towardsZero q = ⌊q⌋ := if_pos nonneg

theorem towardsZero_neg (q : ℚ) : towardsZero (-q) = -towardsZero q := by
  unfold towardsZero
  rcases lt_trichotomy q 0 with negative | rfl | positive
  · rw [if_pos (by linarith), if_neg (by linarith), Int.floor_neg]
  · simp
  · rw [if_neg (by linarith), if_pos (by linarith), Int.ceil_neg]

theorem towardsZero_of_nonpos {q : ℚ} (nonpos : q ≤ 0) : towardsZero q = ⌈q⌉ := by
  rw [← neg_neg q, towardsZero_neg, towardsZero_of_nonneg (by linarith), Int.ceil_neg]

theorem towardsZero_mono {p q : ℚ} (ordered : p ≤ q) : towardsZero p ≤ towardsZero q := by
  rcases le_total 0 p with after | before
  · rw [towardsZero_of_nonneg after, towardsZero_of_nonneg (after.trans ordered)]
    exact Int.floor_le_floor ordered
  rcases le_total q 0 with nonpos | nonneg
  · rw [towardsZero_of_nonpos before, towardsZero_of_nonpos nonpos]
    exact Int.ceil_le_ceil ordered
  · -- Zero lies between the two numbers, and between what is left of them.
    rw [towardsZero_of_nonpos before, towardsZero_of_nonneg nonneg]
    exact (Int.ceil_le.2 (by simpa using before)).trans (Int.floor_nonneg.2 nonneg)

/-- Above zero, numbers that are one apart stay apart. -/
theorem towardsZero_lt_of_nonneg {p q : ℚ} (nonneg : 0 ≤ p) (apart : p + 1 ≤ q) :
    towardsZero p < towardsZero q := by
  rw [towardsZero_of_nonneg nonneg, towardsZero_of_nonneg (by linarith), Int.lt_iff_add_one_le,
    ← Int.floor_add_one]
  exact Int.floor_le_floor apart

/-- Below zero, numbers that are one apart stay apart. -/
theorem towardsZero_lt_of_nonpos {p q : ℚ} (nonpos : q ≤ 0) (apart : p + 1 ≤ q) :
    towardsZero p < towardsZero q := by
  have := towardsZero_lt_of_nonneg (p := -q) (q := -p) (by linarith) (by linarith)
  rw [towardsZero_neg, towardsZero_neg] at this
  omega

/-- Numbers on two sides of zero lose up to one each. -/
theorem towardsZero_lt_of_two {p q : ℚ} (apart : p + 2 ≤ q) : towardsZero p < towardsZero q := by
  rcases le_total 0 p with after | before
  · exact towardsZero_lt_of_nonneg after (by linarith)
  rcases le_total q 0 with nonpos | nonneg
  · exact towardsZero_lt_of_nonpos nonpos (by linarith)
  rw [towardsZero_of_nonpos before, towardsZero_of_nonneg nonneg]
  have left : (⌈p⌉ : ℚ) < p + 1 := Int.ceil_lt_add_one p
  have right : q < ⌊q⌋ + 1 := Int.lt_floor_add_one q
  exact_mod_cast (by linarith : (⌈p⌉ : ℚ) < ⌊q⌋)

/-! ## Positions and lengths -/

/-- Nanoseconds as a part of a second. -/
def partOfSecond (nanos : ℕ) : ℚ := nanos / 1000000000

theorem partOfSecond_nonneg (nanos : ℕ) : 0 ≤ partOfSecond nanos := by
  unfold partOfSecond
  positivity

/-- Fewer nanoseconds than a second has are part of one. -/
theorem partOfSecond_lt_one {nanos : ℕ} (small : nanos < 1000000000) : partOfSecond nanos < 1 := by
  unfold partOfSecond
  rw [div_lt_one (by norm_num)]
  exact_mod_cast small

theorem partOfSecond_le_iff {m n : ℕ} : partOfSecond m ≤ partOfSecond n ↔ m ≤ n := by
  unfold partOfSecond
  rw [div_le_div_iff_of_pos_right (by norm_num)]
  exact Nat.cast_le

/-- A span in seconds. -/
def Span.length (span : Span) : ℚ := span.wholeSeconds.toNat + partOfSecond span.nanos

/-- Where a time is, in seconds from the epoch. -/
def FileTime.position (t : FileTime) : ℚ := t.floor.toInt + partOfSecond t.nanos

namespace Span

theorem length_nonneg (span : Span) : 0 ≤ span.length :=
  add_nonneg (Nat.cast_nonneg _) (partOfSecond_nonneg _)

theorem wholeSeconds_le_length (span : Span) : (span.wholeSeconds.toNat : ℚ) ≤ span.length :=
  le_add_of_nonneg_right (partOfSecond_nonneg _)

/-- The whole seconds of a span are its length, less what is behind the point. -/
theorem floor_length (span : Span) : ⌊span.length⌋ = span.wholeSeconds.toNat := by
  rw [Int.floor_eq_iff]
  refine ⟨by exact_mod_cast span.wholeSeconds_le_length, ?_⟩
  have := partOfSecond_lt_one span.nanos_lt
  unfold length
  push_cast
  linarith

end Span

namespace FileTime

@[simp] theorem position_epoch : epoch.position = 0 := by
  simp [position, epoch, ofSeconds, partOfSecond]

/-- Every time lies before 2^63 seconds. -/
theorem position_lt (t : FileTime) : t.position < 2 ^ 63 := by
  have := partOfSecond_lt_one t.nanos_lt
  have : (t.floor.toInt : ℚ) + 1 ≤ 2 ^ 63 := by exact_mod_cast t.floor.toInt_lt
  unfold position
  linarith

/-- Only the first second reaches so far down, and only without nanoseconds. -/
theorem eq_of_position_le {t : FileTime} (least : t.position ≤ -2 ^ 63) :
    t = ofSeconds Int64.minValue := by
  have part := partOfSecond_nonneg t.nanos
  have low : (-2 ^ 63 : ℚ) ≤ t.floor.toInt := by exact_mod_cast t.floor.le_toInt
  unfold position at least
  have floor : t.floor = Int64.minValue := by
    rw [← Int64.toInt_inj, Int64.toInt_minValue]
    exact_mod_cast (by linarith : (t.floor.toInt : ℚ) = -2 ^ 63)
  have nanos : t.nanos = 0 := by
    rw [← Nat.le_zero, ← partOfSecond_le_iff]
    have : partOfSecond 0 = 0 := by simp [partOfSecond]
    linarith
  obtain ⟨f, n, _⟩ := t
  cases floor
  cases nanos
  rfl

/-- An earlier second is an earlier position, whatever its nanoseconds. -/
theorem position_lt_of_floor_lt {t u : FileTime} (earlier : t.floor < u.floor) :
    t.position < u.position := by
  have := partOfSecond_lt_one t.nanos_lt
  have := partOfSecond_nonneg u.nanos
  have : (t.floor.toInt : ℚ) + 1 ≤ u.floor.toInt := by
    exact_mod_cast Int64.lt_iff_toInt_lt.1 earlier
  unfold position
  linarith

/-- Times are ordered as their positions. -/
theorem le_iff_position {t u : FileTime} : t ≤ u ↔ t.position ≤ u.position := by
  constructor
  · rintro (earlier | ⟨same, ordered⟩)
    · exact (position_lt_of_floor_lt earlier).le
    · unfold position
      rw [same]
      exact add_le_add_right (partOfSecond_le_iff.2 ordered) _
  · intro ordered
    rcases Int64.lt_or_le t.floor u.floor with earlier | notEarlier
    · exact .inl earlier
    rcases Int64.lt_or_eq_of_le notEarlier with later | same
    · exact absurd (position_lt_of_floor_lt later) ordered.not_gt
    · refine .inr ⟨same.symm, partOfSecond_le_iff.1 ?_⟩
      unfold position at ordered
      rw [same] at ordered
      linarith

/-! ## The span between two times -/

/-- What wrapped as a number with a sign is right without one, if it is a number of 64 bits. -/
theorem toNat_toUInt64_of_wrapped {word : Int64} {n : ℤ} (wrapped : word.toInt = n.bmod (2 ^ 64))
    (nonneg : 0 ≤ n) (small : n < 2 ^ 64) : (word.toUInt64.toNat : ℤ) = n := by
  have unsigned : word.toInt = (word.toUInt64.toNat : ℤ).bmod (2 ^ 64) :=
    BitVec.toInt_eq_toNat_bmod word.toBitVec
  have bound : word.toUInt64.toNat < 2 ^ 64 := word.toUInt64.toBitVec.isLt
  calc (word.toUInt64.toNat : ℤ)
      = (word.toUInt64.toNat : ℤ) % (2 ^ 64 : ℕ) := (Int.emod_eq_of_lt (by omega) (by omega)).symm
    _ = n % (2 ^ 64 : ℕ) := by
      rw [← Int.bmod_emod, ← unsigned, wrapped, Int.bmod_emod]
    _ = n := Int.emod_eq_of_lt nonneg (by omega)

/-- The span from an earlier time to a later one is their distance. -/
theorem length_spanFrom {earlier later : FileTime} (ordered : earlier ≤ later) :
    (later.spanFrom earlier).length = later.position - earlier.position := by
  have low := earlier.floor.le_toInt
  have high := later.floor.toInt_lt
  unfold spanFrom
  split
  · rename_i enough
    have floors : earlier.floor.toInt ≤ later.floor.toInt := by
      rcases ordered with below | ⟨same, _⟩
      · exact (Int64.lt_iff_toInt_lt.1 below).le
      · rw [same]
    have seconds : ((later.floor - earlier.floor).toUInt64.toNat : ℚ) =
        later.floor.toInt - earlier.floor.toInt := by
      exact_mod_cast toNat_toUInt64_of_wrapped (Int64.toInt_sub ..) (by omega) (by omega)
    unfold Span.length position partOfSecond
    rw [seconds, Nat.cast_sub enough]
    ring
  · rename_i short
    -- A second can be borrowed, since the times are not in one second.
    have floors : earlier.floor.toInt < later.floor.toInt := by
      rcases ordered with below | ⟨_, enough⟩
      · exact Int64.lt_iff_toInt_lt.1 below
      · exact absurd enough short
    have wrapped : (later.floor - earlier.floor - 1).toInt =
        (later.floor.toInt - earlier.floor.toInt - 1).bmod (2 ^ 64) := by
      rw [Int64.toInt_sub, Int64.toInt_sub, Int64.toInt_one, Int.bmod_sub_bmod]
    have seconds : ((later.floor - earlier.floor - 1).toUInt64.toNat : ℚ) =
        later.floor.toInt - earlier.floor.toInt - 1 := by
      exact_mod_cast toNat_toUInt64_of_wrapped wrapped (by omega) (by omega)
    have borrowed : earlier.nanos ≤ later.nanos + 1000000000 := by
      have := earlier.nanos_lt
      omega
    unfold Span.length position partOfSecond
    rw [seconds, Nat.cast_sub borrowed]
    push_cast
    ring

/-- A span that is found leads from the other time to this one. -/
theorem since_eq_ok {t other : FileTime} {span : Span} (after : t.since other = .ok span) :
    other.position ≤ t.position ∧ span.length = t.position - other.position := by
  unfold since at after
  split at after
  · rename_i ordered
    cases after
    exact ⟨le_iff_position.1 ordered, length_spanFrom ordered⟩
  · cases after

/-- Where the other time is later, the span that is told instead leads from this one to it. -/
theorem since_eq_error {t other : FileTime} {span : Span} (before : t.since other = .error span) :
    t.position < other.position ∧ span.length = other.position - t.position := by
  unfold since at before
  split at before
  · cases before
  · rename_i notAfter
    cases before
    have earlier : t.position < other.position := by
      rwa [le_iff_position, not_le] at notAfter
    exact ⟨earlier, length_spanFrom (le_iff_position.2 earlier.le)⟩

/-- A span since the epoch is as long as the position of the time. -/
theorem length_of_since_ok {t : FileTime} {span : Span} (after : t.since epoch = .ok span) :
    span.length = t.position := by
  rw [(since_eq_ok after).2, position_epoch, sub_zero]

/-- A span up to the epoch is as long as the position is below zero. -/
theorem length_of_since_error {t : FileTime} {span : Span} (before : t.since epoch = .error span) :
    span.length = -t.position := by
  rw [(since_eq_error before).2, position_epoch, zero_sub]

end FileTime

/-! ## Room for a sign -/

namespace Span

/-- A span has room with a sign exactly if its whole seconds do not reach the sign bit. -/
theorem signed?_eq (span : Span) :
    span.signed? =
      if span.wholeSeconds.toNat < 2 ^ 63 then some span.wholeSeconds.toInt64 else none := rfl

/-- A span has a number with a sign exactly if that number is its whole seconds. -/
theorem signed?_eq_some_iff {span : Span} {n : Int64} :
    span.signed? = some n ↔ n.toInt = span.wholeSeconds.toNat := by
  rw [signed?_eq]
  split
  · rename_i room
    have kept : span.wholeSeconds.toInt64.toInt = span.wholeSeconds.toNat :=
      BitVec.toInt_eq_toNat_of_lt (show 2 * span.wholeSeconds.toNat < 2 ^ 64 by omega)
    rw [Option.some_inj, ← Int64.toInt_inj, kept, eq_comm]
  · rename_i full
    have := n.toInt_lt
    simp only [reduceCtorEq, false_iff]
    omega

/-- There is no room only from 2^63 seconds on. -/
theorem signed?_eq_none_iff {span : Span} :
    span.signed? = none ↔ 2 ^ 63 ≤ span.wholeSeconds.toNat := by
  rw [signed?_eq]
  split <;> simp_all

/-- The seconds of a span with a sign are its length, cut towards zero. -/
theorem toInt_of_signed? {span : Span} {n : Int64} (room : span.signed? = some n) :
    n.toInt = towardsZero span.length := by
  rw [signed?_eq_some_iff.1 room, towardsZero_of_nonneg span.length_nonneg, floor_length]

/-- A span without room has at least 2^63 seconds. -/
theorem le_length_of_signed? {span : Span} (full : span.signed? = none) : 2 ^ 63 ≤ span.length := by
  have : (2 ^ 63 : ℚ) ≤ span.wholeSeconds.toNat := by exact_mod_cast signed?_eq_none_iff.1 full
  exact this.trans span.wholeSeconds_le_length

end Span

namespace FileTime

/-- How the seconds of a time are found, with nothing that wraps on the way. The span from the epoch has
room with a sign. So has the span to the epoch, whose number can be negated, unless the time is the first
there is. -/
inductive Course (t : FileTime) : Int64 → Prop where
  | after {span : Span} {n : Int64} (since : t.since epoch = .ok span)
    (room : span.signed? = some n) : Course t n
  | before {span : Span} {n : Int64} (since : t.since epoch = .error span)
    (room : span.signed? = some n) (negated : (-n).toInt = -n.toInt) : Course t (-n)
  | first {span : Span} (since : t.since epoch = .error span) (full : span.signed? = none)
    (least : t = ofSeconds Int64.minValue) : Course t Int64.minValue

/-- The seconds of every time are found in one of the three ways. -/
theorem course (t : FileTime) : t.Course t.seconds := by
  unfold seconds
  split
  · rename_i span after
    cases room : span.signed? with
    | some n => exact .after after room
    | none =>
      have full := Span.le_length_of_signed? room
      rw [length_of_since_ok after] at full
      exact absurd t.position_lt full.not_gt
  · rename_i span before
    cases room : span.signed? with
    | some n =>
      have unsigned := Span.signed?_eq_some_iff.1 room
      have bound := n.toInt_lt
      have negated : (-n).toInt = -n.toInt := by
        rw [Int64.toInt_neg]
        exact Int.bmod_eq_of_le (by omega) (by omega)
      exact .before before room negated
    | none =>
      have full := Span.le_length_of_signed? room
      rw [length_of_since_error before] at full
      exact .first before room (eq_of_position_le (by linarith))

/-- In each of the three ways the position is cut towards zero. -/
theorem Course.toInt_eq {t : FileTime} {n : Int64} (course : t.Course n) :
    n.toInt = towardsZero t.position := by
  cases course with
  | after after room => rw [Span.toInt_of_signed? room, length_of_since_ok after]
  | @before span n before room negated =>
    calc (-n).toInt = -n.toInt := negated
      _ = -towardsZero span.length := by rw [Span.toInt_of_signed? room]
      _ = towardsZero (-span.length) := (towardsZero_neg _).symm
      _ = towardsZero t.position := by rw [length_of_since_error before, neg_neg]
  | first before full least =>
    have position : t.position = ((-2 ^ 63 : ℤ) : ℚ) := by
      rw [least, position, ofSeconds, Int64.toInt_minValue]
      simp [partOfSecond]
    rw [position, towardsZero_of_nonpos (by norm_num), Int.ceil_intCast, Int64.toInt_minValue]

/-- The seconds of a time are exact, less what is behind the point. -/
theorem toInt_seconds (t : FileTime) : t.seconds.toInt = towardsZero t.position :=
  t.course.toInt_eq

/-- The first time there is has the least number, and a nanosecond later it is the next one. -/
example : (ofSeconds Int64.minValue).seconds = Int64.minValue ∧
    ({ floor := Int64.minValue, nanos := 1 } : FileTime).seconds = Int64.minValue + 1 := by decide

theorem seconds_mono {t u : FileTime} (ordered : t.position ≤ u.position) :
    t.seconds ≤ u.seconds := by
  rw [Int64.le_iff_toInt_le, toInt_seconds, toInt_seconds]
  exact towardsZero_mono ordered

/-! ## Times with different seconds -/

/-- Neither time is on the other side of the epoch. The epoch itself is on both sides. -/
def OneSided (t u : FileTime) : Prop :=
  (0 ≤ t.position ∧ 0 ≤ u.position) ∨ (t.position ≤ 0 ∧ u.position ≤ 0)

/-- The times are a second apart on one side of the epoch, or two seconds apart. -/
def Apart (t u : FileTime) : Prop :=
  (t.OneSided u ∧ 1 ≤ |t.position - u.position|) ∨ 2 ≤ |t.position - u.position|

theorem Apart.symm {t u : FileTime} (apart : t.Apart u) : u.Apart t := by
  unfold Apart at *
  rw [abs_sub_comm]
  exact apart.imp_left (And.imp_left (Or.imp And.symm And.symm))

/-- Of two times that are apart the later one has more seconds. -/
theorem Apart.seconds_lt {t u : FileTime} (apart : t.Apart u) (ordered : t.position ≤ u.position) :
    t.seconds < u.seconds := by
  have distance : |t.position - u.position| = u.position - t.position := by
    rw [abs_sub_comm]
    exact abs_of_nonneg (sub_nonneg.2 ordered)
  rw [Int64.lt_iff_toInt_lt, toInt_seconds, toInt_seconds]
  unfold Apart at apart
  rw [distance] at apart
  rcases apart with ⟨⟨nonneg, _⟩ | ⟨_, nonpos⟩, one⟩ | two
  · exact towardsZero_lt_of_nonneg nonneg (by linarith)
  · exact towardsZero_lt_of_nonpos nonpos (by linarith)
  · exact towardsZero_lt_of_two (by linarith)

theorem Apart.seconds_ne {t u : FileTime} (apart : t.Apart u) : t.seconds ≠ u.seconds := by
  intro same
  rcases le_total t.position u.position with ordered | ordered
  · exact Int64.lt_irrefl (same ▸ apart.seconds_lt ordered)
  · exact Int64.lt_irrefl (same ▸ apart.symm.seconds_lt ordered)

/-- Across the epoch, almost two seconds may be lost. -/
example : ({ floor := -1, nanos := 1 } : FileTime).seconds =
    ({ floor := 0, nanos := 999999999 } : FileTime).seconds := by decide

end FileTime

end BitcodeCache
