/-!
# File times

A file time counts seconds downwards from the epoch and has nanoseconds above them. How far one time is
from another is a span, which has no sign. `FileTime.seconds` takes the span between a time and the
epoch, drops what is below a second, and sets the sign last: so times are cut towards the epoch, before
it as after it.
-/

namespace BitcodeCache

/-- A length of time: whole seconds and the nanoseconds above them. -/
structure Span where
  wholeSeconds : UInt64
  nanos : Nat
  nanos_lt : nanos < 1000000000 := by decide
deriving DecidableEq

/-- The whole seconds as a number with a sign, where one has room for them. -/
def Span.signed? (span : Span) : Option Int64 :=
  if span.wholeSeconds < 0x8000000000000000 then some span.wholeSeconds.toInt64 else none

/-- A file time: seconds from the epoch, downwards, and the nanoseconds above them. -/
structure FileTime where
  floor : Int64
  nanos : Nat
  nanos_lt : nanos < 1000000000 := by decide
deriving DecidableEq

namespace FileTime

/-- A time of whole seconds from the epoch. -/
def ofSeconds (seconds : Int64) : FileTime := { floor := seconds, nanos := 0 }

/-- The epoch itself. -/
def epoch : FileTime := ofSeconds 0

/-- The time some seconds and nanoseconds from the epoch. Whole seconds among the nanoseconds are
carried. -/
def ofParts (seconds : Int64) (nanos : Nat) : FileTime where
  floor := seconds + Int64.ofNat (nanos / 1000000000)
  nanos := nanos % 1000000000
  nanos_lt := Nat.mod_lt nanos (by decide)

/-- Times are compared by their seconds, and within a second by their nanoseconds. -/
instance : LE FileTime where
  le t u := t.floor < u.floor ∨ t.floor = u.floor ∧ t.nanos ≤ u.nanos

instance (t u : FileTime) : Decidable (t ≤ u) :=
  inferInstanceAs (Decidable (t.floor < u.floor ∨ t.floor = u.floor ∧ t.nanos ≤ u.nanos))

/-- The span from an earlier time to a later one. A second is borrowed where the later time has fewer
nanoseconds. The difference of the seconds may wrap; it is right as a number without a sign. -/
def spanFrom (later earlier : FileTime) : Span :=
  if enough : earlier.nanos ≤ later.nanos then
    { wholeSeconds := (later.floor - earlier.floor).toUInt64
      nanos := later.nanos - earlier.nanos
      nanos_lt := Nat.lt_of_le_of_lt (Nat.sub_le ..) later.nanos_lt }
  else
    { wholeSeconds := (later.floor - earlier.floor - 1).toUInt64
      nanos := later.nanos + 1000000000 - earlier.nanos
      nanos_lt := by omega }

/-- How long a time is after another one or, as the error, before it. -/
def since (t other : FileTime) : Except Span Span :=
  if other ≤ t then .ok (t.spanFrom other) else .error (other.spanFrom t)

/-- The whole seconds of a time, cut towards the epoch. A span that has no room with a sign becomes the
greatest or the least number. -/
def seconds (t : FileTime) : Int64 :=
  match t.since epoch with
  | .ok span => span.signed?.getD Int64.maxValue
  | .error span => span.signed?.elim Int64.minValue fun seconds => -seconds

end FileTime

instance : Inhabited FileTime := ⟨FileTime.epoch⟩

end BitcodeCache
