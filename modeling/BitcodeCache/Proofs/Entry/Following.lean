import BitcodeCache.Proofs.Entry.Field
import BitcodeCache.Proofs.Entry.Machine

/-!
# Readers of bytes and positions in a buffer

A `FieldReader` goes along the bytes that are left, a `Reading` along the positions of a buffer.
`Follows` says that one does what the other does: from a position in the buffer it fails with the
same fault, or comes to a value that belongs to the other value and to the position before the
bytes that are left then, and all its operations are safe. A computation follows step by step: where
only words and slices are handled, one operation goes on alone; elsewhere both take a step.
-/

namespace BitcodeCache.Machine

/-- Both fail with the same fault, or both succeed, with values that belong together. -/
inductive SameOutcome {α β : Type} (rel : α → β → Prop) :
    Except DecodeError α → Except DecodeError β → Prop where
  | ok {a : α} {b : β} (h : rel a b) : SameOutcome rel (.ok a) (.ok b)
  | error (fault : DecodeError) : SameOutcome rel (.error fault) (.error fault)

/-- Results with the same outcome and equal values are equal. -/
theorem SameOutcome.eq {α : Type} {x y : Except DecodeError α} (h : SameOutcome Eq x y) :
    x = y := by
  cases h with
  | ok h => rw [h]
  | error fault => rfl

namespace Traced

variable {α β γ δ : Type} {limit : Nat}

/-- A computation has the outcome of another one and does safe operations only. -/
structure Matches (limit : Nat) (rel : α → β → Prop) (x : Traced α) (y : Except DecodeError β) :
    Prop where
  outcome : SameOutcome rel x.result y
  safe : ∀ op ∈ x.operations, op.Safe limit

/-- A computation comes to a value with safe operations only. -/
abbrev Gives (limit : Nat) (x : Traced α) (a : α) : Prop :=
  Matches limit (fun b (_ : Unit) => b = a) x (.ok ())

namespace Matches

variable {rel : α → β → Prop} {rel' : γ → δ → Prop}

theorem pure {a : α} {b : β} (h : rel a b) : Matches limit rel (Pure.pure a) (.ok b) :=
  ⟨.ok h, fun _ member => absurd member List.not_mem_nil⟩

/-- A fault stops both computations. -/
theorem fail (fault : DecodeError) : Matches limit rel (Machine.fail fault) (.error fault) :=
  ⟨.error fault, fun _ member => absurd member List.not_mem_nil⟩

/-- Both computations go on with values that belong together. -/
theorem bind {x : Traced α} {y : Except DecodeError β} {f : α → Traced γ}
    {g : β → Except DecodeError δ} (first : Matches limit rel x y)
    (second : ∀ a b, rel a b → Matches limit rel' (f a) (g b)) :
    Matches limit rel' (x >>= f) (y >>= g) := by
  obtain ⟨outcome, safe⟩ := first
  change Matches limit rel' (x.andThen f) (y >>= g)
  obtain ⟨result, operations⟩ := x
  cases outcome with
  | ok h =>
    obtain ⟨outcome', safe'⟩ := second _ _ h
    refine ⟨outcome', fun op member => ?_⟩
    -- an operation of the whole is one of either part
    rcases List.mem_append.1 member with early | late
    · exact safe op early
    · exact safe' op late
  | error fault => exact ⟨.error fault, safe⟩

/-- What the other computation comes to is its outcome. -/
theorem known {x : Traced α} {y : Except DecodeError β} (h : Matches limit rel x y) :
    Matches limit (fun a b => rel a b ∧ y = .ok b) x y := by
  obtain ⟨result, operations⟩ := x
  obtain ⟨outcome, safe⟩ := h
  refine ⟨?_, safe⟩
  cases outcome with
  | ok h => exact .ok ⟨h, rfl⟩
  | error fault => exact .error fault

theorem map {x : Traced α} {y : Except DecodeError β} {f : α → γ} {g : β → δ}
    (first : Matches limit rel x y) (values : ∀ a b, rel a b → rel' (f a) (g b)) :
    Matches limit rel' (f <$> x) (g <$> y) := by
  have next : Matches limit rel' (f <$> x) (y >>= fun b => .ok (g b)) :=
    first.bind fun a b h => .pure (values a b h)
  cases y <;> exact next

/-- An operation that only the machine does. -/
theorem step {x : Traced γ} {c : γ} {f : γ → Traced α} {y : Except DecodeError β}
    (given : Gives limit x c) (rest : Matches limit rel (f c) y) :
    Matches limit rel (x >>= f) y := by
  refine given.bind (y := .ok ()) (g := fun _ => y) ?_
  rintro _ _ rfl
  exact rest

/-- The same in a computation with a position. -/
theorem stepAt {x : Reading γ} {c : γ} {f : γ → Reading α} {y : Except DecodeError β}
    {rel : α × UInt64 → β → Prop} {position after : UInt64}
    (given : Gives limit (x position) (c, after)) (rest : Matches limit rel (f c after) y) :
    Matches limit rel ((x >>= f) position) y := .step given rest

end Matches

/-- One safe operation gives its value. -/
theorem Gives.single {x : Traced α} {a : α} {op : Operation} (made : x = ⟨.ok a, [op]⟩)
    (safe : op.Safe limit) : Gives limit x a := by
  rw [made]
  exact ⟨.ok rfl, fun _ member => List.mem_singleton.1 member ▸ safe⟩

/-- An operation that reads nothing stays at its position. -/
theorem Gives.lift {x : Traced α} {a : α} (h : Gives limit x a) (position : UInt64) :
    Gives limit ((x : Reading α) position) (a, position) := h.step (.pure rfl)

end Traced

/-! ## Operations -/

section Operations

variable {limit : Nat}

open Traced

/-- The length of a buffer is a word. -/
theorem toNat_size {bytes : Bytes} (fits : bytes.length < 2 ^ 63) :
    (size bytes).toNat = bytes.length := by
  have : bytes.length < 2 ^ 64 := by omega
  exact UInt64.toNat_ofNat_of_lt' this

/-- A sum that fits does not wrap. -/
theorem toNat_add {a b : UInt64} (fits : a.toNat + b.toNat < 2 ^ 64) :
    (a + b).toNat = a.toNat + b.toNat := by
  rw [UInt64.toNat_add, Nat.mod_eq_of_lt fits]

/-- A sum is safe where it fits. -/
theorem add_gives {a b : UInt64} (fits : a.toNat + b.toNat < 2 ^ 64) :
    Gives limit (add a b) (a + b) := .single rfl fits

/-- A difference is safe where it is not negative. -/
theorem subtract_gives {a b : UInt64} (le : b.toNat ≤ a.toNat) :
    Gives limit (subtract a b) (a - b) := .single rfl le

theorem multiply_gives {a b : UInt64} (fits : a.toNat * b.toNat < 2 ^ 64) :
    Gives limit (multiply a b) (a * b) := .single rfl fits

/-- A slice is safe where its ends are in order and inside, and it is the bytes between them. -/
theorem slice_gives {bytes : Bytes} {start stop : UInt64} (order : start.toNat ≤ stop.toNat)
    (inside : stop.toNat ≤ bytes.length) : Gives limit (slice bytes start stop)
      ((bytes.drop start.toNat).take (stop.toNat - start.toNat)) := .single rfl ⟨order, inside⟩

/-- A copy is safe into a buffer of the same length. -/
theorem copy_gives {bytes : Bytes} {n : Nat} (same : bytes.length = n) :
    Gives limit (copy bytes n) bytes := .single rfl same

/-- A reservation is safe where it takes no more bytes than the limit. -/
theorem reserve_gives {count width : UInt64} (held : count.toNat * width.toNat ≤ limit) :
    Gives limit (reserve count width) () := .single rfl held

/-- A checked sum is safe anywhere, and absent where it does not fit. -/
theorem checkedAdd_gives (a b : UInt64) : Gives limit (checkedAdd a b)
    (if a.toNat + b.toNat < 2 ^ 64 then some (a + b) else none) := by
  unfold checkedAdd
  split
  · exact (add_gives ‹_›).step (.pure rfl)
  · exact .pure rfl

/-- A saturating difference is safe anywhere, and zero where it would be negative. -/
theorem saturatingSubtract_gives (a b : UInt64) : Gives limit (saturatingSubtract a b)
    (UInt64.ofNat (a.toNat - b.toNat)) := by
  unfold saturatingSubtract
  split
  · rename_i le
    have : a - b = UInt64.ofNat (a.toNat - b.toNat) := by
      rw [← UInt64.toNat_sub_of_le _ _ le, UInt64.ofNat_toNat]
    rw [← this]
    exact subtract_gives (UInt64.le_iff_toNat_le.1 le)
  · rename_i lt
    have : a.toNat - b.toNat = 0 := by
      rw [UInt64.le_iff_toNat_le] at lt
      omega
    rw [this]
    exact .pure rfl

end Operations

/-! ## Positions -/

namespace Source

variable {α β γ δ : Type} {src : Source} {limit : Nat}

/-- The position of a value and the bytes left belong together: the position lies in the buffer, and the
bytes are those after it. -/
def Left (src : Source) (rel : α → β → Prop) (p : α × UInt64) (q : β × Bytes) : Prop :=
  rel p.1 q.1 ∧ p.2.toNat ≤ src.bytes.length ∧ q.2 = src.bytes.drop p.2.toNat

/-- From every position in the buffer, a computation does safe operations only and comes to what a
reader comes to on the bytes from there on. -/
def Follows (src : Source) (limit : Nat) (rel : α → β → Prop) (m : Reading α)
    (reader : FieldReader β) : Prop :=
  ∀ position : UInt64, position.toNat ≤ src.bytes.length →
    (m position).Matches limit (src.Left rel) (reader (src.bytes.drop position.toNat))

namespace Follows

variable {rel : α → β → Prop} {rel' : γ → δ → Prop}

theorem pure {a : α} {b : β} (h : rel a b) :
    src.Follows limit rel (Pure.pure a) (Pure.pure b) :=
  fun _ inside => .pure ⟨h, inside, rfl⟩

/-- A fault stops the computation and the reader, wherever they are. -/
theorem fail (fault : DecodeError) :
    src.Follows limit rel (Machine.fail fault : Traced α) (FieldReader.refuse fault) :=
  fun _ _ => .fail fault

/-- From the position that is reached both go on with values that belong together. -/
theorem bind {m : Reading α} {reader : FieldReader β} {f : α → Reading γ} {g : β → FieldReader δ}
    (first : src.Follows limit rel m reader)
    (second : ∀ a b, rel a b → src.Follows limit rel' (f a) (g b)) :
    src.Follows limit rel' (m >>= f) (reader >>= g) := by
  intro position inside
  refine (first position inside).bind ?_
  rintro ⟨a, after⟩ ⟨b, rest⟩ ⟨h, inside', rfl⟩
  exact second a b h after inside'

/-- What is read is the same value, so that both go on with it. -/
theorem value {m : Reading α} {reader : FieldReader α} {f : α → Reading γ}
    {g : α → FieldReader δ} (first : src.Follows limit Eq m reader)
    (second : ∀ a, src.Follows limit rel' (f a) (g a)) :
    src.Follows limit rel' (m >>= f) (reader >>= g) := by
  refine first.bind ?_
  rintro a _ rfl
  exact second a

theorem map {m : Reading α} {reader : FieldReader β} {f : α → γ} {g : β → δ}
    (first : src.Follows limit rel m reader) (values : ∀ a b, rel a b → rel' (f a) (g b)) :
    src.Follows limit rel' (f <$> m) (g <$> reader) :=
  first.bind fun a b h => pure (values a b h)

/-- An operation that only the machine does. -/
theorem step {x : Traced γ} {c : γ} {f : γ → Reading α} {reader : FieldReader β}
    (given : x.Gives limit c) (rest : src.Follows limit rel (f c) reader) :
    src.Follows limit rel (x >>= f) reader :=
  fun position inside => .step (given.lift position) (rest position inside)

/-- A computation may end in one operation where the reader ends in a value. -/
theorem last {x : Traced α} {a : α} {b : β} (given : x.Gives limit a) (h : rel a b) :
    src.Follows limit rel x (Pure.pure b) :=
  fun _ inside => .step given (.pure ⟨h, inside, rfl⟩)

end Follows

/-- The number of bytes left is that of the bytes after the position. -/
theorem remaining_gives (fits : src.bytes.length < 2 ^ 63) {position : UInt64}
    (inside : position.toNat ≤ src.bytes.length) :
    (src.remaining position).Gives limit (size (src.bytes.drop position.toNat), position) := by
  have whole := toNat_size fits
  have le : position.toNat ≤ (size src.bytes).toNat := by omega
  have left : size src.bytes - position = size (src.bytes.drop position.toNat) := by
    rw [size.eq_def (src.bytes.drop _), List.length_drop, ← whole,
      ← UInt64.toNat_sub_of_le _ _ (UInt64.le_iff_toNat_le.2 le), UInt64.ofNat_toNat]
  rw [← left]
  exact (subtract_gives le).lift position

namespace Follows

variable {rel : α → β → Prop}

/-- The number of bytes left, where a reader looks at the bytes themselves. -/
theorem remaining {f : UInt64 → Reading α} {g : Bytes → FieldReader β}
    (fits : src.bytes.length < 2 ^ 63)
    (rest : ∀ left : Bytes, left.length ≤ src.bytes.length →
      src.Follows limit rel (f (size left)) (g left)) :
    src.Follows limit rel (src.remaining >>= f) (get >>= g) := by
  intro position inside
  have le : (src.bytes.drop position.toNat).length ≤ src.bytes.length := by
    rw [List.length_drop]
    omega
  exact .stepAt (remaining_gives fits inside) (rest _ le position inside)

/-- A condition that holds lets a reader go on. -/
theorem passed {condition : Bool} {fault : DecodeError} {m : Reading α}
    {next : Unit → FieldReader β} (holds : condition = true)
    (rest : src.Follows limit rel m (next ())) :
    src.Follows limit rel m (FieldReader.require condition fault >>= next) := by
  intro position inside
  rw [FieldReader.require_bind, if_pos holds]
  exact rest position inside

/-- A condition that fails stops both. -/
theorem refused {condition : Bool} {fault : DecodeError} {next : Unit → FieldReader β}
    (fails : ¬ condition = true) :
    src.Follows limit rel (Machine.fail fault : Traced α)
      (FieldReader.require condition fault >>= next) := by
  intro position _
  rw [FieldReader.require_bind, if_neg fails]
  exact .fail fault

/-- A guard before the rest of a computation. -/
theorem guard {bad : Prop} [Decidable bad] {condition : Bool} {fault : DecodeError}
    {m : Reading α} {next : Unit → FieldReader β} (same : condition = true ↔ ¬ bad)
    (rest : ¬ bad → src.Follows limit rel m (next ())) :
    src.Follows limit rel (if bad then (Machine.fail fault : Traced α) else m)
      (FieldReader.require condition fault >>= next) := by
  by_cases stops : bad
  · rw [if_pos stops]
    exact .refused fun holds => same.1 holds stops
  · rw [if_neg stops]
    exact .passed (same.2 stops) (rest stops)

end Follows

/-- Taking bytes: what is taken has the length that is asked for. -/
theorem take_follows (fits : src.bytes.length < 2 ^ 63) (n : UInt64) :
    src.Follows limit (fun field same => field = same ∧ field.length = n.toNat) (src.take n)
      (FieldReader.take src.region n.toNat) := by
  intro position inside
  unfold Source.take
  refine .stepAt (remaining_gives fits inside) ?_
  have left : (size (src.bytes.drop position.toNat)).toNat = (src.bytes.drop position.toNat).length :=
    toNat_size (by rw [List.length_drop]; omega)
  split
  · rename_i short
    rw [UInt64.lt_iff_toNat_lt, left] at short
    rw [left, FieldReader.take_short short]
    exact .fail _
  · rename_i held
    rw [UInt64.lt_iff_toNat_lt, left, List.length_drop] at held
    have room : position.toNat + n.toNat < 2 ^ 64 := by omega
    have stop : (position + n).toNat = position.toNat + n.toNat := toNat_add room
    have order : position.toNat ≤ (position + n).toNat := by omega
    have bound : (position + n).toNat ≤ src.bytes.length := by omega
    have width : (position + n).toNat - position.toNat = n.toNat := by omega
    have length : ((src.bytes.drop position.toNat).take n.toNat).length = n.toNat := by
      rw [List.length_take, List.length_drop]
      omega
    have read : FieldReader.take src.region n.toNat (src.bytes.drop position.toNat) =
        .ok ((src.bytes.drop position.toNat).take n.toNat, src.bytes.drop (position + n).toNat) := by
      rw [stop, ← List.drop_drop]
      exact FieldReader.take_eq_ok_iff.2 ⟨length, (List.take_append_drop _ _).symm⟩
    rw [read]
    -- the end is added up twice, for the slice and for the next position
    refine .stepAt (x := get) (c := position) (.pure rfl) ?_
    refine .stepAt ((add_gives room).lift position) ?_
    refine .stepAt ((slice_gives order bound).lift position) ?_
    refine .stepAt ((add_gives room).lift position) ?_
    rw [width]
    exact .pure ⟨⟨rfl, length⟩, bound, rfl⟩

/-- Taking an array of bytes follows taking a field, copied into a buffer of its length. -/
theorem array_follows (fits : src.bytes.length < 2 ^ 63) (n : UInt64) :
    src.Follows limit Eq (src.array n) (FieldReader.take src.region n.toNat) := by
  rw [← bind_pure (FieldReader.take src.region n.toNat)]
  refine (take_follows fits n).bind ?_
  rintro field _ ⟨rfl, length⟩
  exact .last (copy_gives length) rfl

/-- A word is read from a copy of four bytes, like the other numbers from theirs. -/
theorem word32_follows (fits : src.bytes.length < 2 ^ 63) :
    src.Follows limit Eq src.word32 (FieldReader.word32 src.region) :=
  (array_follows fits 4).map fun _ _ same => congrArg Bytes.toUInt32 same

theorem word64_follows (fits : src.bytes.length < 2 ^ 63) :
    src.Follows limit Eq src.word64 (FieldReader.word64 src.region) :=
  (array_follows fits 8).map fun _ _ same => congrArg Bytes.toUInt64 same

theorem int64_follows (fits : src.bytes.length < 2 ^ 63) :
    src.Follows limit Eq src.int64 (FieldReader.int64 src.region) :=
  (array_follows fits 8).map fun _ _ same => congrArg Bytes.toInt64 same

/-- A reference is looked up where the end of the string, which is the sum of two numbers of 32 bits, is
not after the end of the pool. -/
theorem string_follows {pool : Bytes} (fits : src.bytes.length < 2 ^ 63)
    (poolFits : pool.length < 2 ^ 63) :
    src.Follows limit Eq (src.string pool) (Payload.readString src.region pool.toArray) := by
  refine (word32_follows fits).value fun offset => ?_
  refine (word32_follows fits).value fun length => ?_
  -- two numbers of 32 bits do not wrap in 64
  have room : offset.toUInt64.toNat + length.toUInt64.toNat < 2 ^ 64 := by
    have := offset.toNat_lt
    have := length.toNat_lt
    rw [UInt32.toNat_toUInt64, UInt32.toNat_toUInt64]
    omega
  have stop : (offset.toUInt64 + length.toUInt64).toNat = offset.toNat + length.toNat := by
    rw [toNat_add room, UInt32.toNat_toUInt64, UInt32.toNat_toUInt64]
  refine .step (add_gives room) ?_
  have whole := toNat_size poolFits
  by_cases inside : offset.toNat + length.toNat ≤ pool.length
  · have held : ¬ size pool < offset.toUInt64 + length.toUInt64 := by
      rw [UInt64.lt_iff_toNat_lt, stop]
      omega
    have order : offset.toUInt64.toNat ≤ (offset.toUInt64 + length.toUInt64).toNat := by
      rw [stop, UInt32.toNat_toUInt64]
      omega
    have width : (offset.toUInt64 + length.toUInt64).toNat - offset.toUInt64.toNat =
        length.toNat := by
      rw [stop, UInt32.toNat_toUInt64]
      omega
    have found : StringPool.string pool.toArray offset length =
        (Text.ofUtf8? ((pool.drop offset.toNat).take length.toNat)).elim
          (.error (.badString offset)) .ok := by
      rw [← StringPool.toList_extract_stop]
      refine (if_pos inside).trans ?_
      cases Text.ofUtf8? _ <;> rfl
    rw [if_neg held, found]
    refine .step (slice_gives order (by omega)) ?_
    rw [width, UInt32.toNat_toUInt64]
    cases Text.ofUtf8? ((pool.drop offset.toNat).take length.toNat) with
    | some s => exact .pure rfl
    | none => exact .fail _
  · have beyond : size pool < offset.toUInt64 + length.toUInt64 := by
      rw [UInt64.lt_iff_toNat_lt, stop]
      omega
    have refused : StringPool.string pool.toArray offset length =
        .error (.badOffset .strings (offset.toNat + length.toNat) pool.length) := if_neg inside
    rw [if_pos beyond, refused, stop, whole]
    exact .fail _

end Source

end BitcodeCache.Machine
