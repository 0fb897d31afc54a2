import Mathlib.Data.List.Forall2
import BitcodeCache.Entry.Field
import BitcodeCache.Proofs.Bytes

/-!
# What readers take

A reader takes a field off the front of some bytes and leaves the rest. For every reader of an
entry there is one statement of the form `reader bytes = .ok (a, rest) ↔ bytes = field ++ rest`,
where `field` is the written form of `a`; a sequence of readers takes the fields one after another.
`HasWidth` says that a reader looks at no byte after its own field, not even to tell a fault.
-/

namespace BitcodeCache

namespace Bytes

/-- Bytes are the number they stand for, written in their own width. -/
theorem ofNat_toNat_of_length {bs : Bytes} {n : Nat} (h : bs.length = n) :
    ofNat n bs.toNat = bs := h ▸ ofNat_toNat bs

theorem ofUInt32_toUInt32 {bs : Bytes} (h : bs.length = 4) : ofUInt32 bs.toUInt32 = bs := by
  have bound := toNat_lt bs
  rw [h] at bound
  rw [ofUInt32, toUInt32, UInt32.toNat_ofNat_of_lt' bound, ofNat_toNat_of_length h]

theorem ofUInt64_toUInt64 {bs : Bytes} (h : bs.length = 8) : ofUInt64 bs.toUInt64 = bs := by
  have bound := toNat_lt bs
  rw [h] at bound
  rw [ofUInt64, toUInt64, UInt64.toNat_ofNat_of_lt' bound, ofNat_toNat_of_length h]

theorem ofInt64_toInt64 {bs : Bytes} (h : bs.length = 8) : ofInt64 bs.toInt64 = bs := by
  rw [ofInt64, toInt64, UInt64.toUInt64_toInt64, ofUInt64_toUInt64 h]

theorem ofUInt32_ofNat {n : Nat} (h : n < 2 ^ 32) : ofUInt32 (UInt32.ofNat n) = ofNat 4 n := by
  rw [ofUInt32, UInt32.toNat_ofNat_of_lt' h]

theorem ofUInt64_ofNat {n : Nat} (h : n < 2 ^ 64) : ofUInt64 (UInt64.ofNat n) = ofNat 8 n := by
  rw [ofUInt64, UInt64.toNat_ofNat_of_lt' h]

/-! Fields of one width that start the same bytes are the same field. -/

/-- A field of a fixed width can be told from what follows it. -/
theorem append_inj_of_width {α : Type} {write : α → Bytes} {width : Nat}
    (lengths : ∀ a, (write a).length = width) (injective : Function.Injective write) {a b : α}
    {xs ys : Bytes} : write a ++ xs = write b ++ ys ↔ a = b ∧ xs = ys := by
  constructor
  · intro same
    obtain ⟨field, rest⟩ := List.append_inj same (by rw [lengths, lengths])
    exact ⟨injective field, rest⟩
  · rintro ⟨rfl, rfl⟩
    rfl

theorem ofUInt32_append_inj {v w : UInt32} {xs ys : Bytes} :
    ofUInt32 v ++ xs = ofUInt32 w ++ ys ↔ v = w ∧ xs = ys :=
  append_inj_of_width length_ofUInt32 (Function.LeftInverse.injective toUInt32_ofUInt32)

theorem ofUInt64_append_inj {v w : UInt64} {xs ys : Bytes} :
    ofUInt64 v ++ xs = ofUInt64 w ++ ys ↔ v = w ∧ xs = ys :=
  append_inj_of_width length_ofUInt64 (Function.LeftInverse.injective toUInt64_ofUInt64)

theorem ofInt64_append_inj {m n : Int64} {xs ys : Bytes} :
    ofInt64 m ++ xs = ofInt64 n ++ ys ↔ m = n ∧ xs = ys :=
  append_inj_of_width length_ofInt64 (Function.LeftInverse.injective toInt64_ofInt64)

theorem digest_append_inj {d e : Digest} {xs ys : Bytes} :
    d.bytes ++ xs = e.bytes ++ ys ↔ d = e ∧ xs = ys := by
  refine append_inj_of_width Digest.length_eq ?_
  rintro ⟨bytes, _⟩ ⟨_, _⟩ rfl
  rfl

end Bytes

namespace FieldReader

variable {α β : Type}

/-! ## Sequences -/

theorem bind_apply (reader : FieldReader α) (next : α → FieldReader β) (bytes : Bytes) :
    (reader >>= next) bytes = reader bytes >>= fun p => next p.1 p.2 := rfl

/-- After a field that was read, the next reader has the rest. -/
theorem bind_of_ok {reader : FieldReader α} {next : α → FieldReader β} {bytes rest : Bytes} {a : α}
    (h : reader bytes = .ok (a, rest)) : (reader >>= next) bytes = next a rest := by
  rw [bind_apply, h]
  rfl

/-- Two fields are read where the second one is read from what the first one left. -/
theorem bind_eq_ok_iff {reader : FieldReader α} {next : α → FieldReader β} {bytes rest : Bytes}
    {b : β} : (reader >>= next) bytes = .ok (b, rest) ↔
      ∃ a middle, reader bytes = .ok (a, middle) ∧ next a middle = .ok (b, rest) := by
  rw [bind_apply]
  cases reader bytes with
  | error fault => simp [bind, Except.bind]
  | ok p =>
    constructor
    · intro h
      exact ⟨p.1, p.2, rfl, h⟩
    · rintro ⟨a, middle, read, h⟩
      cases read
      exact h

/-- A value that is changed after reading leaves the same rest. -/
theorem map_eq_ok_iff {reader : FieldReader α} {f : α → β} {bytes rest : Bytes} {b : β} :
    (f <$> reader) bytes = .ok (b, rest) ↔ ∃ a, reader bytes = .ok (a, rest) ∧ f a = b := by
  change (reader bytes >>= fun p => Except.ok (f p.1, p.2)) = .ok (b, rest) ↔ _
  cases reader bytes with
  | error fault => simp [bind, Except.bind]
  | ok p =>
    constructor
    · intro h
      cases h
      exact ⟨p.1, rfl, rfl⟩
    · rintro ⟨a, read, rfl⟩
      cases read
      rfl

/-- A value that takes no bytes leaves all of them. -/
theorem pure_eq_ok_iff {bytes rest : Bytes} {a b : α} :
    (pure a : FieldReader α) bytes = .ok (b, rest) ↔ b = a ∧ bytes = rest := by
  change (Except.ok (a, bytes) : Except DecodeError _) = .ok (b, rest) ↔ _
  rw [Except.ok.injEq, Prod.mk.injEq, @eq_comm _ a]

theorem refuse_ne_ok {fault : DecodeError} {bytes : Bytes} {p : α × Bytes} :
    (refuse fault : FieldReader α) bytes ≠ .ok p := nofun

/-- A condition takes no bytes. -/
theorem require_eq_ok_iff {condition : Bool} {fault : DecodeError} {bytes rest : Bytes} {u : Unit} :
    require condition fault bytes = .ok (u, rest) ↔ condition = true ∧ bytes = rest := by
  cases condition with
  | true =>
    rw [require, if_pos rfl, pure_eq_ok_iff]
    simp
  | false => simp [require, refuse_ne_ok]

/-- A condition before a reader decides between the reader and the fault. -/
theorem require_bind (condition : Bool) (fault : DecodeError) (next : Unit → FieldReader β)
    (bytes : Bytes) : (require condition fault >>= next) bytes =
      if condition = true then next () bytes else .error fault := by
  cases condition <;> rfl

/-- Looking at the bytes takes none of them. -/
theorem get_eq_ok_iff {bytes rest seen : Bytes} :
    (get : FieldReader Bytes) bytes = .ok (seen, rest) ↔ seen = bytes ∧ bytes = rest := by
  change (Except.ok (bytes, bytes) : Except DecodeError _) = .ok (seen, rest) ↔ _
  rw [Except.ok.injEq, Prod.mk.injEq, @eq_comm _ seen]

/-! ## Fields of a fixed width -/

/-- A field is taken exactly if it stands first in its full length. -/
theorem take_eq_ok_iff {region : Region} {n : Nat} {bytes field rest : Bytes} :
    take region n bytes = .ok (field, rest) ↔ field.length = n ∧ bytes = field ++ rest := by
  constructor
  · intro h
    by_cases held : (bytes.take n).length = n
    · simp only [take, held, if_true, Except.ok.injEq, Prod.mk.injEq] at h
      obtain ⟨rfl, rfl⟩ := h
      exact ⟨held, (List.take_append_drop n bytes).symm⟩
    · simp only [take, held, if_false] at h
      cases h
  · rintro ⟨rfl, rfl⟩
    exact take_append region field rest

/-- A value is read from a field of its width exactly if its own bytes stand first. -/
theorem map_take_eq_ok_iff {value : Bytes → α} {write : α → Bytes} {n : Nat}
    (lengths : ∀ a, (write a).length = n) (value_write : ∀ a, value (write a) = a)
    (write_value : ∀ {field : Bytes}, field.length = n → write (value field) = field)
    {region : Region} {bytes rest : Bytes} {a : α} :
    (value <$> take region n) bytes = .ok (a, rest) ↔ bytes = write a ++ rest := by
  rw [map_eq_ok_iff]
  constructor
  · rintro ⟨field, read, rfl⟩
    obtain ⟨width, rfl⟩ := take_eq_ok_iff.1 read
    rw [write_value width]
  · rintro rfl
    exact ⟨_, take_eq_ok_iff.2 ⟨lengths a, rfl⟩, value_write a⟩

/-- A word is read exactly if its bytes stand first, and likewise for the other numbers. -/
theorem word32_eq_ok_iff {region : Region} {bytes rest : Bytes} {w : UInt32} :
    word32 region bytes = .ok (w, rest) ↔ bytes = Bytes.ofUInt32 w ++ rest :=
  map_take_eq_ok_iff Bytes.length_ofUInt32 Bytes.toUInt32_ofUInt32 Bytes.ofUInt32_toUInt32

theorem word64_eq_ok_iff {region : Region} {bytes rest : Bytes} {w : UInt64} :
    word64 region bytes = .ok (w, rest) ↔ bytes = Bytes.ofUInt64 w ++ rest :=
  map_take_eq_ok_iff Bytes.length_ofUInt64 Bytes.toUInt64_ofUInt64 Bytes.ofUInt64_toUInt64

theorem int64_eq_ok_iff {region : Region} {bytes rest : Bytes} {n : Int64} :
    int64 region bytes = .ok (n, rest) ↔ bytes = Bytes.ofInt64 n ++ rest :=
  map_take_eq_ok_iff Bytes.length_ofInt64 Bytes.toInt64_ofInt64 Bytes.ofInt64_toInt64

/-- A digest is read exactly if its bytes stand first. -/
theorem digest_eq_ok_iff {region : Region} {bytes rest : Bytes} {d : Digest} :
    digest region bytes = .ok (d, rest) ↔ bytes = d.bytes ++ rest := by
  constructor
  · intro h
    by_cases held : 20 ≤ bytes.length
    · simp only [digest, held, dite_true, Except.ok.injEq, Prod.mk.injEq] at h
      obtain ⟨rfl, rfl⟩ := h
      exact (List.take_append_drop 20 bytes).symm
    · simp only [digest, held, dite_false] at h
      cases h
  · rintro rfl
    have held : 20 ≤ (d.bytes ++ rest).length := by rw [List.length_append, d.length_eq]; omega
    simp [digest, ← d.length_eq]

/-! ## Repeated fields -/

/-- Counted values stand one after another, each in the form that its reader takes. -/
theorem exactly_eq_ok_iff {item : FieldReader α} {form : Bytes → α → Prop}
    (takes : ∀ {bytes rest a}, item bytes = .ok (a, rest) ↔ ∃ row, form row a ∧ bytes = row ++ rest)
    {n : Nat} {bytes rest : Bytes} {as : List α} :
    exactly item n bytes = .ok (as, rest) ↔
      as.length = n ∧ ∃ rows, List.Forall₂ form rows as ∧ bytes = rows.flatten ++ rest := by
  induction n generalizing bytes rest as with
  | zero =>
    rw [exactly, pure_eq_ok_iff]
    constructor
    · rintro ⟨rfl, rfl⟩
      exact ⟨rfl, [], .nil, rfl⟩
    · rintro ⟨none, rows, rowsOf, rfl⟩
      obtain rfl := List.eq_nil_of_length_eq_zero none
      cases rowsOf
      exact ⟨rfl, rfl⟩
  | succ n ih =>
    simp only [exactly, bind_eq_ok_iff, pure_eq_ok_iff, takes, ih]
    constructor
    · rintro ⟨a, _, ⟨row, rowOf, rfl⟩, as, _, ⟨len, rows, rowsOf, rfl⟩, rfl, rfl⟩
      exact ⟨by rw [List.length_cons, len], row :: rows, .cons rowOf rowsOf, by simp⟩
    · rintro ⟨len, rows, rowsOf, rfl⟩
      cases rowsOf with
      | nil => cases len
      | cons rowOf rowsOf =>
        exact ⟨_, _, ⟨_, rowOf, by simp⟩, _, _, ⟨Nat.succ.inj len, _, rowsOf, rfl⟩, rfl, rfl⟩

/-! ## Looking no further than the field -/

/-- A reader takes `width` bytes where it succeeds, and no byte after them changes what it answers:
cutting the bytes anywhere behind gives the same value or the same fault. -/
def HasWidth (reader : FieldReader α) (width : Nat) : Prop :=
  ∀ bytes k, width ≤ k →
    reader (bytes.take k) = (reader bytes).map fun p => (p.1, p.2.take (k - width))

/-- A cut behind a field does not change what is taken. -/
theorem HasWidth.take (region : Region) (n : Nat) : HasWidth (take region n) n := by
  intro bytes k le
  by_cases held : n ≤ bytes.length
  · have inner : (bytes.take n).length = n := List.length_take_of_le held
    simp [FieldReader.take, List.take_take, le, inner, Except.map, List.drop_take]
  · have whole : bytes.take k = bytes := List.take_of_length_le (by omega)
    rw [whole, take_short (by omega)]
    rfl

theorem HasWidth.digest (region : Region) : HasWidth (digest region) 20 := by
  intro bytes k le
  by_cases held : 20 ≤ bytes.length
  · have inner : 20 ≤ (bytes.take k).length := by rw [List.length_take]; omega
    simp only [FieldReader.digest, held, inner, dite_true, List.take_take, Nat.min_eq_left le,
      List.drop_take, Except.map]
  · have whole : bytes.take k = bytes := List.take_of_length_le (by omega)
    rw [whole]
    simp [FieldReader.digest, held, Except.map]

theorem HasWidth.map {reader : FieldReader α} {width : Nat} (h : HasWidth reader width)
    (f : α → β) : HasWidth (f <$> reader) width := by
  intro bytes k le
  change (reader (bytes.take k) >>= fun p => Except.ok (f p.1, p.2)) =
    Except.map _ (reader bytes >>= fun p => Except.ok (f p.1, p.2))
  rw [h bytes k le]
  cases reader bytes <;> rfl

theorem HasWidth.pure (a : α) : HasWidth (pure a : FieldReader α) 0 := fun _ _ _ => rfl

theorem HasWidth.require (condition : Bool) (fault : DecodeError) :
    HasWidth (require condition fault) 0 := by
  cases condition with
  | true => exact .pure ()
  | false => exact fun _ _ _ => rfl

/-- Two fields look as far as both widths together. -/
theorem HasWidth.bind {reader : FieldReader α} {next : α → FieldReader β} {w v : Nat}
    (first : HasWidth reader w) (second : ∀ a, HasWidth (next a) v) :
    HasWidth (reader >>= next) (w + v) := by
  intro bytes k le
  rw [bind_apply, bind_apply, first bytes k (by omega)]
  cases reader bytes with
  | error fault => rfl
  | ok p =>
    have rest := second p.1 p.2 (k - w) (by omega)
    rw [Nat.sub_sub] at rest
    exact rest

theorem HasWidth.word32 (region : Region) : HasWidth (word32 region) 4 := (take region 4).map _

theorem HasWidth.word64 (region : Region) : HasWidth (word64 region) 8 := (take region 8).map _

theorem HasWidth.int64 (region : Region) : HasWidth (int64 region) 8 := (take region 8).map _

end FieldReader

end BitcodeCache
