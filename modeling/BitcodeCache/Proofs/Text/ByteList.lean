import Mathlib.Data.List.Basic
import BitcodeCache.Text.ByteList

/-!
# Written bytes are read back

Each scanner of the array takes its own part off the front and leaves the rest, as long as what
follows cannot belong to the part: no digit goes on after a number, and a comma or the closing bracket
comes next.
-/

namespace BitcodeCache.Text

/-! ## Scanners on what they take -/

namespace Scanner

variable {α β : Type}

/-- After a value that was scanned, the next scanner has the rest. -/
theorem bind_of_some {scanner : Scanner α} {next : α → Scanner β} {input rest : List Char} {a : α}
    (h : scanner input = some (a, rest)) : (scanner >>= next) input = next a rest := by
  change (scanner input >>= fun p => next p.1 p.2) = _
  rw [h]
  rfl

theorem char_cons (c : Char) (rest : List Char) : char c (c :: rest) = some ((), rest) := by
  have held : satisfy (· == c) (c :: rest) = some (c, rest) := by simp [satisfy]
  exact bind_of_some held

/-- A run goes up to the first character that does not belong to it. -/
theorem run1_append {p : Char → Bool} {c d : Char} {cs rest : List Char}
    (all : ∀ x ∈ c :: cs, p x = true) (stop : p d = false) :
    run1 p (c :: cs ++ d :: rest) = some (c :: cs, d :: rest) := by
  obtain ⟨first, others⟩ := List.forall_mem_cons.1 all
  have one : satisfy p (c :: cs ++ d :: rest) = some (c, cs ++ d :: rest) := by
    simp [satisfy, first]
  have more : run p (cs ++ d :: rest) = some (cs, d :: rest) := by
    simp [run, List.takeWhile_append_of_pos others, List.dropWhile_append_of_pos others, stop]
  rw [run1, bind_of_some one, bind_of_some more]
  rfl

/-- A list with at least one value is a list. -/
theorem separated_of_some {separator : Scanner β} {item : Scanner α} {input : List Char}
    {p : List α × List Char} (h : separated1 separator item input = some p) :
    separated separator item input = some p := by
  change (separated1 separator item input <|> _) = _
  rw [h]
  rfl

/-- Pieces that are taken one by one, up to where the next one fails, are all taken. -/
theorem manyFrom_flatMap {item : Scanner α} {piece : α → List Char} {stop : List Char}
    (step : ∀ a (as : List α), item (piece a ++ (as.flatMap piece ++ stop)) =
      some (a, as.flatMap piece ++ stop))
    (last : item stop = none) {as : List α} {bound : List Char} (room : as.length ≤ bound.length) :
    manyFrom item bound (as.flatMap piece ++ stop) = (as, stop) := by
  induction as generalizing bound with
  | nil =>
    cases bound with
    | nil => rfl
    | cons _ bound => simp [manyFrom, last]
  | cons a as ih =>
    cases bound with
    | nil => cases room
    | cons _ bound =>
      rw [List.flatMap_cons, List.append_assoc, manyFrom, step]
      dsimp only
      rw [ih (Nat.le_of_succ_le_succ room)]

/-- Pieces that are scanned one by one are scanned as many, up to where no piece starts. -/
theorem many_flatMap {item : Scanner α} {piece : α → List Char} {stop : List Char}
    (step : ∀ a (as : List α), item (piece a ++ (as.flatMap piece ++ stop)) =
      some (a, as.flatMap piece ++ stop))
    (last : item stop = none) (nonempty : ∀ a, piece a ≠ []) (as : List α) :
    many item (as.flatMap piece ++ stop) = some (as, stop) := by
  have room : as.length ≤ (as.flatMap piece ++ stop).length := by
    induction as with
    | nil => exact Nat.zero_le _
    | cons a as ih =>
      have := List.length_pos_iff.2 (nonempty a)
      rw [List.flatMap_cons, List.append_assoc, List.length_append, List.length_cons]
      omega
  rw [many, manyFrom_flatMap step last room]

end Scanner

namespace ByteList

/-! ## Numbers -/

/-- The digits of a byte. -/
def digits (b : UInt8) : List Char := Nat.toDigits 10 b.toNat

theorem digits_ne_nil (b : UInt8) : digits b ≠ [] := Nat.toDigits_ne_nil

theorem isDigit_of_mem_digits {b : UInt8} {c : Char} (h : c ∈ digits b) : isDigit c = true :=
  Nat.isDigit_of_mem_toDigits (by decide) (by decide) h

/-- A number that is not zero does not start with a zero. -/
theorem head?_toDigits {n : Nat} (positive : 0 < n) : (Nat.toDigits 10 n).head? ≠ some '0' := by
  induction n using Nat.strongRecOn with
  | ind n ih =>
    rw [Nat.toDigits_eq_if (by decide)]
    split
    · rename_i small
      have each : ∀ n < 10, 0 < n → n.digitChar ≠ '0' := by decide
      rw [List.head?_singleton, ne_eq, Option.some.injEq]
      exact each n small positive
    · rw [List.head?_append_of_ne_nil _ Nat.toDigits_ne_nil]
      exact ih (n / 10) (by omega) (by omega)

/-- The digits of a byte are at most three, without a leading zero. -/
theorem plain_digits (b : UInt8) :
    (3 < (digits b).length || (1 < (digits b).length && (digits b).head? == some '0')) = false := by
  have bound := b.toNat_lt
  have short : (digits b).length ≤ 3 :=
    (Nat.length_toDigits_le_iff (by decide) (by decide)).2 (by omega)
  simp only [Bool.or_eq_false_iff, decide_eq_false_iff_not, Nat.not_lt, Bool.and_eq_false_imp,
    decide_eq_true_eq, beq_eq_false_iff_ne]
  refine ⟨short, fun several => ?_⟩
  have large : ¬ b.toNat < 10 ^ 1 := fun small =>
    absurd ((Nat.length_toDigits_le_iff (by decide) (by decide)).2 small) (Nat.not_le.2 several)
  exact head?_toDigits (by omega)

/-- The digits of a byte have its value. -/
theorem ofDigits_digits (b : UInt8) : ofDigits 10 ((digits b).map digitValue) = b.toNat := by
  have value {c : Char} (h : c ∈ digits b) : digitValue c = c.toNat - '0'.toNat := by
    have isDigit : c.isDigit = true := isDigit_of_mem_digits h
    rw [digitValue, if_pos isDigit]
  calc ofDigits 10 ((digits b).map digitValue)
      = Nat.ofDigitChars 10 (digits b) 0 := by
        rw [ofDigits, List.foldl_map, Nat.ofDigitChars]
        refine List.foldl_ext _ _ _ fun n c member => ?_
        rw [value member, Nat.mul_comm]
    _ = b.toNat := Nat.ofDigitChars_toDigits (by decide) (by decide)

/-- The characters that can follow a number. -/
def Follows (c : Char) : Prop := c = ',' ∨ c = ']'

/-- A comma or a closing bracket is no blank. -/
theorem blanks_of_follows {c : Char} (h : Follows c) (rest : List Char) :
    blanks (c :: rest) = some ((), c :: rest) := by
  rcases h with rfl | rfl <;> rfl

theorem blanks_of_isDigit {c : Char} (h : isDigit c = true) (rest : List Char) :
    blanks (c :: rest) = some ((), c :: rest) := by
  have none : (c == ' ' || c == '\n' || c == '\r' || c == '\t') = false := by
    simp only [Bool.or_eq_false_iff, beq_eq_false_iff_ne]
    refine ⟨⟨⟨?_, ?_⟩, ?_⟩, ?_⟩ <;> rintro rfl <;> cases h
  have run : Scanner.run (fun c => c == ' ' || c == '\n' || c == '\r' || c == '\t') (c :: rest) =
      some ([], c :: rest) := by
    rw [Scanner.run, List.takeWhile_cons_of_neg (by rw [none]; simp),
      List.dropWhile_cons_of_neg (by rw [none]; simp)]
  exact Scanner.bind_of_some run

/-- There are no blanks before the digits of a byte. -/
theorem blanks_digits (b : UInt8) (rest : List Char) :
    blanks (digits b ++ rest) = some ((), digits b ++ rest) := by
  obtain ⟨d, ds, split⟩ := List.exists_cons_of_ne_nil (digits_ne_nil b)
  have first : d ∈ digits b := by rw [split]; exact List.mem_cons_self
  rw [split]
  exact blanks_of_isDigit (isDigit_of_mem_digits first) (ds ++ rest)

/-- A byte is scanned from its digits, before a comma or a closing bracket. -/
theorem byte_digits (b : UInt8) {c : Char} (h : Follows c) (rest : List Char) :
    byte (digits b ++ c :: rest) = some (b, c :: rest) := by
  have stop : isDigit c = false := by rcases h with rfl | rfl <;> rfl
  have all : ∀ d ∈ digits b, isDigit d = true := fun _ => isDigit_of_mem_digits
  have plain := plain_digits b
  have value := ofDigits_digits b
  obtain ⟨d, ds, split⟩ := List.exists_cons_of_ne_nil (digits_ne_nil b)
  rw [split] at all plain value ⊢
  rw [byte, Scanner.bind_of_some (Scanner.run1_append all stop), plain, value]
  have small : b.toNat < 256 := b.toNat_lt
  simp only [Bool.false_eq_true, if_false, small, if_true, UInt8.ofNat_toNat]
  rfl

/-! ## The array -/

/-- A comma and the blanks after it. -/
def comma : Scanner Unit := do
  Scanner.char ','
  blanks

/-- A number and the blanks after it. -/
def number : Scanner UInt8 := do
  let b ← byte
  blanks
  pure b

/-- A comma and the number after it. -/
def piece (b : UInt8) : List Char := ',' :: digits b

/-- What stands after a number of an array: the numbers after it, and the bracket. -/
def tail (bytes : Bytes) : List Char := bytes.flatMap piece ++ [']']

/-- Behind a number comes a comma or the closing bracket. -/
theorem tail_eq (bytes : Bytes) : ∃ c rest, Follows c ∧ tail bytes = c :: rest := by
  cases bytes with
  | nil => exact ⟨']', [], .inr rfl, rfl⟩
  | cons b bytes => exact ⟨',', digits b ++ tail bytes, .inl rfl, by simp [tail, piece]⟩

/-- A written list is a bracket, its first number and the tail. -/
theorem toList_write_cons (b : UInt8) (bytes : Bytes) :
    (write (b :: bytes)).toList = '[' :: (digits b ++ tail bytes) := by
  have rest : ∀ (b : UInt8) (bytes : Bytes),
      (",".intercalate ((b :: bytes).map fun c => toString c.toNat)).toList ++ [']'] =
        digits b ++ tail bytes := by
    intro b bytes
    induction bytes generalizing b with
    | nil => simp [digits, tail]
    | cons c bytes ih =>
      have := ih c
      simp only [List.map_cons] at this ⊢
      rw [String.intercalate_cons_cons, String.toList_append, String.toList_append,
        List.append_assoc, List.append_assoc, this]
      simp [digits, tail, piece]
  have closing : "]".toList = [']'] := rfl
  rw [write, String.toList_append, String.toList_append, closing, List.append_assoc, rest]
  rfl

/-- The first number is scanned, and the tail is left. -/
theorem number_digits (b : UInt8) (bytes : Bytes) :
    number (digits b ++ tail bytes) = some (b, tail bytes) := by
  obtain ⟨c, rest, follows, split⟩ := tail_eq bytes
  rw [split, number, Scanner.bind_of_some (byte_digits b follows rest),
    Scanner.bind_of_some (blanks_of_follows follows rest)]
  rfl

/-- The comma of a piece is scanned, and its digits are left. -/
theorem comma_piece (b : UInt8) (rest : List Char) :
    comma (piece b ++ rest) = some ((), digits b ++ rest) := by
  rw [piece, List.cons_append, comma, Scanner.bind_of_some (Scanner.char_cons _ _)]
  exact blanks_digits b rest

/-- Behind the first number the others are read up to the bracket. -/
theorem many_tail (bytes : Bytes) :
    Scanner.many (do let _ ← comma; number) (tail bytes) = some (bytes, [']']) := by
  have step (b : UInt8) (bytes : Bytes) :
      (do let _ ← comma; number : Scanner UInt8) (piece b ++ (bytes.flatMap piece ++ [']'])) =
        some (b, bytes.flatMap piece ++ [']']) := by
    rw [Scanner.bind_of_some (comma_piece b _)]
    exact number_digits b bytes
  exact Scanner.many_flatMap step rfl (fun b => List.cons_ne_nil _ _) bytes

/-- A written list of bytes is scanned as these bytes. -/
theorem array_write (bytes : Bytes) : array (write bytes).toList = some (bytes, []) := by
  cases bytes with
  | nil => decide +kernel
  | cons b bytes =>
    have numbers : Scanner.separated comma number (digits b ++ tail bytes) =
        some (b :: bytes, [']']) := by
      apply Scanner.separated_of_some
      rw [Scanner.separated1, Scanner.bind_of_some (number_digits b bytes),
        Scanner.bind_of_some (many_tail bytes)]
      rfl
    have opening : blanks ('[' :: (digits b ++ tail bytes)) =
        some ((), '[' :: (digits b ++ tail bytes)) := rfl
    rw [toList_write_cons, array, Scanner.bind_of_some opening,
      Scanner.bind_of_some (Scanner.char_cons _ _), Scanner.bind_of_some (blanks_digits b _)]
    exact Scanner.bind_of_some numbers

/-- A byte string is read back from its own array. -/
theorem read?_write (bytes : Bytes) : read? (write bytes) = some bytes := by
  rw [read?, Scanner.readAll, Scanner.bind_of_some (array_write bytes)]
  rfl

end ByteList

end BitcodeCache.Text
