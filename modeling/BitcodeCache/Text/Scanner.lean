/-!
# Scanners

A scanner takes a value off the front of a list of characters, or fails. Scanners are combined as
computations; `<|>` tries the second where the first fails, from the same place. `many` stops at
the first failure, and after as many rounds as there are characters.
-/

namespace BitcodeCache.Text

/-- Takes a value off the front of a text, or fails. -/
abbrev Scanner := StateT (List Char) Option

namespace Scanner

variable {α β : Type}

/-- One character of a class. -/
def satisfy (p : Char → Bool) : Scanner Char := fun input =>
  match input with
  | c :: rest => if p c then some (c, rest) else none
  | [] => none

/-- The given character. -/
def char (c : Char) : Scanner Unit := do let _ ← satisfy (· == c)

/-- The given characters in order. -/
def chars : List Char → Scanner Unit
  | [] => pure ()
  | c :: cs => do char c; chars cs

/-- The given text. -/
def word (text : String) : Scanner Unit := chars text.toList

/-- The longest run of characters of a class, possibly empty. -/
def run (p : Char → Bool) : Scanner (List Char) := fun input =>
  some (input.takeWhile p, input.dropWhile p)

/-- The longest run of characters of a class, at least one. -/
def run1 (p : Char → Bool) : Scanner (List Char) := do
  let c ← satisfy p
  let cs ← run p
  pure (c :: cs)

/-- As many values as there are, but no more than `bound` has characters, and what follows them. -/
def manyFrom (item : Scanner α) : (bound input : List Char) → List α × List Char
  | [], input => ([], input)
  | _ :: bound, input =>
    match item input with
    | none => ([], input)
    | some (a, rest) =>
      let more := manyFrom item bound rest
      (a :: more.1, more.2)

/-- As many values as there are. Each takes at least one character, so the input bounds their
number. -/
def many (item : Scanner α) : Scanner (List α) := fun input => some (manyFrom item input input)

/-- Values with a separator between each two, at least one value. -/
def separated1 (separator : Scanner β) (item : Scanner α) : Scanner (List α) := do
  let a ← item
  let more ← many (do let _ ← separator; item)
  pure (a :: more)

/-- Values with a separator between each two, possibly none. -/
def separated (separator : Scanner β) (item : Scanner α) : Scanner (List α) :=
  separated1 separator item <|> pure []

/-- A value or nothing. -/
def maybe (item : Scanner α) : Scanner (Option α) := (some <$> item) <|> pure none

/-- Succeeds, and takes nothing, where the next character is not the given one. -/
def unlessNext (c : Char) : Scanner Unit := fun input =>
  if input.head? = some c then none else some ((), input)

/-- Succeeds, and takes nothing, where the given scanner would. -/
def ahead (item : Scanner α) : Scanner Unit := fun input => (item input).map fun _ => ((), input)

/-- Succeeds where no characters are left. -/
def atEnd : Scanner Unit := fun input => if input.isEmpty then some ((), []) else none

/-- Exactly `n` values. -/
def exactly : Nat → Scanner α → Scanner (List α)
  | 0, _ => pure []
  | n + 1, item => do
    let a ← item
    let more ← exactly n item
    pure (a :: more)

/-- The value of a whole text. -/
def readAll (scanner : Scanner α) (text : String) : Option α :=
  ((do let a ← scanner; atEnd; pure a : Scanner α) text.toList).map (·.1)

end Scanner

/-- Whether a character is a decimal digit. -/
def isDigit (c : Char) : Bool := c.isDigit

/-- Whether a character is a hexadecimal digit. -/
def isHexDigit (c : Char) : Bool :=
  c.isDigit || ('a' ≤ c && c ≤ 'f') || ('A' ≤ c && c ≤ 'F')

/-- The number with the given digits, each below the base. -/
def ofDigits (base : Nat) (digits : List Nat) : Nat :=
  digits.foldl (fun n d => n * base + d) 0

/-- The value of a digit in any base up to sixteen; zero for any other character. -/
def digitValue (c : Char) : Nat :=
  if c.isDigit then c.toNat - '0'.toNat
  else if 'a' ≤ c ∧ c ≤ 'f' then c.toNat - 'a'.toNat + 10
  else if 'A' ≤ c ∧ c ≤ 'F' then c.toNat - 'A'.toNat + 10
  else 0

end BitcodeCache.Text
