import BitcodeCache.Toml.Blank

/-!
# Numbers of TOML

Integers are signed 64-bit numbers in decimal, or without a sign in hexadecimal, octal or binary.
Floats have a fraction, an exponent or both, or are infinite or no number. Underscores may stand
between digits. A float that rounds to positive infinity is refused; a negative one is not.
-/

namespace BitcodeCache.Toml

open BitcodeCache.Text

/-- Digits of a class with single underscores between them. -/
def digitRun (isMember : Char → Bool) : Scanner (List Char) := do
  let groups ← Scanner.separated1 (Scanner.char '_') (Scanner.run1 isMember)
  pure groups.flatten

/-- Whether a character is an octal digit. -/
def isOctalDigit (c : Char) : Bool := '0' ≤ c && c ≤ '7'

/-- Whether a character is a binary digit. -/
def isBinaryDigit (c : Char) : Bool := c == '0' || c == '1'

/-- A sign: whether it is a minus, and whether there is one at all. -/
def sign : Scanner (Option Bool) :=
  Scanner.maybe ((do Scanner.char '-'; pure true) <|> (do Scanner.char '+'; pure false))

/-- Decimal digits without a leading zero. -/
def plainDigits : Scanner (List Char) :=
  (do Scanner.char '0'; pure ['0']) <|>
    (do Scanner.unlessNext '0'; digitRun isDigit)

/-- The number written by digits of a base. -/
def numeral (base : Nat) (digits : List Char) : Nat := ofDigits base (digits.map digitValue)

/-- A signed 64-bit number, if there is room for it. -/
def fitInt64 (n : Int) : Scanner Int :=
  if Int64.minValue.toInt ≤ n ∧ n ≤ Int64.maxValue.toInt then pure n else failure

/-- An integer in decimal. -/
def decimalInteger : Scanner Int := do
  let s ← sign
  let digits ← plainDigits
  let n : Int := numeral 10 digits
  fitInt64 (if s = some true then -n else n)

/-- An integer after the marker of its base. -/
def basedInteger (marker : String) (base : Nat) (isMember : Char → Bool) : Scanner Int := do
  Scanner.word marker
  let digits ← digitRun isMember
  fitInt64 (numeral base digits)

/-- An integer. -/
def integer : Scanner Int :=
  basedInteger "0x" 16 isHexDigit <|> basedInteger "0o" 8 isOctalDigit <|>
    basedInteger "0b" 2 isBinaryDigit <|> decimalInteger

/-! ## Floats -/

/-- The digits after the decimal point, with the point. -/
def fraction : Scanner (List Char) := do
  Scanner.char '.'
  digitRun isDigit

/-- An exponent of ten. -/
def exponent : Scanner Int := do
  let _ ← Scanner.satisfy fun c => c == 'e' || c == 'E'
  let s ← sign
  let digits ← digitRun isDigit
  let n : Int := numeral 10 digits
  pure (if s = some true then -n else n)

/-- The least number that rounds to infinity: half a step above the largest double. -/
def overflowBound : Nat := Nat.pow 2 1024 - Nat.pow 2 970

/-- Whether `mantissa` times ten to the `scale` rounds to infinity. The number of digits decides
wherever it can, so that no power of a huge exponent is taken. -/
def overflows (mantissa : Nat) (scale : Int) : Bool :=
  let magnitude : Int := (Nat.toDigits 10 mantissa).length + scale
  if mantissa = 0 ∨ magnitude < 300 then false
  else if 320 < magnitude then true
  else if 0 ≤ scale then overflowBound ≤ mantissa * Nat.pow 10 scale.toNat
  else overflowBound * Nat.pow 10 (-scale).toNat ≤ mantissa

/-- A float with a fraction, an exponent or both. -/
def finiteFloat : Scanner Unit := do
  let s ← sign
  let whole ← plainDigits
  let part ← Scanner.maybe fraction
  let power ← Scanner.maybe exponent
  if part.isNone ∧ power.isNone then failure
  else
    let digits := part.getD []
    if s ≠ some true ∧ overflows (numeral 10 (whole ++ digits)) (power.getD 0 - digits.length) then
      failure
    else pure ()

/-- A float. -/
def float : Scanner Unit :=
  finiteFloat <|> (do let _ ← sign; Scanner.word "inf" <|> Scanner.word "nan")

end BitcodeCache.Toml
