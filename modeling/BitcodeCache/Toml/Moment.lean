import BitcodeCache.Toml.Blank

/-!
# Dates and times of TOML

A moment is a date, a time, or a date and a time with or without an offset. Every part is checked
against its range; a day against the length of its month.
-/

namespace BitcodeCache.Toml

open BitcodeCache.Text

/-- A number of exactly `n` digits between two bounds. -/
def fixedNumber (n low high : Nat) : Scanner Nat := do
  let digits ← Scanner.exactly n (Scanner.satisfy isDigit)
  let value := ofDigits 10 (digits.map digitValue)
  if low ≤ value ∧ value ≤ high then pure value else failure

/-- Whether a year has a leap day. -/
def isLeapYear (year : Nat) : Bool := year % 4 == 0 && (year % 100 != 0 || year % 400 == 0)

/-- The number of days of a month. -/
def daysIn (year month : Nat) : Nat :=
  if month = 2 then if isLeapYear year then 29 else 28
  else if month = 4 ∨ month = 6 ∨ month = 9 ∨ month = 11 then 30 else 31

/-- A date. -/
def date : Scanner Unit := do
  let year ← fixedNumber 4 0 9999
  Scanner.char '-'
  let month ← fixedNumber 2 1 12
  Scanner.char '-'
  let _ ← fixedNumber 2 1 (daysIn year month)

/-- A time of day with an optional fraction of the second. -/
def time : Scanner Unit := do
  let _ ← fixedNumber 2 0 23
  Scanner.char ':'
  let _ ← fixedNumber 2 0 59
  Scanner.char ':'
  let _ ← fixedNumber 2 0 60
  let _ ← Scanner.maybe (do Scanner.char '.'; Scanner.run1 isDigit)

/-- The offset of a time from the universal one. -/
def offset : Scanner Unit :=
  (do let _ ← Scanner.satisfy fun c => c == 'Z' || c == 'z') <|> do
    let _ ← Scanner.satisfy fun c => c == '+' || c == '-'
    let _ ← fixedNumber 2 0 23
    Scanner.char ':'
    let _ ← fixedNumber 2 0 59

/-- A moment. -/
def moment : Scanner Unit :=
  (do
    date
    let _ ← Scanner.maybe do
      let _ ← Scanner.satisfy fun c => c == 'T' || c == 't' || c == ' '
      time
      Scanner.maybe offset) <|> time

end BitcodeCache.Toml
