import BitcodeCache.Bytes
import BitcodeCache.Text.Scanner

/-!
# Bytes as a list of numbers

The text form of a byte string in JSON documents: an array of numbers below 256. It is written
without blanks; when it is read, blanks may stand around each number, and nothing may follow the
array.
-/

namespace BitcodeCache.Text.ByteList

/-- Writes a byte string as an array of numbers. -/
def write (bytes : Bytes) : String :=
  "[" ++ ",".intercalate (bytes.map fun b => toString b.toNat) ++ "]"

/-- Blanks between the parts of the array. -/
def blanks : Scanner Unit := do
  let _ ← Scanner.run fun c => c == ' ' || c == '\n' || c == '\r' || c == '\t'

/-- A number below 256 without a leading zero. -/
def byte : Scanner UInt8 := do
  let digits ← Scanner.run1 isDigit
  if 3 < digits.length || (1 < digits.length && digits.head? == some '0') then failure
  else
    let n := ofDigits 10 (digits.map digitValue)
    if n < 256 then pure (UInt8.ofNat n) else failure

/-- The array, with blanks before and after it. -/
def array : Scanner Bytes := do
  blanks
  Scanner.char '['
  blanks
  let bytes ← Scanner.separated (do Scanner.char ','; blanks) (do let b ← byte; blanks; pure b)
  Scanner.char ']'
  blanks
  pure bytes

/-- Reads an array of numbers below 256. -/
def read? (text : String) : Option Bytes := array.readAll text

end BitcodeCache.Text.ByteList
