import BitcodeCache.Text.Quoted

/-!
# Numerals

The layouts of numbers in messages and reports: hexadecimal with its marker and padded with zeros,
decimal with a sign on every number, and padding with blanks on the left.
-/

namespace BitcodeCache.Text

/-- A text of at least `width` characters, filled up on the left. -/
def padLeft (fill : Char) (width : Nat) (text : List Char) : List Char :=
  List.replicate (width - text.length) fill ++ text

/-- A number in hexadecimal after `0x`, with zeros up to `width` characters in all. -/
def hexadecimal (width n : Nat) : String :=
  String.ofList ('0' :: 'x' :: padLeft '0' (width - 2) (hexDigits n))

/-- A number in decimal, with blanks on the left up to `width` characters. -/
def rightAligned (width n : Nat) : String :=
  String.ofList (padLeft ' ' width (Nat.toDigits 10 n))

/-- A number in decimal that shows its sign even when it is not negative. -/
def signed (n : Int) : String := if n < 0 then toString n else "+" ++ toString n

end BitcodeCache.Text
