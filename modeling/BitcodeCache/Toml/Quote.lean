import BitcodeCache.Toml.Blank

/-!
# Strings of TOML

Basic strings stand between double quotes and know escapes; literal strings stand between single
quotes and know none. Either may be tripled to span lines; then a line end right after the opening
quotes is dropped, and one or two quotes may stand in the text.
-/

namespace BitcodeCache.Toml

open BitcodeCache.Text

/-- The character with a code point; surrogates and numbers past the last plane name none. -/
def charOfCode? (n : Nat) : Option Char :=
  if h : n.isValidChar then some (Char.ofNatAux n h) else none

/-- A character named by exactly `n` hexadecimal digits. -/
def codePoint (n : Nat) : Scanner Char := do
  let digits ← Scanner.exactly n (Scanner.satisfy isHexDigit)
  match charOfCode? (ofDigits 16 (digits.map digitValue)) with
  | some c => pure c
  | none => failure

/-- The character that an escape stands for, after its backslash. -/
def escapedChar : Scanner Char := do
  match ← Scanner.satisfy fun _ => true with
  | 'b' => pure '\x08'
  | 't' => pure '\t'
  | 'n' => pure '\n'
  | 'f' => pure '\x0c'
  | 'r' => pure '\r'
  | '"' => pure '"'
  | '\\' => pure '\\'
  | 'u' => codePoint 4
  | 'U' => codePoint 8
  | _ => failure

/-- An escape. -/
def escape : Scanner Char := do
  Scanner.char '\\'
  escapedChar

/-- Whether a character stands for itself between quotes of the given sort. -/
def isInside (quote : Char) (c : Char) : Bool :=
  isPlain c && c != quote && (quote != '"' || c != '\\')

/-- A basic string on one line. -/
def basicString : Scanner String := do
  Scanner.char '"'
  let pieces ← Scanner.many (Scanner.run1 (isInside '"') <|> do let c ← escape; pure [c])
  Scanner.char '"'
  pure (String.ofList pieces.flatten)

/-- A literal string on one line. -/
def literalString : Scanner String := do
  Scanner.char '\''
  let cs ← Scanner.run (isInside '\'')
  Scanner.char '\''
  pure (String.ofList cs)

/-! ## Strings over several lines -/

/-- The three quotes around a string over several lines. -/
def tripled (quote : Char) : Scanner Unit := Scanner.chars [quote, quote, quote]

/-- One or two quotes before what `next` wants. -/
def fewQuotes (quote : Char) (next : Scanner Unit) : Scanner (List Char) :=
  (do Scanner.chars [quote, quote]; next; pure [quote, quote]) <|>
    (do Scanner.char quote; next; pure [quote])

/-- A backslash at the end of a line, with all blanks and line ends after it. -/
def joinedLine : Scanner (List Char) := do
  Scanner.char '\\'
  blanks
  newline
  let _ ← Scanner.many ((do let _ ← Scanner.satisfy isBlank) <|> newline)
  pure []

/-- A piece of the text between tripled quotes. A line end is one line feed. -/
def longPiece (quote : Char) : Scanner (List Char) :=
  Scanner.run1 (isInside quote) <|> (do newline; pure ['\n']) <|>
    (if quote = '"' then (do let c ← escape; pure [c]) <|> joinedLine else failure) <|>
    fewQuotes quote (Scanner.unlessNext quote)

/-- A string between tripled quotes. -/
def longString (quote : Char) : Scanner String := do
  tripled quote
  let _ ← Scanner.maybe newline
  let pieces ← Scanner.many (longPiece quote)
  let last ← Scanner.maybe (fewQuotes quote (Scanner.ahead (tripled quote)))
  tripled quote
  pure (String.ofList (pieces.flatten ++ last.getD []))

/-- A string of any of the four forms. -/
def string : Scanner String :=
  longString '"' <|> basicString <|> longString '\'' <|> literalString

end BitcodeCache.Toml
