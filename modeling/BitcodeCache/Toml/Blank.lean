import BitcodeCache.Text.Scanner

/-!
# Blanks, comments and line ends of TOML

Blanks are spaces and tabs. A comment runs from its mark to the end of the line and holds no
controls. A line ends with a line feed, alone or after a carriage return.
-/

namespace BitcodeCache.Toml

open BitcodeCache.Text

/-- Whether a character is a blank. -/
def isBlank (c : Char) : Bool := c == ' ' || c == '\t'

/-- Whether a character may stand in comments and strings: the tab, the space and printing ASCII,
and everything after ASCII. -/
def isPlain (c : Char) : Bool :=
  c == '\t' || (0x20 ≤ c.toNat && c.toNat ≤ 0x7E) || 0x80 ≤ c.toNat

/-- Blanks, possibly none. -/
def blanks : Scanner Unit := do let _ ← Scanner.run isBlank

/-- A line end. -/
def newline : Scanner Unit := Scanner.char '\n' <|> Scanner.word "\r\n"

/-- A comment up to the end of its line. -/
def comment : Scanner Unit := do
  Scanner.char '#'
  let _ ← Scanner.run isPlain

/-- The rest of a line: blanks, a comment, and a line end or the end of the document. -/
def lineRest : Scanner Unit := do
  blanks
  let _ ← Scanner.maybe comment
  newline <|> Scanner.atEnd

/-- A line end after a comment or without one. -/
def commentedNewline : Scanner Unit := do
  let _ ← Scanner.maybe comment
  newline

/-- Blanks, line ends and comments, possibly none. -/
def gap : Scanner Unit := do
  blanks
  let _ ← Scanner.many (do commentedNewline; blanks)

end BitcodeCache.Toml
