import BitcodeCache.Text.Numeral

/-!
# JSON reports

JSON values and their layout over several lines: each member on a line of its own, two blanks
deeper than what holds it, and nothing inside an empty array or object. Members are written in the
order they are given.
-/

namespace BitcodeCache.Text

/-- A JSON value of a report. -/
inductive Json where
  | string (text : String)
  | number (n : Int)
  | array (items : List Json)
  | object (members : List (String × Json))

namespace Json

/-- A character inside a JSON string. Only quotes, backslashes and controls are escaped. -/
def escapeChar (c : Char) : List Char :=
  if c = '"' then ['\\', '"']
  else if c = '\\' then ['\\', '\\']
  else if c = '\x08' then ['\\', 'b']
  else if c = '\x0c' then ['\\', 'f']
  else if c = '\n' then ['\\', 'n']
  else if c = '\r' then ['\\', 'r']
  else if c = '\t' then ['\\', 't']
  else if c.toNat < 0x20 then ['\\', 'u'] ++ padLeft '0' 4 (hexDigits c.toNat)
  else [c]

/-- A JSON string. -/
def quote (text : String) : String :=
  String.ofList ('"' :: text.toList.flatMap escapeChar ++ ['"'])

/-- The start of a line at a depth. -/
def indent (depth : Nat) : String := "\n" ++ String.ofList (List.replicate (2 * depth) ' ')

/-- Lines between two brackets, at the depth of the brackets. -/
def enclose (opening closing : String) (depth : Nat) (lines : List String) : String :=
  if lines.isEmpty then opening ++ closing
  else
    opening ++ ",".intercalate (lines.map fun line => indent (depth + 1) ++ line) ++
      indent depth ++ closing

mutual

/-- The layout of a value at a depth. -/
def render (depth : Nat) : Json → String
  | .string text => quote text
  | .number n => toString n
  | .array items => enclose "[" "]" depth (renderItems (depth + 1) items)
  | .object members => enclose "\x7b" "\x7d" depth (renderMembers (depth + 1) members)

/-- The layouts of the items of an array. -/
def renderItems (depth : Nat) : List Json → List String
  | [] => []
  | item :: items => render depth item :: renderItems depth items

/-- The layouts of the members of an object. -/
def renderMembers (depth : Nat) : List (String × Json) → List String
  | [] => []
  | (key, value) :: members =>
    (quote key ++ ": " ++ render depth value) :: renderMembers depth members

end

/-- The layout of a whole document. -/
def pretty (value : Json) : String := render 0 value

end Json

end BitcodeCache.Text
