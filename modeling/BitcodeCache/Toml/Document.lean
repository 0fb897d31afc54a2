import BitcodeCache.Toml.Moment
import BitcodeCache.Toml.Number
import BitcodeCache.Toml.Quote
import BitcodeCache.Toml.Value

/-!
# TOML documents

A document is a list of statements, one a line: headers that open a table, and keys with values.
`Statement.readAll` gives the statements of a text and `build` the table they make together;
`parse?` is one after the other.
-/

namespace BitcodeCache.Toml

open BitcodeCache.Text

/-! ## Keys -/

/-- Whether a character may stand in a key without quotes. -/
def isBareKeyChar (c : Char) : Bool := c.isAlphanum || c == '-' || c == '_'

/-- One part of a key. -/
def simpleKey : Scanner String :=
  basicString <|> literalString <|> (String.ofList <$> Scanner.run1 isBareKeyChar)

/-- The largest number of parts of a key. -/
def maxKeyParts : Nat := 79

/-- A key of one or more parts with dots between them, and blanks around each. -/
def key : Scanner (List String) := do
  let parts ← Scanner.separated1 (Scanner.char '.') (do blanks; let k ← simpleKey; blanks; pure k)
  if parts.length ≤ maxKeyParts then pure parts else failure

/-! ## Values -/

/-- The largest number of arrays and tables around a value. -/
def maxDepth : Nat := 79

/-- A key in parts and its value. -/
structure Assignment where
  path : List String
  key : String
  value : Value

/-- Splits the parts of a key into the way and the last. -/
def Assignment.of? (parts : List String) (value : Value) : Option Assignment :=
  parts.getLast?.map fun last => ⟨parts.dropLast, last, value⟩

/-- Adds a key with its value to a table. -/
def Assignment.addTo (a : Assignment) (entries : Entries) : Option Entries :=
  entries.assign a.key a.value a.path true

/-- The text that a scanner takes. -/
def textOf (scanner : Scanner Unit) : Scanner String := fun input =>
  (scanner input).map fun (_, rest) =>
    (String.ofList (input.take (input.length - rest.length)), rest)

/-- A value without parts. -/
def scalar : Scanner Value :=
  (.string <$> string) <|> (do Scanner.word "true"; pure (.boolean true)) <|>
    (do Scanner.word "false"; pure (.boolean false)) <|> (.moment <$> textOf moment) <|>
    (.float <$> textOf float) <|> (.integer <$> integer)

/-- An array of values; line ends and comments may stand between them, and a comma after the
last. -/
def arrayOf (value : Scanner Value) : Scanner Value := do
  Scanner.char '['
  gap
  let items ← Scanner.maybe do
    let items ← Scanner.separated1 (do Scanner.char ','; gap) (do let v ← value; gap; pure v)
    let _ ← Scanner.maybe (do Scanner.char ','; gap)
    pure items
  Scanner.char ']'
  pure (.array (items.getD []))

/-- A key, an equals sign and a value. -/
def assignment (value : Scanner Value) : Scanner Assignment := do
  let parts ← key
  Scanner.char '='
  blanks
  let v ← value
  match Assignment.of? parts v with
  | some a => pure a
  | none => failure

/-- A table between braces, on one line and without a comma after the last value. -/
def inlineTable (value : Scanner Value) : Scanner Value := do
  Scanner.char '\x7b'
  blanks
  let assignments ← Scanner.separated (Scanner.char ',')
    (do let a ← assignment value; blanks; pure a)
  Scanner.char '\x7d'
  match assignments.foldlM (fun entries a => a.addTo entries) [] with
  | some entries => pure (.table .inline entries)
  | none => failure

/-- A value with at most `depth` arrays and tables around each other. -/
def value : (depth : Nat) → Scanner Value
  | 0 => scalar
  | depth + 1 => scalar <|> arrayOf (value depth) <|> inlineTable (value depth)

/-! ## Statements -/

/-- A line of a document: the header of a table, the repeated header of an element of a list of
tables, or a key with a value. -/
inductive Statement where
  | table (path : List String)
  | element (path : List String)
  | assign (a : Assignment)

/-- A statement with the rest of its line. -/
def statement : Scanner Statement :=
  (do
    Scanner.word "[["
    let path ← key
    Scanner.word "]]"
    lineRest
    pure (.element path)) <|>
  (do
    Scanner.char '['
    let path ← key
    Scanner.char ']'
    lineRest
    pure (.table path)) <|>
  (do
    let a ← assignment (value maxDepth)
    lineRest
    pure (.assign a))

/-- A line without a statement, at least a comment or a line end. -/
def idleLine : Scanner Unit :=
  newline <|> (do comment; newline <|> Scanner.atEnd)

/-- All statements of a document, after an optional byte order mark. -/
def statements : Scanner (List Statement) := do
  let _ ← Scanner.maybe (Scanner.char '\uFEFF')
  blanks
  let lines ← Scanner.many
    ((do idleLine; blanks; pure none) <|> (do let s ← statement; blanks; pure (some s)))
  pure (lines.filterMap id)

/-! ## The table of a document -/

/-- A document while its statements are taken in: the table so far and the way to the table that
the last header opened. -/
structure Draft where
  entries : Entries := []
  current : List String := []

/-- Opens something at the last part of a header's path. -/
def Draft.openAt (draft : Draft) (how : String → Entries → Option Entries) (path : List String) :
    Option Draft := do
  let last ← path.getLast?
  let entries ← draft.entries.changeAt (how last) path.dropLast
  pure ⟨entries, path⟩

/-- Takes in one statement. -/
def Draft.take (draft : Draft) : Statement → Option Draft
  | .table path => draft.openAt Entries.openTable path
  | .element path => draft.openAt Entries.openElement path
  | .assign a => do
    let entries ← draft.entries.changeAt a.addTo draft.current
    pure { draft with entries }

/-- The table that statements make together. -/
def build (statements : List Statement) : Option Entries := do
  let draft ← statements.foldlM Draft.take {}
  pure draft.entries

/-- The table of a document. -/
def parse? (text : String) : Option Value := do
  let statements ← statements.readAll text
  let entries ← build statements
  pure (.table .header entries)

end BitcodeCache.Toml
