/-!
# TOML values

A document is a table of values. Tables remember how they came about, since that decides what may
still be added to them: a table that a header merely passed through may get a header of its own, a
table made by a dotted key may get more dotted keys, and a table written between braces is closed.
-/

namespace BitcodeCache.Toml

/-- How a table came about: between braces, under its own header, on the way to another header, or
by a dotted key. -/
inductive TableKind where
  | inline
  | header
  | implied
  | dotted
deriving DecidableEq, Repr

/-- A value of a document. Floats and moments keep their text. `tables` is a list of tables that
were written under repeated headers. -/
inductive Value where
  | string (text : String)
  | integer (n : Int)
  | float (text : String)
  | boolean (b : Bool)
  | moment (text : String)
  | array (items : List Value)
  | table (kind : TableKind) (entries : List (String × Value))
  | tables (elements : List (List (String × Value)))
deriving Inhabited, Repr

/-- The keys of a table with their values. -/
abbrev Entries := List (String × Value)

namespace Entries

/-- Sets the value of a key: in its place if there is one, at the end if not. -/
def put (entries : Entries) (key : String) (value : Value) : Entries :=
  if entries.any (·.1 == key) then
    entries.map fun entry => if entry.1 == key then (key, value) else entry
  else entries ++ [(key, value)]

/-- Adds a new key; a key that is there already is refused. -/
def add (entries : Entries) (key : String) (value : Value) : Option Entries :=
  if entries.any (·.1 == key) then none else some (entries ++ [(key, value)])

/-- Changes the last of a list of tables. -/
def changeLast (change : Entries → Option Entries) (elements : List Entries) :
    Option (List Entries) := do
  let last ← elements.getLast?
  let changed ← change last
  pure (elements.dropLast ++ [changed])

/-- Changes the table at the end of a header's path. Missing tables on the way are implied, and a
list of tables is entered at its last. -/
def changeAt (change : Entries → Option Entries) : List String → Entries → Option Entries
  | [], entries => change entries
  | key :: path, entries =>
    match entries.lookup key with
    | none => do
      let inner ← changeAt change path []
      pure (entries.put key (.table .implied inner))
    | some (.table .inline _) => none
    | some (.table kind inner) => do
      let inner ← changeAt change path inner
      pure (entries.put key (.table kind inner))
    | some (.tables elements) => do
      let elements ← changeLast (changeAt change path) elements
      pure (entries.put key (.tables elements))
    | some _ => none

/-- Gives a table of its own to the last key of a header: a new one, or one that was implied. -/
def openTable (key : String) (entries : Entries) : Option Entries :=
  match entries.lookup key with
  | none => entries.add key (.table .header [])
  | some (.table .implied inner) => some (entries.put key (.table .header inner))
  | some _ => none

/-- Adds an element to the list of tables at the last key of a repeated header. -/
def openElement (key : String) (entries : Entries) : Option Entries :=
  match entries.lookup key with
  | none => entries.add key (.tables [[]])
  | some (.tables elements) => some (entries.put key (.tables (elements ++ [[]])))
  | some _ => none

/-- Adds a value under a dotted key. On the way only tables without a header of their own are
entered, and lists of tables at their last; the table that takes the value must have been made by
dotted keys, unless the key has one part. `mayEnd` tells whether the table at hand may take it. -/
def assign (key : String) (value : Value) : List String → Bool → Entries → Option Entries
  | [], mayEnd, entries => if mayEnd then entries.add key value else none
  | part :: path, _, entries =>
    match entries.lookup part with
    | none => do
      let inner ← assign key value path true []
      entries.add part (.table .dotted inner)
    | some (.table .dotted inner) => do
      let inner ← assign key value path true inner
      pure (entries.put part (.table .dotted inner))
    | some (.table .implied inner) => do
      let inner ← assign key value path false inner
      pure (entries.put part (.table .implied inner))
    | some (.tables elements) => do
      let elements ← changeLast (assign key value path false) elements
      pure (entries.put part (.tables elements))
    | some _ => none

end Entries

end BitcodeCache.Toml
