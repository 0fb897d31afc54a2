import BitcodeCache.Bytes
import BitcodeCache.Entry.Error

/-!
# Compiled artifacts

Machine code with the tables that are needed to map and run it. A compiler makes an artifact, or an
entry is decoded to one. `Artifact.validate` holds where every table points inside the code.
-/

namespace BitcodeCache

/-- Whether a symbol names code or data. -/
inductive SymbolKind where
  | function
  | variable
deriving DecidableEq, Repr

namespace SymbolKind

/-- The number that stands for a kind in an entry. -/
def tag : SymbolKind → UInt32
  | .function => 0
  | .variable => 1

/-- The kind a number stands for. -/
def ofTag? (tag : UInt32) : Option SymbolKind :=
  if tag = 0 then some .function else if tag = 1 then some .variable else none

@[simp] theorem ofTag?_tag (kind : SymbolKind) : ofTag? kind.tag = some kind := by
  cases kind <;> rfl

end SymbolKind

/-- An exported name and its place in the code. -/
structure ExportedSymbol where
  name : String
  kind : SymbolKind
  offset : UInt64
deriving DecidableEq, Repr

/-- A place in the code that the loader patches with the address of a symbol. -/
structure Relocation where
  offset : UInt64
  kind : UInt32
  symbol : String
  addend : Int64
deriving DecidableEq

/-- The extent of a function in the code. -/
structure FunctionRange where
  name : String
  offset : UInt64
  length : UInt64
deriving DecidableEq, Repr

/-- The offset after the last byte of a function. -/
def FunctionRange.stop (f : FunctionRange) : Nat := f.offset.toNat + f.length.toNat

/-- A key and a value that the front end recorded. -/
structure Pragma where
  key : String
  value : String
deriving DecidableEq, Repr

/-- Machine code with its tables. -/
structure Artifact where
  code : Bytes := []
  symbols : List ExportedSymbol := []
  relocations : List Relocation := []
  functions : List FunctionRange := []
  pragmas : List Pragma := []
deriving DecidableEq

namespace Artifact

/-- The offset of the first symbol with a name. -/
def lookup? (a : Artifact) (name : String) : Option UInt64 :=
  (a.symbols.find? (·.name == name)).map (·.offset)

/-- The exported variables. -/
def exportedVariables (a : Artifact) : List ExportedSymbol :=
  a.symbols.filter (·.kind == .variable)

/-- The exported functions. -/
def exportedFunctions (a : Artifact) : List ExportedSymbol :=
  a.symbols.filter (·.kind == .function)

/-- The names of all functions. -/
def functionNames (a : Artifact) : List String := a.functions.map (·.name)

/-- The machine code of the first function with a name, if it lies inside the code. -/
def functionCode? (a : Artifact) (name : String) : Option Bytes :=
  (a.functions.find? (·.name == name)).bind fun f =>
    if f.stop ≤ a.code.length then some ((a.code.drop f.offset.toNat).take f.length.toNat)
    else none

/-! ## Tables that point outside the code -/

/-- The largest offset that a fault can name. -/
def lastOffset : Nat := UInt64.size - 1

/-- The fault of a symbol after the end of the code. -/
def symbolFault? (limit : Nat) (s : ExportedSymbol) : Option DecodeError :=
  if s.offset.toNat ≤ limit then none else some (.badOffset .symbols s.offset.toNat limit)

/-- The fault of a relocation at or after the end of the code. -/
def relocationFault? (limit : Nat) (r : Relocation) : Option DecodeError :=
  if r.offset.toNat < limit then none else some (.badOffset .relocations r.offset.toNat limit)

/-- The fault of a function that goes past the end of the code. -/
def functionFault? (limit : Nat) (f : FunctionRange) : Option DecodeError :=
  if f.stop ≤ limit then none else some (.badOffset .functions (min f.stop lastOffset) limit)

/-- The first fault, looking through symbols, relocations and functions in this order. -/
def fault? (a : Artifact) : Option DecodeError :=
  a.symbols.findSome? (symbolFault? a.code.length) <|>
    a.relocations.findSome? (relocationFault? a.code.length) <|>
    a.functions.findSome? (functionFault? a.code.length)

/-- Accepts an artifact whose tables all point inside its code. -/
def validate (a : Artifact) : Except DecodeError Unit :=
  match a.fault? with
  | none => .ok ()
  | some fault => .error fault

end Artifact

end BitcodeCache
