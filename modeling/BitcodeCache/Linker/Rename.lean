import BitcodeCache.Event
import BitcodeCache.Settings

/-!
# Renamed symbols

Wrapped and portable symbols give the linker rules that rename symbols. The rules make a map in the
order of the symbols' bytes, which is the order of texts (`Text.utf8_lt_iff`). Where two rules
rename one symbol the later one holds, and the map is built with a warning that names both.
-/

namespace BitcodeCache

/-- A rule that replaces a symbol. -/
structure Rename where
  symbol : String
  replacement : String
deriving DecidableEq, Repr

/-- The symbol that reaches what was there before a symbol was replaced. -/
def realSymbol (symbol : String) : String := "__real_" ++ symbol

/-- The rules of a wrapped symbol. -/
def Rename.ofWrapped (symbol : String) : List Rename :=
  [⟨symbol, "__wrap_" ++ symbol⟩, ⟨realSymbol symbol, symbol⟩]

/-- The rules of a portable symbol. -/
def Rename.ofPortable (symbol : String) : List Rename :=
  [⟨symbol, symbol ++ "_portable"⟩, ⟨realSymbol symbol, symbol⟩]

/-- All rules of the linker settings: those of wrapped symbols, then those of portable ones. -/
def LinkerSettings.renames (linker : LinkerSettings) : List Rename :=
  linker.wrap.flatMap Rename.ofWrapped ++ linker.portable.flatMap Rename.ofPortable

/-- One rule for each of some symbols, in the order of the symbols' bytes. -/
structure RenameMap where
  rules : List Rename
deriving DecidableEq, Repr

namespace RenameMap

/-- The map without rules. -/
def empty : RenameMap := ⟨[]⟩

/-- The replacement of a symbol. -/
def get? (map : RenameMap) (symbol : String) : Option String :=
  (map.rules.find? (·.symbol == symbol)).map (·.replacement)

/-- Puts a rule at its place among ordered rules, instead of one for the same symbol. -/
def place (rule : Rename) : List Rename → List Rename
  | [] => [rule]
  | r :: rules =>
    if r.symbol = rule.symbol then rule :: rules
    else if rule.symbol < r.symbol then rule :: r :: rules
    else r :: place rule rules

/-- Adds a rule; it replaces the one for the same symbol. -/
def insert (map : RenameMap) (rule : Rename) : RenameMap := ⟨place rule map.rules⟩

/-- The warning for a rule whose symbol has one already. -/
def warning? (map : RenameMap) (rule : Rename) : Option Event :=
  (map.get? rule.symbol).map fun previous =>
    .renamedTwice rule.symbol previous rule.replacement

/-- Adds rules in order, and gives the warnings. -/
def insertAll (map : RenameMap) : List Rename → RenameMap × List Event
  | [] => (map, [])
  | rule :: rules =>
    let rest := (map.insert rule).insertAll rules
    (rest.1, (map.warning? rule).toList ++ rest.2)

/-- The map of the linker settings. -/
def ofLinker (linker : LinkerSettings) : RenameMap := (empty.insertAll linker.renames).1

/-- The warnings of building the map of the linker settings. -/
def warnings (linker : LinkerSettings) : List Event := (empty.insertAll linker.renames).2

/-- The number of rules. -/
def size (map : RenameMap) : Nat := map.rules.length

/-- Whether there are no rules. -/
def isEmpty (map : RenameMap) : Bool := map.rules.isEmpty

end RenameMap

end BitcodeCache
