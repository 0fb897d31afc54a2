import Mathlib.Data.Finset.Card
import BitcodeCache.Proofs.Linker.Rename

/-!
# The last rule holds

Rules are added to a map one after another, and a rule takes the place of an earlier one for the same
symbol. So the map gives a symbol what its last rule says, and there is one warning for each rule that
is not the first for its symbol: every other rule makes the map longer by one.
-/

namespace BitcodeCache

namespace Rename

/-! ## Last rules -/

/-- The last of some rules for a symbol. -/
def last? (rules : List Rename) (symbol : String) : Option Rename :=
  rules.findRev? (·.symbol == symbol)

variable {rules : List Rename} {symbol : String}

/-- A later rule for a symbol comes before all earlier ones. -/
theorem last?_append (earlier later : List Rename) (symbol : String) :
    last? (earlier ++ later) symbol = (last? later symbol).or (last? earlier symbol) := by
  simp only [last?, List.findRev?_eq_find?_reverse, List.reverse_append, List.find?_append]

theorem last?_singleton (rule : Rename) (symbol : String) :
    last? [rule] symbol = if rule.symbol = symbol then some rule else none := by
  simp [last?, List.findRev?_eq_find?_reverse]

/-- The last rule for a symbol is one of the rules, and for that symbol. -/
theorem of_last?_eq_some {rule : Rename} (h : last? rules symbol = some rule) :
    rule ∈ rules ∧ rule.symbol = symbol := by
  rw [last?, List.findRev?_eq_find?_reverse] at h
  have named := List.find?_some h
  exact ⟨List.mem_reverse.1 (List.mem_of_find?_eq_some h), by simpa using named⟩

/-- Exactly the symbols of the rules have a last rule. -/
theorem last?_isSome_iff : (last? rules symbol).isSome ↔ symbol ∈ rules.map Rename.symbol := by
  rw [last?, List.findRev?_eq_find?_reverse, List.find?_isSome, List.mem_map]
  simp only [List.mem_reverse, beq_iff_eq]

/-- The warning for a rule behind some others, if one of them is for the same symbol: it names what the
closest of these says, and what the rule itself says. -/
def overwrite? (earlier : List Rename) (rule : Rename) : Option Event :=
  (last? earlier rule.symbol).map fun previous =>
    .renamedTwice rule.symbol previous.replacement rule.replacement

/-- The warnings for all rules, in the order of the rules. -/
def overwrites (rules : List Rename) : List Event :=
  (List.range rules.length).filterMap fun place =>
    rules[place]?.bind fun rule => overwrite? (rules.take place) rule

/-- A rule that is added last warns after all others. -/
theorem overwrites_concat (rules : List Rename) (rule : Rename) :
    overwrites (rules ++ [rule]) = overwrites rules ++ (overwrite? rules rule).toList := by
  have before (place : Nat) (inside : place ∈ List.range rules.length) :
      ((rules ++ [rule])[place]?.bind fun r => overwrite? ((rules ++ [rule]).take place) r) =
        rules[place]?.bind fun r => overwrite? (rules.take place) r := by
    have lt := List.mem_range.1 inside
    rw [List.getElem?_append_left lt, List.take_append_of_le_length (Nat.le_of_lt lt)]
  rw [overwrites, List.length_append, List.length_singleton, List.range_succ,
    List.filterMap_append, List.filterMap_congr before, ← overwrites]
  cases warned : overwrite? rules rule with
  | none => simp [warned]
  | some event => simp [warned]

/-- Every rule either is the first for its symbol or overwrites another. -/
theorem length_overwrites (rules : List Rename) :
    (overwrites rules).length + (rules.map Rename.symbol).toFinset.card = rules.length := by
  induction rules using List.reverseRecOn with
  | nil => rfl
  | append_singleton rules rule ih =>
    have symbols : ((rules ++ [rule]).map Rename.symbol).toFinset =
        insert rule.symbol (rules.map Rename.symbol).toFinset := by
      ext symbol
      simp
    rw [overwrites_concat, symbols, Finset.card_insert_eq_ite, List.length_append,
      List.length_append, List.length_singleton, Option.length_toList, overwrite?, Option.isSome_map]
    simp only [last?_isSome_iff, List.mem_toFinset]
    split <;> omega

end Rename

namespace RenameMap

open Rename

/-! ## Adding rules -/

/-- Inserting a rule changes the replacement of its own symbol only. -/
theorem get?_insert (map : RenameMap) (rule : Rename) (symbol : String) :
    (map.insert rule).get? symbol =
      if rule.symbol = symbol then some rule.replacement else map.get? symbol := by
  obtain ⟨rules⟩ := map
  simp only [get?, insert]
  fun_induction place rule rules with
  | case1 => by_cases own : rule.symbol = symbol <;> simp [own]
  | case2 r rules same => by_cases own : rule.symbol = symbol <;> simp [own, same]
  | case3 r rules other before => by_cases own : rule.symbol = symbol <;> simp [own]
  | case4 r rules other after ih =>
    by_cases found : r.symbol = symbol
    · have notOwn : ¬ rule.symbol = symbol := fun own => other (found.trans own.symm)
      simp [found, notOwn]
    · simpa [found] using ih

/-- Of some rules the last one is inserted into the map of the others, and warns about it. -/
theorem insertAll_concat (map : RenameMap) (rules : List Rename) (rule : Rename) :
    map.insertAll (rules ++ [rule]) = ((map.insertAll rules).1.insert rule,
      (map.insertAll rules).2 ++ ((map.insertAll rules).1.warning? rule).toList) := by
  induction rules generalizing map with
  | nil => simp [insertAll]
  | cons r rules ih => simp [insertAll, ih]

/-- A map of rules gives a symbol what its last rule says. -/
theorem get?_insertAll (rules : List Rename) (symbol : String) :
    (empty.insertAll rules).1.get? symbol = (last? rules symbol).map Rename.replacement := by
  induction rules using List.reverseRecOn with
  | nil => rfl
  | append_singleton rules rule ih =>
    rw [insertAll_concat, get?_insert, ih, last?_append, last?_singleton]
    split <;> rfl

/-- The warnings of adding rules tell of those that overwrite another. -/
theorem warnings_insertAll (rules : List Rename) :
    (empty.insertAll rules).2 = overwrites rules := by
  induction rules using List.reverseRecOn with
  | nil => rfl
  | append_singleton rules rule ih =>
    rw [insertAll_concat, overwrites_concat, ih, warning?, get?_insertAll, Option.map_map, overwrite?]
    rfl

/-! ## The map of the linker settings -/

/-- The map holds exactly the last rule for each symbol. -/
theorem mem_rules_insertAll_iff {rules : List Rename} {rule : Rename} :
    rule ∈ (empty.insertAll rules).1.rules ↔ last? rules rule.symbol = some rule := by
  obtain ⟨symbol, replacement⟩ := rule
  rw [← (ordered_insertAll rules).get?_eq_some_iff, get?_insertAll, Option.map_eq_some_iff]
  constructor
  · rintro ⟨last, found, rfl⟩
    obtain ⟨_, rfl⟩ := of_last?_eq_some found
    exact found
  · intro found
    exact ⟨_, found, rfl⟩

/-- The map has the symbols of the rules and no others. -/
theorem mem_symbols_insertAll_iff {rules : List Rename} {symbol : String} :
    symbol ∈ (empty.insertAll rules).1.rules.map Rename.symbol ↔
      symbol ∈ rules.map Rename.symbol := by
  rw [← @last?_isSome_iff rules, Option.isSome_iff_exists, List.mem_map]
  constructor
  · rintro ⟨rule, listed, rfl⟩
    exact ⟨rule, mem_rules_insertAll_iff.1 listed⟩
  · rintro ⟨rule, found⟩
    obtain ⟨_, rfl⟩ := of_last?_eq_some found
    exact ⟨rule, mem_rules_insertAll_iff.2 found, rfl⟩

/-- The map counts each symbol of the rules once. -/
theorem size_insertAll (rules : List Rename) :
    (empty.insertAll rules).1.size = (rules.map Rename.symbol).toFinset.card := by
  have symbols : (rules.map Rename.symbol).toFinset =
      ((empty.insertAll rules).1.rules.map Rename.symbol).toFinset := by
    ext symbol
    rw [List.mem_toFinset, List.mem_toFinset, mem_symbols_insertAll_iff]
  rw [symbols, List.toFinset_card_of_nodup (ordered_insertAll rules).nodup, List.length_map, size]

end RenameMap

/-- Every listed symbol has two rules. -/
theorem LinkerSettings.length_renames (linker : LinkerSettings) :
    linker.renames.length = 2 * (linker.wrap.length + linker.portable.length) := by
  have two (rules : String → List Rename) (each : ∀ symbol, (rules symbol).length = 2)
      (symbols : List String) : (symbols.flatMap rules).length = 2 * symbols.length := by
    rw [List.length_flatMap, List.map_congr_left fun symbol _ => each symbol, List.map_const',
      List.sum_replicate_nat, Nat.mul_comm]
  rw [renames, List.length_append, two Rename.ofWrapped fun _ => rfl,
    two Rename.ofPortable fun _ => rfl]
  omega

open Rename in
/-- The rules of the linker settings are two for each wrapped symbol and then two for each portable
one. The map gives a symbol what its last rule says; it lists these last rules, one for each symbol, in
the order of the symbols' bytes. The warnings are one for each rule behind another for the same symbol,
in the order of the rules, so rules and symbols differ by their number. -/
theorem RenameMap.ofLinker_lists_last (linker : LinkerSettings) :
    let rules : List Rename :=
      linker.wrap.flatMap (fun w => [⟨w, "__wrap_" ++ w⟩, ⟨"__real_" ++ w, w⟩]) ++
        linker.portable.flatMap (fun p => [⟨p, p ++ "_portable"⟩, ⟨"__real_" ++ p, p⟩])
    let map := ofLinker linker
    (∀ symbol, map.get? symbol = (last? rules symbol).map Rename.replacement) ∧
    (∀ rule, rule ∈ map.rules ↔ last? rules rule.symbol = some rule) ∧
    (map.rules.Pairwise fun r r' => Text.utf8 r.symbol < Text.utf8 r'.symbol) ∧
    (∀ symbol ∈ rules.map Rename.symbol, (map.rules.map Rename.symbol).count symbol = 1) ∧
    map.size = (rules.map Rename.symbol).toFinset.card ∧
    warnings linker = overwrites rules ∧
    (warnings linker).length + map.size = 2 * (linker.wrap.length + linker.portable.length) := by
  intro rules map
  have ordered : map.Ordered := ordered_ofLinker linker
  have size : map.size = (rules.map Rename.symbol).toFinset.card := size_insertAll rules
  have warned : warnings linker = overwrites rules := warnings_insertAll rules
  refine ⟨get?_insertAll rules, fun _ => mem_rules_insertAll_iff, ?_, ?_, size, warned, ?_⟩
  · exact ordered.imp fun lt => Text.utf8_lt_iff.2 lt
  · intro symbol named
    exact List.count_eq_one_of_mem ordered.nodup (mem_symbols_insertAll_iff.2 named)
  · rw [warned, size, length_overwrites]
    exact linker.length_renames

/-- A symbol of both lists, in one of them beside its real form. -/
example : RenameMap.warnings { wrap := ["f"], portable := ["__real_f", "f"] } =
    [.renamedTwice "__real_f" "f" "__real_f_portable", .renamedTwice "f" "__wrap_f" "f_portable",
      .renamedTwice "__real_f" "__real_f_portable" "f"] := by
  decide +kernel

end BitcodeCache
