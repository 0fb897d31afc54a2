import Mathlib.Data.List.Nodup
import BitcodeCache.Linker.Rename

/-!
# The map of renamed symbols

The rules of a map stand in strict order, so a map is settled by the replacements that it gives.
-/

namespace BitcodeCache.RenameMap

/-- The rules stand in the order of their symbols, with one for each symbol. -/
def Ordered (map : RenameMap) : Prop := map.rules.Pairwise fun r r' => r.symbol < r'.symbol

/-! ## Every map is in order -/

/-- Placing a rule brings no other rule with it. -/
theorem mem_place {rule r : Rename} {rules : List Rename} (h : r ∈ place rule rules) :
    r = rule ∨ r ∈ rules := by
  fun_induction place rule rules with
  | case1 => exact .inl (List.mem_singleton.1 h)
  | case2 r' rules same =>
    rcases List.mem_cons.1 h with rfl | later
    · exact .inl rfl
    · exact .inr (List.mem_cons_of_mem _ later)
  | case3 r' rules other before => exact List.mem_cons.1 h
  | case4 r' rules other after ih =>
    rcases List.mem_cons.1 h with rfl | later
    · exact .inr List.mem_cons_self
    · exact (ih later).imp_right (List.mem_cons_of_mem _)

/-- Placing a rule keeps the rules in the order of their symbols. -/
theorem pairwise_place (rule : Rename) {rules : List Rename}
    (h : rules.Pairwise fun r r' => r.symbol < r'.symbol) :
    (place rule rules).Pairwise fun r r' => r.symbol < r'.symbol := by
  fun_induction place rule rules with
  | case1 => exact List.pairwise_singleton _ _
  | case2 r rules same =>
    obtain ⟨first, rest⟩ := List.pairwise_cons.1 h
    refine List.pairwise_cons.2 ⟨fun r' member => ?_, rest⟩
    rw [← same]
    exact first r' member
  | case3 r rules other before =>
    refine List.pairwise_cons.2 ⟨fun r' member => ?_, h⟩
    rcases List.mem_cons.1 member with rfl | later
    · exact before
    · exact String.lt_trans before ((List.pairwise_cons.1 h).1 r' later)
  | case4 r rules other after ih =>
    obtain ⟨first, rest⟩ := List.pairwise_cons.1 h
    refine List.pairwise_cons.2 ⟨fun r' member => ?_, ih rest⟩
    rcases mem_place member with rfl | old
    · -- two symbols that are neither equal nor in this order stand in the other one
      apply String.not_le.1
      intro reverse
      exact other (String.le_antisymm (String.not_lt.1 after) reverse)
    · exact first r' old

/-- Inserting a rule keeps the order. -/
theorem Ordered.insert {map : RenameMap} (h : map.Ordered) (rule : Rename) :
    (map.insert rule).Ordered := pairwise_place rule h

theorem Ordered.insertAll {map : RenameMap} (h : map.Ordered) (rules : List Rename) :
    (map.insertAll rules).1.Ordered := by
  induction rules generalizing map with
  | nil => exact h
  | cons rule rules ih => exact ih (h.insert rule)

theorem ordered_insertAll (rules : List Rename) : (empty.insertAll rules).1.Ordered :=
  Ordered.insertAll List.Pairwise.nil rules

/-- The map of the linker settings is in order. -/
theorem ordered_ofLinker (linker : LinkerSettings) : (ofLinker linker).Ordered :=
  ordered_insertAll linker.renames

/-! ## Maps with the same replacements -/

/-- A map in order has each symbol once. -/
theorem Ordered.nodup {map : RenameMap} (h : map.Ordered) : (map.rules.map Rename.symbol).Nodup := by
  apply List.pairwise_map.2
  apply h.imp
  intro r r' lt same
  rw [same] at lt
  exact String.lt_irrefl _ lt

/-- In a map in order a symbol has the replacement that its rule says. -/
theorem Ordered.get?_eq_some_iff {map : RenameMap} (h : map.Ordered) {symbol replacement : String} :
    map.get? symbol = some replacement ↔ ⟨symbol, replacement⟩ ∈ map.rules := by
  rw [get?, Option.map_eq_some_iff]
  constructor
  · rintro ⟨r, found, rfl⟩
    obtain rfl : r.symbol = symbol := by simpa using List.find?_some found
    exact List.mem_of_find?_eq_some found
  · intro member
    obtain ⟨r, found⟩ : ∃ r, map.rules.find? (·.symbol == symbol) = some r := by
      rw [← Option.isSome_iff_exists, List.find?_isSome]
      exact ⟨_, member, by simp⟩
    have named : r.symbol = symbol := by simpa using List.find?_some found
    rw [List.inj_on_of_nodup_map h.nodup (List.mem_of_find?_eq_some found) member named] at found
    exact ⟨_, found, rfl⟩

/-- Maps in order with the same replacements are the same map. -/
theorem Ordered.ext {map other : RenameMap} (h : map.Ordered) (h' : other.Ordered)
    (same : ∀ symbol, map.get? symbol = other.get? symbol) : map = other := by
  have perm : map.rules.Perm other.rules := by
    rw [List.perm_ext_iff_of_nodup h.nodup.of_map h'.nodup.of_map]
    rintro ⟨symbol, replacement⟩
    rw [← h.get?_eq_some_iff, ← h'.get?_eq_some_iff, same]
  have rules : map.rules = other.rules :=
    perm.eq_of_pairwise (fun _ _ _ _ lt gt => absurd gt (String.lt_asymm lt)) h h'
  cases map
  cases other
  exact congrArg RenameMap.mk rules

end BitcodeCache.RenameMap
