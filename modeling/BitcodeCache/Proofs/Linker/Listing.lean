import BitcodeCache.Proofs.Linker.LastRule
import BitcodeCache.Proofs.Settings.Signature

/-!
# How symbols are listed

Wrapped and portable symbols are lists, but only which symbols they have counts, as long as no list has
a symbol beside its real form: then all rules that a list gives for one symbol say the same, and it does
not matter which of them is the last. Where a list has both, two of its rules differ and their order
decides.
-/

namespace BitcodeCache

/-- No symbol is listed beside its real form. -/
def Separated (symbols : List String) : Prop := ∀ symbol ∈ symbols, realSymbol symbol ∉ symbols

instance (symbols : List String) : Decidable (Separated symbols) :=
  inferInstanceAs (Decidable (∀ symbol ∈ symbols, realSymbol symbol ∉ symbols))

theorem realSymbol_injective : Function.Injective realSymbol :=
  fun _ _ same => (String.append_right_inj "__real_").1 same

namespace Rename

/-! ## One list -/

variable {renamed : String → String} {symbols : List String}

/-- The rules of a symbol that gets another name. -/
def ofListed (renamed : String → String) (symbol : String) : List Rename :=
  [⟨symbol, renamed symbol⟩, ⟨realSymbol symbol, symbol⟩]

theorem ofWrapped_eq : ofWrapped = ofListed ("__wrap_" ++ ·) := rfl

theorem ofPortable_eq : ofPortable = ofListed (· ++ "_portable") := rfl

/-- What the symbols of a list are replaced by: a listed symbol by its other name, and the real form of
a listed symbol by the symbol. -/
def redirect? (renamed : String → String) (symbols : List String) (symbol : String) :
    Option String :=
  if symbol ∈ symbols then some (renamed symbol) else symbols.find? (realSymbol · = symbol)

/-- The search for a real symbol finds the listed one that it is the real form of. -/
theorem find?_real_eq_some_iff {symbol listed : String} :
    symbols.find? (realSymbol · = symbol) = some listed ↔
      listed ∈ symbols ∧ realSymbol listed = symbol := by
  constructor
  · intro found
    have real := List.find?_some found
    exact ⟨List.mem_of_find?_eq_some found, of_decide_eq_true real⟩
  · rintro ⟨member, rfl⟩
    cases found : symbols.find? (realSymbol · = realSymbol listed) with
    | none => exact absurd (List.find?_eq_none.1 found listed member) (by simp)
    | some other =>
      have real := List.find?_some found
      rw [realSymbol_injective (of_decide_eq_true real)]

/-- Only which symbols are listed counts. -/
theorem redirect?_congr {other : List String} (same : ∀ symbol, symbol ∈ other ↔ symbol ∈ symbols) :
    redirect? renamed other = redirect? renamed symbols := by
  funext symbol
  have real : other.find? (realSymbol · = symbol) = symbols.find? (realSymbol · = symbol) := by
    ext listed
    rw [find?_real_eq_some_iff, find?_real_eq_some_iff, same]
  simp only [redirect?, same, real]

/-- The rules of a list are the two rules of each listed symbol. -/
theorem mem_flatMap_ofListed {rule : Rename} : rule ∈ symbols.flatMap (ofListed renamed) ↔
    ∃ listed ∈ symbols, rule = ⟨listed, renamed listed⟩ ∨ rule = ⟨realSymbol listed, listed⟩ := by
  simp [ofListed, List.mem_flatMap]

/-- Rules that all say the same of a symbol say it last, too. -/
theorem map_last?_of_forall {rules : List Rename} {symbol replacement : String}
    (named : symbol ∈ rules.map Rename.symbol)
    (agree : ∀ rule ∈ rules, rule.symbol = symbol → rule.replacement = replacement) :
    (last? rules symbol).map Rename.replacement = some replacement := by
  obtain ⟨rule, found⟩ := Option.isSome_iff_exists.1 (last?_isSome_iff.2 named)
  obtain ⟨member, own⟩ := of_last?_eq_some found
  rw [found, Option.map_some, agree rule member own]

/-- What a list says last of a symbol does not depend on its order. -/
theorem map_last?_ofListed (separated : Separated symbols) (symbol : String) :
    (last? (symbols.flatMap (ofListed renamed)) symbol).map Rename.replacement =
      redirect? renamed symbols symbol := by
  by_cases listed : symbol ∈ symbols
  · rw [redirect?, if_pos listed]
    refine map_last?_of_forall ?_ ?_
    · exact List.mem_map.2 ⟨_, mem_flatMap_ofListed.2 ⟨symbol, listed, .inl rfl⟩, rfl⟩
    · intro rule member own
      obtain ⟨other, there, rfl | rfl⟩ := mem_flatMap_ofListed.1 member
      · exact congrArg renamed own
      · -- the rule of a real form would be for a symbol that is listed itself
        obtain rfl : realSymbol other = symbol := own
        exact absurd listed (separated other there)
  · rw [redirect?, if_neg listed]
    cases found : symbols.find? (realSymbol · = symbol) with
    | some real =>
      obtain ⟨there, rfl⟩ := find?_real_eq_some_iff.1 found
      refine map_last?_of_forall ?_ ?_
      · exact List.mem_map.2 ⟨_, mem_flatMap_ofListed.2 ⟨real, there, .inr rfl⟩, rfl⟩
      · intro rule member own
        obtain ⟨other, otherThere, rfl | rfl⟩ := mem_flatMap_ofListed.1 member
        · obtain rfl : other = realSymbol real := own
          exact absurd otherThere listed
        · exact realSymbol_injective own
    | none =>
      -- a rule would be that of a listed symbol, or of the real form that the search looks for
      cases last : last? (symbols.flatMap (ofListed renamed)) symbol with
      | none => rfl
      | some rule =>
        obtain ⟨member, rfl⟩ := of_last?_eq_some last
        obtain ⟨other, there, rfl | rfl⟩ := mem_flatMap_ofListed.1 member
        · exact absurd there listed
        · cases found.symm.trans (find?_real_eq_some_iff.2 ⟨there, rfl⟩)

end Rename

open Rename

/-! ## Both lists -/

/-- Portable symbols go before wrapped ones. -/
theorem RenameMap.get?_ofLinker {linker : LinkerSettings} (wrap : Separated linker.wrap)
    (portable : Separated linker.portable) (symbol : String) :
    (ofLinker linker).get? symbol =
      (redirect? (· ++ "_portable") linker.portable symbol).or
        (redirect? ("__wrap_" ++ ·) linker.wrap symbol) := by
  rw [ofLinker, get?_insertAll, LinkerSettings.renames, last?_append, Option.map_or, ofWrapped_eq,
    ofPortable_eq, map_last?_ofListed wrap, map_last?_ofListed portable]

/-- The settings with other lists of symbols. -/
def Settings.listing (s : Settings) (wrap portable : List String) : Settings :=
  { s with linker := { s.linker with wrap, portable } }

/-- Where no list has a symbol beside its real form, a portable symbol goes to its portable version, the
real form of one to the symbol, a wrapped symbol to its wrapper, the real form of one to the symbol, and
any other symbol stays. So settings that list the same symbols, in any order and any number of times,
have the same map and the same signature. -/
theorem Settings.listing_free (s : Settings) (wrap : Separated s.linker.wrap)
    (portable : Separated s.linker.portable) :
    (∀ symbol, (RenameMap.ofLinker s.linker).get? symbol =
      if symbol ∈ s.linker.portable then some (symbol ++ "_portable")
      else match s.linker.portable.find? ("__real_" ++ · = symbol) with
        | some p => some p
        | none =>
          if symbol ∈ s.linker.wrap then some ("__wrap_" ++ symbol)
          else s.linker.wrap.find? ("__real_" ++ · = symbol)) ∧
    ∀ wrap' portable' : List String,
      (∀ symbol, symbol ∈ wrap' ↔ symbol ∈ s.linker.wrap) →
      (∀ symbol, symbol ∈ portable' ↔ symbol ∈ s.linker.portable) →
      RenameMap.ofLinker (s.listing wrap' portable').linker = RenameMap.ofLinker s.linker ∧
        (s.listing wrap' portable').signature = s.signature := by
  refine ⟨?_, ?_⟩
  · intro symbol
    rw [RenameMap.get?_ofLinker wrap portable, redirect?, redirect?]
    split
    · rfl
    · change (s.linker.portable.find? ("__real_" ++ · = symbol)).or _ = _
      cases s.linker.portable.find? ("__real_" ++ · = symbol) <;> rfl
  · intro wrap' portable' sameWrap samePortable
    have otherWrap : Separated wrap' := by
      intro symbol listed
      rw [sameWrap] at listed ⊢
      exact wrap symbol listed
    have otherPortable : Separated portable' := by
      intro symbol listed
      rw [samePortable] at listed ⊢
      exact portable symbol listed
    have renames (symbol : String) :
        (RenameMap.ofLinker (s.listing wrap' portable').linker).get? symbol =
          (RenameMap.ofLinker s.linker).get? symbol := by
      rw [RenameMap.get?_ofLinker wrap portable, RenameMap.get?_ofLinker otherWrap otherPortable,
        ← redirect?_congr sameWrap, ← redirect?_congr samePortable]
      rfl
    have build : SameBuild (s.listing wrap' portable') s := ⟨rfl, rfl, rfl, rfl, rfl, rfl, rfl, rfl, rfl, rfl, rfl, renames⟩
    exact ⟨build.ofLinker_eq, signature_eq_of_sameBuild build⟩

/-- Settings that list a symbol twice over, and one beside its real form but in another list. -/
def Settings.crossed : Settings where
  toolchain := { compilerVersion := "bcc-3.1", triple := "armv7-none-linux-gnueabi" }
  linker := { wrap := ["malloc", "__real_memcpy", "__wrap_free"], portable := ["memcpy", "malloc"] }

open Settings in
theorem Settings.listing_free_crossed :
    Separated crossed.linker.wrap ∧ Separated crossed.linker.portable ∧
      (RenameMap.ofLinker crossed.linker).get? "malloc" = some "malloc_portable" ∧
      (RenameMap.ofLinker crossed.linker).get? "__real_memcpy" = some "memcpy" ∧
      let other := crossed.listing ["__wrap_free", "malloc", "__real_memcpy", "malloc"]
        ["malloc", "memcpy", "malloc"]
      RenameMap.ofLinker other.linker = RenameMap.ofLinker crossed.linker ∧
        other.signature = crossed.signature := by
  have wrap : Separated crossed.linker.wrap := by decide
  have portable : Separated crossed.linker.portable := by decide
  obtain ⟨replaced, free⟩ := listing_free crossed wrap portable
  refine ⟨wrap, portable, replaced "malloc", replaced "__real_memcpy", free _ _ ?_ ?_⟩
  · intro symbol
    simp only [crossed, List.mem_cons, List.not_mem_nil]
    tauto
  · intro symbol
    simp only [crossed, List.mem_cons, List.not_mem_nil]
    tauto

/-- A list with a symbol and its real form is another map in another order. -/
example : RenameMap.ofLinker { wrap := ["f", "__real_f"] } ≠
    RenameMap.ofLinker { wrap := ["__real_f", "f"] } := by
  decide +kernel

end BitcodeCache
