import BitcodeCache.Artifact

/-!
# Artifacts whose tables point inside the code
-/

namespace BitcodeCache.Artifact

/-- A symbol may stand at the end of the code. -/
theorem symbolFault?_eq_none_iff {limit : Nat} {s : ExportedSymbol} :
    symbolFault? limit s = none ↔ s.offset.toNat ≤ limit := by
  simp [symbolFault?]

/-- A relocation stands before the end of the code. -/
theorem relocationFault?_eq_none_iff {limit : Nat} {r : Relocation} :
    relocationFault? limit r = none ↔ r.offset.toNat < limit := by
  simp [relocationFault?]

/-- A function may end where the code does. -/
theorem functionFault?_eq_none_iff {limit : Nat} {f : FunctionRange} :
    functionFault? limit f = none ↔ f.stop ≤ limit := by
  simp [functionFault?]

/-- An artifact is accepted where no symbol lies after the code, no relocation at its end or after
it, and no function ends after it. -/
theorem validate_eq_ok_iff {a : Artifact} : a.validate = .ok () ↔
    (∀ s ∈ a.symbols, s.offset.toNat ≤ a.code.length) ∧
    (∀ r ∈ a.relocations, r.offset.toNat < a.code.length) ∧
    ∀ f ∈ a.functions, f.stop ≤ a.code.length := by
  have faultless : a.validate = .ok () ↔ a.fault? = none := by
    unfold validate
    cases a.fault? <;> simp
  rw [faultless, fault?]
  simp only [Option.orElse_eq_orElse, Option.orElse_eq_or, Option.or_eq_none_iff,
    List.findSome?_eq_none_iff, symbolFault?_eq_none_iff, relocationFault?_eq_none_iff,
    functionFault?_eq_none_iff]

end BitcodeCache.Artifact
