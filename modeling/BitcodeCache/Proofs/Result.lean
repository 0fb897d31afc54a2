/-!
# Results of several steps

A computation in steps succeeds where every step does, and fails where a step does after others that
succeed.
-/

namespace BitcodeCache

/-- Two steps succeed exactly if each of them does. -/
theorem except_bind_eq_ok_iff {ε α β : Type} {x : Except ε α} {f : α → Except ε β} {b : β} :
    (x >>= f) = .ok b ↔ ∃ a, x = .ok a ∧ f a = .ok b := by
  cases x with
  | error e => simp [bind, Except.bind]
  | ok a => simp [bind, Except.bind]

/-- Two steps fail where the first one does, or the second one on what the first one gave. -/
theorem except_bind_eq_error_iff {ε α β : Type} {x : Except ε α} {f : α → Except ε β} {e : ε} :
    (x >>= f) = .error e ↔ x = .error e ∨ ∃ a, x = .ok a ∧ f a = .error e := by
  cases x with
  | error e => simp [bind, Except.bind]
  | ok a => simp [bind, Except.bind]

theorem except_map_eq_ok_iff {ε α β : Type} {x : Except ε α} {f : α → β} {b : β} :
    f <$> x = .ok b ↔ ∃ a, x = .ok a ∧ f a = b := by
  cases x with
  | error e => simp [Functor.map, Except.map]
  | ok a => simp [Functor.map, Except.map]

/-- A step that is refused on a condition. -/
theorem except_guard_eq_ok_iff {ε α : Type} {refused : Prop} [Decidable refused] {e : ε}
    {next : PUnit → Except ε α} {a : α} :
    (if refused then (throw e : Except ε PUnit) >>= next else next ⟨⟩) = .ok a ↔
      ¬ refused ∧ next ⟨⟩ = .ok a := by
  by_cases h : refused
  · simp [h, throw, throwThe, MonadExceptOf.throw, bind, Except.bind]
  · simp [h]

end BitcodeCache
