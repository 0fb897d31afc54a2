import BitcodeCache.Text.Utf8

/-!
# Texts behind one another

Where one text ends and the next one starts is lost when they are written behind one another. It is
told by the number of bytes of the first text, or by a character that does not occur in it.
-/

namespace BitcodeCache.Text

theorem length_utf8 (s : String) : (utf8 s).length = s.utf8ByteSize := Array.length_toList

theorem utf8_append (s t : String) : utf8 (s ++ t) = utf8 s ++ utf8 t := by
  simp [utf8, String.toByteArray_append]

/-- Texts of one size in front of others can be taken off. -/
theorem append_inj_of_size {s t u v : String} (size : s.utf8ByteSize = t.utf8ByteSize)
    (h : s ++ u = t ++ v) : s = t ∧ u = v := by
  have bytes : utf8 s ++ utf8 u = utf8 t ++ utf8 v := by
    rw [← utf8_append, ← utf8_append, h]
  have lengths : (utf8 s).length = (utf8 t).length := by
    rw [length_utf8, length_utf8, size]
  obtain ⟨front, back⟩ := List.append_inj bytes lengths
  exact ⟨utf8_injective front, utf8_injective back⟩

/-- Texts up to the first of some character can be taken off with it. -/
theorem append_inj_of_stop {stop : String} {c : Char} (single : stop.toList = [c])
    {s t u v : String} (hs : c ∉ s.toList) (ht : c ∉ t.toList)
    (h : s ++ (stop ++ u) = t ++ (stop ++ v)) : s = t ∧ u = v := by
  have chars : s.toList ++ c :: u.toList = t.toList ++ c :: v.toList := by
    simpa [single] using congrArg String.toList h
  have before {xs ys : List Char} (absent : c ∉ xs) :
      (xs ++ c :: ys).takeWhile (· != c) = xs := by
    rw [List.takeWhile_append_of_pos, List.takeWhile_cons_of_neg (by simp), List.append_nil]
    intro d member
    have other : d ≠ c := fun same => absent (same ▸ member)
    simpa using other
  have front : s.toList = t.toList := by
    rw [← before hs, chars, before ht]
  rw [front] at chars
  have back := List.cons.inj (List.append_cancel_left chars)
  exact ⟨String.toList_inj.1 front, String.toList_inj.1 back.2⟩

/-! ## Numbers in decimal -/

theorem toDigits_injective {m n : Nat} (h : Nat.toDigits 10 m = Nat.toDigits 10 n) : m = n := by
  rw [← Nat.ofDigitChars_toDigits (by decide) (by decide) (b := 10) (n := m), h,
    Nat.ofDigitChars_toDigits (by decide) (by decide)]

theorem repr_injective {m n : Nat} (h : m.repr = n.repr) : m = n := by
  apply toDigits_injective
  rw [← Nat.toList_repr, ← Nat.toList_repr, h]

/-- A decimal text has digits only. -/
theorem isDigit_of_mem_repr {n : Nat} {c : Char} (h : c ∈ n.repr.toList) : c.isDigit := by
  rw [Nat.toList_repr] at h
  exact Nat.isDigit_of_mem_toDigits (by decide) (by decide) h

end BitcodeCache.Text
