import Mathlib.Data.List.Induction
import BitcodeCache.Proofs.Entry.Field
import BitcodeCache.Proofs.Entry.Format
import BitcodeCache.Proofs.Result
import BitcodeCache.Proofs.Text

/-!
# Pools hold what is interned

Interning only adds strings at the end of a pool and keeps its size in a 32-bit field, so a reference
that is written for a string of the pool names that string in the finished pool.
-/

namespace BitcodeCache.StringPool

open Format

/-! ## Interning -/

/-- Interning finds a string in the pool or puts it at the end, where the pool stays small enough
for its offsets. -/
theorem intern_cases {pool after : StringPool} {s : String} (h : pool.intern s = .ok after) :
    (s ∈ pool.strings ∧ after = pool) ∨
      (s ∉ pool.strings ∧ pool.size + s.utf8ByteSize < 2 ^ 32 ∧ after = ⟨pool.strings ++ [s]⟩) := by
  unfold intern at h
  split at h
  · cases h
    exact Or.inl ⟨‹_›, rfl⟩
  · split at h
    · cases h
    · split at h
      · cases h
      · split at h
        · cases h
        · rename_i fits
          cases h
          exact Or.inr ⟨‹_›, Nat.not_le.1 fits, rfl⟩

theorem sizeOf_append (xs ys : List String) : sizeOf (xs ++ ys) = sizeOf xs + sizeOf ys := by
  induction xs with
  | nil => simp [sizeOf]
  | cons s xs ih => rw [List.cons_append, sizeOf, sizeOf, ih, Nat.add_assoc]

/-- A pool after some strings were interned: nothing moved, all of them are there, and a pool whose
offsets fit a 32-bit field still is one. -/
structure Extends (pool : StringPool) (strings : List String) (after : StringPool) : Prop where
  start : pool.strings <+: after.strings
  mem : ∀ s ∈ strings, s ∈ after.strings
  size_lt : pool.size < 2 ^ 32 → after.size < 2 ^ 32

/-- Interning a string keeps the pool and puts the string into it, if it was not there. -/
theorem extends_intern {pool after : StringPool} {s : String} (h : pool.intern s = .ok after) :
    Extends pool [s] after := by
  rcases intern_cases h with ⟨member, rfl⟩ | ⟨_, fits, rfl⟩
  · exact ⟨List.prefix_rfl, by simpa using member, id⟩
  · refine ⟨List.prefix_append _ _, by simp, fun _ => ?_⟩
    rw [size, sizeOf_append]
    simpa [size, sizeOf] using fits

/-- A pool that grows twice holds the strings of both times. -/
theorem Extends.trans {pool middle after : StringPool} {xs ys : List String}
    (first : Extends pool xs middle) (second : Extends middle ys after) :
    Extends pool (xs ++ ys) after := by
  refine ⟨first.start.trans second.start, fun s member => ?_, second.size_lt ∘ first.size_lt⟩
  rcases List.mem_append.1 member with early | late
  · exact second.start.subset (first.mem s early)
  · exact second.mem s late

/-- Interning strings one after another keeps the pool and puts all of them into it. -/
theorem extends_foldlM {pool after : StringPool} {strings : List String}
    (h : strings.foldlM intern pool = .ok after) : Extends pool strings after := by
  induction strings generalizing pool with
  | nil =>
    cases h
    exact ⟨List.prefix_rfl, by simp, id⟩
  | cons s strings ih =>
    rw [List.foldlM_cons] at h
    cases interned : pool.intern s with
    | error fault =>
      rw [interned] at h
      cases h
    | ok middle =>
      rw [interned] at h
      exact (extends_intern interned).trans (ih h)

/-! ## First uses -/

/-- The strings that are used, each once, in the order in which they are first used. -/
structure InFirstUse (uses strings : List String) : Prop where
  mem : ∀ s, s ∈ strings ↔ s ∈ uses
  order : strings.Pairwise fun s t => uses.idxOf s < uses.idxOf t

/-- A string that comes last is new only if it was not used before. -/
theorem eraseDups_concat (uses : List String) (s : String) :
    (uses ++ [s]).eraseDups = if s ∈ uses then uses.eraseDups else uses.eraseDups ++ [s] := by
  rw [List.eraseDups_append]
  split
  · rename_i again
    simp [List.removeAll, again]
  · rename_i new
    simp [List.removeAll, new, List.eraseDups_cons]

/-- Strings without their repetitions are in the order of their first use. -/
theorem inFirstUse_eraseDups (uses : List String) : InFirstUse uses uses.eraseDups := by
  refine ⟨fun s => List.mem_eraseDups, ?_⟩
  induction uses using List.reverseRecOn with
  | nil => exact .nil
  | append_singleton uses s ih =>
    have earlier : uses.eraseDups.Pairwise fun t u =>
        (uses ++ [s]).idxOf t < (uses ++ [s]).idxOf u := by
      refine ih.imp_of_mem fun {t u} ht hu before => ?_
      rwa [List.idxOf_append, List.idxOf_append, if_pos (List.mem_eraseDups.1 ht),
        if_pos (List.mem_eraseDups.1 hu)]
    rw [eraseDups_concat]
    split
    · exact earlier
    · rename_i new
      refine List.pairwise_append.2 ⟨earlier, List.pairwise_singleton _ _, fun t ht u hu => ?_⟩
      obtain rfl := List.mem_singleton.1 hu
      have early := List.mem_eraseDups.1 ht
      have := List.idxOf_lt_length_of_mem early
      rw [List.idxOf_append, List.idxOf_append, if_pos early, if_neg new]
      omega

/-- A string that is there is not put into the pool again. -/
theorem intern_of_mem {pool : StringPool} {s : String} (h : s ∈ pool.strings) :
    pool.intern s = .ok pool := if_pos h

/-- A new string is taken where the pool stays small enough with it. -/
theorem intern_eq_ok_iff {pool after : StringPool} {s : String} (new : s ∉ pool.strings) :
    pool.intern s = .ok after ↔
      pool.size + s.utf8ByteSize < 2 ^ 32 ∧ after = ⟨pool.strings ++ [s]⟩ := by
  constructor
  · intro h
    rcases intern_cases h with ⟨again, _⟩ | ⟨_, fits, made⟩
    · exact absurd again new
    · exact ⟨fits, made⟩
  · rintro ⟨fits, rfl⟩
    have start : ¬ UInt32.size ≤ pool.size := by change ¬ 2 ^ 32 ≤ _; omega
    have length : ¬ UInt32.size ≤ s.utf8ByteSize := by change ¬ 2 ^ 32 ≤ _; omega
    have stop : ¬ UInt32.size ≤ pool.size + s.utf8ByteSize := by change ¬ 2 ^ 32 ≤ _; omega
    rw [intern, if_neg new, if_neg start, if_neg length, if_neg stop]

/-- Interning strings makes the pool of their first uses, unless these are too long together. -/
theorem foldlM_intern_eq_ok_iff {uses : List String} {pool : StringPool} :
    uses.foldlM intern .empty = .ok pool ↔
      sizeOf uses.eraseDups < 2 ^ 32 ∧ pool = ⟨uses.eraseDups⟩ := by
  -- by the last use: the pool that it comes to is that of the uses before it
  induction uses using List.reverseRecOn generalizing pool with
  | nil =>
    constructor
    · rintro ⟨⟩
      exact ⟨by decide, rfl⟩
    · rintro ⟨_, rfl⟩
      rfl
  | append_singleton uses s ih =>
    have last (p : StringPool) : [s].foldlM intern p = p.intern s := by
      rw [List.foldlM_cons]
      exact bind_pure _
    simp only [List.foldlM_append, except_bind_eq_ok_iff, ih, last, eraseDups_concat]
    split
    · rename_i again
      have found : intern ⟨uses.eraseDups⟩ s = .ok ⟨uses.eraseDups⟩ :=
        intern_of_mem (List.mem_eraseDups.2 again)
      constructor
      · rintro ⟨_, ⟨fits, rfl⟩, interned⟩
        cases found.symm.trans interned
        exact ⟨fits, rfl⟩
      · rintro ⟨fits, rfl⟩
        exact ⟨_, ⟨fits, rfl⟩, found⟩
    · rename_i new
      have absent : s ∉ (⟨uses.eraseDups⟩ : StringPool).strings := mt List.mem_eraseDups.1 new
      have whole : sizeOf (uses.eraseDups ++ [s]) = sizeOf uses.eraseDups + s.utf8ByteSize := by
        rw [sizeOf_append]
        rfl
      rw [whole]
      constructor
      · rintro ⟨_, ⟨_, rfl⟩, interned⟩
        exact (intern_eq_ok_iff absent).1 interned
      · rintro ⟨fits, rfl⟩
        exact ⟨_, ⟨by omega, rfl⟩, (intern_eq_ok_iff absent).2 ⟨fits, rfl⟩⟩

/-! ## References -/

theorem length_flatMap_utf8 (strings : List String) :
    (strings.flatMap Text.utf8).length = sizeOf strings := length_bytes ⟨strings⟩

/-- The bytes from a string's offset on, as many as it has, are its own. -/
theorem slice_offset {pool : StringPool} {s : String} (h : s ∈ pool.strings) :
    pool.offset s + s.utf8ByteSize ≤ pool.size ∧
      (pool.bytes.drop (pool.offset s)).take s.utf8ByteSize = Text.utf8 s := by
  -- the string itself is where the strings before its first occurrence end
  obtain ⟨before, after, split, first⟩ := List.eq_append_cons_of_mem h
  have here : pool.offset s = sizeOf before := by
    have stop : (before ++ s :: after).takeWhile (· != s) = before := by
      rw [List.takeWhile_append_of_pos, List.takeWhile_cons_of_neg (by simp), List.append_nil]
      intro t member
      have : t ≠ s := fun same => first (same ▸ member)
      simpa using this
    rw [offset, split, stop]
  constructor
  · rw [here, size, split, sizeOf_append]
    simp [sizeOf]
  · rw [here, bytes, split, List.flatMap_append, ← length_flatMap_utf8, List.drop_left,
      List.flatMap_cons, ← Text.length_utf8, List.take_left]

/-- The reference to a string of the pool selects it. -/
theorem isReference_reference {pool : StringPool} {s : String} (h : s ∈ pool.strings)
    (fits : pool.size < 2 ^ 32) : IsReference pool.bytes (pool.reference s) s := by
  obtain ⟨inside, bytes⟩ := slice_offset h
  have offsetFits : pool.offset s < 2 ^ 32 := by omega
  have lengthFits : s.utf8ByteSize < 2 ^ 32 := by omega
  refine ⟨UInt32.ofNat (pool.offset s), UInt32.ofNat s.utf8ByteSize, ⟨?_, ?_⟩, ?_⟩
  · rw [UInt32.toNat_ofNat_of_lt' offsetFits, UInt32.toNat_ofNat_of_lt' lengthFits, length_bytes]
    exact inside
  · rw [UInt32.toNat_ofNat_of_lt' offsetFits, UInt32.toNat_ofNat_of_lt' lengthFits]
    exact bytes
  · rw [reference, Bytes.ofUInt32_ofNat offsetFits, Bytes.ofUInt32_ofNat lengthFits]

end BitcodeCache.StringPool
