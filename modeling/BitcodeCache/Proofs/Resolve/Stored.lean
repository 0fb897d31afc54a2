import BitcodeCache.Proofs.Healing

/-!
# What a call stores

A call reports every entry that it stores, with the number of its bytes. So its report tells whether the
file of a resource was written: a call that reports nothing of the kind leaves all entries as they are,
and one that does leaves the entry of what it gave.
-/

namespace BitcodeCache

variable {c : Circumstances} {disk : Disk} {bypass : Bool} {source : Source} {toolchain : Signature}
  {path other : Path} {compile : Compiler} {fingerprint : Fingerprint} {artifact : Artifact}

/-! ## Reports of stores -/

/-- What is reported of a store that succeeded. -/
theorem stored_mem_events_store_iff {size : Nat} :
    .stored other size ∈ (store c disk path fingerprint artifact).events ↔
      (store c disk path fingerprint artifact).result = .ok () ∧ other = path ∧
        ∃ bytes, Entry.encode artifact fingerprint = .ok bytes ∧ size = bytes.length := by
  unfold store
  cases encoded : Entry.encode artifact fingerprint with
  | error cause => simp
  | ok bytes =>
    dsimp only
    split
    · simp
    · simp

namespace Resolve

/-- A compilation reports what its store reports of entries. -/
theorem stored_mem_events_compileAndStore_iff {before : List Event} {bytes : Bytes} {size : Nat}
    (quiet : .stored other size ∉ before) :
    .stored other size ∈ (compileAndStore c disk path fingerprint bytes compile before).events ↔
      ∃ a, compile bytes = .ok a ∧ .stored other size ∈ (store c disk path fingerprint a).events := by
  unfold compileAndStore
  cases compile bytes with
  | error cause => simp [quiet]
  | ok a =>
    cases result : (store c disk path fingerprint a).result with
    | error e => simp [quiet, result]
    | ok u => simp [quiet, result]

/-- A call with a fingerprint hits and changes nothing, or it compiles, and nothing was stored before. -/
theorem course
    (built : Fingerprint.build (m := Id) disk.modified source.bytes source.origin toolchain =
      .ok fingerprint)
    (c : Circumstances) (bypass : Bool) (path : Path) (compile : Compiler) :
    (∃ entry, tryLoad disk path fingerprint = .ok entry ∧
      resolve c disk bypass source toolchain path compile =
        ⟨.ok entry.artifact, none, disk, [.cacheHit path]⟩) ∨
    ∃ before, (∀ other size, .stored other size ∉ before) ∧
      resolve c disk bypass source toolchain path compile =
        compileAndStore c disk path fingerprint source.bytes compile before := by
  rw [resolve, built]
  cases bypass with
  | true => exact .inr ⟨[.cacheBypassed path], by simp, rfl⟩
  | false =>
    dsimp only
    cases tryLoad disk path fingerprint with
    | ok entry => exact .inl ⟨entry, rfl, rfl⟩
    | error miss => exact .inr ⟨[.cacheMiss path miss, .recompiling path miss], by simp, rfl⟩

end Resolve

/-! ## Entries after calls -/

/-- A compilation that reports no stored entry leaves all entries as they are. -/
theorem Resolve.holds_of_quiet {f : Fingerprint} {bytes : Bytes} {before : List Event}
    (h : disk.Holds path fingerprint artifact)
    (early : ∀ size, .stored other size ∉ before)
    (quiet : ∀ size, .stored other size ∉
      (compileAndStore c disk other f bytes compile before).events) :
    (compileAndStore c disk other f bytes compile before).disk.Holds path fingerprint artifact := by
  -- a store that succeeds is reported, so here every store fails
  have silent (a : Artifact) (made : compile bytes = .ok a) :
      ∃ e, (store c disk other f a).result = .error e := by
    cases stored : (store c disk other f a).result with
    | error e => exact ⟨e, rfl⟩
    | ok u =>
      have effect := store_effect c disk other f a
      rw [stored] at effect
      obtain ⟨entry, encoded, _⟩ := effect.read_self
      have reported := stored_mem_events_store_iff.2 ⟨stored, rfl, entry, encoded, rfl⟩
      exact absurd ((stored_mem_events_compileAndStore_iff (early _)).2 ⟨a, made, reported⟩)
        (quiet entry.length)
  unfold compileAndStore
  cases made : compile bytes with
  | error cause => exact h
  | ok a => exact h.store (.inr (silent a made))

/-- A call that reports no stored entry leaves all entries as they are. -/
theorem Disk.holds_of_quiet {signature : Signature} (h : disk.Holds path fingerprint artifact)
    (quiet : ∀ size, .stored other size ∉
      (resolve c disk bypass source signature other compile).events) :
    (resolve c disk bypass source signature other compile).disk.Holds path fingerprint artifact := by
  cases built : Fingerprint.build (m := Id) disk.modified source.bytes source.origin signature with
  | error e =>
    rw [resolve_of_error built]
    exact h
  | ok f =>
    rcases Resolve.course built c bypass other compile with
      ⟨entry, _, same⟩ | ⟨before, early, same⟩
    · rw [same]
      exact h
    · rw [same] at quiet ⊢
      exact Resolve.holds_of_quiet h (early other) quiet

/-- A call that hit, or stored an entry of fewer than 2^63 bytes, leaves the entry of what it gave. -/
theorem holds_of_kept
    (built : Fingerprint.build (m := Id) disk.modified source.bytes source.origin toolchain =
      .ok fingerprint)
    (limit : fingerprint.toolchain.length ≤ Signature.maxLength)
    (answered : (resolve c disk bypass source toolchain path compile).result = .ok artifact)
    (kept : (resolve c disk bypass source toolchain path compile).compiled = none ∨
      ∃ size < 2 ^ 63, .stored path size ∈
        (resolve c disk bypass source toolchain path compile).events) :
    (resolve c disk bypass source toolchain path compile).disk.Holds path fingerprint artifact := by
  rcases Resolve.course built c bypass path compile with
    ⟨entry, loaded, same⟩ | ⟨before, early, same⟩
  · rw [same] at answered ⊢
    cases answered
    exact Disk.holds_of_tryLoad loaded
  · rw [same] at answered kept ⊢
    rcases kept with hit | ⟨size, small, stored⟩
    · cases Resolve.compiled_compileAndStore.symm.trans hit
    · refine Resolve.holds_of_compileAndStore (early path) answered stored limit ?_
      intro entry made encoded
      obtain ⟨a, made', reported⟩ := (Resolve.stored_mem_events_compileAndStore_iff (early _ _)).1 stored
      cases made.symm.trans made'
      obtain ⟨_, _, bytes, encoded', rfl⟩ := stored_mem_events_store_iff.1 reported
      cases encoded.symm.trans encoded'
      exact small

end BitcodeCache
