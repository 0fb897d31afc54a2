import BitcodeCache.Proofs.Resolve
import BitcodeCache.Proofs.Store.Reading

/-!
# A call mends the cache for later ones

Whatever is at a cache file, a call that got an artifact and has it in the cache, because it was found
there or stored, leaves the entry of that artifact behind. Stores and calls for other files do not touch
the entry, so the same call hits from then on, and hits change nothing.
-/

namespace BitcodeCache

section

variable {c : Circumstances} {disk : Disk} {bypass : Bool} {source : Source} {toolchain : Signature}
  {path : Path} {compile : Compiler} {fingerprint : Fingerprint} {artifact : Artifact}

/-! ## The first call -/

/-- An event tells of a stored entry only where storing succeeded. -/
theorem stored_of_mem_events {size : Nat}
    (h : .stored path size ∈ (store c disk path fingerprint artifact).events) :
    (store c disk path fingerprint artifact).result = .ok () := by
  unfold store at h ⊢
  cases encoded : Entry.encode artifact fingerprint with
  | error cause =>
    rw [encoded] at h
    cases h
  | ok bytes =>
    rw [encoded] at h
    dsimp only at h ⊢
    split at h
    · cases h
    · rfl

/-- A compilation that reports a stored entry leaves it on the disk. -/
theorem Resolve.holds_of_compileAndStore {before : List Event} {bytes : Bytes} {size : Nat}
    (quiet : ∀ size, .stored path size ∉ before)
    (answered : (compileAndStore c disk path fingerprint bytes compile before).result = .ok artifact)
    (stored : .stored path size ∈
      (compileAndStore c disk path fingerprint bytes compile before).events)
    (limit : fingerprint.toolchain.length ≤ Signature.maxLength)
    (small : ∀ entry, compile bytes = .ok artifact →
      Entry.encode artifact fingerprint = .ok entry → entry.length < 2 ^ 63) :
    (compileAndStore c disk path fingerprint bytes compile before).disk.Holds path fingerprint
      artifact := by
  unfold compileAndStore at answered stored ⊢
  cases made : compile bytes with
  | error cause =>
    rw [made] at answered
    cases answered
  | ok a =>
    rw [made] at answered stored
    cases answered
    dsimp only at stored ⊢
    rw [List.mem_append, List.mem_append] at stored
    rcases stored with (early | during) | late
    · exact absurd early (quiet size)
    · exact holds_of_store (stored_of_mem_events during) limit fun entry => small entry made
    · split at late
      · cases late
      · cases List.mem_singleton.1 late

/-- A call that hit or stored leaves the entry of its artifact behind. -/
theorem holds_of_resolve
    (built : Fingerprint.build (m := Id) disk.modified source.bytes source.origin toolchain =
      .ok fingerprint)
    (answered : (resolve c disk bypass source toolchain path compile).result = .ok artifact)
    (kept : (resolve c disk bypass source toolchain path compile).compiled = none ∨
      ∃ size, .stored path size ∈ (resolve c disk bypass source toolchain path compile).events)
    (limit : fingerprint.toolchain.length ≤ Signature.maxLength)
    (small : ∀ entry, compile source.bytes = .ok artifact →
      Entry.encode artifact fingerprint = .ok entry → entry.length < 2 ^ 63) :
    (resolve c disk bypass source toolchain path compile).disk.Holds path fingerprint artifact := by
  rw [resolve, built] at answered kept ⊢
  cases bypass with
  | true =>
    rcases kept with hit | ⟨size, stored⟩
    · cases Resolve.compiled_compileAndStore.symm.trans hit
    · exact Resolve.holds_of_compileAndStore (by simp) answered stored limit small
  | false =>
    dsimp only at answered kept ⊢
    cases loaded : tryLoad disk path fingerprint with
    | ok entry =>
      rw [loaded] at answered
      cases answered
      exact Disk.holds_of_tryLoad loaded
    | error miss =>
      rw [loaded] at answered kept
      rcases kept with hit | ⟨size, stored⟩
      · cases Resolve.compiled_compileAndStore.symm.trans hit
      · exact Resolve.holds_of_compileAndStore (by simp) answered stored limit small

/-! ## Later calls -/

/-- A call for another file does not touch an entry. -/
theorem Disk.Holds.resolve {other : Path} {signature : Signature}
    (h : disk.Holds path fingerprint artifact)
    (away : path.location disk.workingDir ≠ other.location disk.workingDir) :
    (resolve c disk bypass source signature other compile).disk.Holds path fingerprint artifact := by
  cases built : Fingerprint.build (m := Id) disk.modified source.bytes source.origin signature with
  | error e =>
    rw [resolve_of_error built]
    exact h
  | ok f =>
    have outcome : Resolve.Outcome c disk bypass other f source.bytes compile
        (BitcodeCache.resolve c disk bypass source signature other compile).result
        (BitcodeCache.resolve c disk bypass source signature other compile).disk :=
      resolve_outcome built
    generalize (BitcodeCache.resolve c disk bypass source signature other compile).disk = disk'
      at outcome ⊢
    generalize (BitcodeCache.resolve c disk bypass source signature other compile).result = result
      at outcome
    cases outcome with
    | hit _ _ => exact h
    | refused _ => exact h
    | compiled _ => exact h.store (.inl away)

/-- A call for an entry that is there hits and changes nothing. -/
theorem Disk.Holds.hit {modTime : Int64}
    (h : disk.Holds path (.ofSource source.bytes modTime toolchain) artifact)
    (time : source.origin.HasTime disk modTime) :
    BitcodeCache.resolve c disk false source toolchain path compile =
      ⟨.ok artifact, none, disk, [.cacheHit path]⟩ := by
  obtain ⟨header, _, answers⟩ := h.tryLoad_eq
  have loaded := answers (.ofSource source.bytes modTime toolchain)
  rw [Fingerprint.firstMismatch?_eq_none_iff.2 rfl] at loaded
  rw [BitcodeCache.resolve, Fingerprint.build_eq_ok_iff.2 ⟨modTime, time, rfl⟩]
  dsimp only
  rw [loaded]
  rfl

/-- The disks that are reached from a disk by stores and calls for other files than that of a path,
and by calls for its file that give the same bytes with the same modification time. -/
inductive Resolve.Later (toolchain : Signature) (path : Path) (bytes : Bytes) (modTime : Int64)
    (disk : Disk) : Disk → Prop where
  | now : Later toolchain path bytes modTime disk disk
  | stores {now : Disk} (later : Later toolchain path bytes modTime disk now) (c : Circumstances)
    {other : Path} (fingerprint : Fingerprint) (artifact : Artifact)
    (away : path.location now.workingDir ≠ other.location now.workingDir) :
    Later toolchain path bytes modTime disk (store c now other fingerprint artifact).disk
  | resolves {now : Disk} (later : Later toolchain path bytes modTime disk now) (c : Circumstances)
    (bypass : Bool) (source : Source) (signature : Signature) {other : Path} (compile : Compiler)
    (away : path.location now.workingDir ≠ other.location now.workingDir) :
    Later toolchain path bytes modTime disk
      (resolve c now bypass source signature other compile).disk
  | repeats {now : Disk} (later : Later toolchain path bytes modTime disk now) (c : Circumstances)
    {source : Source} (compile : Compiler) (same : source.bytes = bytes)
    (time : source.origin.HasTime now modTime) :
    Later toolchain path bytes modTime disk (resolve c now false source toolchain path compile).disk

/-- An entry outlives all that happens elsewhere. -/
theorem Resolve.Later.holds {bytes : Bytes} {modTime : Int64} {now : Disk}
    (later : Resolve.Later toolchain path bytes modTime disk now)
    (h : disk.Holds path (.ofSource bytes modTime toolchain) artifact) :
    now.Holds path (.ofSource bytes modTime toolchain) artifact := by
  induction later with
  | now => exact h
  | stores later c f a away ih => exact ih.store (.inl away)
  | resolves later c bypass source signature compile away ih => exact ih.resolve away
  | repeats later c compile same time ih =>
    subst same
    rw [ih.hit time]
    exact ih

/-- Where a call got an artifact and it was in the cache or came into it, every later call without
bypass for the same bytes, modification time, toolchain and file gives the same artifact, calls no
compiler and leaves the disk as it is. -/
theorem resolve_again {modTime : Int64} (limit : toolchain.length ≤ Signature.maxLength)
    (small : ∀ a entry, compile source.bytes = .ok a →
      Entry.encode a (.ofSource source.bytes modTime toolchain) = .ok entry → entry.length < 2 ^ 63)
    (time : source.origin.HasTime disk modTime)
    (answered : (resolve c disk bypass source toolchain path compile).result = .ok artifact)
    (kept : (resolve c disk bypass source toolchain path compile).compiled = none ∨
      ∃ size, .stored path size ∈ (resolve c disk bypass source toolchain path compile).events)
    {now : Disk} (later : Resolve.Later toolchain path source.bytes modTime
      (resolve c disk bypass source toolchain path compile).disk now)
    {c' : Circumstances} {source' : Source} {compile' : Compiler}
    (same : source'.bytes = source.bytes) (time' : source'.origin.HasTime now modTime) :
    (resolve c' now false source' toolchain path compile').result = .ok artifact ∧
      (resolve c' now false source' toolchain path compile').compiled = none ∧
      (resolve c' now false source' toolchain path compile').disk = now := by
  have built : Fingerprint.build (m := Id) disk.modified source.bytes source.origin toolchain =
      .ok (.ofSource source.bytes modTime toolchain) :=
    Fingerprint.build_eq_ok_iff.2 ⟨modTime, time, rfl⟩
  have first := holds_of_resolve built answered kept limit (small artifact)
  have holds := later.holds first
  rw [← same] at holds
  rw [holds.hit time']
  exact ⟨rfl, rfl, rfl⟩

end

/-! ## A broken file -/

namespace Broken

/-- A disk with a file that is no entry. -/
def disk : Disk where
  nodes := [(["s.oBCC"], .file [1, 2, 3] .epoch)]

/-- A compiler that makes one artifact of everything. -/
def compiler : Compiler := fun _ => .ok Format.Sample.artifact

/-- The call that finds the broken file. -/
def first : Resolution :=
  resolve {} disk false ⟨[3, 4], .inMemory⟩ ⟨[1]⟩ ⟨"s.oBCC"⟩ compiler

/-- The disk after another file was stored as well. -/
def later : Disk :=
  (store {} first.disk ⟨"t.oBCC"⟩ Format.Sample.fingerprint Format.Sample.artifact).disk

/-- The same call by other means: its compiler is gone, and its time is given. -/
def again : Resolution :=
  resolve {} later false ⟨[3, 4], .modTime 0⟩ ⟨[1]⟩ ⟨"s.oBCC"⟩ fun _ => .error "gone"

end Broken

open Broken in
/-- A file that was broken when it was first asked for, and is asked for again after another store. -/
theorem resolve_again_broken : first.result = .ok Format.Sample.artifact ∧
    (∃ size, .stored ⟨"s.oBCC"⟩ size ∈ first.events) ∧
    Resolve.Later ⟨[1]⟩ ⟨"s.oBCC"⟩ [3, 4] 0 first.disk later ∧
    again.result = .ok Format.Sample.artifact ∧ again.compiled = none ∧ again.disk = later := by
  have answered : first.result = .ok Format.Sample.artifact := by decide +kernel
  have stored : ∃ size, .stored ⟨"s.oBCC"⟩ size ∈ first.events := ⟨262, by decide +kernel⟩
  have reached : Resolve.Later ⟨[1]⟩ ⟨"s.oBCC"⟩ [3, 4] 0 first.disk later :=
    .stores .now {} _ _ (by decide +kernel)
  have length : (Entry.encode Format.Sample.artifact (.ofSource [3, 4] 0 ⟨[1]⟩)).map List.length =
      .ok 262 := by decide +kernel
  have small : ∀ a entry, compiler [3, 4] = .ok a →
      Entry.encode a (.ofSource [3, 4] 0 ⟨[1]⟩) = .ok entry → entry.length < 2 ^ 63 := by
    intro a entry made encoded
    cases made
    rw [encoded] at length
    injection length with length
    omega
  exact ⟨answered, stored, reached,
    resolve_again (by decide) small .inMemory answered (.inr stored) reached rfl (.modTime 0)⟩

end BitcodeCache
