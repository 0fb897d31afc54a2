import BitcodeCache.Proofs.Resolve

/-!
# When the compiler is called

`resolve` takes a compiler that is a function, and tells in `compiled` what it called it with. Here the
compiler may act, so that its calls can be counted: `Resolve.acting` is the same call in a monad, and a
compiler that notes its calls notes just what `compiled` tells. The compiler is called once where the
cache does not serve and not at all elsewhere, and a call that ends early has changed nothing.
-/

namespace BitcodeCache

namespace Resolve

/-! ## Compilers that act -/

section

variable {m : Type → Type} [Monad m] (c : Circumstances) (disk : Disk)

/-- Calls a compiler that acts in a monad, and stores what it makes. -/
def actAndStore (path : Path) (fingerprint : Fingerprint) (bytes : Bytes)
    (compile : Bytes → m (Except String Artifact)) (before : List Event) : m Resolution := do
  let answer ← compile bytes
  pure (compileAndStore c disk path fingerprint bytes (fun _ => answer) before)

/-- A call with a compiler that acts in a monad. -/
def acting (bypass : Bool) (source : Source) (toolchain : Signature) (path : Path)
    (compile : Bytes → m (Except String Artifact)) : m Resolution :=
  match Fingerprint.build (m := Id) disk.modified source.bytes source.origin toolchain with
  | .error e => pure ⟨.error (.fingerprint e), none, disk, []⟩
  | .ok fingerprint =>
    if bypass then
      actAndStore c disk path fingerprint source.bytes compile [.cacheBypassed path]
    else
      match tryLoad disk path fingerprint with
      | .ok entry => pure ⟨.ok entry.artifact, none, disk, [.cacheHit path]⟩
      | .error miss =>
        actAndStore c disk path fingerprint source.bytes compile
          [.cacheMiss path miss, .recompiling path miss]

end

/-- A compiler that notes the bytes of each of its calls. -/
def noting (compile : Compiler) (bytes : Bytes) : StateM (List Bytes) (Except String Artifact) := do
  modify (· ++ [bytes])
  pure (compile bytes)

variable (c : Circumstances) (disk : Disk) (bypass : Bool) (source : Source) (toolchain : Signature)
  (path : Path) (compile : Compiler)

/-- The bytes that the compiler is called with, call by call. -/
def calls : List Bytes :=
  ((acting c disk bypass source toolchain path (noting compile)).run []).2

/-- A compiler that does nothing but answer makes no difference. -/
theorem acting_id : acting (m := Id) c disk bypass source toolchain path compile =
    resolve c disk bypass source toolchain path compile := by
  unfold acting resolve
  cases Fingerprint.build (m := Id) disk.modified source.bytes source.origin toolchain with
  | error e => rfl
  | ok fingerprint =>
    cases bypass with
    | true => rfl
    | false => cases tryLoad disk path fingerprint <;> rfl

/-- Compiling notes one call, and the rest is done as if none were noted. -/
theorem run_actAndStore (fingerprint : Fingerprint) (bytes : Bytes) (before : List Event)
    (log : List Bytes) :
    (actAndStore c disk path fingerprint bytes (noting compile) before).run log =
      (compileAndStore c disk path fingerprint bytes compile before,
        log ++ (compileAndStore c disk path fingerprint bytes compile before).compiled.toList) := by
  rw [compiled_compileAndStore]
  rfl

/-- Noting the calls changes nothing about them, and `compiled` tells what was noted. -/
theorem run_acting (log : List Bytes) :
    (acting c disk bypass source toolchain path (noting compile)).run log =
      (resolve c disk bypass source toolchain path compile,
        log ++ (resolve c disk bypass source toolchain path compile).compiled.toList) := by
  have quiet (r : Resolution) : (r, log) = (r, log ++ (none : Option Bytes).toList) := by simp
  unfold acting resolve
  cases Fingerprint.build (m := Id) disk.modified source.bytes source.origin toolchain with
  | error e => exact quiet _
  | ok fingerprint =>
    cases bypass with
    | true => exact run_actAndStore c disk path compile fingerprint source.bytes _ log
    | false =>
      dsimp only
      cases tryLoad disk path fingerprint with
      | ok entry => exact quiet _
      | error miss => exact run_actAndStore c disk path compile fingerprint source.bytes _ log

/-- The calls that a resolution makes are the one that it tells of, or none. -/
theorem calls_eq : calls c disk bypass source toolchain path compile =
    (resolve c disk bypass source toolchain path compile).compiled.toList := by
  rw [calls, run_acting, List.nil_append]

end Resolve

/-! ## Reports of failed stores -/

/-- Only the report of a failed store has its words. -/
theorem Event.message_eq_iff {event : Event} : event.message = "failed to store cache entry" ↔
    ∃ path e, event = .storeFailed path e := by
  cases event <;> simp [Event.message]

/-- A store that fails leaves the report to its caller. -/
theorem storeFailed_notMem_store {c : Circumstances} {disk : Disk} {path : Path}
    {fingerprint : Fingerprint} {artifact : Artifact} {other : Path} {e : WriteError} :
    .storeFailed other e ∉ (store c disk path fingerprint artifact).events := by
  unfold store
  split
  · exact List.not_mem_nil
  · split
    · exact List.not_mem_nil
    · simp

namespace Resolve

/-- The events tell of a failed store. -/
def Warned (events : List Event) : Prop :=
  ∃ event ∈ events, event.level = .warn ∧ event.message = "failed to store cache entry"

/-- Only an event of a failed store has the words of the warning. -/
theorem warned_iff {events : List Event} : Warned events ↔ ∃ path e, .storeFailed path e ∈ events := by
  constructor
  · rintro ⟨event, member, _, words⟩
    obtain ⟨path, e, rfl⟩ := Event.message_eq_iff.1 words
    exact ⟨path, e, member⟩
  · rintro ⟨path, e, member⟩
    exact ⟨_, member, rfl, rfl⟩

variable {c : Circumstances} {disk : Disk} {path : Path} {fingerprint : Fingerprint} {bytes : Bytes}
  {compile : Compiler} {before : List Event}

/-- What the compiler refuses changes nothing on the disk. -/
theorem compileAndStore_of_error {cause : String} (refused : compile bytes = .error cause) :
    compileAndStore c disk path fingerprint bytes compile before =
      ⟨.error (.compile cause), some bytes, disk, before⟩ := by
  rw [compileAndStore, refused]

/-- What the compiler made is the result, and a store that fails is told of. -/
theorem compileAndStore_of_ok {artifact : Artifact} (made : compile bytes = .ok artifact)
    (quiet : ¬ Warned before) :
    let r := compileAndStore c disk path fingerprint bytes compile before
    r.result = .ok artifact ∧ r.disk = (store c disk path fingerprint artifact).disk ∧
      (Warned r.events ↔ ∃ e, (store c disk path fingerprint artifact).result = .error e) := by
  rw [compileAndStore, made]
  refine ⟨rfl, rfl, ?_⟩
  rw [warned_iff]
  constructor
  · rintro ⟨other, e, member⟩
    rw [List.mem_append, List.mem_append] at member
    rcases member with (early | during) | late
    · exact absurd (warned_iff.2 ⟨other, e, early⟩) quiet
    · exact absurd during storeFailed_notMem_store
    · cases outcome : (store c disk path fingerprint artifact).result with
      | ok _ =>
        rw [outcome] at late
        cases late
      | error e => exact ⟨e, rfl⟩
  · rintro ⟨e, failed⟩
    refine ⟨path, e, List.mem_append_right _ ?_⟩
    rw [failed]
    exact List.mem_singleton.2 rfl

end Resolve

/-! ## Every course of a call -/

section

variable {c : Circumstances} {disk : Disk} {bypass : Bool} {source : Source} {toolchain : Signature}
  {path : Path} {compile : Compiler} {fingerprint : Fingerprint}

/-- A call whose entry is there ends with it. -/
theorem resolve_of_loaded {entry : Entry}
    (built : Fingerprint.build (m := Id) disk.modified source.bytes source.origin toolchain =
      .ok fingerprint)
    (loaded : tryLoad disk path fingerprint = .ok entry) :
    resolve c disk false source toolchain path compile =
      ⟨.ok entry.artifact, none, disk, [.cacheHit path]⟩ := by
  rw [resolve, built]
  dsimp only
  rw [loaded]
  rfl

/-- A call that the cache does not serve compiles, and has not reported a failed store before. -/
theorem resolve_of_unserved
    (built : Fingerprint.build (m := Id) disk.modified source.bytes source.origin toolchain =
      .ok fingerprint)
    (unserved : bypass = true ∨ ∃ miss, tryLoad disk path fingerprint = .error miss) :
    ∃ before, ¬ Resolve.Warned before ∧ resolve c disk bypass source toolchain path compile =
      Resolve.compileAndStore c disk path fingerprint source.bytes compile before := by
  rw [resolve, built]
  dsimp only
  cases bypass with
  | true => exact ⟨_, by simp [Resolve.warned_iff], rfl⟩
  | false =>
    obtain ⟨miss, missed⟩ := unserved.resolve_left Bool.false_ne_true
    rw [missed]
    exact ⟨_, by simp [Resolve.warned_iff], rfl⟩

/-- A call that the cache does not serve calls the compiler, once. -/
theorem Resolve.calls_of_unserved
    (built : Fingerprint.build (m := Id) disk.modified source.bytes source.origin toolchain =
      .ok fingerprint)
    (unserved : bypass = true ∨ ∃ miss, tryLoad disk path fingerprint = .error miss) :
    calls c disk bypass source toolchain path compile = [source.bytes] := by
  obtain ⟨before, _, course⟩ := resolve_of_unserved built unserved
  rw [calls_eq, course, compiled_compileAndStore]
  rfl

end

open Resolve in
/-- A compiler may note its calls without a difference to what becomes of the source. Without a
fingerprint a call ends with its error, before the compiler and before any change. With one the
compiler is called at most once, with the source, and it is called where the cache is bypassed or
misses. A call without the compiler gives what was loaded, one that the compiler refuses gives its
words, and neither changes the disk. What the compiler makes is the result whether or not it could be
stored, and a store that failed is told of. -/
theorem resolve_calls (c : Circumstances) (disk : Disk) (bypass : Bool) (source : Source)
    (toolchain : Signature) (path : Path) (compile : Compiler) :
    let r := resolve c disk bypass source toolchain path compile
    let calls := Resolve.calls c disk bypass source toolchain path compile
    (acting c disk bypass source toolchain path (noting compile)).run [] = (r, calls) ∧
    match Fingerprint.build (m := Id) disk.modified source.bytes source.origin toolchain with
    | .error e => r.result = .error (.fingerprint e) ∧ calls = [] ∧ r.disk = disk
    | .ok fingerprint =>
      (calls = [source.bytes] ∨ calls = []) ∧
      (calls = [source.bytes] ↔
        bypass = true ∨ ∃ miss, tryLoad disk path fingerprint = .error miss) ∧
      (calls = [] → r.disk = disk ∧
        ∃ entry, tryLoad disk path fingerprint = .ok entry ∧ r.result = .ok entry.artifact) ∧
      (calls = [source.bytes] → ∀ cause, compile source.bytes = .error cause →
        r.result = .error (.compile cause) ∧ r.disk = disk) ∧
      (calls = [source.bytes] → ∀ artifact, compile source.bytes = .ok artifact →
        r.result = .ok artifact ∧ r.disk = (store c disk path fingerprint artifact).disk ∧
          (Warned r.events ↔
            ∃ e, (store c disk path fingerprint artifact).result = .error e)) := by
  intro r calls
  have noted : calls = r.compiled.toList := calls_eq ..
  refine ⟨by rw [noted]; exact run_acting c disk bypass source toolchain path compile [], ?_⟩
  cases built : Fingerprint.build (m := Id) disk.modified source.bytes source.origin toolchain with
  | error e =>
    have course : r = ⟨.error (.fingerprint e), none, disk, []⟩ := resolve_of_error built
    rw [noted, course]
    exact ⟨rfl, rfl, rfl⟩
  | ok fingerprint =>
    dsimp only
    by_cases unserved : bypass = true ∨ ∃ miss, tryLoad disk path fingerprint = .error miss
    · obtain ⟨before, quiet, course⟩ : ∃ before, ¬ Warned before ∧
          r = compileAndStore c disk path fingerprint source.bytes compile before :=
        resolve_of_unserved built unserved
      have once : calls = [source.bytes] := by
        rw [noted, course, compiled_compileAndStore]
        rfl
      refine ⟨.inl once, iff_of_true once unserved, ?_, ?_, ?_⟩
      · intro never
        rw [once] at never
        cases never
      · intro _ cause refused
        rw [course, compileAndStore_of_error refused]
        exact ⟨rfl, rfl⟩
      · intro _ artifact made
        rw [course]
        exact compileAndStore_of_ok made quiet
    · obtain ⟨direct, hit⟩ := not_or.1 unserved
      obtain rfl := eq_false_of_ne_true direct
      cases loaded : tryLoad disk path fingerprint with
      | error miss => exact absurd ⟨miss, loaded⟩ hit
      | ok entry =>
        have course : r = ⟨.ok entry.artifact, none, disk, [.cacheHit path]⟩ :=
          resolve_of_loaded built loaded
        have never : calls = [] := by
          rw [noted, course]
          rfl
        have notOnce : calls ≠ [source.bytes] := by simp [never]
        refine ⟨.inr never, iff_of_false notOnce (by simp), ?_, ?_, ?_⟩
        · intro _
          rw [course]
          exact ⟨rfl, entry, rfl, rfl⟩
        · intro once
          exact absurd once notOnce
        · intro once
          exact absurd once notOnce

/-! ## An artifact that cannot be stored -/

namespace Unstorable

/-- An artifact with a symbol behind its code. -/
def artifact : Artifact := { symbols := [⟨"f", .function, 1⟩] }

/-- A compiler that makes this artifact of everything. -/
def compiler : Compiler := fun _ => .ok artifact

end Unstorable

open Unstorable in
/-- It is the result of a call for a file that is not there, and the report tells that it is not
stored. -/
theorem resolve_calls_unstorable :
    Resolve.calls {} {} false ⟨[3, 4], .inMemory⟩ ⟨[1]⟩ ⟨"s.oBCC"⟩ compiler = [[3, 4]] ∧
      (resolve {} {} false ⟨[3, 4], .inMemory⟩ ⟨[1]⟩ ⟨"s.oBCC"⟩ compiler).result = .ok artifact ∧
      Resolve.Warned (resolve {} {} false ⟨[3, 4], .inMemory⟩ ⟨[1]⟩ ⟨"s.oBCC"⟩ compiler).events := by
  have missed : tryLoad {} ⟨"s.oBCC"⟩ (.ofSource [3, 4] 0 ⟨[1]⟩) = .error .notFound := rfl
  have failed : (store {} {} ⟨"s.oBCC"⟩ (.ofSource [3, 4] 0 ⟨[1]⟩) artifact).result =
      .error (.encode (.invalidArtifact (.badOffset .symbols 1 0))) := rfl
  obtain ⟨_, _, called, _, _, compiled⟩ :=
    resolve_calls {} {} false ⟨[3, 4], .inMemory⟩ ⟨[1]⟩ ⟨"s.oBCC"⟩ compiler
  have once := called.2 (.inr ⟨_, missed⟩)
  obtain ⟨result, _, warned⟩ := compiled once artifact rfl
  exact ⟨once, result, warned.2 ⟨_, failed⟩⟩

end BitcodeCache
