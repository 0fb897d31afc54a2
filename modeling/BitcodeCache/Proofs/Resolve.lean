import BitcodeCache.Resolve

/-!
# The courses of a call

With a fingerprint, `resolve` takes one of three courses: the entry is used, the compiler refuses
the source, or what the compiler makes is stored.
-/

namespace BitcodeCache

/-! ## Modification times -/

/-- The modification time, on a disk, of what a source came from. -/
inductive Origin.HasTime (disk : Disk) : Origin → Int64 → Prop where
  | inMemory : HasTime disk .inMemory 0
  | modTime (seconds : Int64) : HasTime disk (.modTime seconds) seconds
  | file {path : Path} {time : FileTime} (read : disk.modified path = .ok time) :
    HasTime disk (.file path) time.seconds

/-- A source has a fingerprint where its origin has a modification time. -/
theorem Fingerprint.build_eq_ok_iff {disk : Disk} {origin : Origin} {source : Bytes}
    {toolchain : Signature} {fingerprint : Fingerprint} :
    build (m := Id) disk.modified source origin toolchain = .ok fingerprint ↔
      ∃ modTime, origin.HasTime disk modTime ∧ fingerprint = ofSource source modTime toolchain := by
  constructor
  · intro h
    cases origin with
    | inMemory =>
      cases h
      exact ⟨0, .inMemory, rfl⟩
    | modTime seconds =>
      cases h
      exact ⟨seconds, .modTime seconds, rfl⟩
    | file path =>
      unfold build at h
      cases read : disk.modified path with
      | ok time =>
        simp only [read] at h
        cases h
        exact ⟨time.seconds, .file read, rfl⟩
      | error cause =>
        simp only [read] at h
        cases h
  · rintro ⟨modTime, time, rfl⟩
    cases time with
    | inMemory => rfl
    | modTime => rfl
    | file read =>
      unfold build
      simp only [read]
      rfl

/-- Every fingerprint that is built is that of its source at some time. -/
theorem Fingerprint.eq_ofSource_of_build {disk : Disk} {source : Bytes} {origin : Origin}
    {toolchain : Signature} {fingerprint : Fingerprint}
    (h : build (m := Id) disk.modified source origin toolchain = .ok fingerprint) :
    ∃ modTime, fingerprint = ofSource source modTime toolchain := by
  obtain ⟨modTime, _, same⟩ := build_eq_ok_iff.1 h
  exact ⟨modTime, same⟩

/-! ## Courses -/

namespace Resolve

/-- What becomes of a call with a fingerprint: its result, and the disk afterwards. -/
inductive Outcome (c : Circumstances) (disk : Disk) (bypass : Bool) (path : Path)
    (fingerprint : Fingerprint) (bytes : Bytes) (compile : Compiler) :
    Except ResolveError Artifact → Disk → Prop where
  | hit {entry : Entry} (looked : bypass = false)
    (loaded : tryLoad disk path fingerprint = .ok entry) :
    Outcome c disk bypass path fingerprint bytes compile (.ok entry.artifact) disk
  | refused {cause : String} (refused : compile bytes = .error cause) :
    Outcome c disk bypass path fingerprint bytes compile (.error (.compile cause)) disk
  | compiled {artifact : Artifact} (made : compile bytes = .ok artifact) :
    Outcome c disk bypass path fingerprint bytes compile (.ok artifact)
      (store c disk path fingerprint artifact).disk

end Resolve

variable {c : Circumstances} {disk : Disk} {bypass : Bool} {source : Source} {toolchain : Signature}
  {path : Path} {compile : Compiler} {fingerprint : Fingerprint}

/-- Compiling and storing comes to one of the outcomes of a call. -/
theorem Resolve.compileAndStore_outcome {before : List Event} {bytes : Bytes} :
    Outcome c disk bypass path fingerprint bytes compile
      (compileAndStore c disk path fingerprint bytes compile before).result
      (compileAndStore c disk path fingerprint bytes compile before).disk := by
  unfold compileAndStore
  split
  · rename_i refused
    exact .refused refused
  · rename_i made
    exact .compiled made

/-- The compiler is given the bytes, whether or not it refuses them. -/
theorem Resolve.compiled_compileAndStore {before : List Event} {bytes : Bytes} :
    (compileAndStore c disk path fingerprint bytes compile before).compiled = some bytes := by
  unfold compileAndStore
  cases compile bytes <;> rfl

/-- With a fingerprint, every call comes to one of the outcomes. -/
theorem resolve_outcome
    (built : Fingerprint.build (m := Id) disk.modified source.bytes source.origin toolchain =
      .ok fingerprint) :
    Resolve.Outcome c disk bypass path fingerprint source.bytes compile
      (resolve c disk bypass source toolchain path compile).result
      (resolve c disk bypass source toolchain path compile).disk := by
  rw [resolve, built]
  dsimp only
  cases bypass with
  | true => exact Resolve.compileAndStore_outcome
  | false =>
    cases loaded : tryLoad disk path fingerprint with
    | ok entry => exact .hit rfl loaded
    | error miss => exact Resolve.compileAndStore_outcome

/-- Without a fingerprint nothing happens. -/
theorem resolve_of_error {e : FingerprintError}
    (refused : Fingerprint.build (m := Id) disk.modified source.bytes source.origin toolchain =
      .error e) :
    resolve c disk bypass source toolchain path compile =
      ⟨.error (.fingerprint e), none, disk, []⟩ := by
  rw [resolve, refused]

end BitcodeCache
