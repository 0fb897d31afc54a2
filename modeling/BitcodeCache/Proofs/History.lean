import BitcodeCache.Proofs.Resolve
import BitcodeCache.ScriptCache

/-!
# Histories

A history is a sequence of calls of the library, each with its own circumstances, and of changes to
the disk between them. Calls by resource name come down to calls by path.
-/

namespace BitcodeCache.History

/-- A call of the library, and what its store meets if it comes to one. -/
inductive Call where
  | resolve (c : Circumstances) (bypass : Bool) (source : Source) (toolchain : Signature)
    (path : Path)
  | load (c : Circumstances) (cache : ScriptCache) (name : String) (source : Source)

namespace Call

/-- The source of a call. -/
def source : Call → Source
  | .resolve _ _ source _ _ => source
  | .load _ _ _ source => source

/-- The toolchain of a call. -/
def toolchain : Call → Signature
  | .resolve _ _ _ toolchain _ => toolchain
  | .load _ cache _ _ => cache.toolchain

/-- The cache file of a call, which a resource name may fail to have. -/
def path : Call → Except SettingsError Path
  | .resolve _ _ _ _ path => .ok path
  | .load _ cache name _ => cache.path name

/-- The same call with the cache bypassed. -/
def bypassing : Call → Call
  | .resolve c _ source toolchain path => .resolve c true source toolchain path
  | .load c cache name source => .load c { cache with bypass := true } name source

/-- The fingerprint of a call on a disk. -/
def fingerprint (call : Call) (disk : Disk) : Except FingerprintError Fingerprint :=
  Fingerprint.build (m := Id) disk.modified call.source.bytes call.source.origin call.toolchain

/-- A call on a disk, with a compiler for every toolchain. -/
def run (compile : Bytes → Signature → Except String Artifact) (disk : Disk) : Call → Resolution
  | .resolve c bypass source toolchain path =>
    BitcodeCache.resolve c disk bypass source toolchain path fun bytes => compile bytes toolchain
  | .load c cache name source =>
    cache.load c disk name source fun bytes => compile bytes cache.toolchain

variable {compile : Bytes → Signature → Except String Artifact} {disk : Disk} {path : Path}

@[simp] theorem bypassing_source (call : Call) : call.bypassing.source = call.source := by
  cases call <;> rfl

@[simp] theorem bypassing_toolchain (call : Call) : call.bypassing.toolchain = call.toolchain := by
  cases call <;> rfl

@[simp] theorem bypassing_path (call : Call) : call.bypassing.path = call.path := by
  cases call <;> rfl

@[simp] theorem bypassing_fingerprint (call : Call) (disk : Disk) :
    call.bypassing.fingerprint disk = call.fingerprint disk := by
  cases call <;> rfl

/-- Both kinds of calls resolve a source under the path that they name. -/
theorem run_eq_resolve {call : Call} (named : call.path = .ok path)
    (compile : Bytes → Signature → Except String Artifact) (disk : Disk) :
    ∃ c bypass, call.run compile disk = BitcodeCache.resolve c disk bypass call.source
      call.toolchain path fun bytes => compile bytes call.toolchain := by
  cases call with
  | resolve c bypass source toolchain path =>
    cases named
    exact ⟨c, bypass, rfl⟩
  | load c cache name source =>
    have named : cache.path name = .ok path := named
    refine ⟨c, cache.bypass, ?_⟩
    rw [run, ScriptCache.load, named]
    rfl

/-- A call without a cache file ends at once. -/
theorem run_of_path_error {call : Call} {e : SettingsError} (unnamed : call.path = .error e) :
    call.run compile disk = ⟨.error (.cachePath e), none, disk, []⟩ := by
  cases call with
  | resolve c bypass source toolchain path => cases unnamed
  | load c cache name source =>
    have unnamed : cache.path name = .error e := unnamed
    rw [run, ScriptCache.load, unnamed]

/-- A call without a fingerprint ends at once. -/
theorem run_of_fingerprint_error {call : Call} {e : FingerprintError}
    (named : call.path = .ok path) (refused : call.fingerprint disk = .error e) :
    call.run compile disk = ⟨.error (.fingerprint e), none, disk, []⟩ := by
  obtain ⟨c, bypass, same⟩ := run_eq_resolve named compile disk
  rw [same, resolve_of_error refused]

/-- Every other call takes one of the courses of `resolve`. -/
theorem outcome {call : Call} {fingerprint : Fingerprint} (named : call.path = .ok path)
    (built : call.fingerprint disk = .ok fingerprint)
    (compile : Bytes → Signature → Except String Artifact) :
    ∃ c bypass, Resolve.Outcome c disk bypass path fingerprint call.source.bytes
      (fun bytes => compile bytes call.toolchain) (call.run compile disk).result
      (call.run compile disk).disk := by
  obtain ⟨c, bypass, same⟩ := run_eq_resolve named compile disk
  rw [same]
  exact ⟨c, bypass, resolve_outcome built⟩

end Call

/-- What happens next in a history: a call, a change to cache files, or a change elsewhere. A change
to a cache file that the disk refuses does not happen. -/
inductive Action where
  | calls (call : Call)
  | deletes (path : Path)
  | truncates (path : Path) (length : Nat)
  | renames (path target : Path)
  | elsewhere (change : Disk → Disk)

namespace Action

/-- The cache files that an action names. -/
def paths : Action → List Path
  | .calls call => call.path.toOption.toList
  | .deletes path => [path]
  | .truncates path _ => [path]
  | .renames path target => [path, target]
  | .elsewhere _ => []

/-- The sources that an action gives to a call. -/
def sources : Action → List Bytes
  | .calls call => [call.source.bytes]
  | _ => []

/-- The cache files that a history names. -/
def allPaths (actions : List Action) : List Path := actions.flatMap paths

/-- The sources of a history's calls. -/
def allSources (actions : List Action) : List Bytes := actions.flatMap sources

/-- The paths of an action are among those of the history. -/
theorem mem_allPaths {actions : List Action} {action : Action} {path : Path}
    (member : action ∈ actions) (own : path ∈ action.paths) : path ∈ allPaths actions :=
  List.mem_flatMap.2 ⟨action, member, own⟩

/-- The source of a call is among those of the history. -/
theorem mem_allSources {actions : List Action} {call : Call} (member : .calls call ∈ actions) :
    call.source.bytes ∈ allSources actions :=
  List.mem_flatMap.2 ⟨.calls call, member, List.mem_singleton_self _⟩

/-- The path that a call names is one of its action. -/
theorem mem_paths_calls {call : Call} {path : Path} (named : call.path = .ok path) :
    path ∈ (Action.calls call).paths := by
  simp [paths, named, Except.toOption]

/-- The disk after an action. -/
def perform (compile : Bytes → Signature → Except String Artifact) (disk : Disk) : Action → Disk
  | .calls call => (call.run compile disk).disk
  | .deletes path => (disk.remove path).toOption.getD disk
  | .truncates path length => (disk.edit path (·.take length)).toOption.getD disk
  | .renames path target =>
    match disk.read path with
    | .ok _ => (disk.rename path target).toOption.getD disk
    | .error _ => disk
  | .elsewhere change => change disk

end Action

end BitcodeCache.History
