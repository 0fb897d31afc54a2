import BitcodeCache.Proofs.Entry.Encoding
import BitcodeCache.Proofs.Entry.Load
import BitcodeCache.Proofs.History
import BitcodeCache.Proofs.Lookup
import BitcodeCache.Proofs.Store

/-!
# A cache is not seen in results

Whatever happened before, a call gives what the compiler makes of its source. The invariant is
`Genuine`: a cache file is a part, from the front, of the entry that was stored for a source under
its own fingerprint. A part that is used is the whole entry, and the fingerprint tells the source.
-/

namespace BitcodeCache.History

/-! ## Orderly histories -/

/-- The other disk has no cache file that is not on this one, and the same working directory. -/
structure LeavesCaches (paths : List Path) (disk disk' : Disk) : Prop where
  workingDir : disk'.workingDir = disk.workingDir
  files : ∀ path ∈ paths, ∀ {content time},
    disk'.get? (path.location disk.workingDir) = some (.file content time) →
      ∃ time', disk.get? (path.location disk.workingDir) = some (.file content time')

/-- What the compiler makes of a source under a toolchain has entries of fewer than 2^63 bytes. -/
def Small (compile : Bytes → Signature → Except String Artifact) (bytes : Bytes)
    (toolchain : Signature) : Prop :=
  ∀ artifact modTime entry, compile bytes toolchain = .ok artifact →
    Entry.encode artifact (.ofSource bytes modTime toolchain) = .ok entry → entry.length < 2 ^ 63

/-- Different sources differ in their checksum or in their digest. -/
def ToldApart (sources : List Bytes) : Prop :=
  ∀ bytes ∈ sources, ∀ bytes' ∈ sources, crc32 bytes = crc32 bytes' →
    Digest.ofSource bytes = Digest.ofSource bytes' → bytes = bytes'

/-- What is asked of a history: entries have fewer than 2^63 bytes, different sources differ in
checksum or digest, and changes elsewhere are elsewhere. -/
structure Orderly (compile : Bytes → Signature → Except String Artifact) (actions : List Action) :
    Prop where
  small : ∀ call, .calls call ∈ actions → Small compile call.source.bytes call.toolchain
  distinct : ToldApart (Action.allSources actions)
  elsewhere : ∀ change, .elsewhere change ∈ actions → ∀ disk,
    LeavesCaches (Action.allPaths actions) disk (change disk)

/-! ## The invariant -/

variable {compile : Bytes → Signature → Except String Artifact} {sources : List Bytes}
  {paths : List Path} {disk disk' : Disk} {content : Bytes}

/-- The content of a cache file: a part, from the front, of the entry of some source. -/
def Genuine (compile : Bytes → Signature → Except String Artifact) (sources : List Bytes)
    (content : Bytes) : Prop :=
  ∃ bytes ∈ sources, ∃ toolchain modTime artifact entry, compile bytes toolchain = .ok artifact ∧
    Entry.encode artifact (.ofSource bytes modTime toolchain) = .ok entry ∧
      entry.length < 2 ^ 63 ∧ content <+: entry

/-- A part of a part is a part. -/
theorem Genuine.take (h : Genuine compile sources content) (n : Nat) :
    Genuine compile sources (content.take n) := by
  obtain ⟨bytes, known, toolchain, modTime, artifact, entry, made, encoded, small, part⟩ := h
  have shorter := (List.take_prefix n content).trans part
  exact ⟨bytes, known, toolchain, modTime, artifact, entry, made, encoded, small, shorter⟩

/-- What is used of a cache file is what the compiler makes of the source it is used for. -/
theorem Genuine.compile_eq (h : Genuine compile sources content) (distinct : ToldApart sources)
    {bytes : Bytes} (known : bytes ∈ sources) {modTime : Int64} {toolchain : Signature}
    {entry : Entry} (loaded : Entry.load content (.ofSource bytes modTime toolchain) = .ok entry) :
    compile bytes toolchain = .ok entry.artifact := by
  obtain ⟨bytes', known', toolchain', modTime', artifact, _, made, encoded, small, part⟩ := h
  obtain ⟨decoded, agrees⟩ := Entry.load_eq_ok_iff.1 loaded
  obtain ⟨payload, written⟩ := Entry.encode_eq_ok_iff.1 encoded
  obtain rfl := written.eq_of_prefix (by omega) part decoded
  injection agrees with digest _ crc signature
  rw [← distinct bytes' known' bytes known crc digest, ← signature]
  exact made

/-- Every cache file of a disk is genuine. -/
def Sound (compile : Bytes → Signature → Except String Artifact) (sources : List Bytes)
    (paths : List Path) (disk : Disk) : Prop :=
  ∀ path ∈ paths, ∀ {content time},
    disk.get? (path.location disk.workingDir) = some (.file content time) →
      Genuine compile sources content

/-! ## Each action keeps it -/

/-- What brings no cache file keeps the caches sound. -/
theorem Sound.leaves (sound : Sound compile sources paths disk)
    (leaves : LeavesCaches paths disk disk') : Sound compile sources paths disk' := by
  intro path member content time there
  rw [leaves.workingDir] at there
  obtain ⟨_, before⟩ := leaves.files path member there
  exact sound path member before

/-- New directories bring no cache file. -/
theorem leavesCaches_of_grows {dir : Path} (grows : Disk.Grows dir disk disk') :
    LeavesCaches paths disk disk' where
  workingDir := grows.workingDir
  files := by
    intro path _ content time there
    rcases grows.nodes (path.location disk.workingDir) with same | ⟨_, made, _⟩
    · exact ⟨time, same ▸ there⟩
    · rw [made] at there
      cases there

/-- Putting a genuine file, or none, in one place keeps the caches sound. -/
theorem Sound.becomes {loc : Location} {node : Option Node}
    (sound : Sound compile sources paths disk) (becomes : disk.Becomes loc node disk')
    (genuine : ∀ {content time}, node = some (.file content time) →
      Genuine compile sources content) : Sound compile sources paths disk' := by
  intro path member content time there
  rw [becomes.workingDir] at there
  by_cases here : path.location disk.workingDir = loc
  · rw [here, becomes.there] at there
    exact genuine there
  · rw [becomes.others _ here] at there
    exact sound path member there

/-- A call stores what the compiler made of its source, or nothing. -/
theorem Sound.calls (sound : Sound compile sources paths disk) {call : Call}
    (known : call.source.bytes ∈ sources)
    (small : Small compile call.source.bytes call.toolchain) :
    Sound compile sources paths (call.run compile disk).disk := by
  cases named : call.path with
  | error e =>
    rw [Call.run_of_path_error named]
    exact sound
  | ok path =>
    cases built : call.fingerprint disk with
    | error e =>
      rw [Call.run_of_fingerprint_error named built]
      exact sound
    | ok fingerprint =>
      obtain ⟨c, bypass, outcome⟩ := Call.outcome named built compile
      obtain ⟨modTime, rfl⟩ := Fingerprint.eq_ofSource_of_build built
      generalize (call.run compile disk).disk = disk' at outcome ⊢
      generalize (call.run compile disk).result = result at outcome
      cases outcome with
      | hit _ _ => exact sound
      | refused _ => exact sound
      | @compiled artifact made =>
        have effect := store_effect c disk path (.ofSource call.source.bytes modTime call.toolchain)
          artifact
        generalize (store c disk path _ artifact).disk = disk' at effect ⊢
        generalize (store c disk path _ artifact).result = result at effect
        cases effect with
        | failed grows => exact sound.leaves (leavesCaches_of_grows grows)
        | stored encoded grows _ becomes _ =>
          refine (sound.leaves (leavesCaches_of_grows grows)).becomes becomes ?_
          intro content time same
          cases same
          -- what was just stored is the whole of an entry
          exact ⟨_, known, call.toolchain, modTime, artifact, _, made, encoded,
            small artifact modTime _ made encoded, List.prefix_rfl⟩

theorem Sound.deletes (sound : Sound compile sources paths disk) (path : Path) :
    Sound compile sources paths (Action.perform compile disk (.deletes path)) := by
  rw [Action.perform]
  cases removed : disk.remove path with
  | error cause => exact sound
  | ok disk' =>
    obtain ⟨loc, content, time, _, there, rfl⟩ := Disk.remove_eq_ok_iff.1 removed
    refine sound.becomes (Disk.becomes_erase ?_) (by nofun)
    exact Disk.ne_nil_of_not_directory disk (by simp [there])

/-- A cache file that is cut off is genuine still. -/
theorem Sound.truncates (sound : Sound compile sources paths disk) {path : Path}
    (member : path ∈ paths) (length : Nat) :
    Sound compile sources paths (Action.perform compile disk (.truncates path length)) := by
  rw [Action.perform]
  cases edited : disk.edit path (·.take length) with
  | error cause => exact sound
  | ok disk' =>
    obtain ⟨content, time, there, becomes⟩ := Disk.edit_spec edited
    refine sound.becomes becomes ?_
    intro content' time' same
    cases same
    exact (sound path member there).take length

/-- A cache file may come to any place, as the fingerprint inside tells its source. -/
theorem Sound.renames (sound : Sound compile sources paths disk) {path : Path}
    (member : path ∈ paths) (target : Path) :
    Sound compile sources paths (Action.perform compile disk (.renames path target)) := by
  rw [Action.perform]
  cases opened : disk.read path with
  | error cause => exact sound
  | ok content =>
    cases moved : disk.rename path target with
    | error cause => exact sound
    | ok disk' =>
      obtain ⟨time, there⟩ := Disk.get?_of_read opened
      obtain ⟨_, _, mid, gone, put⟩ := Disk.rename_spec moved there
      refine (sound.becomes gone (by nofun)).becomes put ?_
      intro content' time' same
      cases same
      exact sound path member there

/-! ## Whole histories -/

variable {actions : List Action}

/-- Each action of an orderly history keeps the caches sound. -/
theorem Sound.perform (orderly : Orderly compile actions) {action : Action}
    (member : action ∈ actions)
    (sound : Sound compile (Action.allSources actions) (Action.allPaths actions) disk) :
    Sound compile (Action.allSources actions) (Action.allPaths actions)
      (action.perform compile disk) := by
  cases action with
  | calls call => exact sound.calls (Action.mem_allSources member) (orderly.small call member)
  | deletes path => exact sound.deletes path
  | truncates path length =>
    exact sound.truncates (Action.mem_allPaths member List.mem_cons_self) length
  | renames path target =>
    exact sound.renames (Action.mem_allPaths member List.mem_cons_self) target
  | elsewhere change => exact sound.leaves (orderly.elsewhere change member disk)

/-- A history of such actions keeps the caches sound. -/
theorem Sound.foldl_perform (orderly : Orderly compile actions) {past : List Action}
    (within : past ⊆ actions)
    (sound : Sound compile (Action.allSources actions) (Action.allPaths actions) disk) :
    Sound compile (Action.allSources actions) (Action.allPaths actions)
      (past.foldl (Action.perform compile) disk) := by
  induction past generalizing disk with
  | nil => exact sound
  | cons action past ih =>
    obtain ⟨member, within⟩ := List.cons_subset.1 within
    exact ih within (sound.perform orderly member)

/-- On a disk whose cache files are genuine, a call gives what the compiler makes of its source. -/
theorem Sound.result_eq (sound : Sound compile sources paths disk) (distinct : ToldApart sources)
    {call : Call} (known : call.source.bytes ∈ sources) {path : Path} (member : path ∈ paths)
    (named : call.path = .ok path) {fingerprint : Fingerprint}
    (built : call.fingerprint disk = .ok fingerprint) : (call.run compile disk).result =
      (compile call.source.bytes call.toolchain).mapError ResolveError.compile := by
  obtain ⟨c, bypass, outcome⟩ := Call.outcome named built compile
  obtain ⟨modTime, rfl⟩ := Fingerprint.eq_ofSource_of_build built
  generalize (call.run compile disk).disk = disk' at outcome
  generalize (call.run compile disk).result = result at outcome ⊢
  cases outcome with
  | hit _ loaded =>
    -- a hit is the only answer that the files decide
    cases opened : disk.read path with
    | error cause =>
      rw [tryLoad, opened] at loaded
      cases loaded
    | ok content =>
      rw [tryLoad_of_read opened] at loaded
      obtain ⟨time, there⟩ := Disk.get?_of_read opened
      rw [(sound path member there).compile_eq distinct known loaded]
      rfl
  | refused refused =>
    rw [refused]
    rfl
  | compiled made =>
    rw [made]
    rfl

/-- With sound caches a call gives what it gives without them. -/
theorem Sound.result_bypassing (sound : Sound compile sources paths disk)
    (distinct : ToldApart sources) {call : Call} (known : call.source.bytes ∈ sources)
    (own : ∀ {path}, call.path = .ok path → path ∈ paths) :
    (call.bypassing.run compile disk).result = (call.run compile disk).result := by
  cases named : call.path with
  | error e =>
    have named' : call.bypassing.path = .error e := by rw [Call.bypassing_path, named]
    rw [Call.run_of_path_error named, Call.run_of_path_error named']
  | ok path =>
    have named' : call.bypassing.path = .ok path := by rw [Call.bypassing_path, named]
    cases built : call.fingerprint disk with
    | error e =>
      have built' : call.bypassing.fingerprint disk = .error e := by
        rw [Call.bypassing_fingerprint, built]
      rw [Call.run_of_fingerprint_error named built, Call.run_of_fingerprint_error named' built']
    | ok fingerprint =>
      have built' : call.bypassing.fingerprint disk = .ok fingerprint := by
        rw [Call.bypassing_fingerprint, built]
      have known' : call.bypassing.source.bytes ∈ sources := by
        rw [Call.bypassing_source]
        exact known
      rw [sound.result_eq distinct known (own named) named built,
        sound.result_eq distinct known' (own named) named' built', Call.bypassing_source,
        Call.bypassing_toolchain]

/-- Whatever happened before, a call that has a fingerprint and a cache file gives what the compiler
makes of its source under its toolchain, and every call gives what it would give with the cache
bypassed. -/
theorem result_eq_compile (orderly : Orderly compile actions)
    (fresh : ∀ path ∈ Action.allPaths actions, ∀ content time,
      disk.get? (path.location disk.workingDir) ≠ some (.file content time))
    {before after : List Action} {call : Call} (split : actions = before ++ .calls call :: after) :
    let now := before.foldl (Action.perform compile) disk
    (∀ path fingerprint, call.path = .ok path → call.fingerprint now = .ok fingerprint →
      (call.run compile now).result =
        (compile call.source.bytes call.toolchain).mapError ResolveError.compile) ∧
    (call.run compile now).result = (call.bypassing.run compile now).result := by
  intro now
  have within : before ⊆ actions := by
    rw [split]
    exact List.subset_append_left _ _
  have member : .calls call ∈ actions := by
    rw [split]
    exact List.mem_append_right _ List.mem_cons_self
  have known := Action.mem_allSources member
  have own {path : Path} (named : call.path = .ok path) : path ∈ Action.allPaths actions :=
    Action.mem_allPaths member (Action.mem_paths_calls named)
  have start : Sound compile (Action.allSources actions) (Action.allPaths actions) disk := by
    intro path member content time there
    exact absurd there (fresh path member content time)
  have sound := start.foldl_perform orderly within
  constructor
  · intro path fingerprint named built
    exact sound.result_eq orderly.distinct known (own named) named built
  · exact (sound.result_bypassing orderly.distinct known own).symm

/-! ## A history -/

namespace Sample

/-- A compiler that takes a source for code, unless there is none. -/
def compiler (bytes : Bytes) (_ : Signature) : Except String Artifact :=
  if bytes = [] then .error "no source" else .ok { code := bytes }

/-- A call by resource name. -/
def load (name : String) (bytes : Bytes) : Call :=
  .load {} ⟨⟨"cache"⟩, ⟨[1]⟩, false⟩ name ⟨bytes, .inMemory⟩

/-- Two resources with one cache file are loaded, and the file is damaged. -/
def past : List Action :=
  [.calls (load "a/b" [3, 4]), .calls (load "a:b" [5]), .truncates ⟨"cache/a@b.oBCC"⟩ 80,
    .elsewhere fun disk => { disk with clock := .epoch }]

/-- The second resource is loaded again. -/
def whole : List Action := past ++ [.calls (load "a:b" [5])]

theorem small_load {name : String} {bytes : Bytes} (source : bytes ≠ []) {n : Nat}
    (sized : (Payload.encode { code := bytes }).map List.length = .ok n) (short : n < 2 ^ 62) :
    Small compiler (load name bytes).source.bytes (load name bytes).toolchain := by
  intro artifact modTime entry made encoded
  obtain ⟨payload, written⟩ := Entry.encode_eq_ok_iff.1 encoded
  have code : ({ code := bytes } : Artifact) = artifact := by
    have : compiler bytes ⟨[1]⟩ = .ok artifact := made
    rw [compiler, if_neg source] at this
    injection this
  rw [code, written.encoded] at sized
  injection sized with length
  have whole : entry.length = 44 + 1 + 12 + payload.length := written.length
  omega

theorem orderly : Orderly compiler whole where
  small := by
    intro call member
    simp only [whole, past, List.cons_append, List.nil_append, List.mem_cons, Action.calls.injEq,
      reduceCtorEq, false_or, List.not_mem_nil, or_false, or_self] at member
    have four : (Payload.encode { code := [3, 4] }).map List.length = .ok 114 := by decide +kernel
    have five : (Payload.encode { code := [5] }).map List.length = .ok 113 := by decide +kernel
    rcases member with rfl | rfl
    · exact small_load (by simp) four (by decide)
    · exact small_load (by simp) five (by decide)
  distinct := by
    have different : crc32 [3, 4] ≠ crc32 [5] := by decide +kernel
    intro bytes member bytes' member' same _
    simp only [whole, past, load, Action.allSources, Action.sources, Call.source,
      List.cons_append, List.nil_append, List.flatMap_cons, List.flatMap_nil, List.mem_cons,
      List.not_mem_nil, or_false, or_self] at member member'
    rcases member with rfl | rfl
    · rcases member' with rfl | rfl
      · rfl
      · exact absurd same different
    · rcases member' with rfl | rfl
      · exact absurd same.symm different
      · rfl
  elsewhere := by
    intro change member disk
    simp only [whole, past, List.cons_append, List.nil_append, List.mem_cons,
      Action.elsewhere.injEq, reduceCtorEq, false_or, List.not_mem_nil, or_false] at member
    subst member
    exact ⟨rfl, fun _ _ _ time there => ⟨time, there⟩⟩

end Sample

theorem result_eq_compile_sample : Orderly Sample.compiler Sample.whole ∧
    (∀ path ∈ Action.allPaths Sample.whole, ∀ content time,
      ({} : Disk).get? (path.location []) ≠ some (.file content time)) ∧
    Sample.whole = Sample.past ++ .calls (Sample.load "a:b" [5]) :: [] ∧
    ((Sample.load "a:b" [5]).run Sample.compiler
      (Sample.past.foldl (Action.perform Sample.compiler) {})).result = .ok { code := [5] } := by
  have fresh : ∀ path ∈ Action.allPaths Sample.whole, ∀ content time,
      ({} : Disk).get? (path.location []) ≠ some (.file content time) := by
    intro path _ content time there
    unfold Disk.get? at there
    split at there
    · cases there
    · cases there
  have named : (Sample.load "a:b" [5]).path = .ok ⟨"cache/a@b.oBCC"⟩ := by decide +kernel
  have results := result_eq_compile Sample.orderly fresh rfl
  exact ⟨Sample.orderly, fresh, rfl, results.1 _ _ named rfl⟩

end BitcodeCache.History
