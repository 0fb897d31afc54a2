import BitcodeCache.Proofs.Fingerprint
import BitcodeCache.Proofs.Store.Reading

/-!
# Stores and lookups are a map

From paths without files on, stores and lookups do what the writes and reads of a map do, whatever is
stored, in any order, and whichever stores fail. The invariant is `Agrees`: a path that the map knows
leads to the encoded entry of what the map has there, and no file is where the map has nothing.
-/

namespace BitcodeCache

namespace CacheMap

/-! ## Runs -/

/-- A store, with what it meets, or a lookup. -/
inductive Operation where
  | stores (c : Circumstances) (path : Path) (fingerprint : Fingerprint) (artifact : Artifact)
  | loads (path : Path) (expected : Fingerprint)

/-- The path of an operation. -/
def Operation.path : Operation → Path
  | .stores _ path _ _ => path
  | .loads path _ => path

/-- A disk, and the map of what should be found on it. -/
structure State where
  disk : Disk
  entries : Path → Option (Fingerprint × Artifact)

/-- The state after an operation. A store enters the map where it succeeds; a lookup changes
nothing. -/
def Operation.perform (s : State) : Operation → State
  | .stores c path fingerprint artifact =>
    let outcome := store c s.disk path fingerprint artifact
    { disk := outcome.disk
      entries := match outcome.result with
        | .ok () => fun other => if other = path then some (fingerprint, artifact) else s.entries other
        | .error _ => s.entries }
  | .loads _ _ => s

/-- What a lookup should give for what the map has at its path. -/
inductive Answer (expected : Fingerprint) :
    Option (Fingerprint × Artifact) → Except Miss Entry → Prop where
  | absent : Answer expected none (.error .notFound)
  | fits {header : Header} {artifact : Artifact} (own : header.fingerprint = expected) :
    Answer expected (some (expected, artifact)) (.ok ⟨header, artifact⟩)
  | stale {fingerprint : Fingerprint} {artifact : Artifact} {field : StaleField}
    (differs : FirstDifference expected fingerprint field) :
    Answer expected (some (fingerprint, artifact)) (.error (.stale field))

/-- What is asked of operations on a disk: no path leads to a file at the start, different paths lead
to different places, signatures are within the limit and entries have fewer than 2^63 bytes. -/
structure Orderly (disk : Disk) (operations : List Operation) : Prop where
  fresh : ∀ o ∈ operations, ∀ bytes time,
    disk.get? (o.path.location disk.workingDir) ≠ some (.file bytes time)
  apart : ∀ o ∈ operations, ∀ o' ∈ operations, o.path ≠ o'.path →
    o.path.location disk.workingDir ≠ o'.path.location disk.workingDir
  limit : ∀ c path fingerprint artifact, .stores c path fingerprint artifact ∈ operations →
    fingerprint.toolchain.length ≤ Signature.maxLength
  small : ∀ c path fingerprint artifact bytes, .stores c path fingerprint artifact ∈ operations →
    Entry.encode artifact fingerprint = .ok bytes → bytes.length < 2 ^ 63

/-! ## The invariant -/

/-- The disk has at some paths what the map says. -/
structure Agrees (paths : List Path) (dir : Location) (s : State) : Prop where
  workingDir : s.disk.workingDir = dir
  present : ∀ path ∈ paths, ∀ {fingerprint artifact},
    s.entries path = some (fingerprint, artifact) → s.disk.Holds path fingerprint artifact
  absent : ∀ path ∈ paths, s.entries path = none → ∀ bytes time,
    s.disk.get? (path.location dir) ≠ some (.file bytes time)

variable {paths : List Path} {dir : Location} {s : State} {path : Path}

/-- Where disk and map agree, lookups give what the map asks for. -/
theorem Agrees.answer (agrees : Agrees paths dir s) (member : path ∈ paths)
    (expected : Fingerprint) : Answer expected (s.entries path) (tryLoad s.disk path expected) := by
  cases known : s.entries path with
  | none =>
    have free := agrees.absent path member known
    rw [← agrees.workingDir] at free
    rw [tryLoad_of_no_file expected free]
    exact .absent
  | some entry =>
    obtain ⟨fingerprint, artifact⟩ := entry
    obtain ⟨header, own, answers⟩ := (agrees.present path member known).tryLoad_eq
    rw [answers]
    cases mismatch : expected.firstMismatch? fingerprint with
    | some field => exact .stale (firstDifference_iff.2 mismatch)
    | none =>
      obtain rfl := Fingerprint.firstMismatch?_eq_none_iff.1 mismatch
      exact .fits own

/-! ## Each operation keeps it -/

/-- A store that succeeds changes its own path on the disk and in the map; one that fails changes
neither. -/
theorem Agrees.stores (agrees : Agrees paths dir s) (c : Circumstances) (member : path ∈ paths)
    (apart : ∀ other ∈ paths, other ≠ path → other.location dir ≠ path.location dir)
    {fingerprint : Fingerprint} {artifact : Artifact}
    (limit : fingerprint.toolchain.length ≤ Signature.maxLength)
    (small : ∀ bytes, Entry.encode artifact fingerprint = .ok bytes → bytes.length < 2 ^ 63) :
    Agrees paths dir (Operation.perform s (.stores c path fingerprint artifact)) := by
  have effect := store_effect c s.disk path fingerprint artifact
  rw [Operation.perform]
  cases ran : (store c s.disk path fingerprint artifact).result with
  | error e =>
    refine ⟨effect.workingDir.trans agrees.workingDir, ?_, ?_⟩
    · intro other known f a entry
      exact (agrees.present other known entry).store (.inr ⟨e, ran⟩)
    · intro other known none bytes time there
      rw [effect.file_iff (.inr ⟨e, ran⟩)] at there
      exact agrees.absent other known none bytes time there
  | ok _ =>
    refine ⟨effect.workingDir.trans agrees.workingDir, ?_, ?_⟩
    · intro other known f a entry
      dsimp only at entry
      split at entry
      · rename_i here
        subst here
        cases entry
        exact holds_of_store ran limit small
      · rename_i elsewhere
        have away := apart other known elsewhere
        rw [← agrees.workingDir] at away
        exact (agrees.present other known entry).store (.inl away)
    · intro other known none bytes time there
      dsimp only at none
      split at none
      · cases none
      · rename_i elsewhere
        have away := apart other known elsewhere
        rw [← agrees.workingDir] at away there
        rw [effect.file_iff (.inl away), agrees.workingDir] at there
        exact agrees.absent other known none bytes time there

/-- Every operation of an orderly run keeps the agreement. -/
theorem Agrees.perform {disk : Disk} {operations : List Operation} (orderly : Orderly disk operations)
    (agrees : Agrees (operations.map Operation.path) disk.workingDir s) {o : Operation}
    (member : o ∈ operations) :
    Agrees (operations.map Operation.path) disk.workingDir (o.perform s) := by
  cases o with
  | loads path expected => exact agrees
  | stores c path fingerprint artifact =>
    apply agrees.stores c (List.mem_map_of_mem member)
    · intro other known elsewhere
      obtain ⟨o, inside, rfl⟩ := List.mem_map.1 known
      exact orderly.apart o inside _ member elsewhere
    · exact orderly.limit c path fingerprint artifact member
    · intro bytes encoded
      exact orderly.small c path fingerprint artifact bytes member encoded

/-! ## Whole runs -/

/-- A run of operations keeps the agreement. -/
theorem Agrees.foldl_perform {disk : Disk} {operations past : List Operation}
    (orderly : Orderly disk operations) (within : past ⊆ operations)
    (agrees : Agrees (operations.map Operation.path) disk.workingDir s) :
    Agrees (operations.map Operation.path) disk.workingDir (past.foldl Operation.perform s) := by
  induction past generalizing s with
  | nil => exact agrees
  | cons o past ih =>
    obtain ⟨member, within⟩ := List.cons_subset.1 within
    exact ih within (agrees.perform orderly member)

/-- Every lookup among stores and lookups gives what the map asks for that the stores which succeeded
before it have made. -/
theorem tryLoad_answers {disk : Disk} {operations before after : List Operation}
    {expected : Fingerprint} (orderly : Orderly disk operations)
    (split : operations = before ++ .loads path expected :: after) :
    let now := before.foldl Operation.perform ⟨disk, fun _ => none⟩
    Answer expected (now.entries path) (tryLoad now.disk path expected) := by
  intro now
  have within : before ⊆ operations := by
    rw [split]
    exact List.subset_append_left _ _
  have member : path ∈ operations.map Operation.path := by
    rw [split]
    simp [Operation.path]
  have start : Agrees (operations.map Operation.path) disk.workingDir ⟨disk, fun _ => none⟩ := by
    refine ⟨rfl, ?_, ?_⟩
    · intro _ _ _ _ entry
      cases entry
    · intro other known _
      obtain ⟨o, inside, rfl⟩ := List.mem_map.1 known
      exact orderly.fresh o inside
  exact (start.foldl_perform orderly within).answer member expected

/-! ## A run -/

namespace Sample

open Format.Sample

/-- The fingerprint of the sample with another modification time. -/
def touched : Fingerprint := { fingerprint with modTime := 7 }

/-- An entry is stored, a store over it fails, and another file is stored. -/
def past : List Operation :=
  [.stores {} ⟨"cache/x.oBCC"⟩ fingerprint artifact,
    .stores { noRename := some .busy } ⟨"cache/x.oBCC"⟩ touched { code := [] },
    .stores {} ⟨"cache/y.oBCC"⟩ touched { code := [] }]

/-- The entry is looked up under its own fingerprint and under the other one. -/
def whole : List Operation :=
  past ++ [.loads ⟨"cache/x.oBCC"⟩ fingerprint, .loads ⟨"cache/x.oBCC"⟩ touched]

theorem path_of_mem {o : Operation} (h : o ∈ whole) :
    o.path = ⟨"cache/x.oBCC"⟩ ∨ o.path = ⟨"cache/y.oBCC"⟩ := by
  simp only [whole, past, List.cons_append, List.nil_append, List.mem_cons, List.not_mem_nil,
    or_false] at h
  rcases h with rfl | rfl | rfl | rfl | rfl <;> simp [Operation.path]

theorem orderly : Orderly {} whole where
  fresh := by
    intro o _ bytes time there
    unfold Disk.get? at there
    split at there
    · cases there
    · cases there
  apart := by
    have different : Path.location ⟨"cache/x.oBCC"⟩ [] ≠ Path.location ⟨"cache/y.oBCC"⟩ [] := by
      decide +kernel
    intro o member o' member' other
    rcases path_of_mem member with first | first <;> rcases path_of_mem member' with second | second
    · exact absurd (first.trans second.symm) other
    · rw [first, second]
      exact different
    · rw [first, second]
      exact different.symm
    · exact absurd (first.trans second.symm) other
  limit := by
    intro c path f a member
    simp only [whole, past, List.cons_append, List.nil_append, List.mem_cons,
      Operation.stores.injEq, reduceCtorEq, List.not_mem_nil, or_false] at member
    rcases member with ⟨_, _, rfl, _⟩ | ⟨_, _, rfl, _⟩ | ⟨_, _, rfl, _⟩ <;> decide
  small := by
    have first : (Entry.encode artifact fingerprint).map List.length = .ok 263 := by decide +kernel
    have second : (Entry.encode { code := [] } touched).map List.length = .ok 170 := by
      decide +kernel
    intro c path f a bytes member encoded
    simp only [whole, past, List.cons_append, List.nil_append, List.mem_cons,
      Operation.stores.injEq, reduceCtorEq, List.not_mem_nil, or_false] at member
    rcases member with ⟨_, _, rfl, rfl⟩ | ⟨_, _, rfl, rfl⟩ | ⟨_, _, rfl, rfl⟩
    · rw [encoded] at first
      injection first with length
      omega
    · rw [encoded] at second
      injection second with length
      omega
    · rw [encoded] at second
      injection second with length
      omega

end Sample

open Sample in
theorem tryLoad_answers_sample : Orderly {} whole ∧
    (∃ before after, whole = before ++ .loads ⟨"cache/x.oBCC"⟩ Format.Sample.fingerprint :: after ∧
      ∃ header, header.fingerprint = Format.Sample.fingerprint ∧
        tryLoad (before.foldl Operation.perform ⟨{}, fun _ => none⟩).disk ⟨"cache/x.oBCC"⟩
          Format.Sample.fingerprint = .ok ⟨header, Format.Sample.artifact⟩) ∧
    ∃ before after, whole = before ++ .loads ⟨"cache/x.oBCC"⟩ touched :: after ∧
      tryLoad (before.foldl Operation.perform ⟨{}, fun _ => none⟩).disk ⟨"cache/x.oBCC"⟩ touched =
        .error (.stale .modTime) := by
  have known : (past.foldl Operation.perform ⟨{}, fun _ => none⟩).entries ⟨"cache/x.oBCC"⟩ =
      some (Format.Sample.fingerprint, Format.Sample.artifact) := by decide +kernel
  refine ⟨orderly, ⟨past, _, rfl, ?_⟩, past ++ [_], [], rfl, ?_⟩
  · have answer := tryLoad_answers orderly
      (show whole = past ++ .loads ⟨"cache/x.oBCC"⟩ Format.Sample.fingerprint :: _ from rfl)
    dsimp only at answer
    rw [known] at answer
    generalize tryLoad _ _ _ = result at answer ⊢
    cases answer with
    | fits own => exact ⟨_, own, rfl⟩
    | stale differs => cases differs <;> contradiction
  · have answer := tryLoad_answers orderly
      (show whole = (past ++ [_]) ++ .loads ⟨"cache/x.oBCC"⟩ touched :: [] from rfl)
    rw [List.foldl_append] at answer ⊢
    change Answer touched ((past.foldl Operation.perform ⟨{}, fun _ => none⟩).entries _) _ at answer
    generalize tryLoad _ _ _ = result at answer ⊢
    generalize State.entries _ _ = entry at answer known
    cases answer with
    | absent => cases known
    | fits own =>
      injection known with same
      injection same with same _
      exact absurd same (by decide +kernel)
    | stale differs =>
      injection known with same
      injection same with same _
      rw [same, firstDifference_iff] at differs
      have field : touched.firstMismatch? Format.Sample.fingerprint = some .modTime := by
        decide +kernel
      rw [field] at differs
      cases differs
      rfl

end CacheMap

end BitcodeCache
