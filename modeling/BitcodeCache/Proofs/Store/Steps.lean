import BitcodeCache.Proofs.Store
import Mathlib.Logic.Function.Basic
import Mathlib.Logic.Relation

/-!
# Stores step by step

Several stores may be under way on one disk, in any order of their steps, and each of them may end
after any step: `Step` says what can happen next. A temporary file takes its bytes in pieces of any
size, and only a full and flushed one is renamed. Two stores never share a temporary file, since a
file is only created where nothing is; that its place is no store's target either is required where
it is created.

What `store` does at once is a run of such steps, whatever it meets (`store_steps`), and so is a
store that fails with a part of its bytes written (`writeFilled_steps`).
-/

namespace BitcodeCache.Store

open Disk

/-- What is to be stored where. -/
structure Request where
  path : Path
  fingerprint : Fingerprint
  artifact : Artifact

/-- The path has a file name and the entry can be encoded, so the store comes to the disk at all. -/
structure Request.Encodes (request : Request) (name : String) (bytes : Bytes) : Prop where
  named : request.path.fileName? = some name
  encoded : Entry.encode request.artifact request.fingerprint = .ok bytes

/-- How far a store is. A temporary file that is being filled is known with what it still lacks. -/
inductive Phase where
  | preparing
  | filling (temporary : Path) (rest : Bytes)
  | flushed (temporary : Path)
  | ended

/-- The temporary file that a store has, and the bytes that it lacks. -/
def Phase.temporary? : Phase → Option (Path × Bytes)
  | .preparing => none
  | .filling temporary rest => some (temporary, rest)
  | .flushed temporary => some (temporary, [])
  | .ended => none

/-- The disk, how far each of the stores is, and those that have renamed their temporary files, the
last one first. -/
structure State (ι : Type) where
  disk : Disk
  phase : ι → Phase
  renamed : List ι

variable {ι : Type} [DecidableEq ι]

/-- No store has done anything. -/
def State.initial (disk : Disk) : State ι where
  disk := disk
  phase := fun _ => .preparing
  renamed := []

/-- One store goes to another phase and leaves another disk. -/
def State.advance (now : State ι) (i : ι) (phase : Phase) (disk : Disk) : State ι where
  disk := disk
  phase := Function.update now.phase i phase
  renamed := now.renamed

/-- One store is over, with its result. -/
def State.finish (now : State ι) (i : ι) (ending : Except WriteError Unit × Disk) : State ι where
  disk := ending.2
  phase := Function.update now.phase i .ended
  renamed :=
    match ending.1 with
    | .ok () => i :: now.renamed
    | .error _ => now.renamed

/-- Of two changes of one store's phase the later one counts. -/
@[simp]
theorem State.advance_advance (now : State ι) (i : ι) (phase phase' : Phase) (disk disk' : Disk) :
    (now.advance i phase disk).advance i phase' disk' = now.advance i phase' disk' := by
  simp [State.advance]

/-- How a store ends does not depend on the phase it was in. -/
@[simp]
theorem State.finish_advance (now : State ι) (i : ι) (phase : Phase) (disk : Disk)
    (ending : Except WriteError Unit × Disk) :
    (now.advance i phase disk).finish i ending = now.finish i ending := by
  simp [State.finish, State.advance]

@[simp]
theorem State.phase_advance (now : State ι) (i : ι) (phase : Phase) (disk : Disk) :
    (now.advance i phase disk).phase i = phase := by
  simp [State.advance]

/-- What can happen next while stores are under way: one of them does its next step, fails and takes
its temporary file away, or stops for good and leaves everything as it is. -/
inductive Step (requests : ι → Request) : State ι → State ι → Prop where
  | directory {now : State ι} {i : ι} {name : String} {bytes : Bytes} {dir : Path} {disk' : Disk}
      (preparing : now.phase i = .preparing) (encodes : (requests i).Encodes name bytes)
      (above : Path.Above dir (directoryOf (requests i).path))
      (made : now.disk.makeDir dir = .ok disk') :
      Step requests now (now.advance i .preparing disk')
  | creates {now : State ι} {i : ι} {name tag : String} {bytes : Bytes} {temporary : Path}
      {disk' : Disk} (preparing : now.phase i = .preparing)
      (encodes : (requests i).Encodes name bytes)
      (sibling : temporary = (directoryOf (requests i).path).join ⟨temporaryName name tag⟩)
      (apart : ∀ k, (requests k).path.location now.disk.workingDir ≠
        temporary.location now.disk.workingDir)
      (created : createAt now.disk temporary = .ok disk') :
      Step requests now (now.advance i (.filling temporary bytes) disk')
  | writes {now : State ι} {i : ι} {temporary : Path} {chunk rest : Bytes} {disk' : Disk}
      (filling : now.phase i = .filling temporary (chunk ++ rest))
      (written : now.disk.append temporary chunk = .ok disk') :
      Step requests now (now.advance i (.filling temporary rest) disk')
  | syncs {now : State ι} {i : ι} {temporary : Path}
      (full : now.phase i = .filling temporary []) :
      Step requests now (now.advance i (.flushed temporary) now.disk)
  | renames {now : State ι} {i : ι} {temporary : Path} {disk' : Disk}
      (flushed : now.phase i = .flushed temporary)
      (moved : now.disk.rename temporary (requests i).path = .ok disk') :
      Step requests now (now.finish i (.ok (), disk'))
  | fails {now : State ι} {i : ι} {temporary : Path} {rest : Bytes}
      (held : (now.phase i).temporary? = some (temporary, rest)) :
      Step requests now (now.advance i .ended (discard now.disk temporary))
  | stops {now : State ι} (i : ι) : Step requests now (now.advance i .ended now.disk)

/-- Any number of steps. -/
abbrev Steps (requests : ι → Request) : State ι → State ι → Prop :=
  Relation.ReflTransGen (Step requests)

/-! ## Whole stores -/

variable {requests : ι → Request} {now : State ι} {i : ι} {name : String} {bytes : Bytes}
  {phase phase' : Phase} {disk disk' : Disk}

/-- Steps that reach a phase can be followed by one more. -/
theorem Steps.advance (reached : Steps requests now (now.advance i phase disk))
    (step : Step requests (now.advance i phase disk)
      ((now.advance i phase disk).advance i phase' disk')) :
    Steps requests now (now.advance i phase' disk') := by
  rw [State.advance_advance] at step
  exact reached.tail step

/-- A store that is over without a rename has failed. -/
theorem Steps.failed (reached : Steps requests now (now.advance i .ended disk)) (e : WriteError) :
    Steps requests now (now.finish i (.error e, disk)) := reached

/-- Steps can be followed by the one that ends a store well. -/
theorem Steps.stored (reached : Steps requests now (now.advance i phase disk))
    (step : Step requests (now.advance i phase disk)
      ((now.advance i phase disk).finish i (.ok (), disk'))) :
    Steps requests now (now.finish i (.ok (), disk')) := by
  rw [State.finish_advance] at step
  exact reached.tail step

/-- Making the directories of a store is steps of it, one for each directory. -/
theorem Makes.steps (preparing : now.phase i = .preparing)
    (encodes : (requests i).Encodes name bytes)
    (h : Makes (directoryOf (requests i).path) now.disk disk') :
    Steps requests now (now.advance i .preparing disk') := by
  induction h with
  | refl =>
    have same : now.advance i .preparing now.disk = now := by
      rw [State.advance, ← preparing, Function.update_eq_self]
    rw [same]
  | tail _ made ih =>
    obtain ⟨dir, above, made⟩ := made
    exact ih.advance (.directory (State.phase_advance ..) encodes above made)

/-- A store that fails once some of its bytes are written, or succeeds with all of them, is a run of
steps. -/
theorem writeFilled_steps (preparing : now.phase i = .preparing)
    (encodes : (requests i).Encodes name bytes) (c : Circumstances)
    (apart : ∀ n k, (requests k).path.location now.disk.workingDir ≠
      ((directoryOf (requests i).path).join ⟨temporaryName name (c.tag n)⟩).location
        now.disk.workingDir)
    {content rest : Bytes} (split : bytes = content ++ rest) {failure : Option FileError}
    (full : failure = none → rest = []) :
    Steps requests now
      (now.finish i (writeFilled c now.disk (requests i).path content failure)) := by
  unfold writeFilled
  rw [encodes.named]
  dsimp only
  have made := makeDirs_makes c.noDirectory now.disk (directoryOf (requests i).path)
  generalize now.disk.makeDirs c.noDirectory (directoryOf (requests i).path) = outcome at made ⊢
  obtain ⟨result, grown⟩ := outcome
  have prepared := Makes.steps preparing encodes made
  cases result with
  | error cause => exact (prepared.advance (.stops i)).failed _
  | ok _ =>
    dsimp only at made prepared ⊢
    cases opens : createTemporary c grown (directoryOf (requests i).path) name attempts with
    | error cause => exact (prepared.advance (.stops i)).failed _
    | ok temporary =>
      obtain ⟨temporary, opened⟩ := temporary
      obtain ⟨n, rfl, created⟩ := createAt_of_createTemporary opens
      obtain ⟨loc, isOpened⟩ := createAt_spec created
      rw [← made.grows.workingDir] at apart
      have created := prepared.advance
        (.creates (State.phase_advance ..) encodes rfl (apart n) created)
      have written := created.advance (.writes (by rw [State.phase_advance, split])
        (isOpened.append content))
      dsimp only
      rw [isOpened.append]
      dsimp only
      cases failure with
      | some cause => exact (written.advance (.fails (by rw [State.phase_advance]; rfl))).failed _
      | none =>
        obtain rfl := full rfl
        have flushed := written.advance (.syncs (State.phase_advance ..))
        dsimp only
        cases moved : unlessRefused c.noRename
            ((opened.set loc (.file content grown.clock)).rename _ (requests i).path) with
        | error cause => exact (flushed.advance (.fails (by rw [State.phase_advance]; rfl))).failed _
        | ok stored =>
          obtain ⟨_, moved⟩ := unlessRefused_eq_ok_iff.1 moved
          exact flushed.stored (.renames (State.phase_advance ..) moved)

/-- Writing a file is steps of the store, from the first to the last. -/
theorem writeAtomically_steps (preparing : now.phase i = .preparing)
    (encodes : (requests i).Encodes name bytes) (c : Circumstances)
    (apart : ∀ n k, (requests k).path.location now.disk.workingDir ≠
      ((directoryOf (requests i).path).join ⟨temporaryName name (c.tag n)⟩).location
        now.disk.workingDir) :
    Steps requests now (now.finish i (writeAtomically c now.disk (requests i).path bytes)) := by
  rw [writeAtomically_eq_writeFilled]
  cases c.noWrite with
  | none =>
    have split : bytes = bytes ++ [] := (List.append_nil bytes).symm
    exact writeFilled_steps preparing encodes c apart split fun _ => rfl
  | some cause =>
    have split : bytes = [] ++ bytes := (List.nil_append bytes).symm
    exact writeFilled_steps preparing encodes c apart split nofun

/-- A whole store is a run of steps of one store. -/
theorem store_steps (preparing : now.phase i = .preparing) (c : Circumstances)
    (apart : ∀ name n k, (requests k).path.location now.disk.workingDir ≠
      ((directoryOf (requests i).path).join ⟨temporaryName name (c.tag n)⟩).location
        now.disk.workingDir) :
    let outcome := store c now.disk (requests i).path (requests i).fingerprint (requests i).artifact
    Steps requests now (now.finish i (outcome.result, outcome.disk)) := by
  intro outcome
  cases encoded : Entry.encode (requests i).artifact (requests i).fingerprint with
  | error cause =>
    rw [show outcome = _ from store_of_encode_error c now.disk (requests i).path encoded]
    exact Steps.failed (.single (.stops i)) _
  | ok bytes =>
    rw [show (outcome.result, outcome.disk) = _ from
      store_of_encode c now.disk (requests i).path encoded]
    cases named : (requests i).path.fileName? with
    | none =>
      unfold writeAtomically
      rw [named]
      exact Steps.failed (.single (.stops i)) _
    | some name => exact writeAtomically_steps preparing ⟨named, encoded⟩ c (apart name)

end BitcodeCache.Store
