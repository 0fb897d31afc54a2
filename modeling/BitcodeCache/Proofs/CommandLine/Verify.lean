import BitcodeCache.Proofs.Lookup
import BitcodeCache.Proofs.Resolve

/-!
# What a check of a cache file goes by

Checking a cache file against a source succeeds where the project loads, its settings have a signature,
the source can be read and has a time, and a lookup for the fingerprint of all these hits. It ends with 1
wherever one of them is missing.
-/

namespace BitcodeCache.CommandLine

variable {disk : Disk} {options : Options} {file source : String}

/-- All that a check of a cache file needs is there, and the lookup hits. -/
inductive Verified (disk : Disk) (options : Options) (file source : String) : Prop where
  | intro {project : Project} {settingsFile : Path} {toolchain : Signature} {bytes : Bytes}
    {time : FileTime} {entry : Entry}
    (loaded : (Project.load disk.access options.config).run = .ok (project, settingsFile))
    (signed : project.settings.signature = .ok toolchain)
    (readable : disk.read ⟨source⟩ = .ok bytes)
    (timed : disk.modified ⟨source⟩ = .ok time)
    (found : tryLoad disk ⟨file⟩ (.ofSource bytes time.seconds toolchain) = .ok entry)

/-- The exit code of a command that was run to its end. -/
def Run.exitAfter (step : Run Id Result) (events : List Event) : Nat :=
  match (step.run.run events).1 with
  | .ok result => result.exit
  | .error _ => 1

/-- The exit code is that of the command, whatever is shown. -/
theorem exit_finish (request : Request) :
    (finish disk.access request).exit = (perform disk.access request).exitAfter [] := by
  rw [finish, Run.exitAfter]
  rcases (perform disk.access request).run.run [] with ⟨failure | result, events⟩
  · rfl
  · rfl

namespace Run

variable {α ε : Type} {next : α → Run Id Result} {events : List Event}

theorem exitAfter_act_bind (action : Id α) :
    (act action >>= next).exitAfter events = (next action.run).exitAfter events := rfl

theorem exitAfter_log_bind {next : Unit → Run Id Result} (reported : List Event) :
    (log reported >>= next).exitAfter events = (next ()).exitAfter (events ++ reported) := rfl

/-- A failed step ends the command with exit code 1. -/
theorem exitAfter_orFail_bind (failure : ε → Failure) (result : Except ε α) :
    (orFail failure result >>= next).exitAfter events =
      match result with
      | .ok a => (next a).exitAfter events
      | .error _ => 1 := by
  cases result <;> rfl

end Run

/-- The fingerprint of a source file is built from the second it was changed in. -/
theorem build_file (bytes : Bytes) (path : Path) (toolchain : Signature) :
    (Fingerprint.build disk.access.modified bytes (.file path) toolchain).run =
      match disk.modified path with
      | .ok time => .ok (.ofSource bytes time.seconds toolchain)
      | .error cause => .error ⟨path, cause⟩ := by
  have timing : disk.access.modified path = disk.modified path := rfl
  unfold Fingerprint.build
  dsimp only
  rw [timing]
  cases disk.modified path <;> rfl

/-- The steps of a check, each of which ends it with 1 where it fails. -/
theorem exit_verify (disk : Disk) (options : Options) (file source : String) :
    (finish disk.access ⟨options, .verify file source⟩).exit =
      match (Project.load disk.access options.config).run with
      | .error _ => 1
      | .ok (project, _) =>
        match project.settings.signature with
        | .error _ => 1
        | .ok toolchain =>
          match disk.read ⟨source⟩ with
          | .error _ => 1
          | .ok bytes =>
            match disk.modified ⟨source⟩ with
            | .error _ => 1
            | .ok time =>
              match tryLoad disk ⟨file⟩ (.ofSource bytes time.seconds toolchain) with
              | .error _ => 1
              | .ok _ => 0 := by
  rw [exit_finish, perform]
  simp only [verify, loadProject, signatureOf, tryLoadFrom, bind_assoc, pure_bind,
    Run.exitAfter_act_bind, Run.exitAfter_log_bind, Run.exitAfter_orFail_bind]
  cases (Project.load disk.access options.config).run with
  | error e => rfl
  | ok found =>
    dsimp only
    cases found.1.settings.signature with
    | error e => rfl
    | ok toolchain =>
      dsimp only
      have reading (path : Path) : (disk.access.read path).run = disk.read path := rfl
      simp only [reading, build_file]
      cases disk.read ⟨source⟩ with
      | error cause => rfl
      | ok bytes =>
        cases disk.modified ⟨source⟩ with
        | error cause => rfl
        | ok time =>
          dsimp only
          rw [tryLoad]
          cases Entry.loadRead (disk.read ⟨file⟩) (.ofSource bytes time.seconds toolchain) <;> rfl

/-- A source whose entry is found exits with 0. -/
theorem exit_verify_of_verified (verified : Verified disk options file source) :
    (finish disk.access ⟨options, .verify file source⟩).exit = 0 := by
  obtain ⟨loaded, signed, readable, timed, found⟩ := verified
  rw [exit_verify, loaded]
  dsimp only
  rw [signed]
  dsimp only
  rw [readable, timed]
  dsimp only
  rw [found]

/-- Whatever is missing, the exit code is 1. -/
theorem exit_verify_of_not_verified (missing : ¬ Verified disk options file source) :
    (finish disk.access ⟨options, .verify file source⟩).exit = 1 := by
  rw [exit_verify]
  cases loaded : (Project.load disk.access options.config).run with
  | error e => rfl
  | ok found =>
    obtain ⟨project, settingsFile⟩ := found
    dsimp only
    cases signed : project.settings.signature with
    | error e => rfl
    | ok toolchain =>
      cases readable : disk.read ⟨source⟩ with
      | error cause => rfl
      | ok bytes =>
        cases timed : disk.modified ⟨source⟩ with
        | error cause => rfl
        | ok time =>
          dsimp only
          cases found : tryLoad disk ⟨file⟩ (.ofSource bytes time.seconds toolchain) with
          | error miss => rfl
          | ok entry => exact absurd ⟨loaded, signed, readable, timed, found⟩ missing

end BitcodeCache.CommandLine
