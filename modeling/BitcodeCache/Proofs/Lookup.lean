import BitcodeCache.CommandLine.Program
import BitcodeCache.Proofs.Entry.Load
import BitcodeCache.Resolve

/-!
# Lookups on files

A lookup at a path gives what decoding the whole file gives, once the header is that of the expected
fingerprint; so a file that the tool shows is a file that lookups accept, and the other way round.
-/

namespace BitcodeCache

/-- A lookup sees of the disk only the content of its file. -/
theorem tryLoad_of_read {disk : Disk} {path : Path} {content : Bytes}
    (readable : disk.read path = .ok content) (expected : Fingerprint) :
    tryLoad disk path expected = Entry.load content expected := by
  rw [tryLoad, readable]
  rfl

namespace CommandLine

/-! ## Showing an entry -/

namespace Run

variable {α β : Type}

/-- A question inside a command adds no event. -/
theorem run_act_bind (a : Id α) (next : α → Run Id β) (events : List Event) :
    (act a >>= next).run.run events = (next a.run).run.run events := rfl

/-- A failed step ends the command with its failure and the events so far. -/
theorem run_orFail_bind {ε : Type} (failure : ε → Failure) (result : Except ε α)
    (next : α → Run Id β) (events : List Event) :
    (orFail failure result >>= next).run.run events =
      match result with
      | .ok a => (next a).run.run events
      | .error e => (.error (failure e), events) := by
  cases result <;> rfl

/-- A command goes on with the project that it loads, and tells its settings file. -/
theorem run_loadProject_bind {files : FileAccess Id} {options : Options} {project : Project}
    {file : Path} (loaded : (Project.load files options.config).run = .ok (project, file))
    (next : Project → Run Id α) (events : List Event) :
    (loadProject files options >>= next).run.run events =
      (next project).run.run (events ++ [.loadedConfiguration file]) := by
  rw [loadProject, bind_assoc, run_act_bind, bind_assoc, run_orFail_bind, loaded]
  rfl

end Run

/-- A command that succeeds is shown with its own exit code and output, behind its log. -/
theorem finish_of_ok {files : FileAccess Id} {request : Request} {exit : Nat} {output : String}
    {events : List Event} (ran : (perform files request).run.run [] =
      (.ok { exit := exit, output := output }, events)) :
    (finish files request).run =
      { exit := exit, output := output, errors := logText request.options events } := by
  rw [finish, ran]
  change Result.mk exit output (_ ++ "") = _
  rw [String.append_empty]

/-- What is printed of an entry. -/
def entryText (entry : Entry) : Format → String
  | .text => entry.summary
  | .json => entry.json.pretty ++ "\n"

/-- Showing a readable file decodes the whole of it and reports nothing on the way. -/
theorem run_inspect {disk : Disk} {path : Path} {content : Bytes}
    (readable : disk.read path = .ok content) (format : Format) (events : List Event) :
    (inspect disk.access path format).run.run events =
      match Entry.decode content with
      | .error fault => (.error (.undecodable path fault), events)
      | .ok entry => (.ok { exit := 0, output := entryText entry format }, events) := by
  have reading : (disk.access.read path).run = .ok content := readable
  rw [inspect, Run.run_act_bind, Run.run_orFail_bind, reading]
  dsimp only
  rw [Run.run_orFail_bind]
  cases Entry.decode content with
  | error fault => rfl
  | ok entry => cases format <;> rfl

/-- Inspecting exits with 0 exactly if the whole file is an entry. -/
theorem exit_inspect {disk : Disk} {file : String} {content : Bytes}
    (readable : disk.read ⟨file⟩ = .ok content) (options : Options) (format : Format) :
    (finish disk.access ⟨options, .inspect file format⟩).exit = 0 ↔
      ∃ entry, Entry.decode content = .ok entry := by
  have ran := run_inspect readable format []
  rw [finish, perform]
  dsimp only
  rw [ran]
  cases Entry.decode content with
  | error fault =>
    constructor
    · intro success
      cases success
    · rintro ⟨_, decoded⟩
      cases decoded
  | ok entry => exact ⟨fun _ => ⟨entry, rfl⟩, fun _ => rfl⟩

end CommandLine

/-! ## Staged lookups and whole files -/

/-- A lookup in stages is a decoding of the whole file behind a comparison of fingerprints: it fails
as the header does, or as stale, or as the whole does. So it hits where the whole decodes under the
expected fingerprint, and showing a file succeeds where a lookup for the fingerprint in it hits. -/
theorem tryLoad_eq_decode {disk : Disk} {file : String} {content : Bytes}
    (readable : disk.read ⟨file⟩ = .ok content) :
    (∀ expected, tryLoad disk ⟨file⟩ expected =
      match Header.decode content with
      | .error fault => .error (.ofDecodeError fault)
      | .ok header =>
        match expected.firstMismatch? header.fingerprint with
        | some field => .error (.stale field)
        | none =>
          match Entry.decode content with
          | .error fault => .error (.ofDecodeError fault)
          | .ok entry => .ok entry) ∧
    (∀ expected entry, tryLoad disk ⟨file⟩ expected = .ok entry ↔
      Entry.decode content = .ok entry ∧ entry.header.fingerprint = expected) ∧
    ∀ options format,
      (CommandLine.finish disk.access ⟨options, .inspect file format⟩).exit = 0 ↔
        ∃ header, Header.decode content = .ok header ∧
          ∃ entry, tryLoad disk ⟨file⟩ header.fingerprint = .ok entry := by
  refine ⟨?_, ?_, ?_⟩
  · intro expected
    rw [tryLoad_of_read readable, Entry.load_eq_decode]
    cases Entry.decode content <;> rfl
  · intro expected entry
    rw [tryLoad_of_read readable, Entry.load_eq_ok_iff]
  · intro options format
    rw [CommandLine.exit_inspect readable]
    simp only [tryLoad_of_read readable, Entry.load_eq_ok_iff]
    constructor
    · intro h
      obtain ⟨entry, decoded⟩ := h
      exact ⟨entry.header, Entry.header_decode_of_decode decoded, entry, decoded, rfl⟩
    · intro h
      obtain ⟨_, _, entry, decoded, _⟩ := h
      exact ⟨entry, decoded⟩

/-- A disk with the sample entry in its only file. -/
def Disk.sample : Disk where
  nodes := [(["sample.oBCC"], .file Format.Sample.entry .epoch)]

theorem tryLoad_eq_decode_sample :
    Disk.sample.read ⟨"sample.oBCC"⟩ = .ok Format.Sample.entry ∧
      (∀ expected entry, tryLoad Disk.sample ⟨"sample.oBCC"⟩ expected = .ok entry ↔
        Entry.decode Format.Sample.entry = .ok entry ∧ entry.header.fingerprint = expected) := by
  have readable : Disk.sample.read ⟨"sample.oBCC"⟩ = .ok Format.Sample.entry := by
    decide +kernel
  exact ⟨readable, (tryLoad_eq_decode readable).2.1⟩

end BitcodeCache
