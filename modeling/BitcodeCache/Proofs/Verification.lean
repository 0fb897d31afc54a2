import BitcodeCache.Proofs.CachePath
import BitcodeCache.Proofs.CommandLine.Reading
import BitcodeCache.Proofs.CommandLine.Verify
import BitcodeCache.Proofs.Entry.Size
import BitcodeCache.Proofs.Resolve.Stored
import BitcodeCache.Proofs.Settings.Signature
import BitcodeCache.ScriptCache

/-!
# Checks agree with loads

Scripts are loaded from source files through one script cache, while other things change the disk. A load
that hit or stored leaves the entry of its source behind, and nothing but a store at the same path or
another change of that file takes it away. So a check of the cache file against the source looks for an
entry that is there: it succeeds for the source and the settings of the load, and for no others.
-/

namespace BitcodeCache.Verification

/-! ## Runs -/

/-- What happens next on a disk: a script is loaded from a source file under the name of its resource,
or something else changes the disk. -/
inductive Action where
  | loads (c : Circumstances) (name : String) (source : Path) (compile : Compiler)
  | changes (change : Disk → Disk)

namespace Action

/-- The disk after an action. A source that cannot be read is not loaded. -/
def perform (cache : ScriptCache) (disk : Disk) : Action → Disk
  | .loads c name source compile =>
    match disk.read source with
    | .error _ => disk
    | .ok bytes => (cache.load c disk name ⟨bytes, .file source⟩ compile).disk
  | .changes change => change disk

/-- An action writes the file at a path: a load of a name with this cache file stores an entry, or a
change is seen when the file is read. -/
def Writes (cache : ScriptCache) (disk : Disk) (path : Path) : Action → Prop
  | .loads c name source compile => cache.path name = .ok path ∧ ∃ bytes size,
    disk.read source = .ok bytes ∧
      .stored path size ∈ (cache.load c disk name ⟨bytes, .file source⟩ compile).events
  | .changes change => (change disk).read path ≠ disk.read path

end Action

/-- None of some actions, one after another, writes the file at a path. -/
def Unwritten (cache : ScriptCache) (path : Path) : Disk → List Action → Prop
  | _, [] => True
  | disk, action :: actions =>
    ¬ action.Writes cache disk path ∧ Unwritten cache path (action.perform cache disk) actions

section

variable {cache : ScriptCache} {disk : Disk} {name : String} {path : Path}
  {fingerprint : Fingerprint} {artifact : Artifact}

/-- Loading a script is resolving its source under the path of its name. -/
theorem load_eq_resolve (named : cache.path name = .ok path) (c : Circumstances) (disk : Disk)
    (source : Source) (compile : Compiler) : cache.load c disk name source compile =
      resolve c disk cache.bypass source cache.toolchain path compile := by
  rw [ScriptCache.load, named]

/-- A load of a readable source is the load of its bytes. -/
theorem Action.perform_loads {source : Path} {bytes : Bytes} (readable : disk.read source = .ok bytes)
    (cache : ScriptCache) (c : Circumstances) (name : String) (compile : Compiler) :
    (Action.loads c name source compile).perform cache disk =
      (cache.load c disk name ⟨bytes, .file source⟩ compile).disk := by
  rw [Action.perform, readable]

/-! ## The entry of a load -/

/-- An entry at the cache file of a name is still there after an action that does not write it. -/
theorem holds_perform (named : cache.path name = .ok path) (h : disk.Holds path fingerprint artifact)
    {action : Action} (unwritten : ¬ action.Writes cache disk path) :
    (action.perform cache disk).Holds path fingerprint artifact := by
  cases action with
  | changes change =>
    obtain ⟨bytes, header, readable, decoded⟩ := h
    have same : (change disk).read path = disk.read path := Classical.not_not.1 unwritten
    exact ⟨bytes, header, same.trans readable, decoded⟩
  | loads c other source compile =>
    cases readable : disk.read source with
    | error cause =>
      rw [Action.perform, readable]
      exact h
    | ok bytes =>
      rw [Action.perform_loads readable]
      cases named' : cache.path other with
      | error e =>
        rw [ScriptCache.load, named']
        exact h
      | ok path' =>
        rw [load_eq_resolve named']
        -- another name can have the same cache file; its load stored nothing, as it reported nothing
        by_cases same : path' = path
        · subst same
          refine Disk.holds_of_quiet h fun size stored => unwritten ⟨named', bytes, size, readable, ?_⟩
          rw [load_eq_resolve named']
          exact stored
        · refine h.resolve fun location => same ?_
          exact (CachePath.eq_of_location_eq named named' location).symm

/-- Actions that do not write to a cache file keep its entry. -/
theorem holds_foldl_perform (named : cache.path name = .ok path)
    (h : disk.Holds path fingerprint artifact) {actions : List Action}
    (unwritten : Unwritten cache path disk actions) :
    (actions.foldl (Action.perform cache) disk).Holds path fingerprint artifact := by
  induction actions generalizing disk with
  | nil => exact h
  | cons action actions ih =>
    obtain ⟨here, later⟩ := unwritten
    exact ih (holds_perform named h here) later

/-- A load of a source file that got an artifact, because it hit or with an entry that it stored. No entry
that is held in memory has 2^63 bytes. -/
structure Loaded (cache : ScriptCache) (disk : Disk) (c : Circumstances) (name : String)
    (source : Path) (compile : Compiler) (path : Path) (bytes : Bytes) (time : FileTime) : Prop where
  named : cache.path name = .ok path
  readable : disk.read source = .ok bytes
  timed : disk.modified source = .ok time
  answered : ∃ artifact,
    (cache.load c disk name ⟨bytes, .file source⟩ compile).result = .ok artifact
  kept : (cache.load c disk name ⟨bytes, .file source⟩ compile).compiled = none ∨
    ∃ size < 2 ^ 63,
      .stored path size ∈ (cache.load c disk name ⟨bytes, .file source⟩ compile).events

variable {c : Circumstances} {source : Path} {compile : Compiler} {bytes : Bytes} {time : FileTime}

/-- After a load that hit or stored, the disk holds the entry of the source. -/
theorem Loaded.holds (loaded : Loaded cache disk c name source compile path bytes time)
    (limit : cache.toolchain.length ≤ Signature.maxLength) : ∃ artifact,
      (Action.perform cache disk (.loads c name source compile)).Holds path
        (.ofSource bytes time.seconds cache.toolchain) artifact := by
  obtain ⟨named, readable, timed, ⟨artifact, answered⟩, kept⟩ := loaded
  have built : Fingerprint.build (m := Id) disk.modified bytes (.file source) cache.toolchain =
      .ok (.ofSource bytes time.seconds cache.toolchain) :=
    Fingerprint.build_eq_ok_iff.2 ⟨time.seconds, .file timed, rfl⟩
  rw [load_eq_resolve named] at answered kept
  refine ⟨artifact, ?_⟩
  rw [Action.perform_loads readable, load_eq_resolve named]
  exact holds_of_kept built limit answered kept

/-! ## Checks of an entry -/

section

open CommandLine

variable {options : Options} {toolchain : Signature} {modTime : Int64}

/-- An entry that is there is verified for its own source and settings. -/
theorem verified_of_holds (h : disk.Holds path (.ofSource bytes modTime toolchain) artifact)
    {project : Project} {settingsFile : Path}
    (loaded : (Project.load disk.access options.config).run = .ok (project, settingsFile))
    (signed : project.settings.signature = .ok toolchain)
    (readable : disk.read source = .ok bytes) (timed : disk.modified source = .ok time)
    (same : time.seconds = modTime) : Verified disk options path.text source.text := by
  subst same
  obtain ⟨header, _, answers⟩ := h.tryLoad_eq
  have found := answers (.ofSource bytes time.seconds toolchain)
  rw [Fingerprint.firstMismatch?_eq_none_iff.2 rfl] at found
  exact ⟨loaded, signed, readable, timed, found⟩

/-- What a check that succeeds has found in the source and in the settings. -/
structure Agrees (disk : Disk) (options : Options) (source : Path) (bytes : Bytes) (modTime : Int64)
    (toolchain : Signature) : Prop where
  sameSettings : ∃ project settingsFile,
    (Project.load disk.access options.config).run = .ok (project, settingsFile) ∧
      project.settings.signature = .ok toolchain
  sameSource : ∃ found, disk.read source = .ok found ∧ crc32 found = crc32 bytes ∧
    Digest.ofSource found = Digest.ofSource bytes
  sameTime : ∃ time, disk.modified source = .ok time ∧ time.seconds = modTime

/-- What is verified against an entry agrees with it in source, time and settings. -/
theorem agrees_of_verified (h : disk.Holds path (.ofSource bytes modTime toolchain) artifact)
    (verified : Verified disk options path.text source.text) :
    Agrees disk options source bytes modTime toolchain := by
  obtain ⟨loaded, signed, readable, timed, found⟩ := verified
  obtain ⟨header, _, answers⟩ := h.tryLoad_eq
  rw [answers] at found
  split at found
  · cases found
  · rename_i agrees
    have same := Fingerprint.firstMismatch?_eq_none_iff.1 agrees
    simp only [Fingerprint.ofSource, Fingerprint.mk.injEq] at same
    obtain ⟨digest, seconds, checksum, rfl⟩ := same
    exact ⟨⟨_, _, loaded, signed⟩, ⟨_, readable, checksum, digest⟩, _, timed, seconds⟩

/-- A source that cannot be read agrees with no entry. -/
theorem not_agrees_of_gone {cause : FileError} (gone : disk.read source = .error cause) :
    ¬ Agrees disk options source bytes modTime toolchain := by
  intro agrees
  obtain ⟨found, readable, _⟩ := agrees.sameSource
  cases gone.symm.trans readable

/-- A source with other bytes, told by their checksum or digest, does not agree. -/
theorem not_agrees_of_bytes {found : Bytes} (readable : disk.read source = .ok found)
    (differs : crc32 found ≠ crc32 bytes ∨ Digest.ofSource found ≠ Digest.ofSource bytes) :
    ¬ Agrees disk options source bytes modTime toolchain := by
  intro agrees
  obtain ⟨_, readable', checksum, digest⟩ := agrees.sameSource
  cases readable.symm.trans readable'
  exact differs.elim (· checksum) (· digest)

/-- A source from another second does not agree. -/
theorem not_agrees_of_time {found : FileTime} (timed : disk.modified source = .ok found)
    (differs : found.seconds ≠ modTime) :
    ¬ Agrees disk options source bytes modTime toolchain := by
  intro agrees
  obtain ⟨_, timed', seconds⟩ := agrees.sameTime
  cases timed.symm.trans timed'
  exact differs seconds

/-- Where digests do not collide, other settings have another signature. -/
theorem not_agrees_of_settings {settings : Settings} {project : Project} {file : Path}
    (signed : settings.signature = .ok toolchain)
    (loaded : (Project.load disk.access options.config).run = .ok (project, file))
    (collision : Digest.ofSource (Text.utf8 settings.canonicalText) =
        Digest.ofSource (Text.utf8 project.settings.canonicalText) →
      settings.canonicalText = project.settings.canonicalText)
    (differs : ¬ SameBuild settings project.settings) :
    ¬ Agrees disk options source bytes modTime toolchain := by
  intro agrees
  obtain ⟨_, _, loaded', signed'⟩ := agrees.sameSettings
  cases loaded.symm.trans loaded'
  exact differs (Settings.sameBuild_of_signature collision signed signed')

end

/-- A cache that was opened has the signature of its settings. -/
theorem ofSettings_eq_ok {settings : Settings} (made : ScriptCache.ofSettings settings = .ok cache) :
    settings.signature = .ok cache.toolchain := by
  rw [ScriptCache.ofSettings, except_bind_eq_ok_iff] at made
  obtain ⟨toolchain, signed, made⟩ := made
  cases made
  exact signed

/-- As long as nothing has written the cache file of a load that hit or stored, a check of the file
against the source ends with 0 where source, time and relevant settings are those of the load, and with 1
where one of them is another or the source is gone. The check changes no disk. -/
theorem verify_agrees {settings : Settings} {start : Disk} {before after : List Action}
    (made : ScriptCache.ofSettings settings = .ok cache)
    (loaded : Loaded cache (before.foldl (Action.perform cache) start) c name source compile path bytes
      time)
    (unwritten : Unwritten cache path
      ((before ++ [Action.loads c name source compile]).foldl (Action.perform cache) start) after)
    {arguments : List String} {options : CommandLine.Options}
    (asked : CommandLine.parse arguments = .ok ⟨options, .verify path.text source.text⟩) :
    let now := (before ++ .loads c name source compile :: after).foldl (Action.perform cache) start
    let exit := (CommandLine.run now.access arguments).run.exit
    (∀ project file found, (Project.load now.access options.config).run = .ok (project, file) →
      SameBuild settings project.settings → now.read source = .ok bytes →
      now.modified source = .ok found → found.seconds = time.seconds → exit = 0) ∧
    (∀ cause, now.read source = .error cause → exit = 1) ∧
    (∀ found, now.read source = .ok found →
      crc32 found ≠ crc32 bytes ∨ Digest.ofSource found ≠ Digest.ofSource bytes → exit = 1) ∧
    (∀ found, now.modified source = .ok found → found.seconds ≠ time.seconds → exit = 1) ∧
    (∀ project file, (Project.load now.access options.config).run = .ok (project, file) →
      (Digest.ofSource (Text.utf8 settings.canonicalText) =
          Digest.ofSource (Text.utf8 project.settings.canonicalText) →
        settings.canonicalText = project.settings.canonicalText) →
      ¬ SameBuild settings project.settings → exit = 1) ∧
    ∀ disk : Disk, (CommandLine.run Disk.live arguments).run disk =
      (CommandLine.run disk.access arguments, disk) := by
  intro now exit
  have signed := ofSettings_eq_ok made
  obtain ⟨artifact, entry⟩ := loaded.holds (Settings.length_signature_le signed)
  have holds : now.Holds path (.ofSource bytes time.seconds cache.toolchain) artifact := by
    rw [List.foldl_append] at unwritten
    have kept := holds_foldl_perform loaded.named entry unwritten
    rwa [← List.foldl_cons, ← List.foldl_append] at kept
  have ran : exit = (CommandLine.finish now.access
      ⟨options, .verify path.text source.text⟩).run.exit := by
    change (CommandLine.run now.access arguments).run.exit = _
    rw [CommandLine.run, asked]
  -- whatever a check that succeeds would have found is not there
  have refused (other : ¬ Agrees now options source bytes time.seconds cache.toolchain) :
      exit = 1 := by
    rw [ran]
    exact CommandLine.exit_verify_of_not_verified fun verified =>
      other (agrees_of_verified holds verified)
  refine ⟨?_, ?_, ?_, ?_, ?_, CommandLine.run_live arguments⟩
  · intro project file found projectLoaded same readable timed seconds
    rw [ran]
    exact CommandLine.exit_verify_of_verified (verified_of_holds holds projectLoaded
      (Settings.signature_of_sameBuild same signed) readable timed seconds)
  · exact fun cause gone => refused (not_agrees_of_gone gone)
  · exact fun found readable differs => refused (not_agrees_of_bytes readable differs)
  · exact fun found timed differs => refused (not_agrees_of_time timed differs)
  · intro project file projectLoaded collision differs
    exact refused (not_agrees_of_settings signed projectLoaded collision differs)

end

/-! ## A script whose source is saved again -/

namespace Sample

/-- Settings whose lookups are skipped. -/
def settings : Settings where
  cache := { dir := ⟨"cache"⟩, bypass := true }
  toolchain := { compilerVersion := "bcc-3.1", triple := "armv7" }

def scripts : ScriptCache := ⟨⟨"cache"⟩, ⟨Text.utf8 settings.signatureText⟩, true⟩

def cacheFile : Path := ⟨"cache/a@b.oBCC"⟩

/-- Settings for another cache directory that build the same. -/
def settingsText : String :=
  "[cache]\ndir = \"else\"\n[toolchain]\ntriple = \"armv7\"\ncompiler_version = \"bcc-3.1\"\n"

/-- A disk with a settings file and two sources. -/
def start : Disk where
  nodes := [(["other.toml"], .file (Text.utf8 settingsText) .epoch),
    (["s.c"], .file [3, 4] (.ofSeconds 7)), (["t.c"], .file [5] .epoch)]

/-- A compiler that makes one artifact of everything. -/
def compiler : Compiler := fun _ => .ok Format.Sample.artifact

/-- A compiler that refuses everything. -/
def refusing : Compiler := fun _ => .error "refused"

/-- A load of another name with the same cache file, which stores nothing. -/
def failing : Action := .loads {} "a/b" ⟨"t.c"⟩ refusing

/-- The first source is saved again with the same bytes. -/
def saving : Action := .changes (·.set ["s.c"] (.file [3, 4] (.ofSeconds 9)))

def arguments : List String :=
  ["--config", "other.toml", "verify", "cache/a@b.oBCC", "--source", "s.c"]

/-- The fingerprint of the first source. -/
def fingerprint : Fingerprint := .ofSource [3, 4] 7 scripts.toolchain

/-- The payload of the entry of the sample artifact, which is the same under all fingerprints. -/
def payload : Bytes := Format.Sample.entry.drop 58

def entry : Bytes := (Header.forPayload fingerprint payload).bytes ++ payload

/-- The disk with a cache file. -/
def withFile (bytes : Bytes) : Disk where
  nodes := (["a@b.oBCC", "cache"], .file bytes .epoch) :: (["cache"], .directory .epoch) ::
    start.nodes

theorem made : ScriptCache.ofSettings settings = .ok scripts := by
  have signed : settings.signature = .ok scripts.toolchain :=
    Settings.signature_eq_ok_iff.2 ⟨rfl, by decide +kernel⟩
  rw [ScriptCache.ofSettings, signed]
  rfl

theorem limit : scripts.toolchain.length ≤ Signature.maxLength :=
  Settings.length_signature_le (ofSettings_eq_ok made)

theorem written : Entry.Written Format.Sample.artifact fingerprint payload entry :=
  Entry.written_sample (Nat.lt_of_le_of_lt limit (by decide))

theorem length_entry_lt : entry.length < 2 ^ 63 := by
  have size : payload.length = 205 := by decide +kernel
  have length := written.length_le limit
  rw [size] at length
  exact Nat.lt_of_le_of_lt length (by decide)

/-- Where the file goes does not depend on what is in it, so nothing of the entry is computed here. -/
theorem writeAtomically_start (bytes : Bytes) :
    Store.writeAtomically {} start cacheFile bytes = (.ok (), withFile bytes) := by
  with_unfolding_all rfl

theorem store_start : store {} start cacheFile fingerprint Format.Sample.artifact =
    ⟨.ok (), withFile entry, [.stored cacheFile entry.length]⟩ := by
  rw [store, Entry.encode_eq_ok_iff.2 ⟨_, written⟩]
  dsimp only
  rw [writeAtomically_start]

theorem load_start : scripts.load {} start "a:b" ⟨[3, 4], .file ⟨"s.c"⟩⟩ compiler =
    ⟨.ok Format.Sample.artifact, some [3, 4], withFile entry,
      [.cacheBypassed cacheFile, .stored cacheFile entry.length]⟩ := by
  have named : scripts.path "a:b" = .ok cacheFile := by decide +kernel
  have timed : start.modified ⟨"s.c"⟩ = .ok (.ofSeconds 7) := by decide +kernel
  have built : Fingerprint.build (m := Id) start.modified [3, 4] (.file ⟨"s.c"⟩)
      scripts.toolchain = .ok fingerprint := Fingerprint.build_eq_ok_iff.2 ⟨7, .file timed, rfl⟩
  rw [load_eq_resolve named, resolve, built]
  change Resolve.compileAndStore {} start cacheFile fingerprint [3, 4] compiler
    [.cacheBypassed cacheFile] = _
  rw [Resolve.compileAndStore, compiler]
  dsimp only
  rw [store_start]
  rfl

theorem loaded :
    Loaded scripts start {} "a:b" ⟨"s.c"⟩ compiler cacheFile [3, 4] (.ofSeconds 7) where
  named := by decide +kernel
  readable := by decide +kernel
  timed := by decide +kernel
  answered := ⟨Format.Sample.artifact, by rw [load_start]⟩
  kept := .inr ⟨entry.length, length_entry_lt, by simp [load_start]⟩

theorem load_failing : scripts.load {} (withFile entry) "a/b" ⟨[5], .file ⟨"t.c"⟩⟩ refusing =
    ⟨.error (.compile "refused"), some [5], withFile entry, [.cacheBypassed cacheFile]⟩ := by
  with_unfolding_all rfl

theorem perform_start :
    (Action.loads {} "a:b" ⟨"s.c"⟩ compiler).perform scripts start = withFile entry := by
  rw [Action.perform_loads loaded.readable, load_start]

theorem perform_failing : failing.perform scripts (withFile entry) = withFile entry := by
  have readable : (withFile entry).read ⟨"t.c"⟩ = .ok [5] := by with_unfolding_all rfl
  rw [failing, Action.perform_loads readable, load_failing]

/-- Neither the other load nor the saving writes the cache file. -/
theorem unwritten : Unwritten scripts cacheFile (withFile entry) [failing, saving] := by
  refine ⟨?_, ?_, trivial⟩
  · rintro ⟨_, bytes, size, readable, stored⟩
    have known : (withFile entry).read ⟨"t.c"⟩ = .ok [5] := by with_unfolding_all rfl
    cases known.symm.trans readable
    simp [load_failing] at stored
  · rw [perform_failing]
    intro writes
    exact writes (by with_unfolding_all rfl)

/-- The project of the check, from the settings file that its option names. -/
def project : Project where
  root := ⟨""⟩
  settings := { settings with cache := { dir := ⟨"else"⟩ } }

end Sample

open Sample in
theorem verify_agrees_sample :
    ScriptCache.ofSettings settings = .ok scripts ∧
    Loaded scripts start {} "a:b" ⟨"s.c"⟩ compiler cacheFile [3, 4] (.ofSeconds 7) ∧
    Unwritten scripts cacheFile (withFile entry) [failing, saving] ∧
    CommandLine.parse arguments =
      .ok ⟨{ config := some "other.toml" }, .verify cacheFile.text "s.c"⟩ ∧
    SameBuild settings project.settings ∧
    let now := failing.perform scripts (withFile entry)
    let later := saving.perform scripts now
    (CommandLine.run now.access arguments).run.exit = 0 ∧
    (CommandLine.run later.access arguments).run.exit = 1 := by
  have asked : CommandLine.parse arguments =
      .ok ⟨{ config := some "other.toml" }, .verify cacheFile.text "s.c"⟩ := by decide +kernel
  have same : SameBuild settings project.settings := Settings.canonicalText_eq_iff.1 rfl
  have projectLoaded : (Project.load (withFile entry).access (some "other.toml")).run =
      .ok (project, ⟨"other.toml"⟩) := by decide +kernel
  have readable : (withFile entry).read ⟨"s.c"⟩ = .ok [3, 4] := by decide +kernel
  have timed : (withFile entry).modified ⟨"s.c"⟩ = .ok (.ofSeconds 7) := by decide +kernel
  have savedTime : (saving.perform scripts (withFile entry)).modified ⟨"s.c"⟩ =
      .ok (.ofSeconds 9) := by decide +kernel
  have first : Loaded scripts ([].foldl (Action.perform scripts) start) {} "a:b" ⟨"s.c"⟩ compiler
      cacheFile [3, 4] (.ofSeconds 7) := loaded
  have ran (rest : List Action) :
      ([] ++ Action.loads {} "a:b" ⟨"s.c"⟩ compiler :: rest).foldl (Action.perform scripts) start =
        rest.foldl (Action.perform scripts) (withFile entry) := by
    rw [List.nil_append, List.foldl_cons, perform_start]
  refine ⟨made, loaded, unwritten, asked, same, ?_, ?_⟩
  · have kept : Unwritten scripts cacheFile
        (([] ++ [Action.loads {} "a:b" ⟨"s.c"⟩ compiler]).foldl (Action.perform scripts) start)
        [failing] := by
      rw [ran]
      exact ⟨unwritten.1, trivial⟩
    have agrees := (verify_agrees made first kept asked).1
    rw [ran, List.foldl_cons, perform_failing, List.foldl_nil] at agrees
    rw [perform_failing]
    exact agrees project _ _ projectLoaded same readable timed rfl
  · have kept : Unwritten scripts cacheFile
        (([] ++ [Action.loads {} "a:b" ⟨"s.c"⟩ compiler]).foldl (Action.perform scripts) start)
        [failing, saving] := by
      rw [ran]
      exact unwritten
    have differs := (verify_agrees made first kept asked).2.2.2.1
    rw [ran, List.foldl_cons, perform_failing, List.foldl_cons, List.foldl_nil] at differs
    rw [perform_failing]
    exact differs _ savedTime (by decide +kernel)

end BitcodeCache.Verification
