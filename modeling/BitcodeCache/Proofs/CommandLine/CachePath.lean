import BitcodeCache.Proofs.CachePath
import BitcodeCache.Proofs.Lookup
import BitcodeCache.Proofs.Project
import BitcodeCache.Proofs.Settings.Signature
import BitcodeCache.ScriptCache

/-!
# The path that is printed and the file that is used

Asked for the cache file of a resource, the tool takes the cache directory from the directory of the
project; a script cache takes it as the settings have it. Both put the same file name behind it, so that
they mean one file where the directory leads to one place from both: where it starts at the root, or the
project is that of the working directory itself.
-/

namespace BitcodeCache

/-- A script cache has the directory of its settings as it is written there. -/
theorem ScriptCache.dir_of_ofSettings {settings : Settings} {cache : ScriptCache}
    (opened : ofSettings settings = .ok cache) : cache.dir = settings.cache.dir := by
  rw [ofSettings, except_bind_eq_ok_iff] at opened
  obtain ⟨_, _, made⟩ := opened
  cases made
  rfl

namespace CommandLine

/-! ## What is printed -/

section

variable {files : FileAccess Id} {options : Options} {name : String} {project : Project}
  {file path : Path}

/-- Asked for the cache file of a resource, the tool prints the one in the cache directory of the
project that it loads. -/
theorem finish_path (loaded : (Project.load files options.config).run = .ok (project, file))
    (resolved : CachePath.resolve project.cacheDir name = .ok path) :
    (finish files ⟨options, .path name⟩).run =
      { exit := 0, output := path.text ++ "\n",
        errors := logText options [.loadedConfiguration file] } := by
  refine finish_of_ok ?_
  rw [perform]
  unfold printPath
  rw [Run.run_loadProject_bind loaded, Run.run_orFail_bind, resolved]
  rfl

/-- The command prints the path of the resource in the directory that the project gives the cache. -/
theorem run_path {arguments : List String} (asked : parse arguments = .ok ⟨options, .path name⟩)
    (loaded : (Project.load files options.config).run = .ok (project, file))
    (resolved : CachePath.resolve project.cacheDir name = .ok path) :
    (run files arguments).run =
      { exit := 0, output := path.text ++ "\n",
        errors := logText options [.loadedConfiguration file] } := by
  rw [run, asked]
  exact finish_path loaded resolved

end

/-! ## What is used -/

/-- The path that is printed and the one that is used end in the same file name, behind the cache
directory as it is seen from the project or from the working directory. -/
theorem exists_printed {project : Project} {cache : ScriptCache} {name : String} {used : Path}
    (opened : ScriptCache.ofSettings project.settings = .ok cache)
    (accepted : cache.path name = .ok used) :
    ∃ printed, CachePath.resolve project.cacheDir name = .ok printed ∧ ∃ file, ∀ workingDir,
      printed.location workingDir =
        file :: project.settings.cache.dir.location (project.root.location workingDir) ∧
      used.location workingDir = file :: project.settings.cache.dir.location workingDir := by
  obtain ⟨file, named, _⟩ := CachePath.resolve_eq_ok_iff.1 accepted
  have resolved : CachePath.resolve project.cacheDir name = .ok (project.cacheDir.join ⟨file⟩) :=
    CachePath.resolve_eq_ok_iff.2 ⟨file, named, rfl⟩
  refine ⟨_, resolved, file, fun workingDir => ⟨?_, ?_⟩⟩
  · rw [CachePath.location_resolve named resolved, Project.location_cacheDir]
  · rw [CachePath.location_resolve named accepted, ScriptCache.dir_of_ofSettings opened]

/-- The tool prints where a script cache in the project's directory has the file of a resource. In the
working directory that is the same file if and only if the cache directory is one place from both: it is
where the directory starts at the root or the project is the working directory, and for a directory that
never goes up in no other case. -/
theorem printed_path_iff_used {disk : Disk} {arguments : List String} {options : Options}
    {name : String} {project : Project} {file used : Path} {cache : ScriptCache}
    (asked : parse arguments = .ok ⟨options, .path name⟩)
    (loaded : (Project.load disk.access options.config).run = .ok (project, file))
    (opened : ScriptCache.ofSettings project.settings = .ok cache)
    (accepted : cache.path name = .ok used) :
    let here := disk.workingDir
    let there := project.root.location here
    let dir := project.settings.cache.dir
    (∀ c source compile, cache.load c disk name source compile =
      resolve c disk cache.bypass source cache.toolchain used compile) ∧
    (∃ piece, file.location here = there.next piece) ∧
    ∃ printed : Path, (run disk.access arguments).run.exit = 0 ∧
      (run disk.access arguments).run.output = printed.text ++ "\n" ∧
      printed.location here = used.location there ∧
      (printed.location here = used.location here ↔ dir.location there = dir.location here) ∧
      (dir.isAbsolute = true ∨ there = here → printed.location here = used.location here) ∧
      (dir.isAbsolute = false → ".." ∉ dir.pieces →
        (printed.location here = used.location here ↔ there = here)) := by
  intro here there dir
  obtain ⟨printed, resolved, fileName, located⟩ := exists_printed opened accepted
  have same : printed.location here = used.location here ↔
      dir.location there = dir.location here := by
    rw [(located here).1, (located here).2, List.cons.injEq]
    exact and_iff_right rfl
  refine ⟨fun c source compile => ?_, Project.location_of_load loaded, printed, ?_⟩
  · rw [ScriptCache.load, accepted]
  rw [run_path asked loaded resolved]
  refine ⟨rfl, rfl, (located here).1.trans (located there).2.symm, same, ?_, ?_⟩
  · rintro (absolute | own)
    · exact same.2 ((Path.location_of_isAbsolute absolute there).trans
        (Path.location_of_isAbsolute absolute here).symm)
    · exact same.2 (congrArg dir.location own)
  · intro relative noUp
    rw [same]
    exact ⟨Path.location_injective relative noUp, congrArg dir.location⟩

namespace Sample

/-- A settings file with the cache directory that settings have by themselves. -/
def text : String := "[toolchain]\ntriple = \"arm\"\ncompiler_version = \"3\"\n"

def settings : Settings where
  toolchain := { compilerVersion := "3", triple := "arm" }

/-- A settings file with a cache directory from the root. -/
def rootedText : String := "cache.dir = \"/var/bcc\"\n" ++ text

def rooted : Settings := { settings with cache := { dir := ⟨"/var/bcc"⟩ } }

/-- A disk with both files below the working directory. -/
def elsewhere : Disk where
  nodes := [(["conf", "work"], .directory .epoch), (["work"], .directory .epoch),
    (["bcc.toml", "conf", "work"], .file (Text.utf8 text) .epoch),
    (["rooted.toml", "conf", "work"], .file (Text.utf8 rootedText) .epoch)]
  workingDir := ["work"]

/-- Settings with short texts open a cache. -/
theorem opened {s : Settings} (short : s.toolchain.compilerVersion.utf8ByteSize +
      s.toolchain.triple.utf8ByteSize ≤ Signature.maxLength - 42) :
    ∃ cache, ScriptCache.ofSettings s = .ok cache := by
  have built := Settings.signature_eq_ok_iff.2 ⟨rfl, short⟩
  exact ⟨_, by rw [ScriptCache.ofSettings, built]; rfl⟩

end Sample

open Sample in
theorem printed_path_iff_used_rooted : ∃ cache used,
    parse ["--config", "conf/rooted.toml", "path", "fx"] =
        .ok ⟨{ config := some "conf/rooted.toml" }, .path "fx"⟩ ∧
      (Project.load elsewhere.access (some "conf/rooted.toml")).run =
        .ok (⟨⟨"conf"⟩, rooted⟩, ⟨"conf/rooted.toml"⟩) ∧
      ScriptCache.ofSettings rooted = .ok cache ∧ cache.path "fx" = .ok used ∧
      ∃ printed : Path,
        (run elsewhere.access ["--config", "conf/rooted.toml", "path", "fx"]).run.output =
          printed.text ++ "\n" ∧
        printed.location elsewhere.workingDir = used.location elsewhere.workingDir := by
  have asked : parse ["--config", "conf/rooted.toml", "path", "fx"] =
      .ok ⟨{ config := some "conf/rooted.toml" }, .path "fx"⟩ := by decide +kernel
  have loaded : (Project.load elsewhere.access (some "conf/rooted.toml")).run =
      .ok (⟨⟨"conf"⟩, rooted⟩, ⟨"conf/rooted.toml"⟩) := by decide +kernel
  obtain ⟨cache, made⟩ := opened (s := rooted) (by decide +kernel)
  have accepted : cache.path "fx" = .ok ⟨"/var/bcc/fx.oBCC"⟩ := by
    rw [ScriptCache.path, ScriptCache.dir_of_ofSettings made]
    decide +kernel
  obtain ⟨_, _, printed, _, output, _, _, same, _⟩ :=
    printed_path_iff_used asked loaded made accepted
  exact ⟨cache, _, asked, loaded, made, accepted, printed, output, same (.inl (by decide))⟩

open Sample in
/-- With the cache directory that settings have by themselves, and the settings below the working
directory, the tool prints one file and a script cache uses another. -/
theorem printed_path_elsewhere : ∃ cache,
    parse ["--config", "conf/bcc.toml", "path", "fx"] =
        .ok ⟨{ config := some "conf/bcc.toml" }, .path "fx"⟩ ∧
      (Project.load elsewhere.access (some "conf/bcc.toml")).run =
        .ok (⟨⟨"conf"⟩, settings⟩, ⟨"conf/bcc.toml"⟩) ∧
      ScriptCache.ofSettings settings = .ok cache ∧
      cache.path "fx" = .ok ⟨".bcc-cache/fx.oBCC"⟩ ∧
      (run elsewhere.access ["--config", "conf/bcc.toml", "path", "fx"]).run.output =
        "conf/.bcc-cache/fx.oBCC\n" ∧
      (⟨"conf/.bcc-cache/fx.oBCC"⟩ : Path).location elsewhere.workingDir ≠
        (⟨".bcc-cache/fx.oBCC"⟩ : Path).location elsewhere.workingDir := by
  have asked : parse ["--config", "conf/bcc.toml", "path", "fx"] =
      .ok ⟨{ config := some "conf/bcc.toml" }, .path "fx"⟩ := by decide +kernel
  have loaded : (Project.load elsewhere.access (some "conf/bcc.toml")).run =
      .ok (⟨⟨"conf"⟩, settings⟩, ⟨"conf/bcc.toml"⟩) := by decide +kernel
  obtain ⟨cache, made⟩ := opened (s := settings) (by decide +kernel)
  have accepted : cache.path "fx" = .ok ⟨".bcc-cache/fx.oBCC"⟩ := by
    rw [ScriptCache.path, ScriptCache.dir_of_ofSettings made]
    decide +kernel
  have resolved : CachePath.resolve (Project.cacheDir ⟨⟨"conf"⟩, settings⟩) "fx" =
      .ok ⟨"conf/.bcc-cache/fx.oBCC"⟩ := by decide +kernel
  refine ⟨cache, asked, loaded, made, accepted, ?_, by decide +kernel⟩
  rw [run_path asked loaded resolved]
  decide

end CommandLine

end BitcodeCache
