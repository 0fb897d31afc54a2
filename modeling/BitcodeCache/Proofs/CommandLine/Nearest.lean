import BitcodeCache.Proofs.CommandLine.CachePath

/-!
# Reports of the nearest project

The commands that report what settings come to look at no file but that of the project. Without an
explicit path it is the nearest one, so that they print the same from all directories below it that have
no nearer one.
-/

namespace BitcodeCache.CommandLine

/-- The commands that report what the settings of a project come to. -/
inductive Command.Reports : Command → Prop where
  | signature : Reports .signature
  | path (name : String) : Reports (.path name)
  | linker : Reports .linker

section

variable {files files' : FileAccess Id} {options : Options} {command : Command}

/-- A command sees of the files only the project that is loaded from them. -/
theorem loadProject_congr
    (same : (Project.load files options.config).run = (Project.load files' options.config).run) :
    loadProject files options = loadProject files' options := by
  have act : (Run.act (Project.load files options.config) : Run Id _) =
      Run.act (Project.load files' options.config) := congrArg Run.act same
  rw [loadProject, loadProject, act]

/-- A report tells two file systems apart by the projects that they load only. -/
theorem finish_congr (reports : command.Reports)
    (same : (Project.load files options.config).run = (Project.load files' options.config).run) :
    (finish files ⟨options, command⟩).run = (finish files' ⟨options, command⟩).run := by
  have performed : perform files ⟨options, command⟩ = perform files' ⟨options, command⟩ := by
    cases reports with
    | signature => simp only [perform, printSignature, loadProject_congr same]
    | path name => simp only [perform, printPath, loadProject_congr same]
    | linker => simp only [perform, printLinker, loadProject_congr same]
  rw [finish, finish, performed]

/-- A report depends on the files only through the project. -/
theorem run_congr {arguments : List String} (asked : parse arguments = .ok ⟨options, command⟩)
    (reports : command.Reports)
    (same : (Project.load files options.config).run = (Project.load files' options.config).run) :
    (run files arguments).run = (run files' arguments).run := by
  rw [run, run, asked]
  exact finish_congr reports same

end

/-- The search for a project finds the deepest directory at or above the start that holds settings, and
none only where none does. On a disk these are the directories of the location, where no path of a
settings file in one of them is longer than `maxPathLength`. So without an explicit path the reports
from two directories of one tree are the same, outputs and exit code, if the nearest project is. It is
the project of the directory that was found: cache files are in its cache directory, which leads on from
there. -/
theorem reports_by_nearest :
    (∀ (files : FileAccess Id) (start : Path),
      (∀ root, (Project.findRoot? files start).run = some root ↔
        Project.IsNearest files start root) ∧
      ((Project.findRoot? files start).run = none ↔
        ∀ dir, Path.Above dir start → ¬ Project.Holds files dir)) ∧
    (∀ (disk : Disk) (loc : Location), disk.Reaches loc →
      (∀ dir ∈ loc.tails,
        (Location.path (Settings.fileName :: dir)).text.utf8ByteSize ≤ maxPathLength) →
      (Project.findRoot? disk.access (Location.path loc)).run =
        (loc.tails.find? fun dir => (disk.get? (Settings.fileName :: dir)).isSome).map
          Location.path) ∧
    ∀ (files files' : FileAccess Id) (start start' root : Path), files.SameTree files' →
      files.WorksIn start → files'.WorksIn start' →
      Project.IsNearest files start root → Project.IsNearest files start' root →
      (∀ arguments options command, parse arguments = .ok ⟨options, command⟩ →
        options.config = none → command.Reports →
        (run files arguments).run = (run files' arguments).run) ∧
      ∀ project file, (Project.load files none).run = .ok (project, file) →
        project.root = root ∧ file = root.join ⟨Settings.fileName⟩ ∧
        (∀ workingDir, project.cacheDir.location workingDir =
          project.settings.cache.dir.location (root.location [])) ∧
        ∀ arguments options name path, parse arguments = .ok ⟨options, .path name⟩ →
          options.config = none →
          CachePath.resolve (root.join project.settings.cache.dir) name = .ok path →
          (run files arguments).run.exit = 0 ∧
            (run files arguments).run.output = path.text ++ "\n" := by
  refine ⟨fun files start => ⟨fun root => Project.findRoot?_eq_some_iff,
    Project.findRoot?_eq_none_iff⟩, fun disk loc reaches fits => reaches.findRoot? fits, ?_⟩
  intro files files' start start' root same works works' nearest nearest'
  refine ⟨?_, ?_⟩
  · intro arguments options command asked unnamed reports
    have loads := Project.load_of_sameTree same works works' nearest nearest'
    exact run_congr asked reports (by rw [unnamed, loads])
  · intro project file loaded
    obtain ⟨rfl, rfl⟩ := Project.root_of_load works.working nearest loaded
    refine ⟨rfl, rfl, fun workingDir => ?_, ?_⟩
    · rw [Project.location_cacheDir,
        Path.location_of_isAbsolute (nearest.above.isAbsolute works.absolute)]
    · intro arguments options name path asked unnamed resolved
      rw [run_path asked (unnamed ▸ loaded) resolved]
      exact ⟨rfl, rfl⟩

namespace Sample

/-- A disk with settings at the root and in a directory, and others below that. -/
def nested : Disk where
  nodes := [(["bcc.toml"], .file [] .epoch), (["a"], .directory .epoch),
    (["bcc.toml", "a"], .file (Text.utf8 text) .epoch), (["b", "a"], .directory .epoch),
    (["c", "a"], .directory .epoch), (["d", "c", "a"], .directory .epoch)]
  workingDir := ["b", "a"]

/-- The same disk, seen from another directory. -/
def deeper : Disk := { nested with workingDir := ["d", "c", "a"] }

end Sample

open Sample in
theorem reports_by_nearest_nested :
    nested.access.SameTree deeper.access ∧ nested.access.WorksIn ⟨"/a/b"⟩ ∧
      deeper.access.WorksIn ⟨"/a/c/d"⟩ ∧ Project.IsNearest nested.access ⟨"/a/b"⟩ ⟨"/a"⟩ ∧
      Project.IsNearest nested.access ⟨"/a/c/d"⟩ ⟨"/a"⟩ ∧
      parse ["path", "fx"] = .ok ⟨{}, .path "fx"⟩ ∧
      (run nested.access ["path", "fx"]).run.output = "/a/.bcc-cache/fx.oBCC\n" ∧
      (run nested.access ["path", "fx"]).run = (run deeper.access ["path", "fx"]).run := by
  obtain ⟨search, onDisk, alike⟩ := reports_by_nearest
  have found : (Project.findRoot? nested.access ⟨"/a/b"⟩).run = some ⟨"/a"⟩ :=
    (onDisk nested ["b", "a"] (by decide +kernel) (by decide +kernel)).trans (by decide +kernel)
  have found' : (Project.findRoot? nested.access ⟨"/a/c/d"⟩).run = some ⟨"/a"⟩ :=
    (onDisk nested ["d", "c", "a"] (by decide +kernel) (by decide +kernel)).trans (by decide +kernel)
  have nearest := ((search _ _).1 _).1 found
  have nearest' := ((search _ _).1 _).1 found'
  have same := nested.sameTree ["d", "c", "a"]
  have works : nested.access.WorksIn ⟨"/a/b"⟩ := nested.worksIn
  have works' : deeper.access.WorksIn ⟨"/a/c/d"⟩ := deeper.worksIn
  have asked : parse ["path", "fx"] = .ok ⟨{}, .path "fx"⟩ := by decide +kernel
  have loaded : (Project.load nested.access none).run = .ok (⟨⟨"/a"⟩, settings⟩, ⟨"/a/bcc.toml"⟩) := by
    rw [Project.load_of_isNearest works.working nearest]
    decide +kernel
  obtain ⟨reported, printed⟩ := alike _ _ _ _ _ same works works' nearest nearest'
  obtain ⟨_, _, _, output⟩ := printed _ _ loaded
  refine ⟨same, works, works', nearest, nearest', asked, ?_, reported _ _ _ asked rfl (.path "fx")⟩
  exact (output _ _ _ ⟨"/a/.bcc-cache/fx.oBCC"⟩ asked rfl (by decide +kernel)).2

end BitcodeCache.CommandLine
