import BitcodeCache.Proofs.Project.Nearest

/-!
# Loading projects

Once the nearest directory is found only paths in it are looked at, so that two working directories with
the same nearest one load the same project. However a project is named or found, its directory is the one
that its settings file is in, and a cache directory leads on from there.
-/

namespace BitcodeCache

/-! ## One tree, seen from two directories -/

/-- Two ways to look at one tree: they can start from different working directories, but give the same
answers for all paths from the root. -/
structure FileAccess.SameTree (files files' : FileAccess Id) : Prop where
  isThere : ∀ p : Path, p.isAbsolute = true → files.isThere p = files'.isThere p
  isDirectory : ∀ p : Path, p.isAbsolute = true → files.isDirectory p = files'.isDirectory p
  read : ∀ p : Path, p.isAbsolute = true → files.read p = files'.read p
  modified : ∀ p : Path, p.isAbsolute = true → files.modified p = files'.modified p

/-- The working directory of a file system, a path from the root. -/
structure FileAccess.WorksIn (files : FileAccess Id) (start : Path) : Prop where
  working : files.workingDir.run = .ok start
  absolute : start.isAbsolute = true

/-- A program works in the working directory of its disk. -/
theorem Disk.worksIn (disk : Disk) : disk.access.WorksIn (Location.path disk.workingDir) where
  working := rfl
  absolute := Location.isAbsolute_path disk.workingDir

/-- A disk answers for paths from the root without its working directory. -/
theorem Disk.sameTree (disk : Disk) (workingDir : Location) :
    disk.access.SameTree { disk with workingDir := workingDir }.access := by
  have same : ∀ p : Path, p.isAbsolute = true →
      disk.stat p = { disk with workingDir := workingDir }.stat p := by
    intro p absolute
    have start : disk.start p = { disk with workingDir := workingDir }.start p := by
      simp only [Disk.start, absolute, if_true]
    simp only [stat, locate, start]
    rfl
  constructor
  · intro p absolute
    change disk.isThere p = Disk.isThere _ p
    rw [isThere, isThere, same p absolute]
  · intro p absolute
    change disk.isDirectory p = Disk.isDirectory _ p
    rw [isDirectory, isDirectory, same p absolute]
  · intro p absolute
    change disk.read p = Disk.read _ p
    rw [read, read, same p absolute]
  · intro p absolute
    change disk.modified p = Disk.modified _ p
    rw [modified, modified, same p absolute]

namespace Project

variable {files files' : FileAccess Id} {start start' root : Path}

/-- In one tree an absolute directory holds settings from everywhere or from nowhere. -/
theorem Holds.of_sameTree (same : files.SameTree files') {dir : Path}
    (absolute : dir.isAbsolute = true) : Holds files dir ↔ Holds files' dir := by
  rw [Holds, Holds, same.isThere _ (Path.isAbsolute_join absolute _)]

/-- In one tree the nearest project is the same from everywhere. -/
theorem IsNearest.of_sameTree (same : files.SameTree files') (absolute : start.isAbsolute = true)
    (nearest : IsNearest files start root) : IsNearest files' start root := by
  refine ⟨nearest.above, ?_, fun dir above holds => nearest.deepest dir above ?_⟩
  · exact (Holds.of_sameTree same (nearest.above.isAbsolute absolute)).1 nearest.holds
  · exact (Holds.of_sameTree same (above.isAbsolute absolute)).2 holds

/-- Settings are read from the file, or from the settings file in the directory. -/
theorem loadSettings_run (files : FileAccess Id) (file : Path) :
    (Settings.load files file).run = Settings.ofContent (files.read
      (if (files.isDirectory file).run then file.join ⟨Settings.fileName⟩ else file)).run := rfl

/-- In one tree an absolute path gives the same settings from everywhere. -/
theorem loadSettings_of_sameTree (same : files.SameTree files') {file : Path}
    (absolute : file.isAbsolute = true) :
    (Settings.load files file).run = (Settings.load files' file).run := by
  rw [loadSettings_run, loadSettings_run, same.isDirectory file absolute]
  split
  · rw [same.read _ (Path.isAbsolute_join absolute _)]
  · rw [same.read _ absolute]

/-- The directory and the settings file that a path stands for, or that are found without one. -/
def chosen (files : FileAccess Id) : Option String → Except ProjectError (Path × Path)
  | some path => .ok (explicit files ⟨path⟩).run
  | none => (nearest files).run

/-- A project is chosen first, and then its settings are read. -/
theorem load_run (files : FileAccess Id) (path : Option String) : (load files path).run =
    match chosen files path with
    | .error e => .error e
    | .ok (root, file) =>
      match (Settings.load files file).run with
      | .error cause => .error (.settings file cause)
      | .ok settings => .ok (⟨root, settings⟩, file) := by
  cases path
  case' none =>
    rw [load, Id.run_bind, chosen]
    generalize (nearest files).run = place
  case' some path =>
    rw [load, Id.run_bind, Id.run_map, chosen]
    generalize Except.ok (explicit files ⟨path⟩).run = place
  -- the settings are read in the same way, wherever the project was found
  all_goals
    rcases place with e | ⟨root, file⟩
    · rfl
    · dsimp only
      rw [Id.run_bind]
      cases (Settings.load files file).run <;> rfl

/-- A project is loaded exactly if one is chosen and its settings can be read. -/
theorem load_eq_ok_iff {path : Option String} {project : Project} {file : Path} :
    (load files path).run = .ok (project, file) ↔ chosen files path = .ok (project.root, file) ∧
      (Settings.load files file).run = .ok project.settings := by
  rw [load_run]
  cases chosen files path with
  | error e => exact ⟨nofun, fun h => nomatch h.1⟩
  | ok pair =>
    obtain ⟨root', file'⟩ := pair
    obtain ⟨root, settings⟩ := project
    dsimp only
    constructor
    · intro loaded
      cases read : (Settings.load files file').run with
      | error cause =>
        rw [read] at loaded
        cases loaded
      | ok settings' =>
        rw [read] at loaded
        cases loaded
        exact ⟨rfl, read⟩
    · rintro ⟨place, read⟩
      cases place
      rw [read]

/-- The project of the working directory is the one whose directory is the nearest. -/
theorem load_of_isNearest (working : files.workingDir.run = .ok start)
    (nearest : IsNearest files start root) : (load files none).run =
      match (Settings.load files (root.join ⟨Settings.fileName⟩)).run with
      | .error cause => .error (.settings (root.join ⟨Settings.fileName⟩) cause)
      | .ok settings => .ok (⟨root, settings⟩, root.join ⟨Settings.fileName⟩) := by
  have found : chosen files none = .ok (root, root.join ⟨Settings.fileName⟩) := by
    rw [chosen, Project.nearest, Id.run_bind, working]
    dsimp only
    rw [Id.run_bind, findRoot?_eq_some_iff.2 nearest]
    rfl
  rw [load_run, found]

/-- Two directories of one tree with the same nearest project load the same. -/
theorem load_of_sameTree (same : files.SameTree files') (works : files.WorksIn start)
    (works' : files'.WorksIn start') (nearest : IsNearest files start root)
    (nearest' : IsNearest files start' root) : (load files none).run = (load files' none).run := by
  have file := Path.isAbsolute_join (nearest.above.isAbsolute works.absolute) ⟨Settings.fileName⟩
  rw [load_of_isNearest works.working nearest,
    load_of_isNearest works'.working (nearest'.of_sameTree same works'.absolute),
    loadSettings_of_sameTree same file]

/-- A project that is loaded without a path is that of the nearest directory. -/
theorem root_of_load {project : Project} {file : Path} (working : files.workingDir.run = .ok start)
    (nearest : IsNearest files start root) (loaded : (load files none).run = .ok (project, file)) :
    project.root = root ∧ file = root.join ⟨Settings.fileName⟩ := by
  rw [load_of_isNearest working nearest] at loaded
  split at loaded
  · cases loaded
  · cases loaded
    exact ⟨rfl, rfl⟩

/-! ## Where a project's files are -/

/-- A path that is given is the project's directory, or a settings file in it. -/
theorem explicit_run (files : FileAccess Id) (path : Path) : (explicit files path).run =
    if (files.isDirectory path).run then (path, path.join ⟨Settings.fileName⟩)
    else (path.parent?.getD ⟨"."⟩, path) := by
  rw [explicit, Id.run_bind]
  split <;> rfl

/-- The nearest project has its settings under their usual name. -/
theorem nearest_eq_ok {file : Path} (found : (nearest files).run = .ok (root, file)) :
    file = root.join ⟨Settings.fileName⟩ := by
  rw [nearest, Id.run_bind] at found
  split at found
  · cases found
  · rw [Id.run_bind] at found
    split at found
    · cases found
    · cases found
      rfl

/-- Where no directory is in the way, settings that were read are the content of a file. -/
theorem read_of_loadSettings {disk : Disk} {file : Path} {settings : Settings}
    (noDirectory : ¬ (disk.access.isDirectory file).run = true)
    (read : (Settings.load disk.access file).run = .ok settings) :
    ∃ content time, disk.get? (file.location disk.workingDir) = some (.file content time) := by
  rw [loadSettings_run, if_neg noDirectory] at read
  change Settings.ofContent (disk.read file) = _ at read
  cases readable : disk.read file with
  | error cause =>
    rw [readable] at read
    cases read
  | ok content =>
    obtain ⟨time, there⟩ := Disk.get?_of_read readable
    exact ⟨content, time, there⟩

/-- The settings file of a project that is loaded is one part further than the project's directory,
however it was named or found. -/
theorem location_of_load {disk : Disk} {path : Option String} {project : Project} {file : Path}
    (loaded : (load disk.access path).run = .ok (project, file)) : ∃ piece,
      file.location disk.workingDir = (project.root.location disk.workingDir).next piece := by
  obtain ⟨place, read⟩ := load_eq_ok_iff.1 loaded
  obtain ⟨root, settings⟩ := project
  have joined (inside : file = root.join ⟨Settings.fileName⟩) : ∃ piece,
      file.location disk.workingDir = (root.location disk.workingDir).next piece := by
    rw [inside, Path.location_join]
    exact ⟨_, Path.location_of_not_mem (by decide) _⟩
  cases path with
  | none => exact joined (nearest_eq_ok place)
  | some path =>
    rw [chosen, explicit_run] at place
    split at place
    · cases place
      exact joined rfl
    · rename_i noDirectory
      cases place
      cases up : (⟨path⟩ : Path).parent? with
      | some parent =>
        obtain ⟨piece, further⟩ := Path.location_of_parent? up
        exact ⟨piece, further _⟩
      | none =>
        -- the path is empty or that of the root, which is no file
        have whole := Path.location_back ⟨path⟩ disk.workingDir
        rcases Path.parent?_eq_none up with nothing | slash
        · rw [nothing, Path.location_of_isEmpty (by decide)] at whole
          have here : (⟨"."⟩ : Path).location disk.workingDir = disk.workingDir := rfl
          exact ⟨"", whole.symm.trans here.symm⟩
        · obtain ⟨content, time, there⟩ := read_of_loadSettings noDirectory read
          rw [← whole, slash] at there
          cases there

/-- The cache directory is where its own path leads from the project's directory. -/
theorem location_cacheDir (project : Project) (workingDir : Location) :
    project.cacheDir.location workingDir =
      project.settings.cache.dir.location (project.root.location workingDir) :=
  Path.location_join project.root project.settings.cache.dir workingDir

end Project

end BitcodeCache
