import BitcodeCache.CommandLine.Program

/-!
# Commands only read

On a disk that could change under its actions, a command gives the result that it gives for the disk as
it is, and leaves the disk so. All that a command does with files is to look at them: `Looks` says this of
an action and is kept by sequences of actions.
-/

namespace BitcodeCache

variable {α β : Type} {disk : Disk}

/-- The action that answers a question about the disk. -/
def Disk.look (question : Disk → α) : StateM Disk α := fun disk => pure (question disk, disk)

/-- The access to a disk by actions on it. -/
def Disk.live : FileAccess (StateM Disk) where
  workingDir := look (·.access.workingDir)
  isThere path := look (·.access.isThere path)
  isDirectory path := look (·.access.isDirectory path)
  read path := look (·.access.read path)
  modified path := look (·.access.modified path)

/-- An action on a disk gives the value of a computation, and the disk stays as it is. -/
def Looks (disk : Disk) (action : StateM Disk α) (computed : Id α) : Prop :=
  action.run disk = (computed, disk)

namespace Looks

theorem pure (a : α) : Looks disk (pure a) (Pure.pure a) := rfl

theorem look (question : Disk → α) : Looks disk (Disk.look question) (question disk) := rfl

/-- Of two steps that only look, the second one meets the same disk as the first. -/
theorem bind {action : StateM Disk α} {computed : Id α} {next : α → StateM Disk β}
    {next' : α → Id β} (first : Looks disk action computed)
    (second : ∀ a, Looks disk (next a) (next' a)) :
    Looks disk (action >>= next) (computed >>= next') := by
  change (action >>= next).run disk = _
  rw [StateT.run_bind, first]
  exact second computed

theorem map {action : StateM Disk α} {computed : Id α} (h : Looks disk action computed)
    (f : α → β) : Looks disk (f <$> action) (Pure.pure (f computed.run)) := by
  change (f <$> action).run disk = _
  rw [StateT.run_map, h]
  rfl

/-! ## Projects -/

/-- The search for a project only looks, at each directory on its way up. -/
theorem findRoot? (dir : Path) :
    Looks disk (Project.findRoot? Disk.live dir) (Project.findRoot? disk.access dir) := by
  rw [Project.findRoot?, Project.findRoot?]
  refine bind (look _) fun found => ?_
  split
  · exact pure _
  · split
    · exact pure _
    · exact findRoot? _
termination_by dir.text.length
decreasing_by exact Path.length_parent?_lt ‹_›

/-- A settings file that is named on the command line is only looked at. -/
theorem explicit (path : Path) :
    Looks disk (Project.explicit Disk.live path) (Project.explicit disk.access path) := by
  refine bind (look _) fun isDirectory => ?_
  split
  · exact pure _
  · exact pure _

theorem nearest : Looks disk (Project.nearest Disk.live) (Project.nearest disk.access) := by
  refine bind (look _) fun start => ?_
  split
  · exact pure _
  · refine bind (findRoot? _) fun root => ?_
    split
    · exact pure _
    · exact pure _

theorem loadSettings (path : Path) :
    Looks disk (Settings.load Disk.live path) (Settings.load disk.access path) := by
  refine bind (look _) fun isDirectory => ?_
  exact bind (look _) fun content => pure _

/-- A project is only read. -/
theorem loadProject (path : Option String) :
    Looks disk (Project.load Disk.live path) (Project.load disk.access path) := by
  cases path
  case' none => refine bind nearest ?_
  case' some path => refine bind ((explicit ⟨path⟩).map _) ?_
  -- wherever the settings file was found, it is loaded in the same way
  all_goals
    rintro (e | ⟨root, file⟩)
    · exact pure _
    · refine bind (loadSettings file) ?_
      rintro (cause | settings)
      · exact pure _
      · exact pure _

/-- A fingerprint takes nothing but the time from the disk. -/
theorem build (bytes : Bytes) (path : Path) (toolchain : Signature) :
    Looks disk (Fingerprint.build Disk.live.modified bytes (.file path) toolchain)
      (Fingerprint.build disk.access.modified bytes (.file path) toolchain) := by
  refine bind (look _) ?_
  rintro (cause | time)
  · exact pure _
  · exact pure _

end Looks

/-! ## Commands -/

namespace CommandLine

/-- A step of a command gives what it gives for the disk as it is, whatever was reported before. -/
def Run.Looks (disk : Disk) (step : Run (StateM Disk) α) (computed : Run Id α) : Prop :=
  ∀ events, BitcodeCache.Looks disk (step.run.run events) (computed.run.run events)

namespace Run.Looks

theorem pure (a : α) : Looks disk (pure a) (Pure.pure a) := fun _ => .pure _

theorem throw (failure : Failure) :
    Looks disk (throw failure : Run (StateM Disk) α) (MonadExcept.throw failure) := fun _ => .pure _

/-- A command whose steps only look only looks. -/
theorem bind {step : Run (StateM Disk) α} {computed : Run Id α} {next : α → Run (StateM Disk) β}
    {next' : α → Run Id β} (first : Looks disk step computed)
    (second : ∀ a, Looks disk (next a) (next' a)) :
    Looks disk (step >>= next) (computed >>= next') := by
  intro events
  rw [ExceptT.run_bind, ExceptT.run_bind, StateT.run_bind, StateT.run_bind]
  refine (first events).bind ?_
  rintro ⟨failure | a, events⟩
  · exact .pure _
  · exact second a events

/-- A question to the files inside a command is one to the disk. -/
theorem act {action : StateM Disk α} {computed : Id α}
    (h : BitcodeCache.Looks disk action computed) : Looks disk (act action) (act computed) := by
  intro events
  rw [Run.act, Run.act, ExceptT.run_lift, ExceptT.run_lift, StateT.run_map, StateT.run_map]
  exact (h.bind fun _ => .pure _).map _

theorem log (reported : List Event) : Looks disk (log reported) (log reported) := fun _ => .pure _

theorem orFail {ε : Type} (failure : ε → Failure) (result : Except ε α) :
    Looks disk (orFail failure result) (orFail failure result) := by
  cases result with
  | ok a => exact pure a
  | error e => exact throw (failure e)

/-- Loading the project is a look inside a command too, whatever comes of it. -/
theorem loadProject (options : Options) :
    Looks disk (loadProject Disk.live options) (loadProject disk.access options) :=
  (act (.loadProject options.config)).bind fun _ => (orFail _ _).bind fun _ =>
    (log _).bind fun _ => pure _

theorem signatureOf (project : Project) :
    Looks disk (signatureOf project) (signatureOf project) := (log _).bind fun _ => orFail _ _

/-- A lookup only reads the cache file. -/
theorem tryLoadFrom (path : Path) (expected : Fingerprint) :
    Looks disk (tryLoadFrom Disk.live path expected) (tryLoadFrom disk.access path expected) :=
  (act (.look _)).bind fun _ => (log _).bind fun _ => pure _

/-- To inspect a cache file is only to read it. -/
theorem inspect (file : Path) (format : Format) :
    Looks disk (inspect Disk.live file format) (inspect disk.access file format) := by
  refine (act (.look _)).bind fun _ => (orFail _ _).bind fun _ => (orFail _ _).bind fun _ => ?_
  cases format <;> exact pure _

/-- To verify is to read the settings, the source and the cache file, and to change none of them. -/
theorem verify (options : Options) (file source : String) :
    Looks disk (verify Disk.live options file source)
      (verify disk.access options file source) := by
  refine (loadProject options).bind fun _ => (signatureOf _).bind fun _ =>
    (act (.look _)).bind fun _ => (orFail _ _).bind fun _ => (act (.build _ _ _)).bind fun _ =>
    (orFail _ _).bind fun _ => (tryLoadFrom _ _).bind ?_
  rintro (miss | entry)
  · exact pure _
  · exact pure _

/-- Every command only looks. -/
theorem perform (request : Request) :
    Looks disk (perform Disk.live request) (perform disk.access request) := by
  obtain ⟨options, command⟩ := request
  cases command with
  | inspect file format => exact inspect ⟨file⟩ format
  | verify file source => exact verify options file source
  | signature =>
    exact (loadProject options).bind fun _ => (signatureOf _).bind fun _ => pure _
  | path name => exact (loadProject options).bind fun _ => (orFail _ _).bind fun _ => pure _
  | linker => exact (loadProject options).bind fun _ => (log _).bind fun _ => pure _

end Run.Looks

/-- A command that has run to its end, with its failure shown or not, has only looked. -/
theorem looks_finish (request : Request) :
    Looks disk (finish Disk.live request) (finish disk.access request) := by
  refine (Run.Looks.perform request []).bind ?_
  rintro ⟨failure | result, events⟩
  · exact .pure _
  · exact .pure _

/-- The tool leaves the disk as it is, whatever its arguments are. -/
theorem run_live (arguments : List String) (disk : Disk) :
    (run Disk.live arguments).run disk = (run disk.access arguments, disk) := by
  change Looks disk (run Disk.live arguments) (run disk.access arguments)
  unfold run
  split
  · exact .pure _
  · exact .pure _
  · exact .pure _
  · exact looks_finish _

end CommandLine

end BitcodeCache
