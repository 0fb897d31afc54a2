import BitcodeCache.CommandLine.Arguments
import BitcodeCache.Entry.Report
import BitcodeCache.Linker.Options
import BitcodeCache.Project
import BitcodeCache.Settings.Canonical

/-!
# The tool

What each command of the tool prints and the code that it ends with. Commands only read: the file
system is reached through a `FileAccess`, and a run's whole effect is its `Result`.
-/

namespace BitcodeCache.CommandLine

/-- What a run leaves: the exit code and the two outputs. -/
structure Result where
  exit : Nat
  output : String := ""
  errors : String := ""
deriving DecidableEq, Repr

/-- Why a command failed. -/
inductive Failure where
  | project (cause : ProjectError)
  | settings (cause : SettingsError)
  | unreadable (file : Path) (cause : FileError)
  | undecodable (file : Path) (cause : DecodeError)
  | fingerprint (cause : FingerprintError)
deriving DecidableEq, Repr

/-- What is said of a failed command. -/
def Failure.message : Failure → String
  | .project cause => cause.message
  | .settings cause => cause.message
  | .unreadable file cause => file.text ++ ": " ++ cause.message
  | .undecodable file cause => file.text ++ ": " ++ cause.message
  | .fingerprint cause => cause.message

/-- A command while it runs: it reports events, and may fail. -/
abbrev Run (m : Type → Type) := ExceptT Failure (StateT (List Event) m)

namespace Run

variable {m : Type → Type} [Monad m] {α : Type}

/-- Reports events. -/
def log (events : List Event) : Run m Unit := modify (· ++ events)

/-- An action of the file system. -/
def act (action : m α) : Run m α := ExceptT.lift (StateT.lift action)

/-- The value of a step, whose error becomes a failure. -/
def orFail {ε : Type} (failure : ε → Failure) (result : Except ε α) : Run m α :=
  match result with
  | .ok a => pure a
  | .error e => throw (failure e)

end Run

variable {m : Type → Type} [Monad m]

/-- Loads the project that the options name. -/
def loadProject (files : FileAccess m) (options : Options) : Run m Project := do
  let (project, file) ← Run.orFail .project (← Run.act (Project.load files options.config))
  Run.log [.loadedConfiguration file]
  pure project

/-- The toolchain signature of a project. -/
def signatureOf (project : Project) : Run m Signature := do
  Run.log (RenameMap.warnings project.settings.linker)
  Run.orFail .settings project.settings.signature

/-- Loads an entry if it was built from the source with the expected fingerprint. -/
def tryLoadFrom (files : FileAccess m) (path : Path) (expected : Fingerprint) :
    Run m (Except Miss Entry) := do
  let loaded := Entry.loadRead (← Run.act (files.read path)) expected
  Run.log (Event.ofLookup path loaded)
  pure loaded

/-- Shows an entry. -/
def inspect (files : FileAccess m) (file : Path) (format : Format) : Run m Result := do
  let content ← Run.orFail (.unreadable file) (← Run.act (files.read file))
  let entry ← Run.orFail (.undecodable file) (Entry.decode content)
  match format with
  | .text => pure { exit := 0, output := entry.summary }
  | .json => pure { exit := 0, output := entry.json.pretty ++ "\n" }

/-- What is printed of a hit. -/
def hitText (options : Options) (file : String) (entry : Entry) : String :=
  if options.quiet then ""
  else
    "hit: " ++ file ++ " (" ++ toString entry.artifact.code.length ++ " bytes of code)\n" ++
      if options.verbose then
        "  toolchain " ++ entry.header.fingerprint.toolchain.display ++ "\n"
      else ""

/-- What is printed of a miss. -/
def missText (options : Options) (miss : Miss) : String :=
  if options.quiet then "" else "miss: " ++ miss.message ++ "\n"

/-- Checks an entry against a source file. -/
def verify (files : FileAccess m) (options : Options) (file source : String) : Run m Result := do
  let project ← loadProject files options
  let toolchain ← signatureOf project
  let bytes ← Run.orFail (.unreadable ⟨source⟩) (← Run.act (files.read ⟨source⟩))
  let fingerprint ← Run.orFail .fingerprint
    (← Run.act (Fingerprint.build files.modified bytes (.file ⟨source⟩) toolchain))
  match ← tryLoadFrom files ⟨file⟩ fingerprint with
  | .ok entry => pure { exit := 0, output := hitText options file entry }
  | .error miss => pure { exit := 1, output := missText options miss }

/-- Prints the toolchain signature. -/
def printSignature (files : FileAccess m) (options : Options) : Run m Result := do
  let project ← loadProject files options
  let signature ← signatureOf project
  pure { exit := 0, output := signature.display ++ "\n" }

/-- Prints the cache path of a resource. -/
def printPath (files : FileAccess m) (options : Options) (name : String) : Run m Result := do
  let project ← loadProject files options
  let path ← Run.orFail .settings (CachePath.resolve project.cacheDir name)
  pure { exit := 0, output := path.text ++ "\n" }

/-- Prints the linker options. -/
def printLinker (files : FileAccess m) (options : Options) : Run m Result := do
  let project ← loadProject files options
  Run.log (RenameMap.warnings project.settings.linker)
  pure { exit := 0, output := project.settings.linker.optionText }

/-- Runs a command. -/
def perform (files : FileAccess m) (request : Request) : Run m Result :=
  match request.command with
  | .inspect file format => inspect files ⟨file⟩ format
  | .verify file source => verify files request.options file source
  | .signature => printSignature files request.options
  | .path name => printPath files request.options name
  | .linker => printLinker files request.options

/-- The least level of the events that are printed. -/
def threshold (options : Options) : Level :=
  if options.verbose then .debug else if options.quiet then .error else .warn

/-- The lines of the events that are printed. -/
def logText (options : Options) (events : List Event) : String :=
  String.join ((events.filter fun e => (threshold options).rank ≤ e.level.rank).map fun e =>
    e.line ++ "\n")

/-- Runs a command to its end; a failure is printed after the log, and the run ends with 1. -/
def finish (files : FileAccess m) (request : Request) : m Result := do
  let (result, events) ← (perform files request).run.run []
  let log := logText request.options events
  match result with
  | .ok result => pure { result with errors := log ++ result.errors }
  | .error failure => pure { exit := 1, errors := log ++ "error: " ++ failure.message ++ "\n" }

/-- The version of the tool. -/
def versionText : String := "bccache 0.1.0\n"

/-- A short help on the commands. -/
def helpText : String :=
  "Usage: bccache [OPTIONS] <COMMAND>\n\n" ++
  "Commands: inspect, verify, signature, path, linker\n" ++
  "Options: --quiet, --verbose, --config <CONFIG>, --help, --version\n"

/-- Runs the tool with its arguments. -/
def run (files : FileAccess m) (arguments : List String) : m Result :=
  match parse arguments with
  | .error .help => pure { exit := 0, output := helpText }
  | .error .version => pure { exit := 0, output := versionText }
  | .error .usage => pure { exit := 2, errors := helpText }
  | .ok request => finish files request

end BitcodeCache.CommandLine
