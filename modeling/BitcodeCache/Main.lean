import BitcodeCache.CommandLine.Program

/-!
# The program

Runs the tool on the real file system.
-/

namespace BitcodeCache.CommandLine

/-- The number of a cause; the run-time system may give it negated. -/
def causeNumber (code : UInt32) : Nat :=
  if code < 0x80000000 then code.toNat else UInt32.size - code.toNat

/-- The cause of a refused operation. -/
def causeOf : IO.Error → FileError
  | .alreadyExists _ code _ | .interrupted _ code _ | .noFileOrDirectory _ code _
  | .invalidArgument _ code _ | .permissionDenied _ code _ | .resourceExhausted _ code _
  | .inappropriateType _ code _ | .noSuchThing _ code _ | .otherError code _
  | .resourceBusy code _ | .resourceVanished code _ | .unsupportedOperation code _
  | .hardwareFault code _ | .unsatisfiedConstraints code _ | .illegalOperation code _
  | .protocolError code _ | .timeExpired code _ => .system (causeNumber code)
  | .unexpectedEof => .stated "end of file"
  | .userError text => .stated text

/-- An action with its error as a value. -/
def caught {α : Type} (action : IO α) : IO (Except FileError α) := do
  match ← action.toBaseIO with
  | .ok a => pure (.ok a)
  | .error e => pure (.error (causeOf e))

/-- What the file system says of a path. -/
def metadataOf (path : Path) : IO (Except FileError IO.FS.Metadata) :=
  if path.isEmpty then pure (.error .notFound)
  else caught do (← IO.currentDir).join path.text |>.metadata

/-- A time of the file system. -/
def timeOf (time : IO.FS.SystemTime) : FileTime :=
  if h : time.nsec.toNat < 1000000000 then ⟨Int64.ofInt time.sec, time.nsec.toNat, h⟩ else .epoch

/-- The access to the real file system. -/
def realFiles : FileAccess IO where
  workingDir := do
    let dir ← caught IO.currentDir
    pure (dir.map fun path => ⟨path.toString⟩)
  isThere path := do pure (← metadataOf path).isOk
  isDirectory path := do
    match ← metadataOf path with
    | .ok metadata => pure (metadata.type matches .dir)
    | .error _ => pure false
  read path := do
    let content ← caught (IO.FS.readBinFile path.text)
    pure (content.map fun bytes => bytes.toList)
  modified path := do
    let metadata ← metadataOf path
    pure (metadata.map fun metadata => timeOf metadata.modified)

end BitcodeCache.CommandLine

/-- Runs the tool with its arguments and prints what it leaves. -/
def main (arguments : List String) : IO UInt32 := do
  let result ← BitcodeCache.CommandLine.run BitcodeCache.CommandLine.realFiles arguments
  (← IO.getStdout).putStr result.output
  (← IO.getStderr).putStr result.errors
  pure (UInt32.ofNat result.exit)
