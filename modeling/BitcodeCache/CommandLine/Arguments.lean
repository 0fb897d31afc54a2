/-!
# Command-line arguments

The commands of the tool and how they are read from its arguments. Options are read at two levels:
before the name of the command, and after it together with those of the command. A single dash
starts a cluster of one-letter options, two dashes one long option, and two dashes alone turn all
that follows into plain words.
-/

namespace BitcodeCache.CommandLine

/-- The layout of a report. -/
inductive Format where
  | text
  | json
deriving DecidableEq, Repr

/-- What the tool is asked to do. -/
inductive Command where
  | inspect (file : String) (format : Format)
  | verify (file source : String)
  | signature
  | path (name : String)
  | linker
deriving DecidableEq, Repr

/-- The options that every command takes. -/
structure Options where
  quiet : Bool := false
  verbose : Bool := false
  config : Option String := none
deriving DecidableEq, Repr

/-- A command with its options. -/
structure Request where
  options : Options
  command : Command
deriving DecidableEq, Repr

/-- Why there is no command to run: help or the version is asked for, or the arguments are not
understood. -/
inductive Stop where
  | help
  | version
  | usage
deriving DecidableEq, Repr

/-! ## Words -/

/-- The form of an argument. -/
inductive Word where
  | escape
  | long (name : String) (value : Option String)
  | cluster (letters : List Char)
  | plain (text : String)
deriving DecidableEq, Repr

/-- Splits a long option at its first equals sign. -/
def splitValue (cs : List Char) : String × Option String :=
  match cs.dropWhile (· != '=') with
  | [] => (String.ofList cs, none)
  | _ :: value => (String.ofList (cs.takeWhile (· != '=')), some (String.ofList value))

/-- The form of an argument. A single dash alone is plain. -/
def Word.of (text : String) : Word :=
  match text.toList with
  | ['-', '-'] => .escape
  | '-' :: '-' :: name => let (name, value) := splitValue name; .long name value
  | '-' :: letter :: letters => .cluster (letter :: letters)
  | _ => .plain text

/-! ## One level of options -/

/-- What an option does: it is set, it takes any value or one of some, or it ends the reading. -/
inductive OptionKind where
  | flag
  | valued
  | choice (values : List String)
  | stop (reason : Stop)
deriving DecidableEq, Repr

/-- An option with its long name and its letter. -/
structure OptionRule where
  name : String
  letter : Option Char
  kind : OptionKind
deriving DecidableEq, Repr

/-- Whether a value may be given to an option. -/
def OptionRule.accepts (rule : OptionRule) (value : String) : Bool :=
  match rule.kind with
  | .choice values => values.contains value
  | _ => true

/-- What was read at one level. -/
structure Found where
  flags : List String := []
  values : List (String × String) := []
  words : List String := []
deriving DecidableEq, Repr

namespace Found

/-- Notes a flag, which may be given once. -/
def addFlag (found : Found) (name : String) : Except Stop Found :=
  if name ∈ found.flags then .error .usage else .ok { found with flags := name :: found.flags }

/-- Notes the value of an option, which may be given once. -/
def addValue (found : Found) (rule : OptionRule) (value : String) : Except Stop Found :=
  if found.values.any (·.1 == rule.name) || !rule.accepts value then .error .usage
  else .ok { found with values := (rule.name, value) :: found.values }

/-- Notes a plain word, of which there may be `limit`. -/
def addWord (limit : Nat) (found : Found) (word : String) : Except Stop Found :=
  if limit ≤ found.words.length then .error .usage
  else .ok { found with words := found.words ++ [word] }

end Found

/-- Reads the letters of a cluster. The rest of a cluster after the letter of an option with a value
is the value, without an equals sign at its front; where nothing is left, the option waits for the
next argument. -/
def readCluster (rules : List OptionRule) (found : Found) :
    List Char → Except Stop (Found × Option OptionRule)
  | [] => .ok (found, none)
  | letter :: letters =>
    match rules.find? (·.letter == some letter) with
    | none => .error .usage
    | some rule =>
      match rule.kind, letters with
      | .stop reason, _ => .error reason
      | .flag, _ => do readCluster rules (← found.addFlag rule.name) letters
      | _, [] => .ok (found, some rule)
      | _, '=' :: value => do pure (← found.addValue rule (String.ofList value), none)
      | _, value => do pure (← found.addValue rule (String.ofList value), none)

/-- Reads a long option; one that has no value yet waits for the next argument. -/
def readLong (rules : List OptionRule) (found : Found) (name : String) (value : Option String) :
    Except Stop (Found × Option OptionRule) :=
  match rules.find? (·.name == name) with
  | none => .error .usage
  | some rule =>
    match rule.kind, value with
    | .stop _, some _ => .error .usage
    | .stop reason, none => .error reason
    | .flag, some _ => .error .usage
    | .flag, none => do pure (← found.addFlag name, none)
    | _, some value => do pure (← found.addValue rule value, none)
    | _, none => .ok (found, some rule)

/-- What may stand at a level: its options, the number of its plain words, and the words that end
it. -/
structure LevelRules where
  options : List OptionRule
  words : Nat
  isEnd : String → Bool

/-- Reads one level, up to a word that ends it or to the end of the arguments. `waiting` is an
option that still needs a value. Gives what was found and what follows. -/
def readLevel (rules : LevelRules) (found : Found) (waiting : Option OptionRule) :
    List String → Except Stop (Found × List String)
  | [] => if waiting.isSome then .error .usage else .ok (found, [])
  | argument :: rest =>
    match waiting, Word.of argument with
    | some rule, .plain value => do
      readLevel rules (← found.addValue rule value) none rest
    | some _, _ => .error .usage
    | none, .escape => do pure (← rest.foldlM (Found.addWord rules.words) found, [])
    | none, .long name value => do
      let (found, waiting) ← readLong rules.options found name value
      readLevel rules found waiting rest
    | none, .cluster letters => do
      let (found, waiting) ← readCluster rules.options found letters
      readLevel rules found waiting rest
    | none, .plain word => do
      if rules.isEnd word then pure (found, argument :: rest)
      else readLevel rules (← found.addWord rules.words word) none rest

/-! ## Commands -/

/-- The options of every level. -/
def commonOptions : List OptionRule :=
  [⟨"quiet", some 'q', .flag⟩, ⟨"verbose", some 'v', .flag⟩, ⟨"config", none, .valued⟩,
    ⟨"help", some 'h', .stop .help⟩]

/-- The layouts of reports with their names. -/
def formats : List (String × Format) := [("text", .text), ("json", .json)]

/-- The names of the commands. -/
def commandNames : List String := ["inspect", "verify", "signature", "path", "linker", "help"]

/-- What may stand before the command. -/
def topRules : LevelRules where
  options := commonOptions ++ [⟨"version", some 'V', .stop .version⟩]
  words := 0
  isEnd := commandNames.contains

/-- What may stand after the name of a command. -/
def commandRules (name : String) : LevelRules where
  options := commonOptions ++
    if name = "inspect" then [⟨"format", some 'f', .choice (formats.map (·.1))⟩]
    else if name = "verify" then [⟨"source", some 's', .valued⟩]
    else []
  words := if name = "signature" ∨ name = "linker" then 0 else 1
  isEnd := fun _ => false

/-- The layout of a report; without one it is text. -/
def formatOf (found : Found) : Format :=
  ((found.values.lookup "format").bind fun name => formats.lookup name).getD .text

/-- The command that was found after its name. -/
def commandOf (name : String) (found : Found) : Except Stop Command :=
  match name, found.words with
  | "inspect", [file] => .ok (.inspect file (formatOf found))
  | "verify", [file] =>
    match found.values.lookup "source" with
    | some source => .ok (.verify file source)
    | none => .error .usage
  | "signature", [] => .ok .signature
  | "path", [name] => .ok (.path name)
  | "linker", [] => .ok .linker
  | _, _ => .error .usage

/-- The common options of both levels: a flag holds if either level has it, and the value nearer to
the command wins. -/
def optionsOf (outer inner : Found) : Options where
  quiet := outer.flags.contains "quiet" || inner.flags.contains "quiet"
  verbose := outer.flags.contains "verbose" || inner.flags.contains "verbose"
  config := inner.values.lookup "config" <|> outer.values.lookup "config"

/-- What a request for help on the named commands gives: help on the tool or on one command. -/
def helpOn : List String → Stop
  | [] => .help
  | [name] => if name ∈ commandNames then .help else .usage
  | _ => .usage

/-- Reads the arguments of the tool. -/
def parse (arguments : List String) : Except Stop Request := do
  match ← readLevel topRules {} none arguments with
  | (_, []) => throw .usage
  | (_, "help" :: names) => throw (helpOn names)
  | (outer, name :: rest) =>
    let (inner, _) ← readLevel (commandRules name) {} none rest
    pure ⟨optionsOf outer inner, ← commandOf name inner⟩

end BitcodeCache.CommandLine
