import BuildLog.Detection
import BuildLog.Report

/-! The arguments of the program. Options are words behind two hyphens or letters behind one; what
follows `--` are command lines to look at. -/

namespace BuildLog

inductive Input where
  | lines (lines : List String)
  | file (path : String)
  | standardInput
  deriving DecidableEq, Repr

structure Arguments where
  config : Option String := none
  verbosity : Nat := 0
  versionSuffix : Option String := none
  style : Option PathStyle := none
  format : ReportFormat := .text
  input : Input := .standardInput
  deriving DecidableEq, Repr

/-- Why the program does not start: the arguments are wrong or ask for an explanation. -/
inductive UsageStop where
  | unknownArgument
  | invalidValue
  | conflict
  | tooManyValues
  | help
  | version
  deriving DecidableEq, Repr

def UsageStop.exitCode : UsageStop → Nat
  | .help | .version => 0
  | _ => 2

namespace Arguments

inductive Setting where
  | config
  | versionSuffix
  | style
  | format
  | input
  deriving DecidableEq, Repr

/-- Only a version pattern may look like an option. -/
def Setting.allowsHyphen : Setting → Bool
  | .versionSuffix => true
  | _ => false

/-- What an option does. -/
inductive Action where
  | set (s : Setting)
  | verbose
  | help
  | version
  deriving DecidableEq, Repr

def ofWord? : String → Option Action
  | "config" => some (.set .config)
  | "version-suffix" => some (.set .versionSuffix)
  | "style" => some (.set .style)
  | "format" => some (.set .format)
  | "input" => some (.set .input)
  | "verbose" => some .verbose
  | "help" => some .help
  | "version" => some .version
  | _ => none

def ofLetter? : Char → Option Action
  | 'c' => some (.set .config)
  | 'f' => some (.set .format)
  | 'i' => some (.set .input)
  | 'v' => some .verbose
  | 'h' => some .help
  | 'V' => some .version
  | _ => none

def maxVerbosity : Nat := 255

structure Given where
  config : Option String := none
  verbosity : Nat := 0
  versionSuffix : Option String := none
  style : Option PathStyle := none
  format : Option ReportFormat := none
  input : Option String := none
  deriving DecidableEq, Repr

namespace Given

def raiseVerbosity (g : Given) : Given :=
  { g with verbosity := min (g.verbosity + 1) maxVerbosity }

def has (g : Given) : Setting → Bool
  | .config => g.config.isSome
  | .versionSuffix => g.versionSuffix.isSome
  | .style => g.style.isSome
  | .format => g.format.isSome
  | .input => g.input.isSome

/-- Accepts a value. An option is given once. -/
def set (g : Given) (s : Setting) (value : String) : Except UsageStop Given :=
  if g.has s then .error .conflict
  else
    match s with
    | .config => .ok { g with config := some value }
    | .versionSuffix => .ok { g with versionSuffix := some value }
    | .input => .ok { g with input := some value }
    | .style =>
      match PathStyle.ofName? value with
      | some style => .ok { g with style := some style }
      | none => .error .invalidValue
    | .format =>
      match ReportFormat.ofName? value with
      | some format => .ok { g with format := some format }
      | none => .error .invalidValue

end Given

/-- What has been read: the accepted options and the last one, whose value may be missing yet. That
value is looked at when the next argument is known to be one. -/
structure Reader where
  given : Given := {}
  last : Option (Setting × Option String) := none
  deriving DecidableEq, Repr

namespace Reader

def settle (r : Reader) : Except UsageStop Given :=
  match r.last with
  | none => .ok r.given
  | some (_, none) => .error .invalidValue
  | some (s, some value) => r.given.set s value

/-- The option that waits for its value. -/
def waiting (r : Reader) : Option Setting :=
  match r.last with
  | some (s, none) => some s
  | _ => none

def act (r : Reader) : Action → Except UsageStop Reader
  | .set s => do return ⟨← r.settle, some (s, none)⟩
  | .verbose => do return ⟨(← r.settle).raiseVerbosity, none⟩
  | .help => do
    let _ ← r.settle
    throw .help
  | .version => do
    let _ ← r.settle
    throw .version

/-- Reads an option with the value that is attached to it. -/
def attach (r : Reader) (s : Setting) (value : String) : Except UsageStop Reader := do
  return ⟨← (← r.settle).set s value, none⟩

/-- Reads what follows two hyphens: a word, and a value behind the first equals sign. -/
def readWord (r : Reader) (cs : List Char) : Except UsageStop Reader :=
  match ofWord? (String.ofList (cs.takeWhile (· != '='))), cs.dropWhile (· != '=') with
  | none, _ => .error .unknownArgument
  | some action, [] => r.act action
  | some (.set s), _ :: value => r.attach s (String.ofList value)
  | some _, _ :: _ => .error .tooManyValues

/-- Reads what follows one hyphen. A letter that takes a value takes the rest, if there is any, with
or without an equals sign. -/
def readLetters (r : Reader) : List Char → Except UsageStop Reader
  | [] => .ok r
  | c :: cs =>
    match ofLetter? c with
    | none => .error .unknownArgument
    | some (.set s) =>
      match cs with
      | [] => r.act (.set s)
      | '=' :: value => r.attach s (String.ofList value)
      | value => r.attach s (String.ofList value)
    | some action =>
      match r.act action with
      | .ok r => readLetters r cs
      | .error e => .error e

/-- Reads an argument that is not an option: a value, if one is missing. -/
def readPlain (r : Reader) (arg : String) : Except UsageStop Reader :=
  match r.waiting with
  | some s => .ok { r with last := some (s, some arg) }
  | none => .error .unknownArgument

/-- Reads the arguments up to `--`, and gives what follows it. -/
def read (r : Reader) : List String → Except UsageStop (Given × List String)
  | [] => do return (← r.settle, [])
  | arg :: rest =>
    if r.waiting.any Setting.allowsHyphen then
      match r.readPlain arg with
      | .ok r => read r rest
      | .error e => .error e
    else if arg = "--" then do return (← r.settle, rest)
    else
      let next :=
        match arg.toList with
        | '-' :: '-' :: word => r.readWord word
        | '-' :: c :: letters => r.readLetters (c :: letters)
        | _ => r.readPlain arg
      match next with
      | .ok r => read r rest
      | .error e => .error e

end Reader

/-- Reads the arguments behind the program's name. Command lines and a file exclude each other. -/
def read (args : List String) : Except UsageStop Arguments := do
  let (given, lines) ← Reader.read {} args
  if given.input.isSome ∧ lines ≠ [] then throw .conflict
  return {
    config := given.config
    verbosity := given.verbosity
    versionSuffix := given.versionSuffix
    style := given.style
    format := given.format.getD .text
    input :=
      if lines ≠ [] then .lines lines
      else match given.input with
        | some path => .file path
        | none => .standardInput }

/-- The settings of a detection: what is given as an argument replaces what is configured. -/
def settings (a : Arguments) (configured : DetectionSettings) : DetectionSettings :=
  { configured with
    versionSuffix := a.versionSuffix.or configured.versionSuffix
    style := a.style.getD configured.style }

def inputText : Input → String
  | .lines lines => toString lines.length ++ " command line(s)"
  | .file path => path
  | .standardInput => "stdin"

def text (a : Arguments) : String :=
  let item (name : String) : Option String → String
    | some value => ", " ++ name ++ "=" ++ value
    | none => ""
  "Arguments: format=" ++ a.format.name ++ item "config" a.config ++
    item "version-suffix" a.versionSuffix ++ item "style" (a.style.map PathStyle.name) ++
    item "input" (some (inputText a.input))

end Arguments

end BuildLog
