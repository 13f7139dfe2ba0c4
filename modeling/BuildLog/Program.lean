import BuildLog.Arguments
import BuildLog.Configuration.Location
import BuildLog.Scan

/-! The program as a function of its surroundings: the arguments, the files that can be looked up and
the standard input decide the exit code and what is written. A report is written only after the
whole input has been scanned. -/

namespace BuildLog

/-- The directory that the program is run in, or why there is none to be had. -/
inductive WorkingDirectory where
  | path (path : String)
  | unknown (reason : String)
  deriving DecidableEq, Repr

instance : Coe String WorkingDirectory := ⟨.path⟩

/-- What the program finds around it. -/
structure Environment where
  workingDirectory : WorkingDirectory
  configHome : Option String
  lookup : String → PathTarget
  standardInput : LogSource
  sink : Report.Sink := {}

inductive ProgramError where
  | workingDirectory (reason : String)
  | configuration (reason : ConfigurationError)
  | scan (reason : ScanError)
  | openLog (path reason : String)
  | report (reason : ReportError)
  deriving DecidableEq, Repr

namespace ProgramError

def message : ProgramError → String
  | .workingDirectory _ => "Failed to get the current directory"
  | .configuration reason => reason.message
  | .scan reason => reason.message
  | .openLog path _ => "Failed to open build log: " ++ path
  | .report reason => reason.message

def causes : ProgramError → List String
  | .workingDirectory reason => [reason]
  | .configuration reason => reason.causes
  | .scan reason => reason.causes
  | .openLog _ reason => [reason]
  | .report (.write reason) => [reason]
  | .report (.serialize reason) => [reason]
  | .report (.unknownFormat _) => []

def text (e : ProgramError) : String :=
  ": ".intercalate (e.message :: e.causes)

end ProgramError

/-- What the program does: the exit code, the bytes on the standard output, the messages, and the
error if it fails. -/
structure Outcome where
  exitCode : Nat
  output : List UInt8 := []
  messages : List LogMessage := []
  error : Option ProgramError := none

namespace Program

def name : String := "parser-detection"
def version : String := "0.1.0"

def versionText : String := name ++ " " ++ version ++ "\n"

def helpText : String :=
  "Detects the compiler toolchain of build command lines\n\n" ++
  "Usage: " ++ name ++ " [OPTIONS] [-- <COMMAND_LINE>...]\n\n" ++
  "Arguments:\n" ++
  "  [COMMAND_LINE]...  Command lines to check, one per argument\n\n" ++
  "Options:\n" ++
  "  -v, --verbose...              Sets the level of verbosity\n" ++
  "  -c, --config <FILE>           Path of the config file\n" ++
  "      --version-suffix <REGEX>  Regular expression matching a version suffix of the compiler name\n" ++
  "      --style <STYLE>           Path style of the command lines [possible values: posix, windows]\n" ++
  "  -f, --format <FORMAT>         Output format [default: text] [possible values: text, json, cmake]\n" ++
  "  -i, --input <FILE>            Path of the build log\n" ++
  "  -h, --help                    Print help\n" ++
  "  -V, --version                 Print version\n"

def usageText : UsageStop → String
  | .help => helpText
  | .version => versionText
  | _ => ""

/-- Scans the input that was asked for. A log that cannot be opened is not scanned. -/
def scan (env : Environment) (scanner : Scanner) : Input → Except ProgramError Scan
  | .lines lines => .ok (scanner.scanLines lines)
  | .standardInput => .ok (scanner.scanLog env.standardInput)
  | .file path =>
    match env.lookup path with
    | .missing reason | .locked reason => .error (.openLog path reason)
    | .unreadable reason => .ok (scanner.scanLog { bytes := [], failure := some reason })
    | .file bytes => .ok (scanner.scanLog { bytes })

/-- A computation that says something on its way, whether it fails or not. -/
abbrev Step (α : Type) := List LogMessage × Except ProgramError α

/-- Loads the configuration. The working directory is asked for first, also where a file is given
and nothing is looked for in it. -/
def configuration (env : Environment) (a : Arguments) : Step Configuration :=
  match env.workingDirectory with
  | .unknown reason => ([], .error (.workingDirectory reason))
  | .path directory =>
    let s := Configuration.load env.lookup directory env.configHome a.config
    (s.messages, s.result.mapError .configuration)

/-- The scanner for a configuration, with the settings that the arguments replace. -/
def scanner (a : Arguments) (c : Configuration) : Except ProgramError Scanner :=
  (Scanner.new (a.settings c.detection) c.commands).mapError .scan

/-- The records of the input, with the messages of the scan. -/
def records (env : Environment) (a : Arguments) (s : Scanner) : Step (List Record) :=
  match scan env s a.input with
  | .error e => ([], .error e)
  | .ok scan =>
    match scan.records with
    | .error e => (scan.messages, .error (.scan e))
    | .ok records => (scan.messages ++ [⟨.info, scan.statistics.text⟩], .ok records)

def fail (messages : List LogMessage) (e : ProgramError) : Outcome where
  exitCode := 1
  messages := messages
  error := some e

def report (env : Environment) (a : Arguments) (messages : List LogMessage)
    (records : List Record) : Outcome :=
  let written := Report.write env.sink a.format records
  match written.result with
  | .error e =>
    { exitCode := 1, output := written.accepted, messages, error := some (.report e) }
  | .ok n =>
    { exitCode := 0
      output := written.accepted
      messages := messages ++ [⟨.debug, "Entries written: " ++ toString n⟩] }

def runArguments (env : Environment) (a : Arguments) : Outcome :=
  let began : List LogMessage :=
    [⟨.info, name ++ " v" ++ version⟩, ⟨.info, a.text⟩]
  let (searched, c) := configuration env a
  match c with
  | .error e => fail (began ++ searched) e
  | .ok c =>
    let configured := began ++ searched ++ [⟨.info, c.text⟩]
    match scanner a c with
    | .error e => fail configured e
    | .ok s =>
      let ready := configured ++
        [⟨.debug, "Scanner configured with " ++ s.detector.style.name ++ " path style"⟩]
      let (scanned, records) := records env a s
      match records with
      | .error e => fail (ready ++ scanned) e
      | .ok records => report env a (ready ++ scanned) records

def run (env : Environment) (args : List String) : Outcome :=
  match Arguments.read args with
  | .error stop =>
    { exitCode := stop.exitCode, output := Utf8.encode (usageText stop).toList }
  | .ok a => runArguments env a

/-- The paths that may be looked up for some arguments. -/
def paths (workingDirectory : WorkingDirectory) (configHome : Option String)
    (args : List String) : List String :=
  match workingDirectory, Arguments.read args with
  | .path directory, .ok a =>
    (match a.config with
      | some path => [path]
      | none => Configuration.locations directory configHome) ++
    match a.input with
    | .file path => [path]
    | _ => []
  | _, _ => []

def wantsStandardInput (args : List String) : Bool :=
  match Arguments.read args with
  | .error _ => false
  | .ok a => a.input == .standardInput

/-- The messages that are shown for some arguments: more of them the higher the verbosity is. -/
def shownMessages (args : List String) (o : Outcome) : List LogMessage :=
  let verbosity :=
    match Arguments.read args with
    | .error _ => 0
    | .ok a => a.verbosity
  o.messages.filter fun m =>
    match m.level with
    | .info => 1 ≤ verbosity
    | .debug => 2 ≤ verbosity
    | .trace => 3 ≤ verbosity

end Program

end BuildLog
