import BuildLog.BasenamePattern
import BuildLog.CommandLine
import BuildLog.Driver

/-! Which compiler driver a command line runs. Only the basename of the command counts. It is
matched against the drivers in their order, first without a version and then, if a version pattern
is given, with one, so that a version pattern never changes the outcome for a name that is matched
without it. -/

namespace BuildLog

/-- What a detection depends on besides the command line. -/
structure DetectionSettings where
  versionSuffix : Option String := none
  style : PathStyle := .posix
  tripletSegments : Nat := BasenamePattern.defaultSegments
  deriving DecidableEq, Repr

/-- How a basename was matched. -/
inductive MatchMethod where
  | basenameExact
  | basenameWithVersion
  | targetTripletPrefixed
  deriving DecidableEq, Repr

def MatchMethod.key : MatchMethod → String
  | .basenameExact => "basename_exact"
  | .basenameWithVersion => "basename_with_version"
  | .targetTripletPrefixed => "target_triplet_prefixed"

/-- A driver that was recognized, and what its basename holds besides the name: the target without
its last hyphen, the version, and whether there is an extension. -/
structure Detection where
  driver : Driver
  commandLine : CommandLine
  method : MatchMethod
  target : Option String
  version : Option String
  hasExtension : Bool
  deriving DecidableEq, Repr

def Detection.text (d : Detection) : String :=
  d.driver.text ++ " by " ++ d.method.key ++ ": " ++ d.commandLine.command

/-- Why there is no answer. That no driver matches is an answer. -/
inductive DetectionError where
  | malformedLine (reason : MalformedLine)
  | versionPattern (pattern : String) (reason : PatternError)
  | basenamePattern (name : String) (reason : PatternError)
  deriving DecidableEq, Repr

namespace DetectionError

/-- What went wrong, up to the explanation of what is wrong with a pattern. -/
def context : DetectionError → String
  | .malformedLine reason => "Malformed command line: " ++ reason.message
  | .versionPattern pattern _ => "Invalid version suffix pattern '" ++ pattern ++ "': "
  | .basenamePattern name _ => "Invalid basename pattern for '" ++ name ++ "': "

def message (e : DetectionError) : String :=
  match e with
  | .malformedLine _ => e.context
  | .versionPattern _ reason => e.context ++ reason.message
  | .basenamePattern _ reason => e.context ++ reason.message

def causes : DetectionError → List String
  | .malformedLine reason => [reason.message]
  | .versionPattern _ reason => [reason.message]
  | .basenamePattern _ reason => [reason.message]

end DetectionError

/-- A driver with its compiled basename pattern. -/
structure Candidate where
  driver : Driver
  pattern : Pattern

/-- The drivers with their patterns compiled, in the order in which they are tried. -/
structure Detector where
  style : PathStyle
  plain : List Candidate
  versioned : List Candidate

namespace Detector

def candidates (settings : DetectionSettings) (version : Option String) :
    Except DetectionError (List Candidate) :=
  Driver.all.mapM fun driver =>
    match BasenamePattern.compile settings.style settings.tripletSegments driver.name version with
    | .ok pattern => .ok ⟨driver, pattern⟩
    | .error reason =>
      match version with
      | some pattern => .error (.versionPattern pattern reason)
      | none => .error (.basenamePattern driver.name reason)

/-- A version pattern has to be a pattern by itself too. -/
def new (settings : DetectionSettings) : Except DetectionError Detector := do
  let plain ← candidates settings none
  match settings.versionSuffix with
  | none => return ⟨settings.style, plain, []⟩
  | some version =>
    match Pattern.compile version with
    | .error reason => throw (.versionPattern version reason)
    | .ok _ => return ⟨settings.style, plain, ← candidates settings (some version)⟩

/-- The first candidate whose pattern matches a basename. -/
def firstMatch (candidates : List Candidate) (basename : List Char) : Option (Driver × Match) :=
  candidates.findSome? fun c => (c.pattern.find? basename).map fun m => (c.driver, m)

/-- The target of a match, without the hyphens at its end. -/
def targetOf (m : Match) (basename : List Char) : Option String :=
  (m.groupText? basename BasenamePattern.targetGroup).map fun cs =>
    String.ofList (cs.reverse.dropWhile (· == '-')).reverse

def versionOf (m : Match) (basename : List Char) : Option String :=
  (m.groupText? basename BasenamePattern.versionGroup).map String.ofList

def detection (line : CommandLine) (basename : List Char) (method : MatchMethod) (driver : Driver)
    (m : Match) : Detection where
  driver := driver
  commandLine := line
  method := method
  target := targetOf m basename
  version := versionOf m basename
  hasExtension := (m.group? BasenamePattern.extensionGroup).isSome

def plainMethod (m : Match) : MatchMethod :=
  if (m.group? BasenamePattern.targetGroup).isSome then .targetTripletPrefixed else .basenameExact

/-- The driver of a command line that is split already. -/
def detectCommandLine (d : Detector) (line : CommandLine) : Option Detection :=
  let basename := d.style.lastComponent line.command.toList
  match firstMatch d.plain basename with
  | some (driver, m) => some (detection line basename (plainMethod m) driver m)
  | none =>
    (firstMatch d.versioned basename).map fun (driver, m) =>
      detection line basename .basenameWithVersion driver m

/-- The driver of a line, if it is the command line of a known compiler. -/
def detect (d : Detector) (line : String) : Except DetectionError (Option Detection) :=
  match CommandLine.tokenize d.style line with
  | .error reason => .error (.malformedLine reason)
  | .ok line => .ok (d.detectCommandLine line)

end Detector

/-- The driver of a single line, with the default number of segments. -/
def determineDriver (line : String) (versionSuffix : Option String) (style : PathStyle) :
    Except DetectionError (Option Detection) := do
  (← Detector.new { versionSuffix, style }).detect line

end BuildLog
