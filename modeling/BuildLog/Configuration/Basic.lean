import BuildLog.CommandFilter
import BuildLog.Detection
import BuildLog.Yaml.Written

/-! The configuration of the program, and how it is written. -/

namespace BuildLog

/-- What is configured. The schema is the version of the format. -/
structure Configuration where
  schema : String
  detection : DetectionSettings := {}
  commands : CommandPatterns := {}
  deriving DecidableEq, Repr

namespace Configuration

def supportedSchema : String := "1.0"

def standard : Configuration := { schema := supportedSchema }

instance : Inhabited Configuration := ⟨standard⟩

/-- A list of patterns under its key. An empty list is left out. -/
def patternLines (key : String) (patterns : List String) : List Char :=
  if patterns.isEmpty then []
  else
    "  ".toList ++ key.toList ++ ":\n".toList ++
      patterns.flatMap fun p => "  - ".toList ++ Yaml.Written.scalar 4 p.toList

def commandLines (commands : CommandPatterns) : List Char :=
  if commands.included.isEmpty && commands.excluded.isEmpty then "commands: \x7b\x7d\n".toList
  else
    "commands:\n".toList ++ patternLines "include" commands.included ++
      patternLines "exclude" commands.excluded

def detectionLines (d : DetectionSettings) : List Char :=
  "detection:\n".toList ++
  (match d.versionSuffix with
    | some v => "  version_suffix: ".toList ++ Yaml.Written.scalar 4 v.toList
    | none => []) ++
  "  style: ".toList ++ d.style.name.toList ++
  "\n  triplet_segments: ".toList ++ Nat.toDigits 10 d.tripletSegments ++ ['\n']

/-- Whether the last text of a configuration could swallow what follows it. -/
def isOpenEnded (c : Configuration) : Bool :=
  (c.commands.included ++ c.commands.excluded).getLast?.any fun p =>
    Yaml.Written.isOpenEnded p.toList

def document (c : Configuration) : List Char :=
  "schema: ".toList ++ Yaml.Written.scalar 2 c.schema.toList ++ detectionLines c.detection ++
    commandLines c.commands ++ (if c.isOpenEnded then "...\n".toList else [])

def text (c : Configuration) : String :=
  "Configuration:\n" ++ String.ofList c.document

end Configuration

end BuildLog
