import BuildLog.PathStyle
import BuildLog.Regex.Pattern

/-! The pattern that the basename of a driver's executable has to match: the literal name, a target
triplet in front of it, a version behind it and the extension of an executable. -/

namespace BuildLog.BasenamePattern

def targetGroup : String := "target"
def versionGroup : String := "version"
def extensionGroup : String := "extension"

/-- One segment of a triplet. It holds no hyphen but the last character, so that the triplet cannot
swallow a part of the driver's name. -/
def segment : String := "[A-Za-z0-9_.]+-"

def extension : String := "\\.exe"

/-- The segments accepted by default: `x86_64-pc-linux-gnu-` is the longest triplet in common
use. -/
def defaultSegments : Nat := 4

def escape (cs : List Char) : List Char :=
  cs.flatMap fun c => if Regex.Token.isMeta c then ['\\', c] else [c]

def named (name pattern : String) : String :=
  "(?P<" ++ name ++ ">" ++ pattern ++ ")"

/-- The text of the pattern for a name. A version is a pattern of its own and is required where it
is given; no segments mean no triplet. Windows disregards case. -/
def source (style : PathStyle) (segments : Nat) (name : String) (version : Option String) : String :=
  (match style with
    | .posix => "^"
    | .windows => "(?i)^") ++
  (if segments = 0 then ""
    else named targetGroup ("(?:" ++ segment ++ ")\x7b1," ++ toString segments ++ "\x7d") ++ "?") ++
  String.ofList (escape name.toList) ++
  (match version with
    | some pattern => named versionGroup pattern
    | none => "") ++
  named extensionGroup extension ++ "?$"

def compile (style : PathStyle) (segments : Nat) (name : String) (version : Option String) :
    Except PatternError Pattern :=
  Pattern.compile (source style segments name version)

end BuildLog.BasenamePattern
