import BuildLog.Json
import BuildLog.Text.Blank

/-! Cache entry definitions for CMake, as they are given on its command line. -/

namespace BuildLog

inductive CacheType where
  | bool
  | filePath
  | path
  | string
  | internal
  deriving DecidableEq, Repr

namespace CacheType

def all : List CacheType := [.bool, .filePath, .path, .string, .internal]

def tag : CacheType → String
  | .bool => "BOOL"
  | .filePath => "FILEPATH"
  | .path => "PATH"
  | .string => "STRING"
  | .internal => "INTERNAL"

def ofTag? (s : String) : Option CacheType :=
  all.find? fun t => t.tag == s

/-- The type whose tag is spelled by the text, blanks around it and the case of ASCII letters
aside. -/
def ofText? (s : String) : Option CacheType :=
  all.find? fun t => t.tag.toList == (trim s.toList).map Char.toUpper

/-- The type that a JSON text stands for: a string that is a tag, or an object that maps a tag to
null. -/
def ofJson? (cs : List Char) : Option CacheType :=
  match Json.tokens? cs with
  | some [.string tag] => ofTag? (String.ofList tag)
  | some [.opening, .string tag, .colon, .null, .closing] => ofTag? (String.ofList tag)
  | _ => none

def json (t : CacheType) : String :=
  String.ofList (Json.render [.string t.tag.toList])

def unknownMessage (s : String) : String :=
  "Unknown CMake cache variable type: " ++ s

def define (t : CacheType) (name value : String) : String :=
  "-D" ++ name ++ ":" ++ t.tag ++ "=" ++ value

theorem ofTag?_tag (t : CacheType) : ofTag? t.tag = some t := by
  cases t <;> rfl

end CacheType

end BuildLog
