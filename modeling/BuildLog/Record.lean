import BuildLog.Detection
import BuildLog.Json

/-! What is reported of a recognized command: as fields, as a line of text and as a JSON object. -/

namespace BuildLog

/-- A command that was recognized, with the number of its line, counted from one. The language ids
are listed by the key of a source file. -/
structure Record where
  line : Nat
  command : String
  arguments : String
  driver : String
  language : Option Language
  argumentSyntax : ArgumentSyntax
  method : MatchMethod
  target : Option String
  version : Option String
  languageIds : List (String × String)
  deriving DecidableEq, Repr

namespace Record

def ofDetection (line : Nat) (d : Detection) : Record where
  line := line
  command := d.commandLine.command
  arguments := d.commandLine.arguments
  driver := d.driver.name
  language := d.driver.language
  argumentSyntax := d.driver.argumentSyntax
  method := d.method
  target := d.target
  version := d.version
  languageIds := Driver.languageKeys.map fun key => (key, d.driver.languageId key)

/-- The line number, the driver, the method and the command with tabs between them. -/
def text (r : Record) : String :=
  toString r.line ++ "\t" ++ r.driver ++ "\t" ++ r.method.key ++ "\t" ++ r.command

def jsonString (s : String) : List Json.Token :=
  [.string s.toList]

/-- A field that is left out where there is no value. -/
def optionalField (key : String) : Option String → List (List Char × List Json.Token)
  | none => []
  | some s => [(key.toList, jsonString s)]

/-- The fields of the JSON object in their order. The language is always there, the target and the
version only where they were found. -/
def fields (r : Record) : List (List Char × List Json.Token) :=
  [("line".toList, [.number r.line]),
   ("command".toList, jsonString r.command),
   ("arguments".toList, jsonString r.arguments),
   ("detector".toList, jsonString r.driver),
   ("language".toList, match r.language with
     | some language => jsonString language.key
     | none => [.null]),
   ("syntax".toList, jsonString r.argumentSyntax.key),
   ("method".toList, jsonString r.method.key)] ++
  optionalField "target" r.target ++
  optionalField "version" r.version ++
  [("language_ids".toList,
    Json.object (r.languageIds.map fun entry => (entry.1.toList, jsonString entry.2)))]

def json (r : Record) : String :=
  String.ofList (Json.render (Json.object r.fields))

end Record

end BuildLog
