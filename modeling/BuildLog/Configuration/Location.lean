import BuildLog.Configuration.Document
import BuildLog.Configuration.Validation
import BuildLog.FileTree
import BuildLog.LogMessage

/-! Where a configuration comes from: from the file that is given, else from the first of some places
where there is one, else the standard one is taken. -/

namespace BuildLog

inductive ConfigurationError where
  | access (path reason : String)
  | document (path : String) (reason : DocumentError)
  | validation (path : String) (reason : ValidationError)
  deriving DecidableEq, Repr

namespace ConfigurationError

def context : ConfigurationError → String
  | .access path _ => "Failed to access configuration file '" ++ path ++ "': "
  | .document path _ => "Failed to parse configuration from file '" ++ path ++ "': "
  | .validation path _ => "Configuration validation failed for '" ++ path ++ "': "

def reason : ConfigurationError → String
  | .access _ reason => reason
  | .document _ reason => reason.message
  | .validation _ reason => reason.message

def message (e : ConfigurationError) : String := e.context ++ e.reason

def causes (e : ConfigurationError) : List String := [e.reason]

end ConfigurationError

namespace Configuration

/-- A configuration or the error, with the messages of the search. -/
structure Search where
  messages : List LogMessage
  result : Except ConfigurationError Configuration

def fileName : String := "parser-detection.yml"
def applicationName : String := "parser-detection"

def joinPath (directory entry : String) : String :=
  if directory.toList.getLast? = some '/' then directory ++ entry else directory ++ "/" ++ entry

/-- A list without the items that equal the one before them. -/
def dropRepeated : List String → List String
  | a :: b :: rest => if a = b then dropRepeated (b :: rest) else a :: dropRepeated (b :: rest)
  | items => items

/-- The places where a configuration is looked for, in order: the working directory, the directory
of the user's configurations and the one in it for this program. -/
def locations (workingDirectory : String) (configHome : Option String) : List String :=
  let directories :=
    workingDirectory ::
      match configHome with
      | some home => [home, joinPath home applicationName]
      | none => []
  (dropRepeated directories).map fun directory => joinPath directory fileName

def ofTarget (path : String) : PathTarget → Except ConfigurationError Configuration
  | .missing reason | .locked reason => .error (.access path reason)
  | .unreadable _ => .error (.document path .malformed)
  | .file bytes => do
    let c ← (ofBytes bytes).mapError (.document path)
    (c.validate).mapError (.validation path)
    return c

def loadFile (lookup : String → PathTarget) (path : String) : Search where
  messages := [⟨.info, "Loading configuration file: " ++ path⟩]
  result := ofTarget path (lookup path)

/-- Loads the configuration at the first of some places that exists. -/
def search (lookup : String → PathTarget) : List String → Search
  | [] =>
    { messages := [⟨.debug, "Configuration file not found. Using the default configuration."⟩]
      result := .ok standard }
  | path :: paths =>
    let s := if (lookup path).isThere then loadFile lookup path else search lookup paths
    { s with messages := ⟨.debug, "Checking configuration file: " ++ path⟩ :: s.messages }

/-- Loads the configuration from the file that is given or else from the usual places. -/
def load (lookup : String → PathTarget) (workingDirectory : String) (configHome : Option String)
    (file : Option String) : Search :=
  match file with
  | some path => loadFile lookup path
  | none => search lookup (locations workingDirectory configHome)

end Configuration

end BuildLog
