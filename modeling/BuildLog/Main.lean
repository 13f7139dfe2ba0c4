import BuildLog.Program

/-! The command line. All decisions are made in `BuildLog.Program`; here files are read and the
outcome is printed. -/

namespace BuildLog

def systemReason (e : IO.Error) : String :=
  let reason (code : UInt32) (details : String) : String :=
    details ++ " (os error " ++ toString code ++ ")"
  match e with
  | .noFileOrDirectory _ code details => reason code details
  | .permissionDenied _ code details => reason code details
  | .inappropriateType _ code details => reason code details
  | .resourceExhausted _ code details => reason code details
  | .invalidArgument _ code details => reason code details
  | .otherError code details => reason code details
  | e => toString e

def readOpened (handle : IO.FS.Handle) : IO PathTarget := do
  match ← (handle.readBinToEnd).toBaseIO with
  | .ok bytes => return .file bytes.toList
  | .error e => return .unreadable (systemReason e)

/-- What a path leads to: whether it can be opened shows before whether it can be read. What
cannot be opened is there if the path leads to it all the same. -/
def lookUpPath (path : String) : IO PathTarget := do
  match ← (IO.FS.Handle.mk path IO.FS.Mode.read).toBaseIO with
  | .ok handle => readOpened handle
  | .error e =>
    match ← (IO.FS.realPath path).toBaseIO with
    | .ok _ => return .locked (systemReason e)
    | .error _ => return .missing (systemReason e)

def readStandardInput : IO LogSource := do
  let input ← IO.getStdin
  let mut bytes := ByteArray.empty
  let mut more := true
  let mut failure := none
  while more do
    match ← (input.read 65536).toBaseIO with
    | .ok chunk =>
      bytes := bytes ++ chunk
      more := !chunk.isEmpty
    | .error e =>
      failure := some (systemReason e)
      more := false
  return { bytes := bytes.toList, failure }

def configHome : IO (Option String) := do
  let absolute (path : String) : Bool := path.toList.head? = some '/'
  match ← IO.getEnv "XDG_CONFIG_HOME", ← IO.getEnv "HOME" with
  | some path, home =>
    if absolute path then return some path
    else return home.map fun h => Configuration.joinPath h ".config"
  | none, home => return home.map fun h => Configuration.joinPath h ".config"

def findWorkingDirectory : IO WorkingDirectory := do
  match ← (IO.currentDir).toBaseIO with
  | .ok directory => return .path (toString directory)
  | .error e => return .unknown (systemReason e)

/-- Runs the program. The standard input is left alone where it does not come to reading it. -/
def runProgram (args : List String) : IO Outcome := do
  let workingDirectory ← findWorkingDirectory
  let configHome ← configHome
  let targets ← (Program.paths workingDirectory configHome args).mapM fun path =>
    return (path, ← lookUpPath path)
  let env : Environment :=
    { workingDirectory, configHome
      lookup := fun path => (targets.lookup path).getD .notFound
      standardInput := { bytes := [] } }
  let outcome := Program.run env args
  if Program.wantsStandardInput args && outcome.exitCode == 0 then
    return Program.run { env with standardInput := ← readStandardInput } args
  else return outcome

end BuildLog

open BuildLog in
def main (args : List String) : IO UInt32 := do
  let outcome ← runProgram args
  let errors ← IO.getStderr
  for m in Program.shownMessages args outcome do
    errors.putStrLn ("[" ++ m.text ++ "]")
  let output ← IO.getStdout
  output.write ⟨outcome.output.toArray⟩
  output.flush
  match outcome.error with
  | some e => errors.putStrLn (Program.name ++ ": " ++ e.text)
  | none => pure ()
  if outcome.exitCode == 2 then
    errors.putStrLn ("error: invalid arguments\n\nFor more information, try '--help'.")
  return outcome.exitCode.toUInt32
