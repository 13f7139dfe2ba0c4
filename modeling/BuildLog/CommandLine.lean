import BuildLog.PathStyle
import BuildLog.Text.Blank

/-! Splitting a build command line into the command and its unread arguments.
Only as much of a shell's grammar is read as it takes to find the end of the first token. -/

namespace BuildLog

/-- A command with quotes and escapes removed, and the text behind it as it was written. -/
structure CommandLine where
  command : String
  arguments : String
  deriving DecidableEq, Repr

/-- Why no command can be found at the front of a line. -/
inductive MalformedLine where
  | empty
  | unterminatedQuote (quote : Char)
  | emptyCommand
  deriving DecidableEq, Repr

def MalformedLine.message : MalformedLine → String
  | .empty => "Command line is empty"
  | .unterminatedQuote quote => "Unterminated " ++ quote.toString ++ " quote in command line"
  | .emptyCommand => "Command is empty"

namespace CommandLine

/-- The first token of a line and what follows it. -/
structure Split where
  token : List Char
  rest : List Char
  deriving DecidableEq, Repr

def Split.push (c : Char) (s : Split) : Split :=
  { s with token := c :: s.token }

/-- A line that starts with a quote has the text up to the next such quote as its token, even
when more text is glued to the closing quote. -/
def splitQuoted (quote : Char) : List Char → Except MalformedLine Split
  | [] => .error (.unterminatedQuote quote)
  | c :: cs => if c = quote then .ok ⟨[], cs⟩ else (splitQuoted quote cs).map (.push c)

/-- Whether a character opens a quoted section inside a token. An apostrophe is an ordinary
character of a Windows path. -/
def opensQuote (style : PathStyle) (c : Char) : Bool :=
  c == '"' || (c == '\'' && style == .posix)

/-- Where an unquoted token is being read: outside of quotes, in a section with its quote, or behind
a backslash. -/
inductive Mode where
  | plain
  | quoted (quote : Char)
  | escaped
  deriving DecidableEq, Repr

/-- An unquoted token ends at the first blank that is neither quoted nor escaped. A backslash at the
end of the line stands for itself. -/
def splitUnquoted (style : PathStyle) : Mode → List Char → Except MalformedLine Split
  | .plain, [] => .ok ⟨[], []⟩
  | .quoted quote, [] => .error (.unterminatedQuote quote)
  | .escaped, [] => .ok ⟨['\\'], []⟩
  | .plain, c :: cs =>
    if isBlank c then .ok ⟨[], c :: cs⟩
    else if opensQuote style c then splitUnquoted style (.quoted c) cs
    else if c = '\\' ∧ style = .posix then splitUnquoted style .escaped cs
    else (splitUnquoted style .plain cs).map (.push c)
  | .quoted quote, c :: cs =>
    if c = quote then splitUnquoted style .plain cs
    else (splitUnquoted style (.quoted quote) cs).map (.push c)
  | .escaped, c :: cs => (splitUnquoted style .plain cs).map (.push c)

/-- The token at the front of a line that does not start with a blank. -/
def splitToken (style : PathStyle) : List Char → Except MalformedLine Split
  | [] => .error .empty
  | c :: cs =>
    if c = '"' ∨ c = '\'' then splitQuoted c cs else splitUnquoted style .plain (c :: cs)

def tokenize (style : PathStyle) (line : String) : Except MalformedLine CommandLine := do
  let s ← splitToken style (trimStart line.toList)
  if s.token.isEmpty then throw .emptyCommand
  return ⟨String.ofList s.token, String.ofList (trimStart s.rest)⟩

/-- The command and the arguments with one space between them, if there are arguments. -/
def text (line : CommandLine) : String :=
  if line.arguments.isEmpty then line.command else line.command ++ " " ++ line.arguments

end CommandLine

end BuildLog
