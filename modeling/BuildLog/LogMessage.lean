/-! Messages about what the program does. They are kept apart from its output. -/

namespace BuildLog

inductive LogLevel where
  | info
  | debug
  | trace
  deriving DecidableEq, Repr

def LogLevel.name : LogLevel → String
  | .info => "INFO"
  | .debug => "DEBUG"
  | .trace => "TRACE"

structure LogMessage where
  level : LogLevel
  content : String
  deriving DecidableEq, Repr

def LogMessage.text (m : LogMessage) : String :=
  m.level.name ++ " " ++ m.content

end BuildLog
