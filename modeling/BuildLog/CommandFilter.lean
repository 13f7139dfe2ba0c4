import BuildLog.Regex.Pattern

/-! Which of the recognized commands take part. A command is dropped by any pattern that excludes
it; of the others those stay that a pattern includes, or all if there is no such pattern. -/

namespace BuildLog

structure CommandPatterns where
  included : List String := []
  excluded : List String := []
  deriving DecidableEq, Repr

structure CommandPatternError where
  pattern : String
  reason : PatternError
  deriving DecidableEq, Repr

/-- What went wrong, up to the explanation of what is wrong with the pattern. -/
def CommandPatternError.context (e : CommandPatternError) : String :=
  "Invalid command pattern '" ++ e.pattern ++ "': "

structure CommandFilter where
  included : List Pattern
  excluded : List Pattern

namespace CommandFilter

def compileAll (patterns : List String) : Except CommandPatternError (List Pattern) :=
  patterns.mapM fun pattern =>
    match Pattern.compile pattern with
    | .ok p => .ok p
    | .error reason => .error ⟨pattern, reason⟩

/-- Compiles the patterns in their order, those that include first. -/
def compile (patterns : CommandPatterns) : Except CommandPatternError CommandFilter := do
  let included ← compileAll patterns.included
  let excluded ← compileAll patterns.excluded
  return ⟨included, excluded⟩

def accepts (f : CommandFilter) (command : String) : Bool :=
  !f.excluded.any (·.matchesIn command) &&
    (f.included.isEmpty || f.included.any (·.matchesIn command))

end CommandFilter

end BuildLog
