import BuildLog.Regex.Arrival
import BuildLog.Regex.Grouping
import BuildLog.Regex.Resolve
import BuildLog.Regex.Size

/-! Compiled patterns and the search for their first match. -/

namespace BuildLog

inductive PatternError where
  | notWellFormed
  | tooBig
  deriving DecidableEq, Repr

/-- The explanation of the error. Where a pattern is not well-formed a drawing of the place follows
on further lines, which is not part of this text. -/
def PatternError.message : PatternError → String
  | .notWellFormed => "regex parse error:\n"
  | .tooBig => "Compiled regex exceeds size limit of " ++ toString Regex.Expr.sizeLimit ++ " bytes."

/-- A pattern that has been compiled, with the text that it was compiled from. -/
structure Pattern where
  source : String
  expr : Regex.Expr

/-- A match: the span in characters and the groups that took part in it, last one first. -/
structure Match where
  start : Nat
  stop : Nat
  groups : List Regex.GroupSpan
  deriving DecidableEq, Repr

namespace Match

/-- The span of a group with a name, if it took part in the match. -/
def group? (m : Match) (name : String) : Option (Nat × Nat) :=
  (m.groups.find? fun g => g.name == name).map fun g => (g.start, g.stop)

/-- The text of a group, taken from the text that was searched. -/
def groupText? (m : Match) (text : List Char) (name : String) : Option (List Char) :=
  (m.group? name).map fun (start, stop) => (text.drop start).take (stop - start)

end Match

namespace Pattern

def compile (source : String) : Except PatternError Pattern :=
  match (Regex.Ast.read? source.toList).bind Regex.Ast.expr? with
  | none => .error .notWellFormed
  | some e => if e.isTooBig then .error .tooBig else .ok ⟨source, e⟩

theorem source_of_compile {text : String} {p : Pattern} (h : compile text = .ok p) :
    p.source = text := by
  rw [compile] at h
  split at h
  · cases h
  · split at h <;> cases h
    rfl

/-- The first match in a text: the one that starts first and, of those, the preferred one. -/
def find? (p : Pattern) (text : List Char) : Option Match :=
  let table := p.expr.table text.toArray
  (List.range (text.length + 1)).findSome? fun start =>
    (table.row start).head?.map fun a => ⟨start, a.stop, a.groups⟩

def matchesIn (p : Pattern) (text : String) : Bool :=
  (p.find? text.toList).isSome

end Pattern

end BuildLog
