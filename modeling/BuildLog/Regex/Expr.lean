import BuildLog.Regex.CharSet
import BuildLog.Regex.Property.Word

/-! Regular expressions with the flags applied: what is left says itself what it matches. -/

namespace BuildLog.Regex

/-- Where a position lies with respect to words. -/
inductive WordLook where
  | boundary
  | interior
  | opening
  | closing
  | openingHalf
  | closingHalf
  deriving DecidableEq, Repr

/-- A condition on a position between two characters. -/
inductive Look where
  | textStart
  | textEnd
  | lineStart (crlf : Bool)
  | lineEnd (crlf : Bool)
  | word (kind : WordLook) (unicode : Bool)
  deriving DecidableEq, Repr

/-- Whether a word reaches or leaves a position whose neighbours are in words or not. -/
def WordLook.holds (before after : Bool) : WordLook → Bool
  | .boundary => before != after
  | .interior => before == after
  | .opening => !before && after
  | .closing => before && !after
  | .openingHalf => !before
  | .closingHalf => !after

/-- Whether a condition holds between two characters; at an end of the text one is missing. -/
def Look.holds (before after : Option Char) : Look → Bool
  | .textStart => before.isNone
  | .textEnd => after.isNone
  | .lineStart false => before.all (· == '\n')
  | .lineEnd false => after.all (· == '\n')
  | .lineStart true =>
    before.all fun c => c == '\n' || (c == '\r' && after != some '\n')
  | .lineEnd true =>
    after.all fun c => c == '\r' || (c == '\n' && before != some '\r')
  | .word kind unicode =>
    let word := if unicode then wordChars else asciiWordChars
    kind.holds (before.any word.contains) (after.any word.contains)

/-- A regular expression. -/
inductive Expr where
  | empty
  | set (chars : CharSet)
  | look (l : Look)
  | seq (first second : Expr)
  | alt (first second : Expr)
  | group (name : Option String) (body : Expr)
  | rep (body : Expr) (min : Nat) (max : Option Nat) (greedy : Bool)
  deriving DecidableEq, Repr

namespace Expr

/-- Whether the form of the expression leaves no room for a character. -/
def isEmptyOnly : Expr → Bool
  | .empty => true
  | .set _ => false
  | .look _ => true
  | .seq a b => a.isEmptyOnly && b.isEmptyOnly
  | .alt a b => a.isEmptyOnly && b.isEmptyOnly
  | .group _ e => e.isEmptyOnly
  | .rep e _ max _ => e.isEmptyOnly || max == some 0

/-- Whether the form of the expression asks for a character in every match. -/
def needsChar : Expr → Bool
  | .empty => false
  | .set s => !s.normalize.ranges.isEmpty
  | .look _ => false
  | .seq a b => a.needsChar || b.needsChar
  | .alt a b => a.needsChar && b.needsChar
  | .group _ e => e.needsChar
  | .rep e min _ _ => min != 0 && e.needsChar

/-- A repetition. More than one round is the same as one when no round can take a character. -/
def repeated (e : Expr) (min : Nat) (max : Option Nat) (greedy : Bool) : Expr :=
  let min' := if e.isEmptyOnly then Nat.min min 1 else min
  let max' := if e.isEmptyOnly then some (Nat.min (max.getD 1) 1) else max
  if max' = some 0 then .empty
  else if min' = 1 ∧ max' = some 1 then e
  else .rep e min' max' greedy

end Expr

end BuildLog.Regex
