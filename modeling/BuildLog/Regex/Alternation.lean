import BuildLog.Regex.Expr

/-! Putting alternations together. Branches that are alternations themselves are taken apart. An
alternation between characters or between classes is a class. What all branches begin with stands in
front of the choice between them, so the choice is made only behind it; with a repetition in front
this changes which match is preferred, though not what can be matched. -/

namespace BuildLog.Regex.Expr

/-- The parts of a sequence. What is empty is no part. -/
def parts : Expr → List Expr
  | .empty => []
  | .seq a b => a.parts ++ b.parts
  | e => [e]

def branches : Expr → List Expr
  | .alt a b => a.branches ++ b.branches
  | e => [e]

def chain : List Expr → Expr
  | [] => .empty
  | [e] => e
  | e :: e' :: es => .seq e (chain (e' :: es))

def alternation : List Expr → Expr
  | [] => .set .empty
  | [e] => e
  | e :: e' :: es => .alt e (alternation (e' :: es))

/-- The form in which expressions are compared: a sequence leans to the right and has no empty parts,
and a set has its normal form. -/
def canonical : Expr → Expr
  | .set s => .set s.normalize
  | .seq a b => chain (a.canonical.parts ++ b.canonical.parts)
  | .alt a b => .alt a.canonical b.canonical
  | .group name e => .group name e.canonical
  | .rep e min max greedy => .rep e.canonical min max greedy
  | e => e

def hasGroup : Expr → Bool
  | .group _ _ => true
  | .seq a b => a.hasGroup || b.hasGroup
  | .alt a b => a.hasGroup || b.hasGroup
  | .rep e _ _ _ => e.hasGroup
  | _ => false

/-- Whether the expression is a set of just one character. -/
def isChar : Expr → Bool
  | .set s => s.normalize.only?.isSome
  | _ => false

def isClass : Expr → Bool
  | .set s => s.normalize.only?.isNone
  | _ => false

def chars : Expr → CharSet
  | .set s => s
  | _ => .empty

/-- The parts of a sequence, where characters next to each other are one piece. -/
def pieces (e : Expr) : List (List Expr) :=
  e.parts.splitBy fun a b => a.isChar && b.isChar

/-- The pieces at the beginning that are the same. No group is the same as another. -/
def common : List (List Expr) → List (List Expr) → List (List Expr)
  | p :: ps, q :: qs => if p = q ∧ p.all (!·.hasGroup) then p :: common ps qs else []
  | _, _ => []

/-- The pieces that all branches begin with, if each of them is a sequence. -/
def beginning (es : List Expr) : List (List Expr) :=
  match es.map pieces with
  | [] => []
  | ps :: rest => if (ps :: rest).all (2 ≤ ·.length) then rest.foldl common ps else []

/-- A choice between branches that have no beginning in common. -/
def choice (es : List Expr) : Expr :=
  if es.all isChar || es.all isClass then .set ((es.map chars).foldl .union .empty)
  else alternation es

/-- What of an expression is behind its first `n` pieces. -/
def rest (n : Nat) (e : Expr) : Expr :=
  chain (e.pieces.drop n).flatten

def lifted (es : List Expr) : Expr :=
  if beginning es = [] then choice es
  else
    chain ((beginning es).flatten ++
      [choice ((es.map (rest (beginning es).length)).flatMap branches)])

/-- An alternation. -/
def oneOf : List Expr → Expr
  | [e] => e
  | es => lifted ((es.map canonical).flatMap branches)

end BuildLog.Regex.Expr
