import BuildLog.Regex.Token

/-! From tokens to the tree of a pattern: parentheses are matched, and an operator takes the part
in front of it. -/

namespace BuildLog.Regex

/-- A level of parentheses that is being read: its finished branches and the parts of the branch
at hand, both last one first. -/
structure Level where
  branches : List Ast
  parts : List Ast

namespace Level

def start : Level := ⟨[], []⟩

def add (l : Level) (a : Ast) : Level :=
  { l with parts := a :: l.parts }

def branch (l : Level) : Ast :=
  .ofParts l.parts.reverse

def endBranch (l : Level) : Level :=
  ⟨l.branch :: l.branches, []⟩

def tree (l : Level) : Ast :=
  match (l.branch :: l.branches).reverse with
  | [] => .empty
  | a :: as => .ofBranches a as

/-- Puts the last part under a repetition. There has to be one that is not a change of flags. -/
def repeatLast (l : Level) (min : Nat) (max : Option Nat) (greedy : Bool) : Option Level :=
  match l.parts with
  | [] => none
  | .flags _ :: _ => none
  | a :: parts => some ⟨l.branches, .rep a min max greedy :: parts⟩

end Level

/-- The innermost level and those around it, each with what its parenthesis opens. -/
structure Grouping where
  level : Level
  outer : List (GroupKind × Level)

namespace Grouping

def start : Grouping := ⟨.start, []⟩

def step (g : Grouping) : Token → Option Grouping
  | .part a => some ⟨g.level.add a, g.outer⟩
  | .flags change => some ⟨g.level.add (.flags change), g.outer⟩
  | .opening kind => some ⟨.start, (kind, g.level) :: g.outer⟩
  | .closing =>
    match g.outer with
    | [] => none
    | (kind, level) :: outer => some ⟨level.add (.group kind g.level.tree), outer⟩
  | .bar => some ⟨g.level.endBranch, g.outer⟩
  | .rep min max greedy => (g.level.repeatLast min max greedy).map (⟨·, g.outer⟩)

def tree? (g : Grouping) : Option Ast :=
  if g.outer.isEmpty then some g.level.tree else none

end Grouping

namespace Ast

def ofTokens? (ts : List Token) : Option Ast :=
  (ts.foldlM Grouping.step .start).bind Grouping.tree?

/-- Classes, groups and the like nest this deep at most. -/
def maxDepth : Nat := 250

/-- The tree of a pattern. Nesting is bounded and no two groups share a name. -/
def read? (cs : List Char) : Option Ast := do
  let a ← ofTokens? (← Token.read false [] cs)
  if a.depth ≤ maxDepth ∧ a.groupNames.Nodup then return a else none

end Ast

end BuildLog.Regex
