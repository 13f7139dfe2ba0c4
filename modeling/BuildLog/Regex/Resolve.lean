import BuildLog.Regex.Alternation
import BuildLog.Regex.Ast
import BuildLog.Regex.Property.CaseFold
import BuildLog.Regex.Property.Query

/-! Applying the flags of a pattern. What matches single bytes cannot be asked for, since a match
has to begin and end between characters. -/

namespace BuildLog.Regex

/-- The flags in force at a place of a pattern. -/
structure Flags where
  ignoreCase : Bool := false
  multiLine : Bool := false
  dotAll : Bool := false
  swapGreed : Bool := false
  unicode : Bool := true
  crlf : Bool := false
  deriving DecidableEq, Repr

namespace Flags

def set (f : Flags) (flag : Flag) (on : Bool) : Flags :=
  match flag with
  | .ignoreCase => { f with ignoreCase := on }
  | .multiLine => { f with multiLine := on }
  | .dotAll => { f with dotAll := on }
  | .swapGreed => { f with swapGreed := on }
  | .unicode => { f with unicode := on }
  | .crlf => { f with crlf := on }
  | .verbose => f

def apply (f : Flags) (change : FlagChange) : Flags :=
  change.foldl (fun f c => f.set c.1 c.2) f

/-- The set with the other case of each ASCII letter in it. -/
def asciiClosure (s : CharSet) : CharSet :=
  let upper := s.inter (.ofRange 'A' 'Z')
  let lower := s.inter (.ofRange 'a' 'z')
  (CharSet.mk (s.ranges ++ upper.ranges.map (fun r => ⟨r.lo + 0x20, r.hi + 0x20⟩) ++
    lower.ranges.map fun r => ⟨r.lo - 0x20, r.hi - 0x20⟩)).normalize

/-- A set as it stands in a class, case disregarded where the flags say so. -/
def close (f : Flags) (s : CharSet) : CharSet :=
  if f.ignoreCase then if f.unicode then s.caseClosure else asciiClosure s else s

/-- A set of which no character takes more than one byte if the flags ask for bytes. -/
def allow? (f : Flags) (s : CharSet) : Option CharSet :=
  if f.unicode ∨ s.isAscii then some s else none

def negate (negated : Bool) (s : CharSet) : CharSet :=
  if negated then s.compl else s

end Flags

def PerlClass.chars (unicode : Bool) : PerlClass → CharSet
  | .digit => if unicode then digitChars else asciiDigitChars
  | .blank => if unicode then blankChars else asciiBlankChars
  | .word => if unicode then wordChars else asciiWordChars

def SetOp.apply : SetOp → CharSet → CharSet → CharSet
  | .inter, s, t => s.inter t
  | .diff, s, t => s.diff t
  | .symmDiff, s, t => s.symmDiff t

def ClassTree.chars? (f : Flags) : ClassTree → Option CharSet
  | .empty => some .empty
  | .char c => f.allow? (.single c)
  | .range lo hi => f.allow? (.ofRange lo hi)
  | .posix ranges negated =>
    f.allow? (Flags.negate negated (f.close
      (ranges.foldl (fun s r => s.union (.ofRange r.1 r.2)) .empty)))
  | .perl kind negated => f.allow? (Flags.negate negated (kind.chars f.unicode))
  | .property query negated =>
    if f.unicode then query.chars?.map fun s => Flags.negate negated (f.close s) else none
  | .bracket negated body =>
    (body.chars? f).bind fun s => f.allow? (Flags.negate negated (f.close s))
  | .both a b => do return (← a.chars? f).union (← b.chars? f)
  | .op o a b => do return o.apply (f.close (← a.chars? f)) (f.close (← b.chars? f))

namespace Flags

def dot (f : Flags) : CharSet :=
  if f.dotAll then .all
  else if f.crlf then (CharSet.ofPairs [(0x0A, 0x0A), (0x0D, 0x0D)]).compl
  else (CharSet.single '\n').compl

def look (f : Flags) : Assertion → Look
  | .caret => if f.multiLine then .lineStart f.crlf else .textStart
  | .dollar => if f.multiLine then .lineEnd f.crlf else .textEnd
  | .textStart => .textStart
  | .textEnd => .textEnd
  | .word kind => .word kind f.unicode

end Flags

/-- Applies the flags to the branches of a pattern. A change of flags holds up to the end of the
group around it, in the branches that follow as well; the result is the expression of each branch
and the flags behind the last. -/
def Ast.branches? (f : Flags) : Ast → Option (List Expr × Flags)
  | .empty => some ([.empty], f)
  | .flags change => some ([.empty], f.apply change)
  | .char c byte =>
    if byte ∧ ¬ f.unicode ∧ 0x80 ≤ c.toNat then none
    else some ([.set (f.close (.single c))], f)
  | .dot => if f.unicode then some ([.set f.dot], f) else none
  | .assertion a => some ([.look (f.look a)], f)
  | .cls t => (t.chars? f).map fun s => ([.set s], f)
  | .group (.capture name) body =>
    (body.branches? f).map fun r => ([.group name (.oneOf r.1)], f)
  | .group (.plain change) body =>
    (body.branches? (f.apply change)).map fun r => ([.oneOf r.1], f)
  | .rep body min max greedy =>
    (body.branches? f).map fun r =>
      ([(Expr.oneOf r.1).repeated min max (greedy != f.swapGreed)], f)
  | .seq a b => do
    let (as, f) ← a.branches? f
    let (bs, f) ← b.branches? f
    return ([.seq (.oneOf as) (.oneOf bs)], f)
  | .alt a b => do
    let (as, f) ← a.branches? f
    let (bs, f) ← b.branches? f
    return (.oneOf as :: bs, f)

/-- Applies the flags: the expression, and the flags behind it. -/
def Ast.resolve (f : Flags) (a : Ast) : Option (Expr × Flags) :=
  (a.branches? f).map fun r => (.oneOf r.1, r.2)

namespace Ast

variable {f : Flags}

theorem resolve_char (c : Char) :
    (char c false).resolve f = some (.set (f.close (.single c)), f) :=
  rfl

theorem resolve_cls (t : ClassTree) :
    (cls t).resolve f = (t.chars? f).map fun s => (.set s, f) := by
  rw [resolve, branches?, Option.map_map]
  rfl

theorem resolve_capture (name : Option String) (body : Ast) :
    (group (.capture name) body).resolve f = (body.resolve f).map fun r => (.group name r.1, f) := by
  rw [resolve, resolve, branches?, Option.map_map, Option.map_map]
  rfl

theorem resolve_plain (change : FlagChange) (body : Ast) :
    (group (.plain change) body).resolve f =
      (body.resolve (f.apply change)).map fun r => (r.1, f) := by
  rw [resolve, resolve, branches?, Option.map_map, Option.map_map]
  rfl

theorem resolve_rep (body : Ast) (min : Nat) (max : Option Nat) (greedy : Bool) :
    (rep body min max greedy).resolve f =
      (body.resolve f).map fun r => (r.1.repeated min max (greedy != f.swapGreed), f) := by
  rw [resolve, resolve, branches?, Option.map_map, Option.map_map]
  rfl

theorem resolve_seq (a b : Ast) :
    (seq a b).resolve f = (a.resolve f).bind fun r =>
      (b.resolve r.2).map fun r' => (.seq r.1 r'.1, r'.2) := by
  rw [resolve, resolve, branches?]
  cases a.branches? f with
  | none => rfl
  | some r =>
    simp only [bind, Option.bind_some, Option.map_some, resolve]
    cases b.branches? r.2 <;> rfl

end Ast

/-- The expression that a pattern stands for when no flag is set around it. -/
def Ast.expr? (a : Ast) : Option Expr :=
  (a.resolve {}).map (·.1)

end BuildLog.Regex
