import BuildLog.Regex.Ast
import BuildLog.Regex.Property.NamedSet
import BuildLog.Regex.Property.Binary
import BuildLog.Regex.Property.GeneralCategory
import BuildLog.Text.Blank

/-! The tokens of a pattern. A class in brackets is one token, so what is left for the reader of
groups is a flat list of parts, operators and parentheses.

Every reader takes the text behind what selected it and gives what it read with the text that
follows; the `length_` lemmas say that no reader gives back more than it was given. -/

namespace BuildLog.Regex

/-- A token of a pattern. -/
inductive Token where
  | part (a : Ast)
  | flags (change : FlagChange)
  | opening (kind : GroupKind)
  | closing
  | bar
  | rep (min : Nat) (max : Option Nat) (greedy : Bool)
  deriving Repr

namespace Token

/-- In verbose mode blanks do not count, nor does a comment from `#` to the end of its line. -/
def skipSpaceFrom (inComment : Bool) : List Char → List Char
  | [] => []
  | c :: cs =>
    if inComment then skipSpaceFrom (c ≠ '\n') cs
    else if isBlank c then skipSpaceFrom false cs
    else if c = '#' then skipSpaceFrom true cs
    else c :: cs

def skipSpace (verbose : Bool) (cs : List Char) : List Char :=
  if verbose then skipSpaceFrom false cs else cs

/-- The text up to a closing brace, in verbose mode without what does not count. -/
def bracedFrom (verbose inComment : Bool) : List Char → Option (List Char × List Char)
  | [] => none
  | c :: cs =>
    if inComment then bracedFrom verbose (c ≠ '\n') cs
    else if verbose ∧ isBlank c then bracedFrom verbose false cs
    else if verbose ∧ c = '#' then bracedFrom verbose true cs
    else if c = '}' then some ([], cs)
    else (bracedFrom verbose false cs).map fun r => (c :: r.1, r.2)

def braced (verbose : Bool) (cs : List Char) : Option (List Char × List Char) :=
  bracedFrom verbose false cs

/-- The character with a code point, if it is one. -/
def charOfCode? (n : Nat) : Option Char :=
  if n.isValidChar then some (Char.ofNat n) else none

/-- The value of some hexadecimal digits, all of them. -/
def hexValue? (cs : List Char) : Option Nat :=
  if cs.isEmpty then none
  else cs.foldlM (fun n c => (hexDigit? c).map (16 * n + ·)) 0

/-- A fixed number of hexadecimal digits behind those that make up `value`. -/
def hexFixed (verbose : Bool) : Nat → Nat → List Char → Option (Nat × List Char)
  | 0, value, cs => some (value, cs)
  | digits + 1, value, cs =>
    match skipSpace verbose cs with
    | [] => none
    | c :: cs =>
      match hexDigit? c with
      | some d => hexFixed verbose digits (16 * value + d) cs
      | none => none

/-- A character by its code point: in braces, or with a fixed number of digits. -/
def hexEscape (verbose : Bool) (digits : Nat) (cs : List Char) : Option (Ast × List Char) :=
  match skipSpace verbose cs with
  | '{' :: cs => do
    let (body, cs) ← braced verbose cs
    let c ← charOfCode? (← hexValue? body)
    return (.char c false, cs)
  | cs => do
    let (n, cs) ← hexFixed verbose digits 0 cs
    let c ← charOfCode? n
    return (.char c (digits == 2), cs)

def splitAt? (mark : List Char) : List Char → Option (List Char × List Char)
  | [] => none
  | c :: cs =>
    if mark.isPrefixOf (c :: cs) then some ([], (c :: cs).drop mark.length)
    else (splitAt? mark cs).map fun r => (c :: r.1, r.2)

/-- What stands between the braces of a property class: the query, and whether `!=` turns it
around. -/
def propertyQuery (body : List Char) : PropertyQuery × Bool :=
  match splitAt? ['!', '='] body with
  | some (p, v) => (.valued (String.ofList p) (String.ofList v), true)
  | none =>
    match (splitAt? [':'] body).or (splitAt? ['='] body) with
    | some (p, v) => (.valued (String.ofList p) (String.ofList v), false)
    | none => (.named (String.ofList body), false)

def propertyEscape (verbose negated : Bool) (cs : List Char) : Option (Ast × List Char) :=
  match skipSpace verbose cs with
  | [] => none
  | c :: cs =>
    if c = '{' then do
      let (body, cs) ← braced verbose cs
      let (query, turned) := propertyQuery body
      return (.cls (.property query (negated != turned)), cs)
    else if c = '\\' then none
    else some (.cls (.property (.named c.toString) negated), cs)

def isWordLookChar (c : Char) : Bool :=
  c.isAlpha || c == '-'

def wordLook? : String → Option WordLook
  | "start" => some .opening
  | "end" => some .closing
  | "start-half" => some .openingHalf
  | "end-half" => some .closingHalf
  | _ => none

/-- A special word boundary, or the plain one where the brace opens a repetition. -/
def boundaryEscape (verbose : Bool) : List Char → Option (Ast × List Char)
  | '{' :: cs =>
    match skipSpace verbose cs with
    | [] => none
    | c :: _ =>
      if isWordLookChar c then do
        let (body, cs) ← braced verbose cs
        let kind ← wordLook? (String.ofList body)
        return (.assertion (.word kind), cs)
      else some (.assertion (.word .boundary), '{' :: cs)
  | cs => some (.assertion (.word .boundary), cs)

/-- The characters that have a meaning of their own in some place of a pattern. -/
def isMeta (c : Char) : Bool :=
  "\\.+*?()|[]\x7b\x7d^$#&-~".toList.contains c

/-- Whether a backslash before the character is allowed and does nothing. -/
def isEscapable (c : Char) : Bool :=
  isMeta c || (c.toNat < 0x80 && !c.isAlphanum && c != '<' && c != '>')

def escape (verbose : Bool) : List Char → Option (Ast × List Char)
  | [] => none
  | c :: cs =>
    match c with
    | 'x' => hexEscape verbose 2 cs
    | 'u' => hexEscape verbose 4 cs
    | 'U' => hexEscape verbose 8 cs
    | 'p' => propertyEscape verbose false cs
    | 'P' => propertyEscape verbose true cs
    | 'd' => some (.cls (.perl .digit false), cs)
    | 'D' => some (.cls (.perl .digit true), cs)
    | 's' => some (.cls (.perl .blank false), cs)
    | 'S' => some (.cls (.perl .blank true), cs)
    | 'w' => some (.cls (.perl .word false), cs)
    | 'W' => some (.cls (.perl .word true), cs)
    | 'a' => some (.char '\x07' false, cs)
    | 'f' => some (.char '\x0c' false, cs)
    | 't' => some (.char '\t' false, cs)
    | 'n' => some (.char '\n' false, cs)
    | 'r' => some (.char '\r' false, cs)
    | 'v' => some (.char '\x0b' false, cs)
    | 'A' => some (.assertion .textStart, cs)
    | 'z' => some (.assertion .textEnd, cs)
    | 'b' => boundaryEscape verbose cs
    | 'B' => some (.assertion (.word .interior), cs)
    | '<' => some (.assertion (.word .opening), cs)
    | '>' => some (.assertion (.word .closing), cs)
    | c => if isEscapable c then some (.char c false, cs) else none

/-- The classes that have a name between colons. -/
def posixRanges? : String → Option (List (Char × Char))
  | "alnum" => some [('0', '9'), ('A', 'Z'), ('a', 'z')]
  | "alpha" => some [('A', 'Z'), ('a', 'z')]
  | "ascii" => some [('\x00', '\x7f')]
  | "blank" => some [('\t', '\t'), (' ', ' ')]
  | "cntrl" => some [('\x00', '\x1f'), ('\x7f', '\x7f')]
  | "digit" => some [('0', '9')]
  | "graph" => some [('!', '~')]
  | "lower" => some [('a', 'z')]
  | "print" => some [(' ', '~')]
  | "punct" => some [('!', '/'), (':', '@'), ('[', '\x60'), ('{', '~')]
  | "space" => some [('\t', '\r'), (' ', ' ')]
  | "upper" => some [('A', 'Z')]
  | "word" => some [('0', '9'), ('A', 'Z'), ('_', '_'), ('a', 'z')]
  | "xdigit" => some [('0', '9'), ('A', 'F'), ('a', 'f')]
  | _ => none

/-- A named class behind the bracket that opens it. What does not spell one is read as a nested
class instead. -/
def posixClass? : List Char → Option (ClassTree × List Char)
  | ':' :: cs =>
    let negated := cs.head? == some '^'
    let body := if negated then cs.drop 1 else cs
    match body.dropWhile (· != ':') with
    | ':' :: ']' :: rest =>
      (posixRanges? (String.ofList (body.takeWhile (· != ':')))).map fun ranges =>
        (.posix ranges negated, rest)
    | _ => none
  | _ => none

/-- Counts the hyphens at the front of a class, which stand for themselves. -/
def leadingHyphens (verbose inComment : Bool) : List Char → Nat × List Char
  | [] => (0, [])
  | c :: cs =>
    if inComment then leadingHyphens verbose (c ≠ '\n') cs
    else if verbose ∧ isBlank c then leadingHyphens verbose false cs
    else if verbose ∧ c = '#' then leadingHyphens verbose true cs
    else if c = '-' then
      let (n, rest) := leadingHyphens verbose false cs
      (n + 1, rest)
    else (0, c :: cs)

/-- The front of a class: whether it is negated, and the hyphens, or the bracket, that stand for
themselves there. -/
def classFront (verbose : Bool) (cs : List Char) : Bool × List ClassTree × List Char :=
  let cs := skipSpace verbose cs
  let negated := cs.head? == some '^'
  let (hyphens, cs) := leadingHyphens verbose false (if negated then cs.drop 1 else cs)
  match hyphens, cs with
  | 0, ']' :: cs => (negated, [.char ']'], cs)
  | n, cs => (negated, List.replicate n (.char '-'), cs)

/-- One member of a class, which may turn out to be the end of a range. -/
def classMember (verbose : Bool) : List Char → Option (ClassTree × List Char)
  | [] => none
  | '\\' :: cs =>
    match escape verbose cs with
    | some (.char c _, cs) => some (.char c, cs)
    | some (.cls tree, cs) => some (tree, cs)
    | _ => none
  | c :: cs => some (.char c, cs)

/-- A member of a class, or a range between two characters. A hyphen before the closing bracket or
before another hyphen makes no range. -/
def classRange (verbose : Bool) (cs : List Char) : Option (ClassTree × List Char) := do
  let (first, cs) ← classMember verbose cs
  match skipSpace verbose cs with
  | [] => none
  | '-' :: behind =>
    match skipSpace verbose behind with
    | ']' :: _ => return (first, cs)
    | '-' :: _ => return (first, cs)
    | behind =>
      let (last, rest) ← classMember verbose behind
      match first, last with
      | .char lo, .char hi => if lo ≤ hi then return (.range lo hi, rest) else none
      | _, _ => none
  | _ => return (first, cs)

def unionOf : List ClassTree → ClassTree
  | [] => .empty
  | [t] => t
  | t :: ts => .both t (unionOf ts)

/-- What is still open while a class is read: a bracket with the members in front of it, last one
first, or an operation that lacks its second operand. -/
inductive OpenClass where
  | bracket (outer : List ClassTree) (negated : Bool)
  | op (o : SetOp) (first : ClassTree)

/-- A class that is being read: what is open, and the members of the innermost bracket or operand,
last one first. -/
structure ClassState where
  stack : List OpenClass
  members : List ClassTree

namespace ClassState

def add (s : ClassState) (t : ClassTree) : ClassState :=
  { s with members := t :: s.members }

/-- The members taken together, as the second operand of the operation that waits for one. -/
def operand (s : ClassState) : ClassTree × List OpenClass :=
  match s.stack with
  | .op o first :: stack => (.op o first (unionOf s.members.reverse), stack)
  | stack => (unionOf s.members.reverse, stack)

def startOp (s : ClassState) (o : SetOp) : ClassState :=
  ⟨.op o s.operand.1 :: s.operand.2, []⟩

end ClassState

/-- A class has come to its end, or goes on. -/
inductive ClassStep where
  | done (t : ClassTree) (rest : List Char)
  | more (s : ClassState) (rest : List Char)

def ClassStep.rest : ClassStep → List Char
  | .done _ rest => rest
  | .more _ rest => rest

def classStep (verbose : Bool) (s : ClassState) (cs : List Char) : Option ClassStep :=
  match skipSpace verbose cs with
  | [] => none
  | '[' :: rest =>
    match posixClass? rest with
    | some (t, rest) => some (.more (s.add t) rest)
    | none =>
      let front := classFront verbose rest
      some (.more ⟨.bracket s.members front.1 :: s.stack, front.2.1⟩ front.2.2)
  | ']' :: rest =>
    match s.operand with
    | (t, [.bracket _ negated]) => some (.done (.bracket negated t) rest)
    | (t, .bracket outer negated :: stack) =>
      some (.more ⟨stack, .bracket negated t :: outer⟩ rest)
    | _ => none
  | '&' :: '&' :: rest => some (.more (s.startOp .inter) rest)
  | '-' :: '-' :: rest => some (.more (s.startOp .diff) rest)
  | '~' :: '~' :: rest => some (.more (s.startOp .symmDiff) rest)
  | c :: rest => (classRange verbose (c :: rest)).map fun r => .more (s.add r.1) r.2

theorem length_skipSpaceFrom (inComment : Bool) (cs : List Char) :
    (skipSpaceFrom inComment cs).length ≤ cs.length := by
  induction cs generalizing inComment with
  | nil => simp [skipSpaceFrom]
  | cons c cs ih =>
    have := ih (c ≠ '\n')
    have := ih true
    have := ih false
    grind [skipSpaceFrom]

theorem length_skipSpace (verbose : Bool) (cs : List Char) :
    (skipSpace verbose cs).length ≤ cs.length := by
  unfold skipSpace
  split
  · exact length_skipSpaceFrom _ _
  · exact Nat.le_refl _

theorem length_bracedFrom {verbose inComment : Bool} {cs body rest : List Char}
    (h : bracedFrom verbose inComment cs = some (body, rest)) : rest.length < cs.length := by
  induction cs generalizing inComment body with
  | nil => simp [bracedFrom] at h
  | cons c cs ih =>
    simp only [bracedFrom] at h
    simp only [List.length_cons]
    split at h
    · exact Nat.lt_succ_of_lt (ih h)
    · split at h
      · exact Nat.lt_succ_of_lt (ih h)
      · split at h
        · exact Nat.lt_succ_of_lt (ih h)
        · split at h
          · grind
          · simp only [Option.map_eq_some_iff, Prod.mk.injEq] at h
            obtain ⟨⟨body', rest'⟩, h, _, rfl⟩ := h
            exact Nat.lt_succ_of_lt (ih h)

theorem length_hexFixed {verbose : Bool} {digits value n : Nat} {cs rest : List Char}
    (h : hexFixed verbose digits value cs = some (n, rest)) : rest.length ≤ cs.length := by
  induction digits generalizing value cs with
  | zero => grind [hexFixed]
  | succ digits ih =>
    have := length_skipSpace verbose cs
    grind [hexFixed]

theorem length_hexEscape {verbose : Bool} {digits : Nat} {cs rest : List Char} {a : Ast}
    (h : hexEscape verbose digits cs = some (a, rest)) : rest.length ≤ cs.length := by
  have := length_skipSpace verbose cs
  simp only [hexEscape, braced] at h
  split at h <;> simp only [bind, Option.bind_eq_some_iff, pure, Option.some.injEq,
    Prod.mk.injEq, Prod.exists] at h
  · obtain ⟨_, _, hb, _, _, _, _, _, rfl⟩ := h
    grind [length_bracedFrom hb]
  · obtain ⟨_, _, hb, _, _, _, rfl⟩ := h
    grind [length_hexFixed hb]

theorem length_propertyEscape {verbose negated : Bool} {cs rest : List Char} {a : Ast}
    (h : propertyEscape verbose negated cs = some (a, rest)) : rest.length ≤ cs.length := by
  have := length_skipSpace verbose cs
  simp only [propertyEscape, braced] at h
  split at h
  · cases h
  · split at h
    · simp only [bind, Option.bind_eq_some_iff, pure, Option.some.injEq, Prod.mk.injEq,
        Prod.exists] at h
      obtain ⟨_, _, hb, _, rfl⟩ := h
      grind [length_bracedFrom hb]
    · grind

theorem length_boundaryEscape {verbose : Bool} {cs rest : List Char} {a : Ast}
    (h : boundaryEscape verbose cs = some (a, rest)) : rest.length ≤ cs.length := by
  unfold boundaryEscape at h
  split at h
  · split at h
    · simp at h
    · split at h
      · simp only [braced, bind, Option.bind_eq_some_iff, pure, Option.some.injEq, Prod.mk.injEq,
          Prod.exists] at h
        obtain ⟨_, _, hb, _, _, _, rfl⟩ := h
        have := length_bracedFrom hb
        simp only [List.length_cons]
        omega
      · grind
  · grind

theorem length_escape {verbose : Bool} {cs rest : List Char} {a : Ast}
    (h : escape verbose cs = some (a, rest)) : rest.length < cs.length := by
  unfold escape at h
  split at h
  · cases h
  · rename_i c cs
    simp only [List.length_cons]
    split at h
    any_goals exact Nat.lt_succ_of_le (length_hexEscape h)
    any_goals exact Nat.lt_succ_of_le (length_propertyEscape h)
    any_goals exact Nat.lt_succ_of_le (length_boundaryEscape h)
    all_goals grind

theorem length_posixClass? {cs rest : List Char} {t : ClassTree}
    (h : posixClass? cs = some (t, rest)) : rest.length < cs.length := by
  unfold posixClass? at h
  split at h
  · rename_i cs
    simp only at h
    split at h
    · rename_i tail heq
      simp only [Option.map_eq_some_iff, Prod.mk.injEq] at h
      obtain ⟨_, _, _, rfl⟩ := h
      have := (List.dropWhile_sublist (fun c => c != ':')
        (l := if (cs.head? == some '^') = true then cs.drop 1 else cs)).length_le
      rw [heq] at this
      have hd := List.length_drop (i := 1) (l := cs)
      simp only [List.length_cons] at this ⊢
      split at this <;> omega
    · cases h
  · cases h

theorem length_leadingHyphens (verbose inComment : Bool) (cs : List Char) :
    (leadingHyphens verbose inComment cs).2.length ≤ cs.length := by
  induction cs generalizing inComment with
  | nil => simp [leadingHyphens]
  | cons c cs ih =>
    have := ih (c ≠ '\n')
    have := ih true
    have := ih false
    grind [leadingHyphens]

theorem length_classFront (verbose : Bool) (cs : List Char) :
    (classFront verbose cs).2.2.length ≤ cs.length := by
  have h1 := length_skipSpace verbose cs
  have h2 := length_leadingHyphens verbose false
    (if (skipSpace verbose cs).head? == some '^' then (skipSpace verbose cs).drop 1
      else skipSpace verbose cs)
  have h3 : (if (skipSpace verbose cs).head? == some '^' then (skipSpace verbose cs).drop 1
      else skipSpace verbose cs).length ≤ (skipSpace verbose cs).length := by
    split <;> simp
  unfold classFront
  simp only
  split
  · rename_i heq
    rw [heq, List.length_cons] at h2
    exact Nat.le_trans (Nat.le_of_succ_le h2) (Nat.le_trans h3 h1)
  · exact Nat.le_trans h2 (Nat.le_trans h3 h1)

theorem length_classMember {verbose : Bool} {cs rest : List Char} {t : ClassTree}
    (h : classMember verbose cs = some (t, rest)) : rest.length < cs.length := by
  unfold classMember at h
  split at h
  · cases h
  · split at h
    · rename_i he
      have := length_escape he
      grind
    · rename_i he
      have := length_escape he
      grind
    · cases h
  · grind

theorem length_classRange {verbose : Bool} {cs rest : List Char} {t : ClassTree}
    (h : classRange verbose cs = some (t, rest)) : rest.length < cs.length := by
  simp only [classRange, bind, Option.bind_eq_some_iff, Prod.exists] at h
  obtain ⟨first, mid, hm, h⟩ := h
  have h1 := length_classMember hm
  have h2 := length_skipSpace verbose mid
  split at h
  · cases h
  · rename_i behind heq
    rw [heq, List.length_cons] at h2
    have h3 := length_skipSpace verbose behind
    split at h
    · grind
    · grind
    · simp only [Option.bind_eq_some_iff, Prod.exists] at h
      obtain ⟨last, tail, hl, h⟩ := h
      have h4 := length_classMember hl
      split at h
      · split at h <;> grind
      · cases h
  · grind

theorem length_classStep {verbose : Bool} {s : ClassState} {cs : List Char} {r : ClassStep}
    (h : classStep verbose s cs = some r) : r.rest.length < cs.length := by
  have hlen := length_skipSpace verbose cs
  unfold classStep at h
  split at h
  · cases h
  · rename_i rest heq
    rw [heq, List.length_cons] at hlen
    split at h
    · rename_i hp
      have := length_posixClass? hp
      cases h
      simp only [ClassStep.rest]
      omega
    · have := length_classFront verbose rest
      cases h
      simp only [ClassStep.rest]
      omega
  · rename_i rest heq
    rw [heq, List.length_cons] at hlen
    split at h
    · cases h
      simp only [ClassStep.rest]
      omega
    · cases h
      simp only [ClassStep.rest]
      omega
    · cases h
  all_goals
    rename_i heq
    rw [heq] at hlen
    simp only [List.length_cons] at hlen
  · cases h
    simp only [ClassStep.rest]
    omega
  · cases h
    simp only [ClassStep.rest]
    omega
  · cases h
    simp only [ClassStep.rest]
    omega
  · simp only [Option.map_eq_some_iff] at h
    obtain ⟨⟨t, rest⟩, hr, rfl⟩ := h
    have := length_classRange hr
    simp only [List.length_cons] at this
    simp only [ClassStep.rest]
    omega

/-- Reads a class up to the bracket that closes it. -/
def classBody (verbose : Bool) (s : ClassState) (cs : List Char) :
    Option (ClassTree × List Char) :=
  match _h : classStep verbose s cs with
  | none => none
  | some (.done t rest) => some (t, rest)
  | some (.more s rest) => classBody verbose s rest
termination_by cs.length
decreasing_by exact length_classStep _h

theorem length_classBody {verbose : Bool} {s : ClassState} {cs rest : List Char} {t : ClassTree}
    (h : classBody verbose s cs = some (t, rest)) : rest.length < cs.length := by
  fun_induction classBody verbose s cs with
  | case1 => cases h
  | case2 _ _ _ _ hs =>
    cases h
    exact length_classStep hs
  | case3 _ _ _ _ hs ih => exact Nat.lt_trans (ih h) (length_classStep hs)

def bracketClass (verbose : Bool) (cs : List Char) : Option (ClassTree × List Char) :=
  let front := classFront verbose cs
  classBody verbose ⟨[.bracket [] front.1], front.2.1⟩ front.2.2

theorem length_bracketClass {verbose : Bool} {cs rest : List Char} {t : ClassTree}
    (h : bracketClass verbose cs = some (t, rest)) : rest.length < cs.length :=
  Nat.lt_of_lt_of_le (length_classBody h) (length_classFront verbose cs)

def flagOf? : Char → Option Flag
  | 'i' => some .ignoreCase
  | 'm' => some .multiLine
  | 's' => some .dotAll
  | 'U' => some .swapGreed
  | 'u' => some .unicode
  | 'R' => some .crlf
  | 'x' => some .verbose
  | _ => none

/-- The flags up to the colon or the parenthesis behind them, which follows in the result. A hyphen
switches the flags behind it off; it stands once at most, and not at the end. -/
def flagLetters (off : Bool) : List Char → Option (FlagChange × Char × List Char)
  | [] => none
  | c :: cs =>
    if c = ':' ∨ c = ')' then some ([], c, cs)
    else if c = '-' then
      match off, cs with
      | false, d :: _ => if d = ':' ∨ d = ')' then none else flagLetters true cs
      | _, _ => none
    else
      match flagOf? c with
      | some f => (flagLetters off cs).map fun r => ((f, !off) :: r.1, r.2)
      | none => none

theorem length_flagLetters {off : Bool} {cs rest : List Char} {change : FlagChange} {c : Char}
    (h : flagLetters off cs = some (change, c, rest)) : rest.length < cs.length := by
  induction cs generalizing off change with
  | nil => cases h
  | cons d cs ih =>
    simp only [flagLetters] at h
    simp only [List.length_cons]
    split at h
    · grind
    · split at h
      · split at h
        · split at h
          · cases h
          · exact Nat.lt_succ_of_lt (ih h)
        · cases h
      · split at h
        · simp only [Option.map_eq_some_iff, Prod.mk.injEq] at h
          obtain ⟨⟨_, _, _⟩, h, _, _, rfl⟩ := h
          exact Nat.lt_succ_of_lt (ih h)
        · cases h

/-- Letters for the names of groups: property `Alphabetic`. -/
def isNameStart (c : Char) : Bool :=
  c == '_' || c.isAlpha ||
  (0x80 ≤ c.toNat && ((NamedSet.find? binaryProperties "alphabetic").any (·.contains c)))

/-- Letters, numbers and some marks make up the rest of a name. -/
def isNameRest (c : Char) : Bool :=
  isNameStart c || c.isDigit || c == '.' || c == '[' || c == ']' ||
  (0x80 ≤ c.toNat && ["nd", "nl", "no"].any fun category =>
    (NamedSet.find? generalCategories category).any (·.contains c))

def isGroupName : List Char → Bool
  | [] => false
  | c :: cs => isNameStart c && cs.all isNameRest

/-- The name of a group, up to the angle bracket behind it. -/
def groupName (cs : List Char) : Option (GroupKind × List Char) :=
  let name := cs.takeWhile (· != '>')
  match cs.dropWhile (· != '>') with
  | _ :: rest => if isGroupName name then some (.capture (some (String.ofList name)), rest) else none
  | [] => none

/-- What an opening parenthesis opens, or the flags that it sets for what follows. There is no
looking around. -/
def groupFront (verbose : Bool) (cs : List Char) : Option (Token × List Char) :=
  match skipSpace verbose cs with
  | '?' :: '=' :: _ => none
  | '?' :: '!' :: _ => none
  | '?' :: '<' :: '=' :: _ => none
  | '?' :: '<' :: '!' :: _ => none
  | '?' :: 'P' :: '<' :: rest => (groupName rest).map fun r => (.opening r.1, r.2)
  | '?' :: '<' :: rest => (groupName rest).map fun r => (.opening r.1, r.2)
  | '?' :: rest =>
    match flagLetters false rest with
    | some (change, c, rest) =>
      if ¬ (change.map (·.1)).Nodup then none
      else if c = ':' then some (.opening (.plain change), rest)
      else if change.isEmpty then none
      else some (.flags change, rest)
    | none => none
  | rest => some (.opening (.capture none), rest)

/-- The number that some decimal digits spell, blanks around them aside. Counts have 32 bits. -/
def count? (cs : List Char) : Option Nat :=
  let digits := trim cs
  if digits.isEmpty || !digits.all Char.isDigit then none
  else
    let n := digits.foldl (fun n c => 10 * n + (c.toNat - 0x30)) 0
    if n < UInt32.size then some n else none

def bounds? (body : List Char) : Option (Nat × Option Nat) :=
  match splitAt? [','] body with
  | none => (count? body).map fun n => (n, some n)
  | some (lo, []) => (count? lo).map fun n => (n, none)
  | some (lo, hi) => do
    let lo ← count? lo
    let hi ← count? hi
    if lo ≤ hi then some (lo, some hi) else none

/-- A question mark behind a repetition makes it lazy. -/
def repToken (min : Nat) (max : Option Nat) (cs : List Char) : Token × List Char :=
  match cs with
  | '?' :: cs => (.rep min max false, cs)
  | cs => (.rep min max true, cs)

def countedRep (verbose : Bool) (cs : List Char) : Option (Token × List Char) := do
  let (body, cs) ← braced verbose cs
  let (min, max) ← bounds? body
  return repToken min max (skipSpace verbose cs)

/-- The token that starts with a character, and what follows it. -/
def next (verbose : Bool) (c : Char) (cs : List Char) : Option (Token × List Char) :=
  match c with
  | '(' => groupFront verbose cs
  | ')' => some (.closing, cs)
  | '|' => some (.bar, cs)
  | '[' => (bracketClass verbose cs).map fun r => (.part (.cls r.1), r.2)
  | '?' => some (repToken 0 (some 1) cs)
  | '*' => some (repToken 0 none cs)
  | '+' => some (repToken 1 none cs)
  | '{' => countedRep verbose cs
  | '\\' => (escape verbose cs).map fun r => (.part r.1, r.2)
  | '.' => some (.part .dot, cs)
  | '^' => some (.part (.assertion .caret), cs)
  | '$' => some (.part (.assertion .dollar), cs)
  | c => some (.part (.char c false), cs)

theorem length_groupName {cs rest : List Char} {k : GroupKind}
    (h : groupName cs = some (k, rest)) : rest.length < cs.length := by
  unfold groupName at h
  simp only at h
  split at h
  · rename_i heq
    have := (List.dropWhile_sublist (fun c => c != '>') (l := cs)).length_le
    rw [heq, List.length_cons] at this
    split at h
    · cases h
      omega
    · cases h
  · cases h

theorem length_groupFront {verbose : Bool} {cs rest : List Char} {t : Token}
    (h : groupFront verbose cs = some (t, rest)) : rest.length ≤ cs.length := by
  have hlen := length_skipSpace verbose cs
  unfold groupFront at h
  split at h
  any_goals cases h
  any_goals
    rename_i heq
    rw [heq] at hlen
    simp only [List.length_cons] at hlen
  · simp only [Option.map_eq_some_iff, Prod.mk.injEq] at h
    obtain ⟨⟨_, _⟩, h, _, rfl⟩ := h
    have := length_groupName h
    simp only
    omega
  · simp only [Option.map_eq_some_iff, Prod.mk.injEq] at h
    obtain ⟨⟨_, _⟩, h, _, rfl⟩ := h
    have := length_groupName h
    simp only
    omega
  · split at h
    · rename_i hf
      have := length_flagLetters hf
      split at h
      · cases h
      · split at h
        · cases h
          omega
        · split at h
          · cases h
          · cases h
            omega
    · cases h
  · exact hlen

theorem length_repToken (min : Nat) (max : Option Nat) (cs : List Char) :
    (repToken min max cs).2.length ≤ cs.length := by
  unfold repToken
  split <;> simp

theorem length_next {verbose : Bool} {c : Char} {cs rest : List Char} {t : Token}
    (h : next verbose c cs = some (t, rest)) : rest.length ≤ cs.length := by
  have hr : ∀ min max, some (repToken min max cs) = some (t, rest) → rest.length ≤ cs.length := by
    intro min max h
    have := length_repToken min max cs
    rw [Option.some.inj h] at this
    exact this
  unfold next at h
  split at h
  · exact length_groupFront h
  · grind
  · grind
  · simp only [Option.map_eq_some_iff, Prod.mk.injEq] at h
    obtain ⟨⟨_, _⟩, h, _, rfl⟩ := h
    exact Nat.le_of_lt (length_bracketClass h)
  · exact hr _ _ h
  · exact hr _ _ h
  · exact hr _ _ h
  · simp only [countedRep, bind, Option.bind_eq_some_iff, pure, Option.some.injEq,
      Prod.exists] at h
    obtain ⟨_, cs', hb, min, max, _, h⟩ := h
    have h1 := length_bracedFrom hb
    have h2 := length_skipSpace verbose cs'
    have h3 := length_repToken min max (skipSpace verbose cs')
    rw [h] at h3
    simp only at h3
    omega
  · simp only [Option.map_eq_some_iff, Prod.mk.injEq] at h
    obtain ⟨⟨_, _⟩, h, _, rfl⟩ := h
    exact Nat.le_of_lt (length_escape h)
  all_goals grind

def verboseAfter (verbose : Bool) (change : FlagChange) : Bool :=
  match change.find? fun f => f.1 == .verbose with
  | some f => f.2
  | none => verbose

/-- Verbose mode behind a token. The list holds the modes around the open groups. -/
def modeAfter (verbose : Bool) (outer : List Bool) : Token → Bool × List Bool
  | .flags change => (verboseAfter verbose change, outer)
  | .opening (.plain change) => (verboseAfter verbose change, verbose :: outer)
  | .opening (.capture _) => (verbose, verbose :: outer)
  | .closing => (outer.headD verbose, outer.tail)
  | _ => (verbose, outer)

/-- The tokens of a text, or nothing if some part of it is no token. -/
def read (verbose : Bool) (outer : List Bool) (cs : List Char) : Option (List Token) :=
  match _hs : skipSpace verbose cs with
  | [] => some []
  | c :: rest =>
    match _hn : next verbose c rest with
    | none => none
    | some (t, rest) =>
      let mode := modeAfter verbose outer t
      (read mode.1 mode.2 rest).map (t :: ·)
termination_by cs.length
decreasing_by
  have h1 := length_skipSpace verbose cs
  have h2 := length_next _hn
  rw [_hs, List.length_cons] at h1
  omega

end Token

end BuildLog.Regex
