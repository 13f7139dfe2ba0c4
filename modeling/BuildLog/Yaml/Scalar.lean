import BuildLog.Yaml.Source

/-! The scalars of YAML: plain, in quotes, or as a block of lines. Every reader gives the text that
is meant and what follows the scalar. -/

namespace BuildLog.Yaml

inductive ScalarStyle where
  | plain
  | singleQuoted
  | doubleQuoted
  | literal
  | folded
  deriving DecidableEq, Repr

/-- The white space between two words of a scalar: blanks on a line, or line breaks with the blanks
around them left out. The first break is absent when it was escaped. -/
inductive Gap where
  | none
  | blanks (cs : List Char)
  | lines (first : Option Char) (more : List Char)
  deriving DecidableEq, Repr

namespace Gap

def push : Gap → Char → Gap
  | .none, c => if isBreak c then .lines (some c) [] else .blanks [c]
  | .blanks cs, c => if isBreak c then .lines (some c) [] else .blanks (cs ++ [c])
  | .lines first more, c => if isBreak c then .lines first (more ++ [c]) else .lines first more

/-- Blanks stay. A single newline becomes a space, and of several the first one goes. -/
def text : Gap → List Char
  | .none => []
  | .blanks cs => cs
  | .lines (some '\n') [] => [' ']
  | .lines (some '\n') more => more
  | .lines first more => first.toList ++ more

def hasBreak : Gap → Bool
  | .lines .. => true
  | _ => false

end Gap

structure Reading where
  text : List Char
  rest : List Placed
  deriving DecidableEq, Repr

def Reading.prepend (cs : List Char) (r : Reading) : Reading :=
  { r with text := cs ++ r.text }

namespace Scalar

/-- What separates the parts of a flow collection. -/
def isFlowIndicator (c : Char) : Bool :=
  c == ',' || c == '[' || c == ']' || c == '{' || c == '}'

/-- Whether a plain scalar ends in front of a character that is not white. -/
def endsPlain (inFlow : Bool) (indent : Nat) (gap : Gap) (p : Placed) (rest : List Placed) : Bool :=
  isEnd p.char ||
  (gap != .none && ((!inFlow && p.column < indent) || p.char == '#' ||
    (p.column == 0 && isDocumentMarker (p :: rest)))) ||
  (p.char == ':' && isWhiteOrEnd (peek rest)) || (inFlow && isFlowIndicator p.char)

/-- Reads a plain scalar, whose further lines start at the column `indent` or behind it. Also tells
whether a line break was passed at its end. -/
def plain (inFlow : Bool) (indent : Nat) (gap : Gap) : List Placed → Option (Reading × Bool)
  | [] => some (⟨[], []⟩, gap.hasBreak)
  | p :: rest =>
    if isWhite p.char || isBreak p.char then
      if gap.hasBreak && p.column < indent && p.char == '\t' then none
      else plain inFlow indent (gap.push p.char) rest
    else if inFlow && p.char == ':' && (isFlowIndicator (peek rest) || peek rest == '?') then none
    else if endsPlain inFlow indent gap p rest then some (⟨[], p :: rest⟩, gap.hasBreak)
    else (plain inFlow indent .none rest).map fun r => (r.1.prepend (gap.text ++ [p.char]), r.2)

/-- Reads up to a single quote that is not doubled. -/
def singleQuoted (gap : Gap) : List Placed → Option Reading
  | [] => none
  | p :: rest =>
    if isWhite p.char || isBreak p.char then singleQuoted (gap.push p.char) rest
    else if isEnd p.char || (p.column == 0 && isDocumentMarker (p :: rest)) then none
    else if p.char = '\'' then
      match rest with
      | [] => none
      | q :: after =>
        if q.char = '\'' then (singleQuoted .none after).map (.prepend (gap.text ++ ['\'']))
        else some ⟨gap.text, q :: after⟩
    else (singleQuoted .none rest).map (.prepend (gap.text ++ [p.char]))

/-- The character that a letter stands for behind a backslash. -/
def unescape? (c : Char) : Option Char :=
  match c with
  | '0' => some '\x00'
  | 'a' => some '\x07'
  | 'b' => some '\x08'
  | 't' | '\t' => some '\t'
  | 'n' => some '\n'
  | 'v' => some '\x0B'
  | 'f' => some '\x0C'
  | 'r' => some '\r'
  | 'e' => some '\x1B'
  | ' ' => some ' '
  | '"' => some '"'
  | '/' => some '/'
  | '\\' => some '\\'
  | 'N' => some '\u0085'
  | '_' => some '\u00A0'
  | 'L' => some '\u2028'
  | 'P' => some '\u2029'
  | _ => none

/-- The number of hexadecimal digits behind a letter. -/
def codeLength? (c : Char) : Option Nat :=
  match c with
  | 'x' => some 2
  | 'u' => some 4
  | 'U' => some 8
  | _ => none

def hexDigit? (c : Char) : Option Nat :=
  if '0' ≤ c ∧ c ≤ '9' then some (c.toNat - 48)
  else if 'a' ≤ c ∧ c ≤ 'f' then some (c.toNat - 87)
  else if 'A' ≤ c ∧ c ≤ 'F' then some (c.toNat - 55)
  else none

/-- Reads some hexadecimal digits behind those that make up `value`. -/
def hexCode : Nat → Nat → List Placed → Option (Nat × List Placed)
  | 0, value, cs => some (value, cs)
  | _ + 1, _, [] => none
  | n + 1, value, p :: cs => (hexDigit? p.char).bind fun d => hexCode n (16 * value + d) cs

theorem length_hexCode {n value : Nat} {cs : List Placed} {r : Nat × List Placed}
    (h : hexCode n value cs = some r) : r.2.length ≤ cs.length := by
  induction n generalizing value cs with
  | zero => simp [hexCode] at h; simp [← h]
  | succ n ih =>
    cases cs with
    | nil => simp [hexCode] at h
    | cons p cs =>
      simp only [hexCode, Option.bind_eq_some_iff] at h
      obtain ⟨d, -, h⟩ := h
      have := ih h
      simp only [List.length_cons]; omega

/-- Reads up to a double quote that is not escaped. -/
def doubleQuoted (gap : Gap) (cs : List Placed) : Option Reading :=
  match cs with
  | [] => none
  | p :: rest =>
    if isWhite p.char || isBreak p.char then doubleQuoted (gap.push p.char) rest
    else if isEnd p.char || (p.column == 0 && isDocumentMarker (p :: rest)) then none
    else if p.char = '"' then some ⟨gap.text, rest⟩
    else if p.char = '\\' then
      match rest with
      | [] => none
      | q :: rest =>
        if isBreak q.char then (doubleQuoted (.lines none []) rest).map (.prepend gap.text)
        else
          match codeLength? q.char with
          | none =>
            match unescape? q.char with
            | none => none
            | some c => (doubleQuoted .none rest).map (.prepend (gap.text ++ [c]))
          | some n =>
            match h : hexCode n 0 rest with
            | none => none
            | some (code, after) =>
              have := length_hexCode h
              if code.isValidChar then
                (doubleQuoted .none after).map (.prepend (gap.text ++ [Char.ofNat code]))
              else none
    else (doubleQuoted .none rest).map (.prepend (gap.text ++ [p.char]))
termination_by cs.length
decreasing_by all_goals (simp_all <;> omega)

/-- What becomes of the line breaks at the end of a block. -/
inductive Chomping where
  | strip
  | clip
  | keep
  deriving DecidableEq, Repr

def chomping? (c : Char) : Option Chomping :=
  if c = '-' then some .strip else if c = '+' then some .keep else none

/-- The indicators behind the one that opens a block: how it ends and how far it is indented, in
either order. -/
def blockIndicators (cs : List Placed) : Option (Chomping × Option Nat × List Placed) :=
  let digit? (c : Char) : Option Nat := if c.isDigit then some (c.toNat - 48) else none
  match chomping? (peek cs), digit? (peek cs) with
  | some chomping, _ =>
    match digit? (peekAt 1 cs) with
    | some 0 => none
    | some n => some (chomping, some n, cs.drop 2)
    | none => some (chomping, none, cs.drop 1)
  | none, some 0 => none
  | none, some n =>
    match chomping? (peekAt 1 cs) with
    | some chomping => some (chomping, some n, cs.drop 2)
    | none => some (.clip, some n, cs.drop 1)
  | none, none => some (.clip, none, cs)

/-- The column where the first line of a block with text starts, or a later one where a line without
text ends. No tab may indent it. -/
def blockColumn (widest : Nat) : List Placed → Option Nat
  | [] => some widest
  | p :: rest =>
    if p.char = ' ' then blockColumn widest rest
    else if p.char = '\t' then none
    else if isBreak p.char then blockColumn (max widest p.column) rest
    else some (max widest p.column)

/-- What is known at the start of a line of a block: the break that ended the last line with text,
whether that line started with a blank, and the breaks of the empty lines since. -/
structure BlockLine where
  lineBreak : Option Char := none
  startsBlank : Bool := false
  empty : List Char := []
  deriving DecidableEq, Repr

/-- The breaks in front of a line with text. Where lines are folded, a single newline between two
lines that do not start with a blank becomes a space. -/
def BlockLine.join (folded : Bool) (s : BlockLine) (startsBlank : Bool) : List Char :=
  if folded ∧ s.lineBreak = some '\n' ∧ s.startsBlank = false ∧ startsBlank = false then
    if s.empty = [] then [' '] else s.empty
  else s.lineBreak.toList ++ s.empty

/-- Reads the lines of a block that are indented to the column `indent`. The reader is inside a line
or in the margin in front of one. -/
def blockLines (folded : Bool) (indent : Nat) (inLine : Bool) (s : BlockLine) :
    List Placed → Option (Reading × BlockLine)
  | [] => some (⟨[], []⟩, s)
  | p :: rest =>
    if inLine then
      if isEnd p.char then some (⟨[], p :: rest⟩, s)
      else if isBreak p.char then
        blockLines folded indent false { s with lineBreak := some p.char } rest
      else (blockLines folded indent true s rest).map fun r => (r.1.prepend [p.char], r.2)
    else if isWhite p.char && p.column < indent then
      if p.char = '\t' then none else blockLines folded indent false s rest
    else if isBreak p.char then
      blockLines folded indent false { s with empty := s.empty ++ [p.char] } rest
    else if p.column = indent ∧ !isEnd p.char then
      (blockLines folded indent true { startsBlank := isWhite p.char } rest).map fun r =>
        (r.1.prepend (s.join folded (isWhite p.char) ++ [p.char]), r.2)
    else some (⟨[], p :: rest⟩, s)

/-- Reads a block scalar, given the text behind the character that opens it and the column of the
block around it, if there is one. -/
def block (folded : Bool) (outer : Option Nat) (cs : List Placed) : Option Reading := do
  let (chomping, increment, cs) ← blockIndicators cs
  let cs ← restOfLine? cs
  let least := max 1 (match outer with
    | some n => n + 1
    | none => 0)
  let indent ←
    match increment with
    | some n => some (outer.getD 0 + n)
    | none => (blockColumn 0 cs).map (max least)
  let (r, s) ← blockLines folded indent false {} cs
  let tail :=
    match chomping with
    | .strip => []
    | .clip => s.lineBreak.toList
    | .keep => s.lineBreak.toList ++ s.empty
  return ⟨r.text ++ tail, r.rest⟩

end Scalar

end BuildLog.Yaml
