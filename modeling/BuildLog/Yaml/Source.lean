import BuildLog.Text.Utf16
import BuildLog.Text.Utf8

/-! The text of a YAML stream. Its bytes are UTF-8, or UTF-16 if a byte order mark says so, and every
character knows its place. -/

namespace BuildLog.Yaml

/-- A character with its place: the number of characters before it in the text, and its line and
column, counted from zero. -/
structure Placed where
  char : Char
  index : Nat
  line : Nat
  column : Nat
  deriving DecidableEq, Repr

/-- The character that stands behind the text. No text holds it. -/
def endMark : Char := '\x00'

def isEnd (c : Char) : Bool := c == endMark

def isWhite (c : Char) : Bool := c == ' ' || c == '\t'

/-- A line break, once all its common spellings are a newline. -/
def isBreak (c : Char) : Bool := c == '\n' || c == '\u2028' || c == '\u2029'

def isBreakOrEnd (c : Char) : Bool := isBreak c || isEnd c

def isWhiteOrEnd (c : Char) : Bool := isWhite c || isBreakOrEnd c

namespace Source

/-- Pairs of bytes as numbers; the argument says whether the low byte comes first. -/
def units? (lowFirst : Bool) : List UInt8 → Option (List Nat)
  | [] => some []
  | [_] => none
  | a :: b :: bytes =>
    (units? lowFirst bytes).map
      ((if lowFirst then b.toNat * 256 + a.toNat else a.toNat * 256 + b.toNat) :: ·)

/-- The characters of a stream, without the byte order mark. -/
def decode? : List UInt8 → Option (List Char)
  | 0xEF :: 0xBB :: 0xBF :: bytes => Utf8.decode? bytes
  | 0xFF :: 0xFE :: bytes => (units? true bytes).bind Utf16.decode?
  | 0xFE :: 0xFF :: bytes => (units? false bytes).bind Utf16.decode?
  | bytes => Utf8.decode? bytes

/-- The characters that may stand in a stream. -/
def isAllowed (c : Char) : Bool :=
  let n := c.toNat
  n == 0x09 || n == 0x0A || n == 0x0D || (0x20 ≤ n && n ≤ 0x7E) || n == 0x85 ||
  (0xA0 ≤ n && n ≤ 0xFFFD && n != 0xFEFF) || 0x10000 ≤ n

/-- Gives every character its place and puts the end mark behind the last one. A carriage return,
with or without a newline, and U+0085 become newlines. -/
def place (index line column : Nat) : List Char → List Placed
  | [] => [⟨endMark, index, line, column⟩]
  | '\r' :: '\n' :: cs => ⟨'\n', index, line, column⟩ :: place (index + 2) (line + 1) 0 cs
  | c :: cs =>
    if c = '\n' ∨ c = '\r' ∨ c = '\u0085' then
      ⟨'\n', index, line, column⟩ :: place (index + 1) (line + 1) 0 cs
    else if isBreak c then ⟨c, index, line, column⟩ :: place (index + 1) (line + 1) 0 cs
    else ⟨c, index, line, column⟩ :: place (index + 1) line (column + 1) cs

/-- The placed characters of a stream, if it is text that may stand in one. -/
def read? (bytes : List UInt8) : Option (List Placed) :=
  (decode? bytes).bind fun cs => if cs.all isAllowed then some (place 0 0 0 cs) else none

end Source

def peek : List Placed → Char
  | [] => endMark
  | p :: _ => p.char

def peekAt (n : Nat) (cs : List Placed) : Char :=
  peek (cs.drop n)

/-- Three hyphens or three dots with a blank behind them, which end whatever was begun if they stand
at the start of a line. -/
def isDocumentMarker (cs : List Placed) : Bool :=
  (peek cs == '-' && peekAt 1 cs == '-' && peekAt 2 cs == '-' && isWhiteOrEnd (peekAt 3 cs)) ||
  (peek cs == '.' && peekAt 1 cs == '.' && peekAt 2 cs == '.' && isWhiteOrEnd (peekAt 3 cs))

def skipWhite (cs : List Placed) : List Placed :=
  cs.dropWhile fun p => isWhite p.char

def skipComment (cs : List Placed) : List Placed :=
  if peek cs = '#' then cs.dropWhile fun p => !isBreakOrEnd p.char else cs

/-- What follows a line that has nothing more than a comment. -/
def restOfLine? (cs : List Placed) : Option (List Placed) :=
  match skipComment (skipWhite cs) with
  | [] => some []
  | p :: cs => if isBreak p.char then some cs else if isEnd p.char then some (p :: cs) else none

end BuildLog.Yaml
