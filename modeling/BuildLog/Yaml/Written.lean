import BuildLog.Yaml.Source

/-! How a text is written as a scalar: plain where that is unambiguous, in single quotes where that is
possible, as a block if it has more than one line, and in double quotes otherwise. -/

namespace BuildLog.Yaml.Written

/-- Whether readers may take the text for something else than text: a truth value, a number, nothing,
or what starts like one of them. -/
def isAmbiguous (cs : List Char) : Bool :=
  match cs with
  | [] => true
  | c :: _ =>
    c.isDigit || c == '-' || c == '.' || c == '+' ||
    ["true", "false", "null", "nil", "~", "y", "yes", "n", "no", "on", "off"].contains
      (String.ofList (cs.map Char.toLower))

/-- The characters that are written as they are, outside double quotes. Those beyond U+FFFF are
not. -/
def isPrintable (c : Char) : Bool :=
  let n := c.toNat
  n == 0x0A || (0x20 ≤ n && n ≤ 0x7E) || (0xA0 ≤ n && n < 0xFFFE && n != 0xFEFF)

/-- Whether a character that starts a plain scalar means something else there, given the character
behind it. -/
def startsOtherwise (c next : Char) : Bool :=
  "#,[]\x7b\x7d&*!|>'\"%@\x60".toList.contains c ||
  ((c == '?' || c == ':' || c == '-') && isWhiteOrEnd next)

/-- Whether a plain scalar ends too early: at a colon in front of a blank or at a number sign behind
one. -/
def endsEarly : List Char → Bool
  | [] => false
  | c :: cs =>
    (match cs with
      | [] => c == ':'
      | next :: _ => (c == ':' && isWhiteOrEnd next) || (isWhiteOrEnd c && next == '#')) ||
    endsEarly cs

def isMarked (cs : List Char) : Bool :=
  ['-', '-', '-'].isPrefixOf cs || ['.', '.', '.'].isPrefixOf cs

/-- Whether one of two neighbours is a space and the other, in this order, a line break. -/
def hasPair (first second : Char → Bool) : List Char → Bool
  | c :: d :: cs => (first c && second d) || hasPair first second (d :: cs)
  | _ => false

def isSpace (c : Char) : Bool := c == ' '

def allowsPlain (cs : List Char) : Bool :=
  match cs with
  | [] => false
  | c :: rest =>
    cs.all isPrintable && !cs.any isBreak && !isSpace c && !cs.getLast?.any isSpace &&
    !isMarked cs && !startsOtherwise c (rest.headD endMark) && !endsEarly cs

def allowsSingleQuotes (cs : List Char) : Bool :=
  cs.all isPrintable && !hasPair isSpace isBreak cs && !hasPair isBreak isSpace cs

def allowsBlock (cs : List Char) : Bool :=
  cs.all isPrintable && !hasPair isSpace isBreak cs && !cs.getLast?.any isSpace

def margin (indent : Nat) : List Char := List.replicate indent ' '

/-- The text with a margin in front of each line with characters. -/
def indented (indent : Nat) (atStart : Bool) : List Char → List Char
  | [] => []
  | c :: cs =>
    if isBreak c then c :: indented indent true cs
    else (if atStart then margin indent else []) ++ c :: indented indent false cs

/-- In single quotes a quote is doubled. -/
def singleQuoted (indent : Nat) (cs : List Char) : List Char :=
  '\'' :: indented indent false (cs.flatMap fun c => if c = '\'' then ['\'', '\''] else [c]) ++
    (if cs.getLast?.any isBreak then margin indent else []) ++ ['\'']

def upperHexDigit (n : Nat) : Char :=
  if n < 10 then Char.ofNat (48 + n) else Char.ofNat (55 + n)

/-- The last `digits` hexadecimal digits of a number. -/
def hex : Nat → Nat → List Char
  | 0, _ => []
  | digits + 1, n => hex digits (n / 16) ++ [upperHexDigit (n % 16)]

/-- The letter that stands for a character behind a backslash. -/
def escapeLetter? (c : Char) : Option Char :=
  match c.toNat with
  | 0x00 => some '0'
  | 0x07 => some 'a'
  | 0x08 => some 'b'
  | 0x09 => some 't'
  | 0x0A => some 'n'
  | 0x0B => some 'v'
  | 0x0C => some 'f'
  | 0x0D => some 'r'
  | 0x1B => some 'e'
  | 0x22 => some '"'
  | 0x5C => some '\\'
  | 0x85 => some 'N'
  | 0x2028 => some 'L'
  | 0x2029 => some 'P'
  | _ => none

def escape (c : Char) : List Char :=
  if isPrintable c && !isBreak c && c != '"' && c != '\\' then [c]
  else
    match escapeLetter? c with
    | some letter => ['\\', letter]
    | none =>
      if c.toNat ≤ 0xFF then '\\' :: 'x' :: hex 2 c.toNat
      else if c.toNat ≤ 0xFFFF then '\\' :: 'u' :: hex 4 c.toNat
      else '\\' :: 'U' :: hex 8 c.toNat

def doubleQuoted (cs : List Char) : List Char :=
  '"' :: cs.flatMap escape ++ ['"']

/-- How a block ends: without a line break, with one, or with more. -/
def blockEnding (cs : List Char) : List Char :=
  match cs.reverse with
  | [] => ['-']
  | [c] => if isBreak c then ['+'] else ['-']
  | c :: d :: _ => if !isBreak c then ['-'] else if isBreak d then ['+'] else []

/-- The indentation is given where the text starts with a space or a break. -/
def blockIndent (cs : List Char) : List Char :=
  if cs.head?.any fun c => isSpace c || isBreak c then ['2'] else []

def block (indent : Nat) (cs : List Char) : List Char :=
  '|' :: blockIndent cs ++ blockEnding cs ++ '\n' :: indented indent true cs ++
    (if cs.getLast?.any isBreak then [] else ['\n'])

def isBlock (cs : List Char) : Bool :=
  cs.contains '\n' && allowsBlock cs

/-- A text as a scalar, with the break behind it. Further lines are indented by `indent`. -/
def scalar (indent : Nat) (cs : List Char) : List Char :=
  if isBlock cs then block indent cs
  else if cs.contains '\n' then doubleQuoted cs ++ ['\n']
  else if !isAmbiguous cs && allowsPlain cs then cs ++ ['\n']
  else if allowsSingleQuotes cs then singleQuoted indent cs ++ ['\n']
  else doubleQuoted cs ++ ['\n']

/-- Whether what follows a scalar could be taken for a part of it. -/
def isOpenEnded (cs : List Char) : Bool :=
  isBlock cs && blockEnding cs == ['+']

end BuildLog.Yaml.Written
