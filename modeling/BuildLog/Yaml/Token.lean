import BuildLog.Yaml.Scalar

/-! The tokens of a YAML stream. Indentation shows up as tokens that open and close blocks. -/

namespace BuildLog.Yaml

inductive Token where
  | version (major minor : Nat)
  | shorthand (handle replacement : List Char)
  | documentStart
  | documentEnd
  | streamEnd
  | blockSequenceStart
  | blockMappingStart
  | blockEnd
  | flowSequenceStart
  | flowSequenceEnd
  | flowMappingStart
  | flowMappingEnd
  | blockEntry
  | flowEntry
  | key
  | value
  | alias (name : List Char)
  | anchor (name : List Char)
  | tag (handle suffix : List Char)
  | scalar (text : List Char) (style : ScalarStyle)
  deriving DecidableEq, Repr

namespace Token

def isWordChar (c : Char) : Bool :=
  c.isAlphanum || c == '_' || c == '-'

/-- Reads the characters of a word, of which there may be none. -/
def word (cs : List Placed) : List Char × List Placed :=
  ((cs.takeWhile fun p => isWordChar p.char).map Placed.char, cs.dropWhile fun p => isWordChar p.char)

def endsName (c : Char) : Bool :=
  isWhiteOrEnd c || ['?', ':', ',', ']', '}', '%', '@', '\x60'].contains c

def name? (cs : List Placed) : Option (List Char × List Placed) :=
  let (name, rest) := word cs
  if name ≠ [] ∧ endsName (peek rest) then some (name, rest) else none

/-- The characters of a tag. A tag in angle brackets may also hold some flow indicators. -/
def isTagChar (inBrackets : Bool) (c : Char) : Bool :=
  isWordChar c || ";/?:@&=+$.!~*'()%".toList.contains c ||
  (inBrackets && (c == ',' || c == '[' || c == ']'))

/-- Reads the characters of a tag as bytes. A percent sign escapes a byte. -/
def tagBytes (inBrackets : Bool) : List Placed → Option (List UInt8 × List Placed)
  | [] => some ([], [])
  | p :: rest =>
    if p.char = '%' then
      match rest with
      | a :: b :: rest => do
        let high ← Scalar.hexDigit? a.char
        let low ← Scalar.hexDigit? b.char
        let (bytes, rest) ← tagBytes inBrackets rest
        return (UInt8.ofNat (16 * high + low) :: bytes, rest)
      | _ => none
    else if isTagChar inBrackets p.char then
      (tagBytes inBrackets rest).map fun r => (Utf8.encode [p.char] ++ r.1, r.2)
    else some ([], p :: rest)

def tagText? (inBrackets : Bool) (cs : List Placed) : Option (List Char × List Placed) := do
  let (bytes, rest) ← tagBytes inBrackets cs
  return (← Utf8.decode? bytes, rest)

/-- Reads an exclamation mark, a word and, if there is one, another exclamation mark. -/
def handle? (cs : List Placed) : Option (List Char × List Placed) :=
  if peek cs = '!' then
    let (name, rest) := word (cs.drop 1)
    if peek rest = '!' then some ('!' :: name ++ ['!'], rest.drop 1) else some ('!' :: name, rest)
  else none

/-- Whether what was read as a handle is closed by an exclamation mark of its own. -/
def isClosed (handle : List Char) : Bool :=
  handle.length != 1 && handle.getLast? == some '!'

/-- The handle and the suffix of a tag. Without a closed handle all of it is the suffix; a lone
exclamation mark is a suffix without a handle. -/
def tagParts? (cs : List Placed) : Option (List Char × List Char × List Placed) :=
  if peekAt 1 cs = '<' then do
    let (suffix, rest) ← tagText? true (cs.drop 2)
    if suffix = [] ∨ peek rest ≠ '>' then none else return ([], suffix, rest.drop 1)
  else do
    let (handle, rest) ← handle? cs
    let (suffix, rest) ← tagText? false rest
    if isClosed handle then
      if suffix = [] then none else return (handle, suffix, rest)
    else
      let suffix := handle.drop 1 ++ suffix
      if suffix = [] then return ([], ['!'], rest) else return (['!'], suffix, rest)

/-- Reads a tag, given the text that starts with its exclamation mark. -/
def tag? (inFlow : Bool) (cs : List Placed) : Option (Token × List Placed) := do
  let (handle, suffix, rest) ← tagParts? cs
  if isWhiteOrEnd (peek rest) ∨ (inFlow ∧ peek rest = ',') then
    return (.tag handle suffix, rest)
  else none

/-- Reads a number of at most nine digits. -/
def number? (cs : List Placed) : Option (Nat × List Placed) :=
  let digits := cs.takeWhile fun p => p.char.isDigit
  if 0 < digits.length ∧ digits.length ≤ 9 then
    some (digits.foldl (fun n p => 10 * n + (p.char.toNat - 48)) 0,
      cs.dropWhile fun p => p.char.isDigit)
  else none

def version? (cs : List Placed) : Option (Token × List Placed) := do
  let (major, rest) ← number? (skipWhite cs)
  if peek rest ≠ '.' then none
  else
    let (minor, rest) ← number? (rest.drop 1)
    return (.version major minor, rest)

def shorthand? (cs : List Placed) : Option (Token × List Placed) := do
  let (handle, rest) ← handle? (skipWhite cs)
  if handle.getLast? ≠ some '!' ∨ !isWhite (peek rest) then none
  else
    let (text, rest) ← tagText? true (skipWhite rest)
    if text = [] ∨ !isWhiteOrEnd (peek rest) then none else return (.shorthand handle text, rest)

/-- Reads a directive and the line it is on, given the text behind its percent sign. -/
def directive? (cs : List Placed) : Option (Token × List Placed) := do
  let (name, rest) := word cs
  if !isWhiteOrEnd (peek rest) then none
  else
    let (token, rest) ←
      match String.ofList name with
      | "YAML" => version? rest
      | "TAG" => shorthand? rest
      | _ => none
    return (token, ← restOfLine? rest)

end Token

end BuildLog.Yaml
