import BuildLog.Yaml.Token

/-! From the text of a YAML stream to its tokens. That a token is a key shows only when its colon is
met; the tokens that announce the key are then put in front of it. -/

namespace BuildLog.Yaml

/-- The tokens of a text, up to the first place that cannot be read. -/
structure TokenStream where
  tokens : List Token
  complete : Bool
  deriving DecidableEq, Repr

namespace TokenStream

/-- A token that is a key if a colon follows on its line. `count` is the number of tokens before it.
A key is required where nothing else can stand. -/
structure PossibleKey where
  count : Nat
  required : Bool
  start : Placed
  deriving DecidableEq, Repr

/-- The state of the reader. The columns of the open blocks and the possible keys are listed from
the inside out; there is one possible key for each open flow collection and one for what is around
them. The tokens are listed last one first. -/
structure State where
  rest : List Placed
  blocks : List Nat := []
  keys : List (Option PossibleKey) := [none]
  keyAllowed : Bool := true
  tokens : List Token := []
  deriving DecidableEq, Repr

namespace State

def inFlow (s : State) : Bool := 1 < s.keys.length

def push (s : State) (t : Token) : State := { s with tokens := t :: s.tokens }

/-- Puts a token behind the first `count` tokens. -/
def insert (s : State) (count : Nat) (t : Token) : State :=
  let later := s.tokens.length - count
  { s with tokens := s.tokens.take later ++ t :: s.tokens.drop later }

/-- The tokens in front of the first one that may turn out to be a key. -/
def settled (s : State) : List Token :=
  let bounds := s.keys.filterMap fun k => k.map PossibleKey.count
  s.tokens.reverse.take (bounds.foldl min s.tokens.length)

/-- A key ends on its line, within 1024 characters. -/
def isStale (k : PossibleKey) (p : Placed) : Bool :=
  k.start.line < p.line || k.start.index + 1024 < p.index

/-- Gives up the keys that have waited too long, unless one of them is required. -/
def dropStale (s : State) : Option State :=
  match s.rest with
  | [] => some s
  | p :: _ => do
    let keys ← s.keys.mapM fun
      | none => some none
      | some k => if isStale k p then (if k.required then none else some none) else some (some k)
    return { s with keys }

/-- Gives up the innermost possible key, unless it is required. -/
def dropKey (s : State) : Option State :=
  match s.keys with
  | some k :: keys => if k.required then none else some { s with keys := none :: keys }
  | _ => some s

/-- What starts here may be a key, where keys are allowed. -/
def mayBeKey (s : State) : Option State :=
  match s.keyAllowed, s.rest with
  | true, p :: _ => do
    let key : PossibleKey :=
      { count := s.tokens.length
        required := !s.inFlow && s.blocks.head? == some p.column
        start := p }
    let s ← s.dropKey
    return { s with keys := some key :: s.keys.drop 1 }
  | _, _ => some s

/-- Opens a block at a column that lies deeper than the blocks that are open. The token is put
behind the first `count` tokens. -/
def openBlock (s : State) (column count : Nat) (t : Token) : State :=
  if s.inFlow || s.blocks.head?.any (column ≤ ·) then s
  else { s.insert count t with blocks := column :: s.blocks }

/-- Closes the blocks that lie deeper than a column. -/
def closeBlocks (column : Nat) : List Nat → List Token → List Nat × List Token
  | [], tokens => ([], tokens)
  | c :: blocks, tokens =>
    if column < c then closeBlocks column blocks (.blockEnd :: tokens) else (c :: blocks, tokens)

def closeTo (s : State) (column : Nat) : State :=
  if s.inFlow then s
  else
    let (blocks, tokens) := closeBlocks column s.blocks s.tokens
    { s with blocks, tokens }

def closeAll (s : State) : State :=
  if s.inFlow then s
  else { s with blocks := [], tokens := List.replicate s.blocks.length .blockEnd ++ s.tokens }

/-- Leaves out white space, comments and line breaks. In a block a line break allows a key, and a
tab may not stand where a key is allowed. -/
def skipToToken (inFlow inComment keyAllowed : Bool) : List Placed → Bool × List Placed
  | [] => (keyAllowed, [])
  | p :: rest =>
    if inComment && !isBreakOrEnd p.char then skipToToken inFlow true keyAllowed rest
    else if p.char == ' ' || ((inFlow || !keyAllowed) && p.char == '\t') then
      skipToToken inFlow false keyAllowed rest
    else if p.char == '#' then skipToToken inFlow true keyAllowed rest
    else if isBreak p.char then skipToToken inFlow false (keyAllowed || !inFlow) rest
    else (keyAllowed, p :: rest)

def takeOne (s : State) (t : Token) (keyAllowed : Bool) : State :=
  { s with rest := s.rest.drop 1, keyAllowed, tokens := t :: s.tokens }

def flowStart (s : State) (t : Token) : Option State := do
  let s ← s.mayBeKey
  return { s with keys := none :: s.keys }.takeOne t true

def flowEnd (s : State) (t : Token) : Option State := do
  let s ← s.dropKey
  return { s with keys := if s.inFlow then s.keys.drop 1 else s.keys }.takeOne t false

def flowEntry (s : State) : Option State := do
  return (← s.dropKey).takeOne .flowEntry true

/-- What opens a block at this very place, where a key is allowed. -/
def openHere (s : State) (column : Nat) (t : Token) : Option State :=
  if s.inFlow then some s
  else if s.keyAllowed then some (s.openBlock column s.tokens.length t)
  else none

def blockEntry (s : State) (column : Nat) : Option State := do
  return (← (← s.openHere column .blockSequenceStart).dropKey).takeOne .blockEntry true

def explicitKey (s : State) (column : Nat) : Option State := do
  return (← (← s.openHere column .blockMappingStart).dropKey).takeOne .key (!s.inFlow)

/-- A colon makes what stands in front of it a key. -/
def value (s : State) (column : Nat) : Option State :=
  match s.keys with
  | some k :: keys =>
    let s := { s with keys := none :: keys }.insert k.count .key
    some ((s.openBlock k.start.column k.count .blockMappingStart).takeOne .value false)
  | _ => do
    return (← s.openHere column .blockMappingStart).takeOne .value (!s.inFlow)

def take (s : State) (keyAllowed : Bool) (t : Token) (rest : List Placed) : State :=
  { s with rest, keyAllowed, tokens := t :: s.tokens }

def documentMark (s : State) (t : Token) : Option State := do
  return (← s.closeAll.dropKey).take false t (s.rest.drop 3)

def directive (s : State) : Option State := do
  let s ← s.closeAll.dropKey
  let (t, rest) ← Token.directive? (s.rest.drop 1)
  return s.take false t rest

def takeAlias (s : State) : Option State := do
  let s ← s.mayBeKey
  let (name, rest) ← Token.name? (s.rest.drop 1)
  return s.take false (.alias name) rest

def anchor (s : State) : Option State := do
  let s ← s.mayBeKey
  let (name, rest) ← Token.name? (s.rest.drop 1)
  return s.take false (.anchor name) rest

def tag (s : State) : Option State := do
  let s ← s.mayBeKey
  let (t, rest) ← Token.tag? s.inFlow s.rest
  return s.take false t rest

def blockScalar (s : State) (style : ScalarStyle) : Option State := do
  let s ← s.dropKey
  let r ← Scalar.block (style == .folded) s.blocks.head? (s.rest.drop 1)
  return s.take true (.scalar r.text style) r.rest

def singleQuoted (s : State) : Option State := do
  let s ← s.mayBeKey
  let r ← Scalar.singleQuoted .none (s.rest.drop 1)
  return s.take false (.scalar r.text .singleQuoted) r.rest

def doubleQuoted (s : State) : Option State := do
  let s ← s.mayBeKey
  let r ← Scalar.doubleQuoted .none (s.rest.drop 1)
  return s.take false (.scalar r.text .doubleQuoted) r.rest

/-- The column where the further lines of a plain scalar may start. -/
def innerColumn (s : State) : Nat :=
  match s.blocks with
  | [] => 0
  | column :: _ => column + 1

def plain (s : State) : Option State := do
  let s ← s.mayBeKey
  let (r, passedBreak) ← Scalar.plain s.inFlow s.innerColumn .none s.rest
  return s.take passedBreak (.scalar r.text .plain) r.rest

/-- Characters that start no plain scalar, whatever follows. -/
def isIndicator (c : Char) : Bool :=
  ",[]\x7b\x7d#&*!|>'\"%@\x60".toList.contains c

/-- Whether a plain scalar starts with `c`, given the character behind it. -/
def startsPlain (inFlow : Bool) (c next : Char) : Bool :=
  if c = '-' then !isWhite next
  else if c = '?' ∨ c = ':' then !inFlow && !isWhiteOrEnd next
  else !isWhiteOrEnd c && !isIndicator c

/-- Reads the token that starts at `p`, in front of `next`. -/
def token (s : State) (p : Placed) (next : Char) : Option State :=
  let c := p.char
  if p.column = 0 ∧ c = '%' then s.directive
  else if p.column = 0 ∧ c = '-' ∧ isDocumentMarker s.rest then s.documentMark .documentStart
  else if p.column = 0 ∧ c = '.' ∧ isDocumentMarker s.rest then s.documentMark .documentEnd
  else if c = '[' then s.flowStart .flowSequenceStart
  else if c = '{' then s.flowStart .flowMappingStart
  else if c = ']' then s.flowEnd .flowSequenceEnd
  else if c = '}' then s.flowEnd .flowMappingEnd
  else if c = ',' then s.flowEntry
  else if c = '-' ∧ isWhiteOrEnd next then s.blockEntry p.column
  else if c = '?' ∧ (s.inFlow ∨ isWhiteOrEnd next) then s.explicitKey p.column
  else if c = ':' ∧ (s.inFlow ∨ isWhiteOrEnd next) then s.value p.column
  else if c = '*' then s.takeAlias
  else if c = '&' then s.anchor
  else if c = '!' then s.tag
  else if c = '|' ∧ !s.inFlow then s.blockScalar .literal
  else if c = '>' ∧ !s.inFlow then s.blockScalar .folded
  else if c = '\'' then s.singleQuoted
  else if c = '"' then s.doubleQuoted
  else if startsPlain s.inFlow c next then s.plain
  else none

def finish (s : State) : Option State := do
  return (← s.closeAll.dropKey).push .streamEnd

/-- Reads the next token. The last token is that of the end. -/
def next (s : State) : Option State := do
  let (keyAllowed, rest) := skipToToken s.inFlow false s.keyAllowed s.rest
  let s ← { s with rest, keyAllowed }.dropStale
  match s.rest with
  | [] => none
  | p :: rest =>
    let s := s.closeTo p.column
    if isEnd p.char then s.finish else s.token p (peek rest)

def isFinished (s : State) : Bool := s.tokens.head? == some .streamEnd

def run : Nat → State → TokenStream
  | 0, s => ⟨s.settled, false⟩
  | n + 1, s =>
    if s.isFinished then ⟨s.tokens.reverse, true⟩
    else
      match s.dropStale with
      | none => ⟨s.settled, false⟩
      | some s =>
        match s.next with
        | none => ⟨s.settled, false⟩
        | some s => run n s

end State

/-- The tokens of a text. Each token but the last takes a character at least. -/
def ofSource (source : List Placed) : TokenStream :=
  State.run (source.length + 2) { rest := source }

end TokenStream

end BuildLog.Yaml
