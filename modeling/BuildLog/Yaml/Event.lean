import BuildLog.Yaml.TokenStream

/-! From the tokens of a YAML stream to the nodes of its first document. Nodes are listed as events
in the order in which they begin and end, so that a document that breaks off still has the events
in front of the break. -/

namespace BuildLog.Yaml

/-- An alias gives the place of the event that begins the node it stands for. -/
inductive Event where
  | scalar (text : List Char) (style : ScalarStyle) (tag : Option (List Char))
  | alias (target : Nat)
  | sequenceStart
  | sequenceEnd
  | mappingStart
  | mappingEnd
  deriving DecidableEq, Repr

/-- The events of the first document. It is complete if nothing but the end of the stream follows
it. -/
structure EventStream where
  events : List Event
  complete : Bool
  deriving DecidableEq, Repr

namespace EventStream

/-- What is to be read next. -/
inductive Goal where
  | node (inBlock entryAllowed : Bool)
  | blockSequence
  | bareSequence
  | blockKey
  | blockValue
  | flowSequence (first : Bool)
  | pairKey
  | pairValue
  | pairEnd
  | flowKey (first : Bool)
  | flowValue
  | flowNoValue
  deriving DecidableEq, Repr

abbrev Shorthands := List (List Char × List Char)

def defaultShorthands : Shorthands :=
  [(['!'], ['!']), (['!', '!'], "tag:yaml.org,2002:".toList)]

def resolveTag (shorthands : Shorthands) (handle suffix : List Char) : Option (List Char) :=
  if handle = [] then some suffix
  else (shorthands.lookup handle).map (· ++ suffix)

/-- The state of the reader: the goals, innermost first, the tokens that are left, the events, last
one first, and the anchors with the places of their nodes. -/
structure State where
  goals : List Goal
  tokens : List Token
  events : List Event := []
  anchors : List (List Char × Nat) := []
  shorthands : Shorthands
  deriving DecidableEq, Repr

/-- The anchor and the tag in front of a node, in either order. -/
structure Properties where
  anchor : Option (List Char) := none
  tag : Option (List Char) := none
  deriving DecidableEq, Repr

def properties (shorthands : Shorthands) : List Token → Option (Properties × List Token)
  | .anchor a :: .tag h s :: rest =>
    (resolveTag shorthands h s).map fun t => ({ anchor := some a, tag := some t }, rest)
  | .tag h s :: .anchor a :: rest =>
    (resolveTag shorthands h s).map fun t => ({ anchor := some a, tag := some t }, rest)
  | .anchor a :: rest => some ({ anchor := some a }, rest)
  | .tag h s :: rest => (resolveTag shorthands h s).map fun t => ({ tag := some t }, rest)
  | tokens => some ({}, tokens)

def emptyScalar : Event := .scalar [] .plain none

namespace State

def goOn (s : State) (goals : List Goal) (tokens : List Token) : Option State :=
  some { s with goals, tokens }

def emit (s : State) (e : Event) (goals : List Goal) (tokens : List Token) : Option State :=
  some { s with goals, tokens, events := e :: s.events }

/-- Begins a node, which its anchor names from now on. -/
def beginNode (s : State) (p : Properties) (e : Event) (goals : List Goal) (tokens : List Token) :
    Option State :=
  some { s with
    goals, tokens
    events := e :: s.events
    anchors :=
      match p.anchor with
      | some a => (a, s.events.length) :: s.anchors
      | none => s.anchors }

/-- Reads a node, or its beginning. A sequence without a block of its own is a node where an entry is
allowed. -/
def node (s : State) (inBlock entryAllowed : Bool) (goals : List Goal) : Option State :=
  match s.tokens with
  | .alias name :: rest =>
    (s.anchors.lookup name).bind fun target => s.emit (.alias target) goals rest
  | tokens => do
    let (p, tokens) ← properties s.shorthands tokens
    match tokens with
    | [] => none
    | .scalar text style :: rest =>
      let tag := if p.tag = some ['!'] then none else p.tag
      s.beginNode p (.scalar text style tag) goals rest
    | .flowSequenceStart :: rest => s.beginNode p .sequenceStart (.flowSequence true :: goals) rest
    | .flowMappingStart :: rest => s.beginNode p .mappingStart (.flowKey true :: goals) rest
    | .blockEntry :: rest =>
      if entryAllowed then
        s.beginNode p .sequenceStart (.bareSequence :: goals) (.blockEntry :: rest)
      else if p = {} then none
      else s.beginNode p (.scalar [] .plain p.tag) goals (.blockEntry :: rest)
    | t :: rest =>
      if inBlock ∧ t = .blockSequenceStart then
        s.beginNode p .sequenceStart (.blockSequence :: goals) rest
      else if inBlock ∧ t = .blockMappingStart then
        s.beginNode p .mappingStart (.blockKey :: goals) rest
      else if p = {} then none
      else s.beginNode p (.scalar [] .plain p.tag) goals (t :: rest)

/-- Reads a node that is empty in front of some tokens. -/
def nodeBefore (s : State) (isStop : Token → Bool) (inBlock entryAllowed : Bool)
    (goals : List Goal) (tokens : List Token) : Option State :=
  match tokens with
  | [] => none
  | t :: _ =>
    if isStop t then s.emit emptyScalar goals tokens
    else s.goOn (.node inBlock entryAllowed :: goals) tokens

def stopsEntry (t : Token) : Bool := t == .blockEntry || t == .blockEnd

def stopsBareEntry (t : Token) : Bool :=
  t == .blockEntry || t == .key || t == .value || t == .blockEnd

def stopsBlockPart (t : Token) : Bool := t == .key || t == .value || t == .blockEnd

def stopsPair (t : Token) : Bool := t == .flowEntry || t == .flowSequenceEnd

def stopsFlowPart (t : Token) : Bool := t == .flowEntry || t == .flowMappingEnd

/-- Reads an entry of a sequence in brackets, behind its comma. -/
def flowSequenceEntry (s : State) (goals : List Goal) : List Token → Option State
  | [] => none
  | .flowSequenceEnd :: rest => s.emit .sequenceEnd goals rest
  | .key :: rest => s.emit .mappingStart (.pairKey :: .flowSequence false :: goals) rest
  | tokens => s.goOn (.node false false :: .flowSequence false :: goals) tokens

/-- Reads a key of a mapping in braces, behind its comma. -/
def flowMappingEntry (s : State) (goals : List Goal) : List Token → Option State
  | [] => none
  | .flowMappingEnd :: rest => s.emit .mappingEnd goals rest
  | .key :: rest =>
    s.nodeBefore (fun t => t == .value || stopsFlowPart t) false false (.flowValue :: goals) rest
  | tokens => s.goOn (.node false false :: .flowNoValue :: goals) tokens

def step (s : State) (goal : Goal) (goals : List Goal) : Option State :=
  match goal, s.tokens with
  | .node inBlock entryAllowed, _ => s.node inBlock entryAllowed goals
  | .pairEnd, tokens => s.emit .mappingEnd goals tokens
  | _, [] => none
  | .blockSequence, .blockEntry :: rest =>
    s.nodeBefore stopsEntry true false (.blockSequence :: goals) rest
  | .blockSequence, .blockEnd :: rest => s.emit .sequenceEnd goals rest
  | .blockSequence, _ => none
  | .bareSequence, .blockEntry :: rest =>
    s.nodeBefore stopsBareEntry true false (.bareSequence :: goals) rest
  | .bareSequence, tokens => s.emit .sequenceEnd goals tokens
  | .blockKey, .key :: rest => s.nodeBefore stopsBlockPart true true (.blockValue :: goals) rest
  | .blockKey, .blockEnd :: rest => s.emit .mappingEnd goals rest
  | .blockKey, _ => none
  | .blockValue, .value :: rest => s.nodeBefore stopsBlockPart true true (.blockKey :: goals) rest
  | .blockValue, tokens => s.emit emptyScalar (.blockKey :: goals) tokens
  | .flowSequence true, tokens => s.flowSequenceEntry goals tokens
  | .flowSequence false, .flowEntry :: rest => s.flowSequenceEntry goals rest
  | .flowSequence false, .flowSequenceEnd :: rest => s.emit .sequenceEnd goals rest
  | .flowSequence false, _ => none
  | .pairKey, t :: rest =>
    if t = .value ∨ stopsPair t then s.emit emptyScalar (.pairValue :: goals) rest
    else s.goOn (.node false false :: .pairValue :: goals) (t :: rest)
  | .pairValue, .value :: rest => s.nodeBefore stopsPair false false (.pairEnd :: goals) rest
  | .pairValue, tokens => s.emit emptyScalar (.pairEnd :: goals) tokens
  | .flowKey true, tokens => s.flowMappingEntry goals tokens
  | .flowKey false, .flowEntry :: rest => s.flowMappingEntry goals rest
  | .flowKey false, .flowMappingEnd :: rest => s.emit .mappingEnd goals rest
  | .flowKey false, _ => none
  | .flowValue, .value :: rest =>
    s.nodeBefore stopsFlowPart false false (.flowKey false :: goals) rest
  | .flowValue, tokens => s.emit emptyScalar (.flowKey false :: goals) tokens
  | .flowNoValue, tokens => s.emit emptyScalar (.flowKey false :: goals) tokens

/-- Takes at most `n` steps; also tells whether the goals were reached. -/
def run : Nat → State → State × Bool
  | 0, s => (s, false)
  | n + 1, s =>
    match s.goals with
    | [] => (s, true)
    | goal :: goals =>
      match s.step goal goals with
      | none => (s, false)
      | some s => run n s

end State

/-- Reads the directives in front of a document: at most one version, and no handle twice. -/
def directives (versionSeen : Bool) (given : Shorthands) :
    List Token → Option (Shorthands × List Token)
  | .version major minor :: rest =>
    if versionSeen ∨ major ≠ 1 ∨ (minor ≠ 1 ∧ minor ≠ 2) then none
    else directives true given rest
  | .shorthand handle text :: rest =>
    if (given.lookup handle).isSome then none
    else directives versionSeen (given ++ [(handle, text)]) rest
  | tokens => some (given ++ defaultShorthands, tokens)

def stopsDocument : Token → Bool
  | .version .. | .shorthand .. | .documentStart | .documentEnd | .streamEnd => true
  | _ => false

/-- The state in front of the first document. A document without directives needs no start; an
empty one is an empty scalar. -/
def start (tokens : List Token) : Option State :=
  match tokens with
  | [] => none
  | .streamEnd :: _ => none
  | t :: _ =>
    if t = .documentEnd ∨ !stopsDocument t then
      some { goals := [.node true false], tokens, shorthands := defaultShorthands }
    else do
      let (shorthands, tokens) ← directives false [] tokens
      match tokens with
      | .documentStart :: rest =>
        let s : State := { goals := [], tokens := rest, shorthands }
        s.nodeBefore stopsDocument true false [] rest
      | _ => none

/-- Whether only the end of the stream follows. -/
def endsStream : List Token → Bool
  | .documentEnd :: rest => endsStream rest
  | tokens => tokens == [.streamEnd]

/-- The events of some tokens. No token takes more than a few steps. -/
def ofTokens (stream : TokenStream) : EventStream :=
  match start stream.tokens with
  | none => ⟨[], false⟩
  | some s =>
    let (s, reached) := s.run (8 * (stream.tokens.length + 2))
    ⟨s.events.reverse, reached && stream.complete && endsStream s.tokens⟩

def ofBytes (bytes : List UInt8) : EventStream :=
  match Source.read? bytes with
  | none => ⟨[], false⟩
  | some source => ofTokens (TokenStream.ofSource source)

end EventStream

end BuildLog.Yaml
