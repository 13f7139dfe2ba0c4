import BuildLog.Regex.Alternation
import BuildLog.Text.Utf8

/-! The memory that an expression takes as an automaton over the bytes of UTF-8, read forwards and
backwards. Counted repetitions are copied, so a short pattern can ask for a huge automaton; one
that is above the limit is refused. Sizes are computed from the expression alone and nothing is
copied for it. -/

namespace BuildLog.Regex

structure ByteRange where
  lo : Nat
  hi : Nat
  deriving DecidableEq, Repr, Hashable

/-- The byte sequences of the code points from `s` to `e`, which take `k` bytes behind the first;
`lead` is added to the first byte. -/
def byteSequences (lead : Nat) : Nat → Nat → Nat → List (List ByteRange)
  | 0, s, e => [[⟨lead + s, lead + e⟩]]
  | k + 1, s, e =>
    let m := 64 ^ (k + 1)
    let one (d s e : Nat) : List (List ByteRange) :=
      (byteSequences 0x80 k s e).map (⟨lead + d, lead + d⟩ :: ·)
    if s / m = e / m then one (s / m) (s % m) (e % m)
    else
      let from' := if s % m = 0 then s / m else s / m + 1
      let to' := if e % m = m - 1 then e / m + 1 else e / m
      (if s % m = 0 then [] else one (s / m) (s % m) (m - 1)) ++
      (if from' < to' then
        [⟨lead + from', lead + to' - 1⟩ :: List.replicate (k + 1) ⟨0x80, 0xBF⟩] else []) ++
      (if e % m = m - 1 then [] else one (e / m) 0 (e % m))

/-- The byte sequences of a range of code points in increasing order. -/
def CharRange.byteSequences (r : CharRange) : List (List ByteRange) :=
  [(0, 0, 0, 0x7F), (0xC0, 1, 0x80, 0x7FF), (0xE0, 2, 0x800, 0xD7FF), (0xE0, 2, 0xE000, 0xFFFF),
    (0xF0, 3, 0x10000, 0x10FFFF)].flatMap fun (lead, k, lo, hi) =>
      if max r.lo lo ≤ min r.hi hi then
        Regex.byteSequences lead k (max r.lo lo) (min r.hi hi)
      else []

/-- A state for each distinct set of endings: its transitions, each to the number of the state
behind it. -/
abbrev SuffixStates := List (List (ByteRange × Nat))

/-- The number of a state, which is added if it is new. State `0` is the end. -/
def SuffixStates.number (states : SuffixStates) (node : List (ByteRange × Nat)) :
    Nat × SuffixStates :=
  match states.idxOf? node with
  | some i => (states.length - i, states)
  | none => (states.length + 1, node :: states)

/-- Groups neighbours that start with the same range of bytes. -/
def groupByHead : List (List ByteRange) → List (ByteRange × List (List ByteRange))
  | [] => []
  | [] :: seqs => groupByHead seqs
  | (b :: bs) :: seqs =>
    match groupByHead seqs with
    | (b', tails) :: groups =>
      if b = b' then (b, bs :: tails) :: groups else (b, [bs]) :: (b', tails) :: groups
    | [] => [(b, [bs])]

/-- The state from which the given sequences lead to the end, at most `depth` bytes away. -/
def suffixState (states : SuffixStates) : Nat → List (List ByteRange) → Nat × SuffixStates
  | 0, _ => (0, states)
  | depth + 1, seqs =>
    if seqs.all List.isEmpty then (0, states)
    else
      let (node, states) := (groupByHead seqs).foldl
        (fun (acc : List (ByteRange × Nat) × SuffixStates) g =>
          let (target, states) := suffixState acc.2 depth g.2
          ((g.1, target) :: acc.1, states)) ([], states)
      states.number node

/-- The states of the sequences read backwards, where equal endings are shared: for each the range
of bytes and the state that it leads to. -/
def reverseStates (seqs : List (List ByteRange)) : List (ByteRange × Nat) :=
  seqs.foldl (fun states seq =>
    (seq.foldl (fun (acc : Nat × List (ByteRange × Nat)) b =>
      match acc.2.idxOf? (b, acc.1) with
      | some i => (acc.2.length - i, acc.2)
      | none => (acc.2.length + 1, (b, acc.1) :: acc.2)) (0, states)).2) []

/-- The direction in which an automaton reads. -/
inductive Direction where
  | forward
  | backward
  deriving DecidableEq

/-- The parts that memory is counted in. -/
def stateSize : Nat := 32
def transitionSize : Nat := 8
def branchSize : Nat := 4

def utf8Length (n : Nat) : Nat :=
  if n < 0x80 then 1 else if n < 0x800 then 2 else if n < 0x10000 then 3 else 4

def CharSet.size (d : Direction) (s : CharSet) : Nat :=
  let s := s.normalize
  match s.only? with
  | some n => utf8Length n * stateSize
  | none =>
    if s.isAscii then 2 * stateSize + s.ranges.length * transitionSize
    else
      let seqs := s.ranges.flatMap CharRange.byteSequences
      match d with
      | .forward =>
        let states := (suffixState [] 4 seqs).2
        (states.length + 1) * stateSize +
          (states.foldl (fun n node => n + node.length) 0) * transitionSize
      | .backward =>
        ((reverseStates seqs).length + 2) * stateSize + seqs.length * branchSize

/-- The words that go on behind a state of a tree of words, in chunks between those that end
there. -/
def wordChunks : List (List UInt8) → List (List (List UInt8))
  | [] => [[]]
  | [] :: words => [] :: wordChunks words
  | word :: words =>
    match wordChunks words with
    | chunk :: chunks => (word :: chunk) :: chunks
    | [] => [[word]]

/-- How often an end is noted at a state. As long as no word goes on, one end is as good as
several. -/
def endCount (words : List (List UInt8)) : Nat :=
  min 1 (words.takeWhile List.isEmpty).length + (words.dropWhile List.isEmpty).countP List.isEmpty

/-- The words behind each byte that one of the words begins with. -/
def wordTails (words : List (List UInt8)) : List (List (List UInt8)) :=
  (words.filterMap List.head?).eraseDups.map fun b =>
    words.filterMap fun w => if w.head? = some b then some w.tail else none

/-- The size of the tree of words behind a state, at most `depth` bytes deep. All words that go no
further lead to one end. -/
def treeSize : Nat → List (List UInt8) → Nat
  | 0, _ => 0
  | depth + 1, words =>
    if words.all List.isEmpty then 0
    else
      let chunks := (wordChunks words).filter (!·.isEmpty)
      stateSize + (chunks.length + endCount words) * branchSize +
        (chunks.map fun chunk =>
          let tails := wordTails chunk
          stateSize + (if tails.length = 1 then 0 else tails.length * transitionSize) +
            (tails.map (treeSize depth)).sum).sum

/-- The size of an alternation between words. Read backwards the words share their endings. -/
def wordsSize (d : Direction) (words : List (List UInt8)) : Nat :=
  let words := if d = .backward then words.map List.reverse else words
  stateSize + treeSize (words.foldl (fun n w => max n w.length) 0) words

namespace Expr

/-- The bytes of a sequence of characters. -/
def word? (e : Expr) : Option (List UInt8) :=
  match e.parts with
  | [] => none
  | parts => (parts.mapM fun p : Expr => p.chars.normalize.only?).map fun codes =>
      Utf8.encode (codes.map Char.ofNat)

/-- Whether the expression is no part of a sequence. -/
def isVoid : Expr → Bool
  | .empty => true
  | .seq a b => a.isVoid && b.isVoid
  | _ => false

/-- The branches of an alternation that leans to the right. -/
def branchCount : Expr → Nat
  | .alt _ b => b.branchCount + 1
  | _ => 1

/-- The size of an expression; `inAlt` says that it is the rest of an alternation, whose own states
are already counted. An alternation between words is a tree. -/
def sizeIn (d : Direction) (inAlt : Bool) : Expr → Nat
  | .empty => stateSize
  | .set s => s.size d
  | .look _ => stateSize
  | .seq a b =>
    if a.isVoid then b.sizeIn d false
    else if b.isVoid then a.sizeIn d false
    else a.sizeIn d false + b.sizeIn d false
  | .alt a b =>
    let sizes := a.sizeIn d false + b.sizeIn d true
    if inAlt then sizes
    else
      match (Expr.alt a b).branches.mapM word? with
      | some words => wordsSize d words
      | none => 2 * stateSize + (Expr.alt a b).branchCount * branchSize + sizes
  | .group _ e => e.sizeIn d false + if d = .forward then 2 * stateSize else 0
  | .rep e min max _ =>
    let one := e.sizeIn d false
    let choice := stateSize + 2 * branchSize
    match min, max with
    | 0, some 1 => one + choice + stateSize
    | 0, none =>
      if e.needsChar then one + choice else one + 2 * choice + stateSize
    | min + 1, none => (min + 1) * one + choice
    | min, some max =>
      let fixed := if min = 0 then stateSize else min * one
      if min = max then fixed else fixed + (max - min) * (one + choice) + stateSize

/-- The size of the automaton for the whole search. Reading forwards it also finds where a match
starts and keeps the span of the match. -/
def size (e : Expr) (d : Direction) : Nat :=
  e.sizeIn d false + stateSize +
    if d = .forward then 2 * stateSize + 3 * stateSize + 2 * branchSize + transitionSize else 0

/-- Ten mebibytes. -/
def sizeLimit : Nat := 10 * 1024 * 1024

def isTooBig (e : Expr) : Bool :=
  sizeLimit < e.size .forward || sizeLimit < e.size .backward

end Expr

end BuildLog.Regex
