import BuildLog.Text.Utf16

/-! The part of JSON that records are written in: objects, strings, natural numbers and null. A
text is a list of tokens, which are written without blanks and read with blanks between them. -/

namespace BuildLog.Json

inductive Token where
  | opening
  | closing
  | colon
  | comma
  | null
  | number (n : Nat)
  | string (cs : List Char)
  deriving DecidableEq, Repr

def lowerHexDigit (n : Nat) : Char :=
  if n < 10 then Char.ofNat (48 + n) else Char.ofNat (87 + n)

/-- A quote, a backslash and the control characters are escaped, by a letter where there is one. -/
def escape (c : Char) : List Char :=
  if c = '"' then ['\\', '"']
  else if c = '\\' then ['\\', '\\']
  else if c = '\x08' then ['\\', 'b']
  else if c = '\x0C' then ['\\', 'f']
  else if c = '\n' then ['\\', 'n']
  else if c = '\r' then ['\\', 'r']
  else if c = '\t' then ['\\', 't']
  else if c.toNat < 0x20 then
    ['\\', 'u', '0', '0', lowerHexDigit (c.toNat / 16), lowerHexDigit (c.toNat % 16)]
  else [c]

def quote (cs : List Char) : List Char :=
  '"' :: cs.flatMap escape ++ ['"']

def Token.text : Token → List Char
  | .opening => ['{']
  | .closing => ['}']
  | .colon => [':']
  | .comma => [',']
  | .null => ['n', 'u', 'l', 'l']
  | .number n => Nat.toDigits 10 n
  | .string cs => quote cs

def render (ts : List Token) : List Char :=
  ts.flatMap Token.text

def members : List (List Char × List Token) → List Token
  | [] => []
  | [(key, value)] => .string key :: .colon :: value
  | (key, value) :: rest => .string key :: .colon :: value ++ .comma :: members rest

def object (fields : List (List Char × List Token)) : List Token :=
  .opening :: members fields ++ [.closing]

def unescape? (c : Char) : Option Char :=
  if c = '"' ∨ c = '\\' ∨ c = '/' then some c
  else if c = 'b' then some '\x08'
  else if c = 'f' then some '\x0C'
  else if c = 'n' then some '\n'
  else if c = 'r' then some '\r'
  else if c = 't' then some '\t'
  else none

def hexDigit? (c : Char) : Option Nat :=
  if '0' ≤ c ∧ c ≤ '9' then some (c.toNat - 48)
  else if 'a' ≤ c ∧ c ≤ 'f' then some (c.toNat - 87)
  else if 'A' ≤ c ∧ c ≤ 'F' then some (c.toNat - 55)
  else none

def hexValue? (cs : List Char) : Option Nat :=
  cs.foldlM (fun n c => (hexDigit? c).map (16 * n + ·)) 0

/-- The codes up to the closing quote, and what follows it. A code is that of a character or,
where it was escaped as a number, may be a surrogate. -/
def codes? : List Char → Option (List Nat × List Char)
  | [] => none
  | c :: cs =>
    if c = '"' then some ([], cs)
    else if c = '\\' then
      match cs with
      | 'u' :: x₁ :: x₂ :: x₃ :: x₄ :: cs =>
        (hexValue? [x₁, x₂, x₃, x₄]).bind fun n => (codes? cs).map fun r => (n :: r.1, r.2)
      | e :: cs =>
        (unescape? e).bind fun c => (codes? cs).map fun r => (c.toNat :: r.1, r.2)
      | [] => none
    else if c.toNat < 0x20 then none
    else (codes? cs).map fun r => (c.toNat :: r.1, r.2)

/-- The characters of a string and what follows it, given the text behind its opening quote. -/
def unquote? (cs : List Char) : Option (List Char × List Char) :=
  (codes? cs).bind fun r => (Utf16.decode? r.1).map fun out => (out, r.2)

def isSpace (c : Char) : Bool :=
  c == ' ' || c == '\t' || c == '\n' || c == '\r'

def digitsValue (cs : List Char) : Nat :=
  cs.foldl (fun n c => 10 * n + (c.toNat - 48)) 0

/-- The token at the front of a text that does not start with a blank, and what follows it. -/
def token? : List Char → Option (Token × List Char)
  | [] => none
  | c :: cs =>
    if c = '{' then some (.opening, cs)
    else if c = '}' then some (.closing, cs)
    else if c = ':' then some (.colon, cs)
    else if c = ',' then some (.comma, cs)
    else if c = '"' then (unquote? cs).map fun r => (.string r.1, r.2)
    else if c = '0' then some (.number 0, cs)
    else if c.isDigit then
      some (.number (digitsValue (c :: cs.takeWhile Char.isDigit)), cs.dropWhile Char.isDigit)
    else if (c :: cs).take 4 = ['n', 'u', 'l', 'l'] then some (.null, cs.drop 3)
    else none

theorem length_codes?_le {cs : List Char} {r : List Nat × List Char} (h : codes? cs = some r) :
    r.2.length ≤ cs.length := by
  fun_induction codes? cs generalizing r with
  | case1 => simp at h
  | case2 => simp at h; simp [← h]
  | case3 x₁ x₂ x₃ x₄ cs _ ih =>
    simp only [Option.bind_eq_some_iff, Option.map_eq_some_iff] at h
    obtain ⟨n, -, q, hq, rfl⟩ := h
    have := ih hq
    simp only [List.length_cons]; omega
  | case4 e cs _ _ ih =>
    simp only [Option.bind_eq_some_iff, Option.map_eq_some_iff] at h
    obtain ⟨n, -, q, hq, rfl⟩ := h
    have := ih hq
    simp only [List.length_cons]; omega
  | case5 => simp at h
  | case6 => simp at h
  | case7 c cs hc hs hn ih =>
    simp only [Option.map_eq_some_iff] at h
    obtain ⟨q, hq, rfl⟩ := h
    have := ih hq
    simp only [List.length_cons]; omega

theorem length_unquote?_le {cs : List Char} {r : List Char × List Char}
    (h : unquote? cs = some r) : r.2.length ≤ cs.length := by
  simp only [unquote?, Option.bind_eq_some_iff, Option.map_eq_some_iff] at h
  obtain ⟨q, hq, out, -, rfl⟩ := h
  exact length_codes?_le hq

theorem length_token?_lt {cs : List Char} {r : Token × List Char} (h : token? cs = some r) :
    r.2.length < cs.length := by
  cases cs with
  | nil => simp [token?] at h
  | cons c cs =>
    simp only [token?] at h
    split at h
    · cases h; simp
    split at h
    · cases h; simp
    split at h
    · cases h; simp
    split at h
    · cases h; simp
    split at h
    · obtain ⟨q, hq, rfl⟩ := Option.map_eq_some_iff.1 h
      have := length_unquote?_le hq
      simp only [List.length_cons]; omega
    split at h
    · cases h; simp
    split at h
    · cases h
      have := (List.dropWhile_sublist Char.isDigit (l := cs)).length_le
      simp only [List.length_cons]; omega
    split at h
    · cases h
      simp only [List.length_drop, List.length_cons]; omega
    · cases h

def tokens? (cs : List Char) : Option (List Token) :=
  match cs with
  | [] => some []
  | c :: cs =>
    if isSpace c then tokens? cs
    else
      match h : token? (c :: cs) with
      | none => none
      | some r =>
        have := length_token?_lt h
        (tokens? r.2).map (r.1 :: ·)
termination_by cs.length
decreasing_by
  · exact Nat.lt_succ_self _
  · assumption

end BuildLog.Json
