import BuildLog.Regex.CharSet

/-! Sets of characters that are written as text: ranges of hexadecimal code points with blanks
between them, such as `41-5A 61-7A AA`. -/

namespace BuildLog.Regex

def hexDigit? (c : Char) : Option Nat :=
  let n := c.toNat
  if 0x30 ≤ n ∧ n ≤ 0x39 then some (n - 0x30)
  else if 0x41 ≤ n ∧ n ≤ 0x46 then some (n - 0x37)
  else if 0x61 ≤ n ∧ n ≤ 0x66 then some (n - 0x57)
  else none

/-- Reads the ranges; `lo` is the lower end of the range being read once its hyphen is seen, and
`n` the number being read. -/
def readRanges (lo : Option Nat) (n : Nat) : List Char → List CharRange
  | [] => [⟨lo.getD n, n⟩]
  | c :: cs =>
    if c = ' ' then ⟨lo.getD n, n⟩ :: readRanges none 0 cs
    else if c = '-' then readRanges (some n) 0 cs
    else readRanges lo (16 * n + (hexDigit? c).getD 0) cs

def CharSet.ofText (lines : List String) : CharSet :=
  ⟨lines.flatMap fun line => readRanges none 0 line.toList⟩

/-- A set of characters, the names that select it and its ranges. -/
structure NamedSet where
  names : List String
  ranges : List String

namespace NamedSet

def chars (s : NamedSet) : CharSet :=
  .ofText s.ranges

def find? (sets : List NamedSet) (name : String) : Option CharSet :=
  (sets.find? fun s => s.names.contains name).map chars

end NamedSet

end BuildLog.Regex
