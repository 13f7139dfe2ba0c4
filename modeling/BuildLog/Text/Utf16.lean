/-! UTF-16. A character beyond U+FFFF is a high and a low surrogate. -/

namespace BuildLog.Utf16

def isHighSurrogate (n : Nat) : Bool := 0xD800 ≤ n && n < 0xDC00
def isLowSurrogate (n : Nat) : Bool := 0xDC00 ≤ n && n < 0xE000

/-- The character that a high and a low surrogate stand for. -/
def pair (high low : Nat) : Char :=
  Char.ofNat (0x10000 + 0x400 * (high - 0xD800) + (low - 0xDC00))

/-- The characters with some codes. A high and a low surrogate are one character together and none
apart. -/
def decode? : List Nat → Option (List Char)
  | [] => some []
  | [n] => if isHighSurrogate n || isLowSurrogate n then none else some [Char.ofNat n]
  | n :: m :: ns =>
    if isHighSurrogate n && isLowSurrogate m then (decode? ns).map (pair n m :: ·)
    else if isHighSurrogate n || isLowSurrogate n then none
    else (decode? (m :: ns)).map (Char.ofNat n :: ·)

end BuildLog.Utf16
