/-! UTF-8, read one byte at a time. What is not UTF-8 is replaced: each longest start of a
character that is not continued as it should be, and each byte that starts none, becomes one
U+FFFD. A newline ends whatever was begun, so text can be decoded line by line. -/

namespace BuildLog.Utf8

/-- Where the reader stands between two bytes: between two characters, or inside one, with bounds
for the six bits that the next byte adds, the number of bytes that follow that one, and the value
read so far. -/
inductive State where
  | between
  | inside (lowest highest more value : Nat)
  deriving DecidableEq, Repr

/-- The effect of a byte between two characters. A character that is read comes out, and `none` for
a byte that starts no character. -/
def lead (b : UInt8) : List (Option Char) × State :=
  let n := b.toNat
  if n < 0x80 then ([some (Char.ofNat n)], .between)
  else if n < 0xC2 then ([none], .between)
  else if n < 0xE0 then ([], .inside 0 0x3F 0 (n - 0xC0))
  else if n = 0xE0 then ([], .inside 0x20 0x3F 1 0)
  else if n = 0xED then ([], .inside 0 0x1F 1 0xD)
  else if n < 0xF0 then ([], .inside 0 0x3F 1 (n - 0xE0))
  else if n = 0xF0 then ([], .inside 0x10 0x3F 2 0)
  else if n < 0xF4 then ([], .inside 0 0x3F 2 (n - 0xF0))
  else if n = 0xF4 then ([], .inside 0 0x0F 2 4)
  else ([none], .between)

/-- The effect of a byte. One that does not continue the character begun is read again as if it
stood between two characters. -/
def step : State → UInt8 → List (Option Char) × State
  | .between, b => lead b
  | .inside lowest highest more value, b =>
    if 0x80 + lowest ≤ b.toNat ∧ b.toNat ≤ 0x80 + highest then
      let value := 64 * value + (b.toNat - 0x80)
      match more with
      | 0 => ([some (Char.ofNat value)], .between)
      | more + 1 => ([], .inside 0 0x3F more value)
    else (none :: (lead b).1, (lead b).2)

/-- What a text that ends here leaves unfinished. -/
def State.pending : State → List (Option Char)
  | .between => []
  | .inside .. => [none]

def decodeFrom : State → List UInt8 → List (Option Char)
  | s, [] => s.pending
  | s, b :: bs => (step s b).1 ++ decodeFrom (step s b).2 bs

/-- The characters of some bytes, with `none` where they are not UTF-8. -/
def decode (bytes : List UInt8) : List (Option Char) :=
  decodeFrom .between bytes

/-- The character that stands for what could not be read. -/
def replacement : Char := '\uFFFD'

/-- The characters of some bytes, whatever they are. -/
def lossy (bytes : List UInt8) : List Char :=
  (decode bytes).map fun c => c.getD replacement

def isValid (bytes : List UInt8) : Bool :=
  (decode bytes).all Option.isSome

def decode? (bytes : List UInt8) : Option (List Char) :=
  if isValid bytes then some (lossy bytes) else none

def encode (cs : List Char) : List UInt8 :=
  cs.flatMap String.utf8EncodeChar

@[simp] theorem encode_nil : encode [] = [] := rfl

@[simp] theorem encode_append (xs ys : List Char) : encode (xs ++ ys) = encode xs ++ encode ys :=
  List.flatMap_append

/-- A newline is read as itself, behind what it leaves unfinished. -/
theorem decodeFrom_newline (s : State) (bytes : List UInt8) :
    decodeFrom s (0x0A :: bytes) = s.pending ++ some '\n' :: decode bytes := by
  cases s with
  | between => rfl
  | inside lowest highest more value =>
    have h : ¬ (0x80 + lowest ≤ (0x0A : UInt8).toNat ∧ (0x0A : UInt8).toNat ≤ 0x80 + highest) := by
      simp; omega
    rw [decodeFrom, step, if_neg h]
    rfl

end BuildLog.Utf8
