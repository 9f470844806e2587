/-!
UTF-8.  Bytes are numbers below 256.  Decoding goes byte by byte and gives pieces: a character, or
a mark for bytes that cannot be part of one, as many bytes at a time as begin a character before the
one that rules it out.
-/

namespace ShellGuard.Utf8

/-- The bytes of the character with a number. -/
def encodeCode (n : Nat) : List Nat :=
  if n < 0x80 then [n]
  else if n < 0x800 then [0xc0 + n / 0x40, 0x80 + n % 0x40]
  else if n < 0x10000 then [0xe0 + n / 0x1000, 0x80 + n / 0x40 % 0x40, 0x80 + n % 0x40]
  else
    [0xf0 + n / 0x40000, 0x80 + n / 0x1000 % 0x40, 0x80 + n / 0x40 % 0x40, 0x80 + n % 0x40]

/-- The bytes of a character. -/
def encodeChar (c : Char) : List Nat :=
  encodeCode c.toNat

/-- The bytes of a text. -/
def encode (cs : List Char) : List Nat :=
  cs.flatMap encodeChar

/-- A character of which the first bytes have been read: how many are owed, what the next one may
be, and the bits so far. -/
structure Pending where
  owed : Nat
  low : Nat
  high : Nat
  bits : Nat
deriving Repr, DecidableEq

/-- What a byte gives: the pieces it completes and the character it leaves open. -/
structure Step where
  pieces : List (Option Char)
  pending : Option Pending
deriving Repr, DecidableEq

/-- A byte between characters. -/
def first (b : Nat) : Step :=
  if b < 0x80 then ⟨[some (Char.ofNat b)], none⟩
  else if b < 0xc2 then ⟨[none], none⟩
  else if b < 0xe0 then ⟨[], some ⟨1, 0x80, 0xbf, b - 0xc0⟩⟩
  else if b = 0xe0 then ⟨[], some ⟨2, 0xa0, 0xbf, 0⟩⟩
  else if b = 0xed then ⟨[], some ⟨2, 0x80, 0x9f, 0xd⟩⟩
  else if b < 0xf0 then ⟨[], some ⟨2, 0x80, 0xbf, b - 0xe0⟩⟩
  else if b = 0xf0 then ⟨[], some ⟨3, 0x90, 0xbf, 0⟩⟩
  else if b < 0xf4 then ⟨[], some ⟨3, 0x80, 0xbf, b - 0xf0⟩⟩
  else if b = 0xf4 then ⟨[], some ⟨3, 0x80, 0x8f, 4⟩⟩
  else ⟨[none], none⟩

/-- A byte inside a character, or one that shows that there is none. -/
def next (p : Pending) (b : Nat) : Step :=
  if p.low ≤ b ∧ b ≤ p.high then
    let bits := p.bits * 0x40 + (b - 0x80)
    if p.owed ≤ 1 then ⟨[some (Char.ofNat bits)], none⟩
    else ⟨[], some ⟨p.owed - 1, 0x80, 0xbf, bits⟩⟩
  else ⟨none :: (first b).pieces, (first b).pending⟩

/-- A byte after what is pending. -/
def step : Option Pending → Nat → Step
  | none, b => first b
  | some p, b => next p b

/-- The pieces of some bytes. -/
def pieces (pending : Option Pending) : List Nat → List (Option Char)
  | [] => if pending.isSome then [none] else []
  | b :: bs => (step pending b).pieces ++ pieces (step pending b).pending bs

/-- The text of some bytes, if they are the bytes of one. -/
def decode? (bytes : List Nat) : Option (List Char) :=
  (pieces none bytes).mapM id

/-- The text of some bytes, with a replacement character for what is none. -/
def decodeLossy (bytes : List Nat) : List Char :=
  (pieces none bytes).map (·.getD '�')

/-- The number of bytes of a text. -/
def size (cs : List Char) : Nat :=
  cs.foldl (fun n c => n + c.utf8Size) 0

end ShellGuard.Utf8
