/-!
Base64 with the standard alphabet.  Padding is required and must be the right one, and the bits that
padding cuts off must be zero, so each byte string has one encoding.
-/

namespace ShellGuard.Base64

/-- The digit of a number below 64. -/
def digit (n : Nat) : Char :=
  if n < 26 then Char.ofNat ('A'.toNat + n)
  else if n < 52 then Char.ofNat ('a'.toNat + (n - 26))
  else if n < 62 then Char.ofNat ('0'.toNat + (n - 52))
  else if n = 62 then '+'
  else '/'

/-- The number of a digit. -/
def value? (c : Char) : Option Nat :=
  if c.isUpper then some (c.toNat - 'A'.toNat)
  else if c.isLower then some (c.toNat - 'a'.toNat + 26)
  else if c.isDigit then some (c.toNat - '0'.toNat + 52)
  else if c = '+' then some 62
  else if c = '/' then some 63
  else none

/-- The encoding of some bytes. -/
def encode : List Nat → List Char
  | [] => []
  | [a] => [digit (a / 4), digit (a % 4 * 16), '=', '=']
  | [a, b] => [digit (a / 4), digit (a % 4 * 16 + b / 16), digit (b % 16 * 4), '=']
  | a :: b :: c :: rest =>
    digit (a / 4) :: digit (a % 4 * 16 + b / 16) :: digit (b % 16 * 4 + c / 64) ::
      digit (c % 64) :: encode rest

/-- The byte two digits and two signs of padding stand for. -/
def decodeOne (a b : Char) : Option (List Nat) := do
  let x ← value? a
  let y ← value? b
  if y % 16 = 0 then some [x * 4 + y / 16] else none

/-- The bytes three digits and one sign of padding stand for. -/
def decodeTwo (a b c : Char) : Option (List Nat) := do
  let x ← value? a
  let y ← value? b
  let z ← value? c
  if z % 4 = 0 then some [x * 4 + y / 16, y % 16 * 16 + z / 4] else none

/-- The bytes four digits stand for. -/
def decodeThree (a b c d : Char) : Option (List Nat) := do
  let x ← value? a
  let y ← value? b
  let z ← value? c
  let w ← value? d
  some [x * 4 + y / 16, y % 16 * 16 + z / 4, z % 4 * 64 + w]

/-- The bytes the last four signs stand for. -/
def decodeLast (a b c d : Char) : Option (List Nat) :=
  if d = '=' then if c = '=' then decodeOne a b else decodeTwo a b c
  else decodeThree a b c d

/-- The bytes an encoding stands for. -/
def decode? : List Char → Option (List Nat)
  | [] => some []
  | [a, b, c, d] => decodeLast a b c d
  | a :: b :: c :: d :: rest => do
    let bytes ← decodeThree a b c d
    let more ← decode? rest
    some (bytes ++ more)
  | _ => none

end ShellGuard.Base64
