/-!
Digits and the numbers they write.
-/

namespace ShellGuard.Digit

/-- The value of a digit.  The letters up to `f`, in either case, are the digits from ten on. -/
def value? (c : Char) : Option Nat :=
  if c.isDigit then some (c.toNat - '0'.toNat)
  else if 'a' ≤ c && c ≤ 'f' then some (c.toNat - 'a'.toNat + 10)
  else if 'A' ≤ c && c ≤ 'F' then some (c.toNat - 'A'.toNat + 10)
  else none

/-- A hexadecimal digit. -/
def isHex (c : Char) : Bool :=
  (value? c).isSome

/-- The number some digits write in a base. -/
def number (base : Nat) (digits : List Char) : Nat :=
  digits.foldl (fun n c => n * base + (value? c).getD 0) 0

/-- The hexadecimal digit of a value below 16, the one for ten being the letter `ten`. -/
def ofValue (ten : Char) (n : Nat) : Char :=
  if n < 10 then Char.ofNat ('0'.toNat + n) else Char.ofNat (ten.toNat + (n - 10))

end ShellGuard.Digit
