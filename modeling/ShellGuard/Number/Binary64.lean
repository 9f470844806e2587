/-!
Numbers with 53 binary digits, as they are read from and written to documents.  A finite number is
kept as a whole number times a power of two, so comparing and printing are exact arithmetic.
-/

namespace ShellGuard

/-- A binary64 number.  A finite one is `± mantissa * 2 ^ exponent`, with a mantissa below `2 ^ 53`
and an exponent of at least `-1074`. -/
inductive Binary64
  | finite (negative : Bool) (mantissa : Nat) (exponent : Int)
  | infinite (negative : Bool)
  | nan
deriving Repr, DecidableEq, Inhabited

namespace Binary64

/-- A power of two. -/
def two (k : Nat) : Nat := Nat.pow 2 k

/-- A power of ten. -/
def ten (k : Nat) : Nat := Nat.pow 10 k

/-- A quotient rounded to the nearest whole number, a half to the even one. -/
def roundDiv (num den : Nat) : Nat :=
  let q := num / den
  let twice := 2 * (num % den)
  if twice < den ∨ (twice = den ∧ q % 2 = 0) then q else q + 1

/-- `num * 2 ^ k` over `den`, as a numerator and a denominator. -/
def scaled (num den : Nat) (k : Int) : Nat × Nat :=
  (num * two k.toNat, den * two (-k).toNat)

/-- The exponent `k` with `2 ^ k ≤ num / den < 2 ^ (k + 1)`, for a positive quotient. -/
def log2 (num den : Nat) : Int :=
  let k : Int := (num.log2 : Int) - den.log2
  let (n, d) := scaled num den (-k)
  if d ≤ n then k else k - 1

/-- The number nearest to a quotient, a half going to the even mantissa. -/
def ofRatio (negative : Bool) (num den : Nat) : Binary64 :=
  if num = 0 then finite negative 0 (-1074)
  else
    let e := max (-1074) (log2 num den - 52)
    let (n, d) := scaled num den (-e)
    let m := roundDiv n d
    let (m, e) := if m = two 53 then (two 52, e + 1) else (m, e)
    if 971 < e then infinite negative else finite negative m e

/-- The number nearest to `digits * 10 ^ exponent`.  An exponent that takes any digits above the
largest number or below half the smallest one decides without the powers of ten. -/
def ofDecimal (negative : Bool) (digits : Nat) (exponent : Int) : Binary64 :=
  if digits = 0 then finite negative 0 (-1074)
  else if 400 < exponent then infinite negative
  else if exponent + digits.log2 < -400 then finite negative 0 (-1074)
  else ofRatio negative (digits * ten exponent.toNat) (ten (-exponent).toNat)

/-- The number of a whole number of hundredths. -/
def ofPercent (n : Nat) : Binary64 :=
  ofRatio false n 100

/-- A finite number in units of the smallest one. -/
def units (negative : Bool) (mantissa : Nat) (exponent : Int) : Int :=
  let n : Int := ((mantissa * two (exponent + 1074).toNat : Nat) : Int)
  if negative then -n else n

/-- Whether one number is at most another; nothing compares with what is no number. -/
def le : Binary64 → Binary64 → Bool
  | nan, _ => false
  | _, nan => false
  | infinite true, _ => true
  | _, infinite false => true
  | infinite false, _ => false
  | _, infinite true => false
  | finite s m e, finite s' m' e' => units s m e ≤ units s' m' e'

/-! ## Shortest decimals -/

/-- `mantissa * 2 ^ exponent` as a quotient. -/
def ratio (mantissa : Nat) (exponent : Int) : Nat × Nat :=
  scaled mantissa 1 exponent

/-- The number of digits before the point of a quotient of at least one, or less the number of zeros
after the point. -/
def decimalExponent (num den : Nat) : Int :=
  let low : Int := (log2 num den * 30103) / 100000
  let reaches := fun (k : Int) => den * ten k.toNat ≤ num * ten (-k).toNat
  if reaches (low + 1) then low + 2 else if reaches low then low + 1 else low

/-- A number of decimal digits and the exponent of ten they are to be multiplied with. -/
structure Decimal where
  digits : Nat
  exponent : Int
deriving Repr, DecidableEq, Inhabited

/-- A decimal with at most `count` digits.  Where a carry has made them the next power of ten, one
digit is enough. -/
def Decimal.ofDigits (count digits : Nat) (exponent : Int) : Decimal :=
  if digits = ten count then ⟨1, exponent + count⟩ else ⟨digits, exponent⟩

/-- The decimals with `count` digits next to a number, the nearer one first. -/
def neighbours (num den : Nat) (count : Nat) : List Decimal :=
  let k : Int := count - decimalExponent num den
  let n := num * ten k.toNat
  let d := den * ten (-k).toNat
  let q := n / d
  let near := roundDiv n d
  [near, if near = q then q + 1 else q].map (.ofDigits count · (-k))

/-- The first of the decimals with `count`, `count + 1`, … digits that reads back as a number. -/
def shortestFrom (mantissa : Nat) (exponent : Int) (num den : Nat) : (tries count : Nat) → Decimal
  | 0, _ => ⟨num / den, 0⟩
  | tries + 1, count =>
    let reads := fun (c : Decimal) =>
      ofDecimal false c.digits c.exponent = finite false mantissa exponent
    match (neighbours num den count).find? reads with
    | some c => c
    | none => shortestFrom mantissa exponent num den tries (count + 1)

/-- The shortest decimal that reads back as a number. -/
def shortest (mantissa : Nat) (exponent : Int) : Decimal :=
  if mantissa = 0 then ⟨0, 0⟩
  else
    let (num, den) := ratio mantissa exponent
    shortestFrom mantissa exponent num den 17 1

/-- A decimal without an exponent and with at least one digit on each side of the point. -/
def Decimal.text (d : Decimal) : String :=
  let cs := Nat.toDigits 10 d.digits
  if 0 ≤ d.exponent then
    String.ofList (if d.digits = 0 then ['0'] else cs ++ List.replicate d.exponent.toNat '0') ++ ".0"
  else
    let places := (-d.exponent).toNat
    let padded := List.replicate (places + 1 - cs.length) '0' ++ cs
    let fraction := padded.drop (padded.length - places)
    String.ofList (padded.take (padded.length - places)) ++ "." ++ String.ofList fraction

/-- The text of a number in documents, none where it has no number. -/
def text? : Binary64 → Option String
  | finite negative m e => some ((if negative then "-" else "") ++ (shortest m e).text)
  | _ => none

/-- The text of a number, with words for what is not finite. -/
def text (x : Binary64) : String :=
  match x with
  | infinite negative => if negative then "-inf" else "inf"
  | nan => "nan"
  | x => x.text?.getD ""

end Binary64

end ShellGuard
