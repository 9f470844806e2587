import ShellGuard.Toml.Value
import ShellGuard.Toml.Moment

/-!
Values that are a single run of characters: numbers, truth values, dates and times.  Each kind is
decided on the whole run.
-/

namespace ShellGuard.Toml

/-! ## Numbers -/

/-- Digits that may be set apart by single underscores, without them. -/
def groupedDigits? (isDigit : Char → Bool) : List Char → Option (List Char)
  | [] => none
  | [c] => if isDigit c then some [c] else none
  | c :: '_' :: cs => if isDigit c then (groupedDigits? isDigit cs).map (c :: ·) else none
  | c :: d :: cs => if isDigit c then (groupedDigits? isDigit (d :: cs)).map (c :: ·) else none

/-- A sign in front of the rest of a run, and whether it is a minus. -/
def splitSign : List Char → Bool × List Char
  | '-' :: cs => (true, cs)
  | '+' :: cs => (false, cs)
  | cs => (false, cs)

/-- The digits of a decimal number without needless zeros in front. -/
def decimalDigits? (cs : List Char) : Option (List Char) :=
  match cs with
  | ['0'] => some ['0']
  | '0' :: _ => none
  | cs => groupedDigits? Char.isDigit cs

/-- A whole number of 64 bits with a sign. -/
def inRange (n : Int) : Option Int :=
  if -9223372036854775808 ≤ n ∧ n ≤ 9223372036854775807 then some n else none

def isOctal (c : Char) : Bool := '0' ≤ c && c ≤ '7'

def isBinary (c : Char) : Bool := c == '0' || c == '1'

def integer? (cs : List Char) : Option Int :=
  let based := fun (base : Nat) (isDigit : Char → Bool) (cs : List Char) =>
    (groupedDigits? isDigit cs).bind fun ds => inRange (Digit.number base ds)
  match cs with
  | '0' :: 'x' :: cs => based 16 Digit.isHex cs
  | '0' :: 'o' :: cs => based 8 isOctal cs
  | '0' :: 'b' :: cs => based 2 isBinary cs
  | cs =>
    let (negative, ds) := splitSign cs
    (decimalDigits? ds).bind fun ds =>
      let n : Int := Digit.number 10 ds
      inRange (if negative then -n else n)

/-- The exponent of a number in scientific form, from the text after its mark. -/
def exponent? (cs : List Char) : Option Int :=
  let (negative, ds) := splitSign cs
  (groupedDigits? Char.isDigit ds).map fun ds =>
    let n : Int := Digit.number 10 ds
    if negative then -n else n

/-- A number above all finite ones is refused; one below all of them is kept. -/
def bounded : Binary64 → Option Binary64
  | .infinite false => none
  | x => some x

/-- A decimal number with a fraction, an exponent or both. -/
def decimal? (cs : List Char) : Option Binary64 := do
  let (negative, cs) := splitSign cs
  let isMark := fun (c : Char) => c == 'e' || c == 'E'
  let mantissa := cs.takeWhile (!isMark ·)
  let mark := cs.dropWhile (!isMark ·)
  let whole := mantissa.takeWhile (· != '.')
  let point := mantissa.dropWhile (· != '.')
  guard (!(mark.isEmpty && point.isEmpty))
  let wholeDigits ← decimalDigits? whole
  let fraction ← if point.isEmpty then some [] else groupedDigits? Char.isDigit (point.drop 1)
  let exponent ← if mark.isEmpty then some 0 else exponent? (mark.drop 1)
  bounded (Binary64.ofDecimal negative (Digit.number 10 (wholeDigits ++ fraction))
    (exponent - fraction.length))

def float? (cs : List Char) : Option Binary64 :=
  match splitSign cs with
  | (negative, ['i', 'n', 'f']) => some (.infinite negative)
  | (_, ['n', 'a', 'n']) => some .nan
  | _ => decimal? cs

/-! ## Runs -/

/-- The value of a whole run. -/
def scalar? (cs : List Char) : Option Toml :=
  if cs = ['t', 'r', 'u', 'e'] then some (boolean true)
  else if cs = ['f', 'a', 'l', 's', 'e'] then some (boolean false)
  else
    match Clock.plain.moment? cs, float? cs, integer? cs with
    | some text, _, _ => some (moment text)
    | _, some x, _ => some (float x)
    | _, _, some n => some (integer n)
    | _, _, _ => none

def isScalarChar (c : Char) : Bool :=
  c.isAlphanum || c == '_' || c == '+' || c == '-' || c == '.' || c == ':'

/-- A run of characters that make up one value, and what follows it.  One space may stand between a
date and a time. -/
def scalarRun (cs : List Char) : List Char × List Char :=
  let run := cs.takeWhile isScalarChar
  let rest := cs.dropWhile isScalarChar
  match rest with
  | ' ' :: d :: more =>
    if (date? run).any (·.2.isEmpty) && d.isDigit then
      (run ++ ' ' :: (d :: more).takeWhile isScalarChar, (d :: more).dropWhile isScalarChar)
    else (run, rest)
  | _ => (run, rest)

end ShellGuard.Toml
