import ShellGuard.Text.Blank
import ShellGuard.Text.Digit

/-!
Instants of universal time, as they are read from and written to documents.
-/

namespace ShellGuard

/-- A calendar day. -/
structure Day where
  year : Int
  month : Nat
  day : Nat
deriving Repr, DecidableEq, Inhabited

namespace Day

def isLeapYear (year : Int) : Bool :=
  year % 4 == 0 && (year % 100 != 0 || year % 400 == 0)

def lengthOfMonth (year : Int) (month : Nat) : Nat :=
  if month = 2 then if isLeapYear year then 29 else 28
  else if month = 4 ∨ month = 6 ∨ month = 9 ∨ month = 11 then 30
  else 31

/-- The years that days may have. -/
def isYear (year : Int) : Bool :=
  -262143 ≤ year && year ≤ 262142

def isValid (d : Day) : Bool :=
  isYear d.year && 1 ≤ d.month && d.month ≤ 12 && 1 ≤ d.day && d.day ≤ lengthOfMonth d.year d.month

/-- The number of days from the first day of 1970.  Years are counted from March, so that the day a
leap year adds stands at their end. -/
def number (d : Day) : Int :=
  let year := if d.month ≤ 2 then d.year - 1 else d.year
  let month : Int := if d.month ≤ 2 then d.month + 9 else d.month - 3
  let dayOfYear := (153 * month + 2) / 5 + d.day - 1
  365 * year + year / 4 - year / 100 + year / 400 + dayOfYear - 719468

/-- The day with a number.  Four hundred years have 146097 days. -/
def ofNumber (n : Int) : Day :=
  let n := n + 719468
  let cycle := n / 146097
  let dayOfCycle := n % 146097
  let yearOfCycle :=
    (dayOfCycle - dayOfCycle / 1460 + dayOfCycle / 36524 - dayOfCycle / 146096) / 365
  let dayOfYear := dayOfCycle - (365 * yearOfCycle + yearOfCycle / 4 - yearOfCycle / 100)
  let month := (5 * dayOfYear + 2) / 153
  let day := dayOfYear - (153 * month + 2) / 5 + 1
  let year := cycle * 400 + yearOfCycle + if 10 ≤ month then 1 else 0
  ⟨year, (if month < 10 then month + 3 else month - 9).toNat, day.toNat⟩

end Day

/-- An instant. -/
structure Timestamp where
  /-- Seconds from the first second of 1970, of which every day has 86400. -/
  seconds : Int
  /-- Nanoseconds, more than a second of them in a leap second. -/
  nanoseconds : Nat
deriving Repr, DecidableEq, Inhabited

namespace Timestamp

/-! ## Writing -/

def padded (width n : Nat) : String :=
  let s := toString n
  String.ofList (List.replicate (width - s.length) '0') ++ s

def yearText (year : Int) : String :=
  if 0 ≤ year ∧ year ≤ 9999 then padded 4 year.toNat
  else (if year < 0 then "-" else "+") ++ padded 4 year.natAbs

def day (t : Timestamp) : Day :=
  .ofNumber (t.seconds / 86400)

def dateText (t : Timestamp) : String :=
  yearText t.day.year ++ "-" ++ padded 2 t.day.month ++ "-" ++ padded 2 t.day.day

def timeText (t : Timestamp) : String :=
  let second := (t.seconds % 86400).toNat
  padded 2 (second / 3600) ++ ":" ++ padded 2 (second / 60 % 60) ++ ":" ++
    padded 2 (second % 60 + t.nanoseconds / 1000000000)

/-- The fraction of a second, in the fewest of no, three, six or nine digits. -/
def fractionText (t : Timestamp) : String :=
  let n := t.nanoseconds % 1000000000
  if n = 0 then ""
  else if n % 1000000 = 0 then "." ++ padded 3 (n / 1000000)
  else if n % 1000 = 0 then "." ++ padded 6 (n / 1000)
  else "." ++ padded 9 n

/-- An instant in documents. -/
def text (t : Timestamp) : String :=
  t.dateText ++ "T" ++ t.timeText ++ t.fractionText ++ "Z"

/-- An instant for people. -/
def render (t : Timestamp) : String :=
  t.dateText ++ " " ++ t.timeText

/-! ## Reading -/

/-- A number of at most `width` digits, if there is one. -/
def number? (width : Nat) (cs : List Char) : Option (Nat × List Char) :=
  let ds := (cs.take width).takeWhile Char.isDigit
  if ds.isEmpty then none else some (Digit.number 10 ds, cs.drop ds.length)

/-- A number of at most two digits after blanks, between two bounds. -/
def part? (low high : Nat) (cs : List Char) : Option (Nat × List Char) := do
  let (n, cs) ← number? 2 (Text.dropBlanks cs)
  guard (low ≤ n && n ≤ high)
  return (n, cs)

/-- A mark after blanks. -/
def mark? (c : Char) (cs : List Char) : Option (List Char) :=
  match Text.dropBlanks cs with
  | d :: rest => if d = c then some rest else none
  | [] => none

/-- A year after blanks: four digits at most, or any number of them after a sign. -/
def year? (cs : List Char) : Option (Int × List Char) :=
  match Text.dropBlanks cs with
  | '-' :: cs => (number? cs.length cs).map fun (n, rest) => (-(n : Int), rest)
  | '+' :: cs => (number? cs.length cs).map fun (n, rest) => ((n : Int), rest)
  | cs => (number? 4 cs).map fun (n, rest) => ((n : Int), rest)

def day? (cs : List Char) : Option (Day × List Char) := do
  let (year, cs) ← year? cs
  let (month, cs) ← part? 1 12 (← mark? '-' cs)
  let (day, cs) ← part? 1 31 (← mark? '-' cs)
  guard (Day.isValid ⟨year, month, day⟩)
  return (⟨year, month, day⟩, cs)

/-- The nanoseconds of a fraction, of which nine digits count. -/
def fraction? : List Char → Option (Nat × List Char)
  | '.' :: cs =>
    let ds := cs.takeWhile Char.isDigit
    let shown := ds.take 9
    if ds.isEmpty then none
    else some (Digit.number 10 (shown ++ List.replicate (9 - shown.length) '0'),
      cs.dropWhile Char.isDigit)
  | cs => some (0, cs)

/-- The seconds and nanoseconds of a time of day.  The sixtieth second is kept as a longer
fifty-ninth. -/
def time? (cs : List Char) : Option ((Nat × Nat) × List Char) := do
  let (hour, cs) ← part? 0 23 cs
  let (minute, cs) ← part? 0 59 (← mark? ':' cs)
  let (second, cs) ← part? 0 60 (← mark? ':' cs)
  let (nanos, cs) ← fraction? cs
  let leap := second / 60
  return ((hour * 3600 + minute * 60 + (second - leap), nanos + leap * 1000000000), cs)

/-- Two digits. -/
def twoDigits? : List Char → Option (Nat × List Char)
  | a :: b :: cs =>
    if a.isDigit && b.isDigit then some (Digit.number 10 [a, b], cs) else none
  | _ => none

/-- A distance in hours and minutes, less than a day. -/
def distance? (cs : List Char) : Option (Nat × List Char) := do
  let (hours, cs) ← twoDigits? cs
  let (minutes, cs) ← twoDigits? (cs.dropWhile fun c => c == ':' || Text.isBlank c)
  guard (hours ≤ 23 && minutes ≤ 59)
  return (hours * 3600 + minutes * 60, cs)

/-- The distance from universal time, in seconds. -/
def offset? (cs : List Char) : Option (Int × List Char) :=
  match cs with
  | 'Z' :: cs => some (0, cs)
  | 'z' :: cs => some (0, cs)
  | '+' :: cs => (distance? cs).map fun (n, rest) => ((n : Int), rest)
  | '-' :: cs => (distance? cs).map fun (n, rest) => (-(n : Int), rest)
  | '−' :: cs => (distance? cs).map fun (n, rest) => (-(n : Int), rest)
  | u :: t :: c :: cs =>
    if [u.toUpper, t.toUpper, c.toUpper] = ['U', 'T', 'C'] then some (0, cs) else none
  | _ => none

/-- Whether a character separates a date from a time. -/
def isSeparator (c : Char) : Bool :=
  c == 'T' || c == 't' || c == ' '

/-- The instant that a text names. -/
def parse (s : String) : Option Timestamp := do
  let (day, cs) ← day? s.toList
  guard (cs.head?.any isSeparator)
  let ((second, nanos), cs) ← time? (cs.drop 1)
  let (offset, cs) ← offset? (Text.dropBlanks cs)
  guard (Text.dropBlanks cs).isEmpty
  let seconds := day.number * 86400 + second - offset
  guard (Day.isYear (Day.ofNumber (seconds / 86400)).year)
  return ⟨seconds, nanos⟩

end Timestamp

end ShellGuard
