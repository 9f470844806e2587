import ShellGuard.Timestamp
import ShellGuard.Toml.Quoted

/-!
Dates and times in settings documents.  They are kept by their text in one fixed form, so each
reader returns the text of what it read.
-/

namespace ShellGuard.Toml

/-- A number of exactly `count` digits. -/
def fixedDigits? (count : Nat) (cs : List Char) : Option (Nat × List Char) :=
  let ds := cs.take count
  if ds.length = count ∧ ds.all Char.isDigit then some (Digit.number 10 ds, cs.drop count) else none

/-- A character that must come next. -/
def expect (c : Char) : List Char → Option (List Char)
  | d :: cs => if d = c then some cs else none
  | [] => none

/-- A number with zeros in front of it, so that it has at least `count` digits. -/
def padded (count n : Nat) : List Char :=
  let ds := Nat.toDigits 10 n
  List.replicate (count - ds.length) '0' ++ ds

/-- What the clock of a date-time may show. -/
structure Clock where
  lastHour : Nat
  /-- Which hours and minutes a place may be away from universal time. -/
  mayDiffer : (hours minutes : Nat) → Bool

/-- The clock of dates and times that stand in a document as they are. -/
def Clock.plain : Clock where
  lastHour := 23
  mayDiffer hours minutes := hours ≤ 23 && minutes ≤ 59

/-- The clock of dates and times that stand in a document as quoted text.  A day may end with its
hour 24, and a place is at most a day away from universal time. -/
def Clock.quoted : Clock where
  lastHour := 24
  mayDiffer hours minutes := hours * 60 + minutes ≤ 1440

/-- A calendar day. -/
def date? (cs : List Char) : Option (List Char × List Char) := do
  let (year, cs) ← fixedDigits? 4 cs
  let (month, cs) ← fixedDigits? 2 (← expect '-' cs)
  let (day, cs) ← fixedDigits? 2 (← expect '-' cs)
  guard (1 ≤ month && month ≤ 12 && 1 ≤ day && day ≤ Day.lengthOfMonth year month)
  return (padded 4 year ++ '-' :: padded 2 month ++ '-' :: padded 2 day, cs)

/-- The fraction of a second: nine digits count, and zeros at the end are not written. -/
def secondFraction? : List Char → Option (List Char × List Char)
  | '.' :: cs =>
    let ds := cs.takeWhile Char.isDigit
    let shown := ((ds.take 9).reverse.dropWhile (· == '0')).reverse
    if ds.isEmpty then none
    else some (if shown.isEmpty then [] else '.' :: shown, cs.dropWhile Char.isDigit)
  | cs => some ([], cs)

/-- A time of day. -/
def Clock.time? (clock : Clock) (cs : List Char) : Option (List Char × List Char) := do
  let (hour, cs) ← fixedDigits? 2 cs
  let (minute, cs) ← fixedDigits? 2 (← expect ':' cs)
  let (second, cs) ← fixedDigits? 2 (← expect ':' cs)
  guard (hour ≤ clock.lastHour && minute ≤ 59 && second ≤ 60)
  let (fraction, cs) ← secondFraction? cs
  return (padded 2 hour ++ ':' :: padded 2 minute ++ ':' :: padded 2 second ++ fraction, cs)

/-- The distance from universal time that ends a date with a time. -/
def Clock.offset? (clock : Clock) (cs : List Char) : Option (List Char) :=
  match cs with
  | [] => some []
  | ['Z'] => some ['Z']
  | ['z'] => some ['Z']
  | sign :: cs => do
    guard (sign == '+' || sign == '-')
    let (hours, cs) ← fixedDigits? 2 cs
    let (minutes, cs) ← fixedDigits? 2 (← expect ':' cs)
    guard (clock.mayDiffer hours minutes && cs.isEmpty)
    let total := hours * 60 + minutes
    let sign := if total = 0 then '+' else sign
    return sign :: padded 2 (total / 60) ++ ':' :: padded 2 (total % 60)

/-- A date, a time, or a date with a time. -/
def Clock.moment? (clock : Clock) (cs : List Char) : Option String :=
  match date? cs with
  | some (date, []) => some (String.ofList date)
  | some (date, mark :: cs) => do
    guard (mark == 'T' || mark == 't' || mark == ' ')
    let (time, cs) ← clock.time? cs
    let offset ← clock.offset? cs
    return String.ofList (date ++ 'T' :: time ++ offset)
  | none => do
    let (time, cs) ← clock.time? cs
    guard cs.isEmpty
    return String.ofList time

end ShellGuard.Toml
