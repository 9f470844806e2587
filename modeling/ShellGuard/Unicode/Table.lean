import ShellGuard.Text.Digit
import ShellGuard.Unicode.CharSet

/-!
Sets of characters as tables.  A table lists the lengths of alternating runs of code points, first
outside the set, then inside it, and so on.
-/

namespace ShellGuard.Unicode

/-- Characters that share a value of a property, with the names of the value in lower case and
without separators. -/
structure Named where
  names : List String
  chars : CharSet

/-- The characters of the first entry with a name. -/
def Named.find? (entries : List Named) (name : String) : Option CharSet :=
  (entries.find? (·.names.contains name)).map (·.chars)

namespace Table

/-- The ranges inside a set whose alternating runs are given, from the code point `start` on. -/
def spansFrom (start : Nat) : List Nat → List Span
  | outside :: inside :: runs =>
    let first := start + outside
    ⟨first, first + inside - 1⟩ :: spansFrom (first + inside) runs
  | _ => []

/-- Numbers in hexadecimal with one space between them; `current` is the number being read. -/
def numbers (current : Nat) : List Char → List Nat
  | [] => [current]
  | c :: cs =>
    if c = ' ' then current :: numbers 0 cs
    else numbers (current * 16 + (Digit.value? c).getD 0) cs

/-- The set some lines spell. -/
def decode (lines : List String) : CharSet :=
  ⟨spansFrom 0 (lines.flatMap (numbers 0 ·.toList))⟩

end Table

end ShellGuard.Unicode
