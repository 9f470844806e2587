import ShellGuard.Text.Utf8
import ShellGuard.Unicode.CharSet

/-!
Sets of characters as sequences of byte ranges.  An automaton over bytes reads the encoding of a
character, so a set is cut into pieces whose encodings are all the combinations of one range for
each byte.
-/

namespace ShellGuard

namespace CharSet

/-- The ranges on both sides of a cut that comes right before `n`. -/
def cutBefore (n : Nat) (s : Span) : List Span :=
  if s.first < n ∧ n ≤ s.last then [⟨s.first, n - 1⟩, ⟨n, s.last⟩] else [s]

/-- A range without the surrogates. -/
def withoutSurrogates (s : Span) : List Span :=
  if s.first < 0xe000 ∧ 0xd7ff < s.last then
    [⟨s.first, 0xd7ff⟩, ⟨0xe000, s.last⟩].filter fun t => t.first ≤ t.last
  else [s]

/-- Cut a range so that, unless it lies in one block of the given size, it is made of whole
blocks. -/
def cutBlocks (size : Nat) (s : Span) : List Span :=
  if s.first / size = s.last / size then [s]
  else
    let low := if s.first % size = 0 then s.first else (s.first / size + 1) * size
    let high := if s.last % size = size - 1 then s.last + 1 else s.last / size * size
    (if s.first < low then [⟨s.first, low - 1⟩] else []) ++
      (if low < high then [⟨low, high - 1⟩] else []) ++
      (if high ≤ s.last then [⟨high, s.last⟩] else [])

/-- The pieces of a range whose encodings have one length and vary in each byte on its own. -/
def pieces (s : Span) : List Span :=
  let lengths := (((withoutSurrogates s).flatMap (cutBefore 0x80)).flatMap (cutBefore 0x800)).flatMap
    (cutBefore 0x10000)
  lengths.flatMap fun s =>
    if s.last ≤ 0x7f then [s]
    else (((cutBlocks 0x40 s).flatMap (cutBlocks 0x1000)).flatMap (cutBlocks 0x40000))

/-- The sequences of byte ranges that encode the members of a set, in ascending order. -/
def byteRanges (s : CharSet) : List (List Span) :=
  (s.spans.flatMap pieces).map fun t =>
    ((Utf8.encodeCode t.first).zip (Utf8.encodeCode t.last)).map fun (a, b) => ⟨a, b⟩

end CharSet

end ShellGuard
