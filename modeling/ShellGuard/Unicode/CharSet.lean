/-!
Sets of characters.  A set is a list of ranges of code points in ascending order, so that it can be
looked through, combined with others and turned round range by range.
-/

namespace ShellGuard

/-- The code points from `first` to `last`. -/
structure Span where
  first : Nat
  last : Nat
deriving Repr, DecidableEq, Inhabited

namespace Span

/-- The range between two code points, whichever comes first. -/
def between (a b : Nat) : Span :=
  if a ≤ b then ⟨a, b⟩ else ⟨b, a⟩

/-- What two ranges have in common. -/
def inter? (a b : Span) : Option Span :=
  let s : Span := ⟨max a.first b.first, min a.last b.last⟩
  if s.first ≤ s.last then some s else none

/-- Ranges are ordered by their first code points, then by their last ones. -/
def le (a b : Span) : Bool :=
  a.first < b.first || (a.first == b.first && a.last ≤ b.last)

end Span

/-- A set of characters, as ranges in ascending order. -/
structure CharSet where
  spans : List Span
deriving Repr, DecidableEq, Inhabited

namespace CharSet

/-- The last code point. -/
def maxCode : Nat := 0x10ffff

/-- The character after another one; surrogates are passed over. -/
def next (n : Nat) : Nat :=
  if n = 0xd7ff then 0xe000 else n + 1

/-- The character before another one. -/
def previous (n : Nat) : Nat :=
  if n = 0xe000 then 0xd7ff else n - 1

/-- Whether a code point lies in one of some ranges in ascending order. -/
def memSpans : List Span → Nat → Bool
  | [], _ => false
  | s :: ss, n => if n < s.first then false else n ≤ s.last || memSpans ss n

/-- Whether a code point is in a set. -/
def mem (s : CharSet) (n : Nat) : Bool :=
  memSpans s.spans n

/-- Whether a character is in a set. -/
def contains (s : CharSet) (c : Char) : Bool :=
  s.mem c.toNat

/-! ## Putting sets together -/

/-- Join the ranges that overlap or touch; `s` is the range that is still growing. -/
def joinFrom (s : Span) : List Span → List Span
  | [] => [s]
  | t :: ts =>
    if t.first ≤ s.last + 1 then joinFrom ⟨s.first, max s.last t.last⟩ ts else s :: joinFrom t ts

/-- Join the ranges of an ordered list that overlap or touch. -/
def join : List Span → List Span
  | [] => []
  | s :: ss => joinFrom s ss

/-- The ranges of two ordered lists in one ordered list.  `fuel` is the number of ranges. -/
def mergeSpans : (fuel : Nat) → List Span → List Span → List Span
  | 0, ss, ts => ss ++ ts
  | _ + 1, [], ts => ts
  | _ + 1, ss, [] => ss
  | fuel + 1, s :: ss, t :: ts =>
    if s.le t then s :: mergeSpans fuel ss (t :: ts) else t :: mergeSpans fuel (s :: ss) ts

/-- The set without members. -/
def none : CharSet := ⟨[]⟩

/-- The set of all characters. -/
def all : CharSet := ⟨[⟨0, maxCode⟩]⟩

/-- The set of a range. -/
def range (first last : Nat) : CharSet := ⟨[⟨first, last⟩]⟩

/-- The set of one code point. -/
def single (n : Nat) : CharSet := range n n

/-- The set of a character. -/
def char (c : Char) : CharSet := single c.toNat

def union (a b : CharSet) : CharSet :=
  ⟨join (mergeSpans (a.spans.length + b.spans.length) a.spans b.spans)⟩

/-- The unions of the first two sets, of the next two and so on. -/
def pairUnions : List CharSet → List CharSet
  | a :: b :: sets => union a b :: pairUnions sets
  | sets => sets

/-- The union of some sets, by rounds that each leave half as many. -/
def unionRounds : (rounds : Nat) → List CharSet → CharSet
  | 0, sets => sets.foldr union none
  | _ + 1, [] => none
  | _ + 1, [s] => union s none
  | rounds + 1, sets => unionRounds rounds (pairUnions sets)

/-- The union of some sets. -/
def unions (sets : List CharSet) : CharSet :=
  unionRounds sets.length sets

/-- The set of some code points. -/
def ofCodes (codes : List Nat) : CharSet :=
  unions (codes.map single)

/-- The set of the characters of a text. -/
def ofText (s : String) : CharSet :=
  ofCodes (s.toList.map Char.toNat)

def inter (a b : CharSet) : CharSet :=
  ⟨a.spans.flatMap fun s => b.spans.filterMap s.inter?⟩

/-- The first and the last character of every gap behind the range `s`. -/
def gapsAfter (s : Span) : List Span → List (Nat × Nat)
  | [] => if s.last < maxCode then [(next s.last, maxCode)] else []
  | t :: ts => (next s.last, previous t.first) :: gapsAfter t ts

/-- The first and the last character of every gap a set leaves.  Two ranges that meet at the
surrogates leave a gap without characters, whose ends are the wrong way round. -/
def gaps (s : CharSet) : List (Nat × Nat) :=
  match s.spans with
  | [] => [(0, maxCode)]
  | t :: ts => (if 0 < t.first then [(0, previous t.first)] else []) ++ gapsAfter t ts

/-- The characters outside a set.  The ends of every gap count as outside, also those of a gap at
the surrogates that has no characters. -/
def compl (s : CharSet) : CharSet :=
  ⟨s.gaps.map fun (a, b) => Span.between a b⟩

def diff (a b : CharSet) : CharSet :=
  inter a ⟨(b.gaps.filter fun (a, b) => a ≤ b).map fun (a, b) => ⟨a, b⟩⟩

def symmDiff (a b : CharSet) : CharSet :=
  diff (union a b) (inter a b)

/-- White space. -/
def blanks : CharSet :=
  ⟨[⟨0x09, 0x0d⟩, ⟨0x20, 0x20⟩, ⟨0x85, 0x85⟩, ⟨0xa0, 0xa0⟩, ⟨0x1680, 0x1680⟩, ⟨0x2000, 0x200a⟩,
    ⟨0x2028, 0x2029⟩, ⟨0x202f, 0x202f⟩, ⟨0x205f, 0x205f⟩, ⟨0x3000, 0x3000⟩]⟩

/-! ## Questions -/

/-- Whether all members are ASCII. -/
def isAscii (s : CharSet) : Bool :=
  s.spans.all (·.last ≤ 0x7f)

/-- The only member, if there is just one. -/
def only? (s : CharSet) : Option Nat :=
  match s.spans with
  | [t] => if t.first = t.last then some t.first else Option.none
  | _ => Option.none

end CharSet

end ShellGuard
