import ShellGuard.Pattern.Basic

/-!
Matching patterns.  `Pattern.run` tries the ways a pattern can match from a place on, best first,
and hands each of them to what comes after the pattern, until that succeeds.  A search takes the
best way from the leftmost place that has one.
-/

namespace ShellGuard

/-- A place in a text: the characters before it are counted, the last of them is kept, and those
after it are still to be read. -/
structure Place where
  offset : Nat
  before : Option Char
  rest : List Char
deriving Repr, DecidableEq, Inhabited

namespace Place

/-- The front of a text. -/
def front (cs : List Char) : Place :=
  ⟨0, none, cs⟩

/-- The place behind the next character `c`, with `cs` after it. -/
def advance (p : Place) (c : Char) (cs : List Char) : Place :=
  ⟨p.offset + 1, some c, cs⟩

/-- The place behind a text that comes next. -/
def read? (p : Place) : List Char → Option Place
  | [] => some p
  | c :: cs =>
    match p.rest with
    | [] => none
    | d :: ds => if c = d then (p.advance d ds).read? cs else none

/-- The text between a place and a later one. -/
def textTo (p q : Place) : List Char :=
  p.rest.take (q.offset - p.offset)

end Place

namespace Anchor

/-- The word characters a condition speaks of. -/
def isWord (ascii : Bool) (c : Char) : Bool :=
  if ascii then c.isAlphanum || c == '_' else Unicode.isWord c

/-- Whether a condition holds at a place. -/
def holds (a : Anchor) (p : Place) : Bool :=
  let next := p.rest.head?
  match a with
  | textStart => p.before.isNone
  | textEnd => next.isNone
  | lineStart => p.before.isNone || p.before == some '\n'
  | lineEnd => next.isNone || next == some '\n'
  | anyLineStart =>
    p.before.isNone || p.before == some '\n' || p.before == some '\r' && next != some '\n'
  | anyLineEnd =>
    next.isNone || next == some '\r' || next == some '\n' && p.before != some '\r'
  | word edge ascii =>
    let left := p.before.any (isWord ascii)
    let right := next.any (isWord ascii)
    match edge with
    | .boundary => left != right
    | .inside => left == right
    | .start => !left && right
    | .stop => left && !right
    | .startHalf => !left
    | .stopHalf => !right

end Anchor

/-- A way to a place: the place, and the groups gone through on the way with the places where each
starts and stops, the latest first. -/
structure Way where
  place : Place
  groups : List (Nat × Place × Place)
deriving Repr, DecidableEq, Inhabited

namespace Way

/-- Remember that a group reaches from the way `w` to here. -/
def remember (w' : Way) (index : Nat) (w : Way) : Way :=
  { w' with groups := (index, w.place, w'.place) :: w'.groups }

end Way

/-- A part of a match: the ways it can go on from a way are tried with what comes after it, best
first, up to the first success. -/
abbrev Stretch (α : Type) := Way → (after : Way → Option α) → Option α

namespace Stretch

/-- The same stretch a fixed number of times. -/
def times {α : Type} (s : Stretch α) : Nat → Stretch α
  | 0, w, after => after w
  | n + 1, w, after => s w fun w' => s.times n w' after

/-- The same stretch at most `left` times, stopping before or after going on as `greedy` asks.  A
repetition that reads nothing is the last one, so `fuel` need not be more than the number of
characters. -/
def upTo {α : Type} (s : Stretch α) (greedy : Bool) :
    (fuel : Nat) → (left : Option Nat) → Stretch α
  | 0, _, w, after => after w
  | fuel + 1, left, w, after =>
    if left = some 0 then after w
    else
      let onward := fun w' =>
        if w'.place.offset ≤ w.place.offset then after w'
        else s.upTo greedy fuel (left.map (· - 1)) w' after
      if greedy then s w onward <|> after w else after w <|> s w onward

end Stretch

namespace Pattern

/-- The ways through a pattern in a text of `size` characters. -/
def run {α : Type} (size : Nat) : Pattern → Stretch α
  | empty, w, after => after w
  | literal cs, w, after => (w.place.read? cs).bind fun place => after { w with place }
  | chars s, w, after =>
    match w.place.rest with
    | [] => none
    | c :: cs => if s.contains c then after { w with place := w.place.advance c cs } else none
  | look a, w, after => if a.holds w.place then after w else none
  | group index p, w, after => p.run size w fun w' => after (w'.remember index w)
  | seq p q, w, after => p.run size w fun w' => q.run size w' after
  | alt p q, w, after => p.run size w after <|> q.run size w after
  | .repeat p min max greedy, w, after =>
    Stretch.times (p.run size) min w fun w' =>
      Stretch.upTo (p.run size) greedy size (max.map (· - min)) w' after

/-- A match: where it starts, where it stops, and the groups it went through. -/
structure Match where
  start : Place
  stop : Place
  groups : List (Nat × Place × Place)
deriving Repr, DecidableEq

/-- The text of a match. -/
def Match.text (m : Match) : List Char :=
  m.start.textTo m.stop

/-- The text of a group, if the match went through it. -/
def Match.group? (m : Match) (index : Nat) : Option (List Char) :=
  (m.groups.lookup index).map fun (start, stop) => start.textTo stop

/-- The text of a group, empty when the match did not go through it. -/
def Match.group (m : Match) (index : Nat) : List Char :=
  (m.group? index).getD []

/-- The best match that starts at a place in a text of `size` characters. -/
def matchAt (p : Pattern) (size : Nat) (place : Place) : Option Match :=
  p.run size ⟨place, []⟩ fun w => some ⟨place, w.place, w.groups⟩

/-- The best match in some characters, the leftmost place that has one. -/
def findFrom (p : Pattern) (size offset : Nat) (before : Option Char) : List Char → Option Match
  | [] => p.matchAt size ⟨offset, before, []⟩
  | c :: cs =>
    match p.matchAt size ⟨offset, before, c :: cs⟩ with
    | some m => some m
    | none => findFrom p size (offset + 1) (some c) cs

/-- The best match in a text. -/
def find (p : Pattern) (cs : List Char) : Option Match :=
  p.findFrom cs.length 0 none cs

/-- The matches in some characters from left to right, none overlapping another: the first `skip`
characters belong to the match before.  A match of nothing is passed over one character further. -/
def matchesFrom (p : Pattern) (size offset : Nat) (before : Option Char) (skip : Nat) :
    List Char → List Match
  | [] => if skip = 0 then (p.matchAt size ⟨offset, before, []⟩).toList else []
  | c :: cs =>
    match skip with
    | n + 1 => matchesFrom p size (offset + 1) (some c) n cs
    | 0 =>
      match p.matchAt size ⟨offset, before, c :: cs⟩ with
      | none => matchesFrom p size (offset + 1) (some c) 0 cs
      | some m => m :: matchesFrom p size (offset + 1) (some c) (m.stop.offset - offset - 1) cs

/-- The matches in a text from left to right. -/
def allMatches (p : Pattern) (cs : List Char) : List Match :=
  p.matchesFrom cs.length 0 none 0 cs

/-- Replace the matches in some characters; the first `skip` characters belong to the match
before. -/
def replaceFrom (p : Pattern) (f : Match → List Char) (size offset : Nat) (before : Option Char)
    (skip : Nat) : List Char → List Char
  | [] => if skip = 0 then ((p.matchAt size ⟨offset, before, []⟩).map f).getD [] else []
  | c :: cs =>
    match skip with
    | n + 1 => replaceFrom p f size (offset + 1) (some c) n cs
    | 0 =>
      match p.matchAt size ⟨offset, before, c :: cs⟩ with
      | none => c :: replaceFrom p f size (offset + 1) (some c) 0 cs
      | some m =>
        if m.stop.offset ≤ offset then f m ++ c :: replaceFrom p f size (offset + 1) (some c) 0 cs
        else f m ++ replaceFrom p f size (offset + 1) (some c) (m.stop.offset - offset - 1) cs

/-- The text with every match replaced. -/
def replace (p : Pattern) (f : Match → List Char) (cs : List Char) : List Char :=
  p.replaceFrom f cs.length 0 none 0 cs

end Pattern

end ShellGuard
