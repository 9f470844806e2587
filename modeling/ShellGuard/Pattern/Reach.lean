import ShellGuard.Pattern.Match

/-!
Whether a pattern matches somewhere in a text.  All places are followed at once: a set of places is
a number with a bit for each offset, and a pattern takes the places where a match can begin to those
where it can end.  A text is gone through once for each part of a pattern, however many ways there
are to match it.
-/

namespace ShellGuard

namespace Place

/-- The offsets of the places of a text where a condition holds, as bits.  The bits from `start` on
are gathered in `word`, where `bit` stands for the next place, and are added to `found` when there
are enough of them. -/
def gather (holds : Place → Bool) (before : Option Char) (offset start word bit found : Nat) :
    List Char → Nat
  | [] =>
    let word := if holds ⟨offset, before, []⟩ then word + bit else word
    found ||| word <<< start
  | c :: cs =>
    let word := if holds ⟨offset, before, c :: cs⟩ then word + bit else word
    if offset = start + 47 then
      gather holds (some c) (offset + 1) (offset + 1) 0 1 (found ||| word <<< start) cs
    else gather holds (some c) (offset + 1) start word (2 * bit) found cs

/-- The offsets of the places of a text where a condition holds. -/
def offsets (holds : Place → Bool) (cs : List Char) : Nat :=
  gather holds none 0 0 0 1 0 cs

end Place

/-- How a pattern moves through a text. -/
inductive Moves
  /-- From certain places some characters further. -/
  | jump (places : Thunk Nat) (distance : Nat)
  | seq (p q : Moves)
  | alt (p q : Moves)
  | repeat (p : Moves) (min : Nat) (max : Option Nat)

namespace Moves

/-- Take a step a fixed number of times.  Places that a step leaves as they are stay so. -/
def exactly (step : Nat → Nat) : Nat → Nat → Nat
  | 0, places => places
  | n + 1, places =>
    let next := step places
    if next = places ∨ next = 0 then next else exactly step n next

/-- The places found by taking a step at most `left` times: `latest` are those that the last step
added.  Every step but the last adds a place, so `fuel` need not be more than their number. -/
def upTo (step : Nat → Nat) : (fuel : Nat) → (left : Option Nat) → (latest found : Nat) → Nat
  | 0, _, _, found => found
  | fuel + 1, left, latest, found =>
    if left = some 0 then found
    else
      let next := step latest
      let added := next ^^^ (next &&& found)
      if added = 0 then found
      else upTo step fuel (left.map (· - 1)) added (found ||| added)

/-- Where moves lead from some places; the text has `length` characters. -/
def reach (length : Nat) : Moves → Nat → Nat
  | jump froms distance, places => (places &&& froms.get) <<< distance
  | seq p q, places =>
    let middle := p.reach length places
    if middle = 0 then 0 else q.reach length middle
  | alt p q, places => p.reach length places ||| q.reach length places
  | .repeat p min max, places =>
    let begun := exactly (p.reach length) min places
    if begun = 0 then 0
    else upTo (p.reach length) (length + 1) (max.map (· - min)) begun begun

end Moves

namespace Pattern

/-- How a pattern moves through a text. -/
def moves (cs : List Char) : Pattern → Moves
  | empty => .jump ⟨fun _ => Place.offsets (fun _ => true) cs⟩ 0
  | literal text => .jump ⟨fun _ => Place.offsets (text.isPrefixOf ·.rest) cs⟩ text.length
  | chars s => .jump ⟨fun _ => Place.offsets (·.rest.head?.any s.contains) cs⟩ 1
  | look a => .jump ⟨fun _ => Place.offsets a.holds cs⟩ 0
  | group _ p => p.moves cs
  | seq p q => .seq (p.moves cs) (q.moves cs)
  | alt p q => .alt (p.moves cs) (q.moves cs)
  | .repeat p min max _ => .repeat (p.moves cs) min max

/-- Whether a pattern matches somewhere in a text. -/
def isMatch (p : Pattern) (s : String) : Bool :=
  let cs := s.toList
  (p.moves cs).reach cs.length (Place.offsets (fun _ => true) cs) != 0

end Pattern

end ShellGuard
