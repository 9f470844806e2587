import ShellGuard.Unicode.CharSet
import ShellGuard.Unicode.Property

/-!
Patterns that are searched for in a text.  Where a pattern can match in several ways, the ways are
ordered: the left side of an alternative before the right one, and one more repetition before or
after stopping, as the repetition is greedy or not.
-/

namespace ShellGuard

/-- What a place between two characters asks of the word characters beside it. -/
inductive Edge
  /-- A word character on exactly one side. -/
  | boundary
  /-- Word characters on both sides or on none. -/
  | inside
  /-- None before, one after. -/
  | start
  /-- One before, none after. -/
  | stop
  /-- None before. -/
  | startHalf
  /-- None after. -/
  | stopHalf
deriving Repr, DecidableEq, Inhabited

/-- A condition on a place between two characters. -/
inductive Anchor
  | textStart
  | textEnd
  | lineStart
  | lineEnd
  /-- The start of a line where a carriage return, a line feed or both end the line before. -/
  | anyLineStart
  | anyLineEnd
  /-- A condition on word characters, which are those of ASCII alone when `ascii` holds. -/
  | word (edge : Edge) (ascii : Bool)
deriving Repr, DecidableEq, Inhabited

/-- A pattern. -/
inductive Pattern
  | empty
  /-- A text, read character by character. -/
  | literal (cs : List Char)
  /-- One character of a set. -/
  | chars (s : CharSet)
  | look (a : Anchor)
  /-- A part whose text is remembered under a number. -/
  | group (index : Nat) (p : Pattern)
  | seq (p q : Pattern)
  | alt (p q : Pattern)
  /-- At least `min` and at most `max` times the same part. -/
  | repeat (p : Pattern) (min : Nat) (max : Option Nat) (greedy : Bool)
deriving Repr, DecidableEq, Inhabited

namespace Pattern

/-- The pattern that never matches. -/
def never : Pattern :=
  chars .none

/-- Patterns one after the other. -/
def seqs : List Pattern → Pattern
  | [] => empty
  | [p] => p
  | p :: ps => seq p (seqs ps)

/-- One of some patterns, the earlier ones preferred. -/
def alts : List Pattern → Pattern
  | [] => never
  | [p] => p
  | p :: ps => alt p (alts ps)

/-- A character. -/
def char (c : Char) : Pattern :=
  literal [c]

/-- A text. -/
def text (s : String) : Pattern :=
  literal s.toList

/-- A part that may be missing. -/
def opt (p : Pattern) : Pattern :=
  .repeat p 0 (some 1) true

/-- Any number of times, as many as possible. -/
def many (p : Pattern) : Pattern :=
  .repeat p 0 none true

/-- At least once, as many times as possible. -/
def some1 (p : Pattern) : Pattern :=
  .repeat p 1 none true

/-- A fixed number of times. -/
def times (n : Nat) (p : Pattern) : Pattern :=
  .repeat p n (some n) true

/-- A white space character. -/
def blank : Pattern :=
  chars .blanks

/-- A word character. -/
def wordChar : Pattern :=
  chars Unicode.wordChars

/-- One of the characters of a text. -/
def oneOf (s : String) : Pattern :=
  chars (.ofText s)

/-- A place where a word begins or ends. -/
def wordBoundary : Pattern :=
  look (.word .boundary false)

end Pattern

end ShellGuard
