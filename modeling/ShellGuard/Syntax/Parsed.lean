import ShellGuard.Syntax.Lexer
import ShellGuard.Syntax.Tree

/-!
What reading a stretch of tokens gives, and the readers it takes to descend one level.

A command may hold a command: between parentheses and inside substitutions.  How deep is bounded,
so the reader of a level is built from the reader of the level below it, and the lowest level has
none.  A level carries the law that what it leaves is an end of what it was given, from which every
loop over tokens above it ends.
-/

namespace ShellGuard

/-- The result of reading tokens: a value, the complaints on the way, and the tokens left. -/
structure Parsed (α : Type) where
  value : α
  notes : List Finding
  rest : List Token

namespace Tokens

/-- The token to be read next; a stretch that has run out behaves like the end of a text. -/
def current : List Token → Token
  | [] => Token.eof .start 0
  | t :: _ => t

/-- The kind of the token to be read next. -/
def kind (ts : List Token) : TokenKind :=
  (current ts).kind

/-- The place of the token to be read next. -/
def position (ts : List Token) : Position :=
  (current ts).position

/-- Pass over line ends and characters that start no token. -/
def skipFiller (ts : List Token) : List Token :=
  ts.dropWhile (·.kind.isFiller)

/-- A stretch of tokens that ends with the end of the text; it is added where it is missing. -/
def close (ts : List Token) : List Token :=
  match ts.getLast? with
  | none => [Token.eof .start 0]
  | some t => if t.kind = .eof then ts else ts ++ [Token.eof t.position t.stop]

theorem skipFiller_suffix (ts : List Token) : skipFiller ts <:+ ts :=
  List.dropWhile_suffix _

end Tokens

/-- A complaint about the form of a command at a place. -/
def complaint (message : String) (p : Position) : Finding :=
  (Finding.flaw message).placed p

/-- The reader of commands one level further in.  `list inGroup ts` reads commands up to the end of
the text or, inside parentheses, up to the closing one. -/
structure Level where
  list : Bool → List Token → Parsed (Option Node)
  rest_suffix : ∀ inGroup ts, (list inGroup ts).rest <:+ ts

end ShellGuard
