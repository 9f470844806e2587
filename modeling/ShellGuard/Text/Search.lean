/-!
Finding and replacing a piece of text.  Occurrences are found from left to right and never overlap.

Here and in all other modules a brace in a string is written by its number, `\x7b` or `\x7d`: shell
text is full of braces, and a string with bare ones reads like one that values are put into.
-/

namespace ShellGuard.Text

/-- Whether `needle` stands somewhere in a text. -/
def occurs (needle : List Char) : List Char → Bool
  | [] => needle.isEmpty
  | c :: cs => needle.isPrefixOf (c :: cs) || occurs needle cs

/-- Whether a text holds a piece. -/
def contains (text needle : String) : Bool :=
  occurs needle.toList text.toList

/-- The surroundings of one occurrence: the character before it, if any, and all that follows. -/
structure Occurrence where
  before : Option Char
  after : List Char
deriving Repr, DecidableEq

/-- The occurrences of `needle`, where `before` stands in front of the text and its first `skip`
characters belong to the occurrence found last. -/
def occurrencesFrom (needle : List Char) (before : Option Char) (skip : Nat) :
    List Char → List Occurrence
  | [] => if skip = 0 ∧ needle = [] then [⟨before, []⟩] else []
  | c :: cs =>
    match skip with
    | n + 1 => occurrencesFrom needle (some c) n cs
    | 0 =>
      if needle.isPrefixOf (c :: cs) then
        ⟨before, (c :: cs).drop needle.length⟩ ::
          occurrencesFrom needle (some c) (needle.length - 1) cs
      else occurrencesFrom needle (some c) 0 cs

/-- The occurrences of a piece in a text, leftmost first. -/
def occurrences (text needle : List Char) : List Occurrence :=
  occurrencesFrom needle none 0 text

/-- Replace every occurrence of a non-empty piece; the first `skip` characters belong to the
occurrence replaced last. -/
def replaceFrom (needle replacement : List Char) (skip : Nat) : List Char → List Char
  | [] => []
  | c :: cs =>
    match skip with
    | n + 1 => replaceFrom needle replacement n cs
    | 0 =>
      if needle.isPrefixOf (c :: cs) then
        replacement ++ replaceFrom needle replacement (needle.length - 1) cs
      else c :: replaceFrom needle replacement 0 cs

/-- The text with every occurrence of a non-empty piece replaced. -/
def replace (text needle replacement : String) : String :=
  String.ofList (replaceFrom needle.toList replacement.toList 0 text.toList)

/-- The texts with a separator between each two. -/
def join (separator : String) : List String → String
  | [] => ""
  | s :: rest => rest.foldl (fun joined t => joined ++ separator ++ t) s

end ShellGuard.Text
