/-!
White space.  Blanks are the characters Unicode gives the property `White_Space`; trimming and
splitting go by them.
-/

namespace ShellGuard.Text

/-- The characters with the property `White_Space`. -/
def isBlank (c : Char) : Bool :=
  let n := c.toNat
  (0x09 ≤ n && n ≤ 0x0d) || n == 0x20 || n == 0x85 || n == 0xa0 || n == 0x1680 ||
    (0x2000 ≤ n && n ≤ 0x200a) || n == 0x2028 || n == 0x2029 || n == 0x202f || n == 0x205f ||
    n == 0x3000

/-- The text without its leading blanks. -/
def dropBlanks (cs : List Char) : List Char :=
  cs.dropWhile isBlank

/-- The text without the blanks at both ends. -/
def trimmed (cs : List Char) : List Char :=
  (dropBlanks (dropBlanks cs).reverse).reverse

/-- The text without the blanks at both ends. -/
def trim (s : String) : String :=
  String.ofList (trimmed s.toList)

/-- Cut a text at its blanks; `word` holds the word being read, last character first. -/
def cutBlanks (word : List Char) : List Char → List (List Char)
  | [] => if word.isEmpty then [] else [word.reverse]
  | c :: cs =>
    if isBlank c then
      if word.isEmpty then cutBlanks [] cs else word.reverse :: cutBlanks [] cs
    else cutBlanks (c :: word) cs

/-- The words of a text, none of them empty. -/
def words (s : String) : List String :=
  (cutBlanks [] s.toList).map String.ofList

end ShellGuard.Text
