import ShellGuard.Syntax.Lexeme

/-!
Parameter expansions: `$NAME`, `${NAME}` and `${NAME...}` taken apart into the name and what is
done with it.
-/

namespace ShellGuard

/-- An expansion of a parameter. -/
structure Parameter where
  name : String
  /-- What follows the name inside braces, such as `:-default` or `##*:`. -/
  modifier : Option String
  braced : Bool
deriving Repr, DecidableEq, Inhabited

/-- A name: letters, digits and underscores, no digit first. -/
def isName : List Char → Bool
  | [] => false
  | c :: cs => (c.isAlpha || c == '_') && cs.all Lexeme.isNameChar

namespace Parameter

/-- The characters a modifier may begin with. -/
def isModifierChar (c : Char) : Bool :=
  c == ':' || c == '-' || c == '=' || c == '?' || c == '+' || c == '#' || c == '%' || c == '/' ||
    c == '^' || c == ',' || c == '[' || c == '@' || c == '*'

/-- Cut the text between braces after its name: the longest run of name characters, or else one
special parameter, or else nothing. -/
def splitName (inner : List Char) : List Char × List Char :=
  match inner with
  | [] => ([], [])
  | c :: cs =>
    if Lexeme.isNameChar c then (inner.takeWhile Lexeme.isNameChar, inner.dropWhile Lexeme.isNameChar)
    else if Lexeme.isSpecialParameter c then ([c], cs)
    else ([], inner)

/-- Take apart the text between braces.  `#` before a name asks for the length; a rest that begins
like no modifier makes the whole text the name. -/
def ofBraces (inner : List Char) : Parameter :=
  let split := splitName inner
  let plain : Parameter :=
    match split.2 with
    | [] => ⟨String.ofList split.1, none, true⟩
    | c :: _ =>
      if !split.1.isEmpty && isModifierChar c then
        ⟨String.ofList split.1, some (String.ofList split.2), true⟩
      else ⟨String.ofList inner, none, true⟩
  match inner with
  | '#' :: rest => if isName rest then ⟨String.ofList rest, some "#", true⟩ else plain
  | _ => plain

/-- The text without the brace that ends it, if one does. -/
def dropClosingBrace (cs : List Char) : List Char :=
  if cs.getLast? = some '}' then cs.dropLast else cs

/-- Take apart the text of an expansion. -/
def ofChars (raw : List Char) : Parameter :=
  let body := match raw with
    | '$' :: cs => cs
    | _ => raw
  match body with
  | '{' :: inner => ofBraces (dropClosingBrace inner)
  | _ => ⟨String.ofList body, none, false⟩

/-- Take apart the text of an expansion. -/
def ofText (raw : String) : Parameter :=
  ofChars raw.toList

/-- Positional and special parameters, which the rule for names leaves alone. -/
def isSpecial (p : Parameter) : Bool :=
  match p.name.toList with
  | [] => false
  | [c] => c.isDigit || Lexeme.isSpecialParameter c
  | cs => cs.all Char.isDigit

end Parameter

end ShellGuard
