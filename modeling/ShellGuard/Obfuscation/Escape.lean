import ShellGuard.Text.Digit
import ShellGuard.Text.Utf8

/-!
Escapes that spell characters by number: `\xHH` for a byte, `\uHHHH` and `\UHHHHHHHH` for a
character.
-/

namespace ShellGuard.Escape

/-- The bytes of a text in which `\xHH` stands for a byte and every other character for its own;
the first `skip` characters belong to the escape read last. -/
def hexBytesFrom (skip : Nat) : List Char → List Nat
  | [] => []
  | c :: cs =>
    match skip with
    | n + 1 => hexBytesFrom n cs
    | 0 =>
      let digits := (cs.drop 1).take 2
      if c = '\\' ∧ cs.head? = some 'x' ∧ digits.length = 2 ∧ digits.all Digit.isHex then
        Digit.number 16 digits :: hexBytesFrom 3 cs
      else Utf8.encodeChar c ++ hexBytesFrom 0 cs

/-- The text in which every `\xHH` is replaced by the byte it spells, with a replacement character
for bytes that are no text. -/
def decodeHex (cs : List Char) : List Char :=
  Utf8.decodeLossy (hexBytesFrom 0 cs)

/-- The digits of the escape that a text begins with: four after `\u`, eight after `\U`. -/
def unicodeDigits? (cs : List Char) : Option (List Char) :=
  let digits (n : Nat) (rest : List Char) : Option (List Char) :=
    let ds := rest.take n
    if ds.length = n ∧ ds.all Digit.isHex then some ds else none
  match cs with
  | '\\' :: 'u' :: rest => digits 4 rest
  | '\\' :: 'U' :: rest => digits 8 rest
  | _ => none

/-- Whether a text holds an escape for a character. -/
def hasUnicode : List Char → Bool
  | [] => false
  | c :: cs => (unicodeDigits? (c :: cs)).isSome || hasUnicode cs

/-- What an escape with some digits stands for: the character they number, or else the escape
itself, here `source`. -/
def unicodeChar (digits source : List Char) : List Char :=
  if (Digit.number 16 digits).isValidChar then [Char.ofNat (Digit.number 16 digits)] else source

/-- The text in which every escape for a character is replaced; the first `skip` characters belong
to the escape read last. -/
def decodeUnicodeFrom (skip : Nat) : List Char → List Char
  | [] => []
  | c :: cs =>
    match skip with
    | n + 1 => decodeUnicodeFrom n cs
    | 0 =>
      match unicodeDigits? (c :: cs) with
      | some digits =>
        unicodeChar digits ((c :: cs).take (digits.length + 2)) ++
          decodeUnicodeFrom (digits.length + 1) cs
      | none => c :: decodeUnicodeFrom 0 cs

/-- The text in which every escape for a character is replaced. -/
def decodeUnicode (cs : List Char) : List Char :=
  decodeUnicodeFrom 0 cs

end ShellGuard.Escape
