import ShellGuard.Unicode.Age
import ShellGuard.Unicode.Break
import ShellGuard.Unicode.Category
import ShellGuard.Unicode.Script
import ShellGuard.Unicode.Trait

/-!
Sets of characters by the names of Unicode properties.  Names are compared loosely: case, spaces,
hyphens, underscores and a leading `is` do not count.
-/

namespace ShellGuard

/-- A property as a pattern names it: by a name alone or by a name and a value. -/
inductive PropertyQuery
  | name (s : List Char)
  | value (property value : List Char)
deriving Repr, DecidableEq

namespace PropertyQuery

/-- Whether a name begins with `is`. -/
def startsWithIs : List Char → Bool
  | a :: b :: _ => (a == 'i' || a == 'I') && (b == 's' || b == 'S')
  | _ => false

/-- The letters of a name that count. -/
def significant (cs : List Char) : List Char :=
  (cs.filter fun c => c.val < 0x80 && c != ' ' && c != '_' && c != '-').map Char.toLower

/-- A name as it is compared.  `isc` is kept apart from the category `c`. -/
def loose (cs : List Char) : String :=
  let short := significant (if startsWithIs cs then cs.drop 2 else cs)
  String.ofList (if startsWithIs cs && short == ['c'] then ['i', 's', 'c'] else short)

/-- The set of a name that stands alone: a property, a category or a script.  Three short names of
categories are also those of properties with values and are taken for the categories. -/
def named? (name : String) : Option CharSet :=
  let trait :=
    if name = "cf" ∨ name = "sc" ∨ name = "lc" then none else Unicode.Trait.ofName? name
  trait.or ((Unicode.Category.ofName? name).or (Unicode.Script.ofName? name))

/-- The set of a property and a value. -/
def valued? (property value : String) : Option CharSet :=
  match property with
  | "generalcategory" | "gc" => Unicode.Category.ofName? value
  | "script" | "sc" => Unicode.Script.ofName? value
  | "scriptextensions" | "scx" => Unicode.Script.extension? value
  | "age" => Unicode.Age.ofName? value
  | "graphemeclusterbreak" | "gcb" => Unicode.Named.find? Unicode.Break.graphemes value
  | "wordbreak" | "wb" => Unicode.Named.find? Unicode.Break.words value
  | "sentencebreak" | "sb" => Unicode.Named.find? Unicode.Break.sentences value
  | _ => none

/-- The set a query asks for. -/
def resolve? : PropertyQuery → Option CharSet
  | name s => named? (loose s)
  | value p v => valued? (loose p) (loose v)

end PropertyQuery

end ShellGuard
