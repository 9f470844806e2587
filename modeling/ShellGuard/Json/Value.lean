import ShellGuard.Text.Digit
import ShellGuard.Text.Search

/-!
JSON documents as they are written.  A document is a tree of values; objects keep their members in
the order given.  There are two written forms, one on a single line and one indented.
-/

namespace ShellGuard

/-- A JSON value. -/
inductive Json
  | null
  | bool (b : Bool)
  | integer (n : Int)
  /-- A number whose text is already known. -/
  | number (text : String)
  | string (s : String)
  | array (items : List Json)
  | object (members : List (String × Json))
deriving Repr, Inhabited

namespace Json

/-- How a character is written inside a string. -/
def escapeChar (c : Char) : List Char :=
  match c with
  | '"' => ['\\', '"']
  | '\\' => ['\\', '\\']
  | '\n' => ['\\', 'n']
  | '\r' => ['\\', 'r']
  | '\t' => ['\\', 't']
  | '\x08' => ['\\', 'b']
  | '\x0c' => ['\\', 'f']
  | c =>
    if c.toNat < 0x20 then
      ['\\', 'u', '0', '0', Digit.ofValue 'a' (c.toNat / 16), Digit.ofValue 'a' (c.toNat % 16)]
    else [c]

/-- A string between quotes. -/
def quote (s : String) : String :=
  String.ofList ('"' :: s.toList.flatMap escapeChar ++ ['"'])

/-- Values between two brackets on one line. -/
def inline (opening closing : String) (items : List String) : String :=
  opening ++ Text.join "," items ++ closing

/-- Values between two brackets, one to a line, indented one step deeper than the brackets. -/
def block (opening closing indent : String) (items : List String) : String :=
  if items.isEmpty then opening ++ closing
  else
    opening ++ "\n" ++ Text.join ",\n" (items.map (indent ++ "  " ++ ·)) ++ "\n" ++ indent ++ closing

mutual

/-- A document on one line. -/
def compact : Json → String
  | null => "null"
  | bool b => if b then "true" else "false"
  | integer n => toString n
  | number text => text
  | string s => quote s
  | array items => inline "[" "]" (compactItems items)
  | object members => inline "\x7b" "\x7d" (compactMembers members)

def compactItems : List Json → List String
  | [] => []
  | v :: vs => v.compact :: compactItems vs

def compactMembers : List (String × Json) → List String
  | [] => []
  | (k, v) :: ms => (quote k ++ ":" ++ v.compact) :: compactMembers ms

end

mutual

/-- A document over several lines, inside brackets that stand at `indent`. -/
def prettyAt (indent : String) : Json → String
  | null => "null"
  | bool b => if b then "true" else "false"
  | integer n => toString n
  | number text => text
  | string s => quote s
  | array items => block "[" "]" indent (prettyItems (indent ++ "  ") items)
  | object members => block "\x7b" "\x7d" indent (prettyMembers (indent ++ "  ") members)

def prettyItems (indent : String) : List Json → List String
  | [] => []
  | v :: vs => v.prettyAt indent :: prettyItems indent vs

def prettyMembers (indent : String) : List (String × Json) → List String
  | [] => []
  | (k, v) :: ms => (quote k ++ ": " ++ v.prettyAt indent) :: prettyMembers indent ms

end

/-- A document over several lines, two spaces a level. -/
def pretty (v : Json) : String :=
  v.prettyAt ""

/-- The value of an optional text. -/
def ofString? : Option String → Json
  | none => null
  | some s => string s

/-- An array of texts. -/
def strings (items : List String) : Json :=
  array (items.map string)

/-- A member that is left out when there is nothing to write. -/
def member? (name : String) : Option Json → List (String × Json)
  | none => []
  | some v => [(name, v)]

end Json

end ShellGuard
