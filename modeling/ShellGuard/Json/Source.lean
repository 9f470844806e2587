import ShellGuard.Json.Value

/-!
JSON documents as they are read.  Numbers keep their text, objects keep repeated names, and a string
that names half of a surrogate pair has no text.
-/

namespace ShellGuard

/-- A value of a document that was read. -/
inductive JsonSource
  | null
  | bool (b : Bool)
  | number (text : List Char)
  | string (s : Option String)
  | array (items : List JsonSource)
  | object (members : List (Option String × JsonSource))
deriving Repr, Inhabited

namespace JsonSource

def isBlank (c : Char) : Bool :=
  c == ' ' || c == '\n' || c == '\t' || c == '\r'

def skipBlanks (cs : List Char) : List Char := cs.dropWhile isBlank

/-! ## Strings -/

/-- The number of four hexadecimal digits. -/
def unit? (a b c d : Char) : Option Nat := do
  let a ← Digit.value? a
  let b ← Digit.value? b
  let c ← Digit.value? c
  let d ← Digit.value? d
  return ((a * 16 + b) * 16 + c) * 16 + d

def letterEscape? : Char → Option Char
  | '"' => some '"'
  | '\\' => some '\\'
  | '/' => some '/'
  | 'b' => some '\x08'
  | 'f' => some '\x0c'
  | 'n' => some '\n'
  | 'r' => some '\r'
  | 't' => some '\t'
  | _ => none

/-- One piece of a string: a character, or half of a surrogate pair. -/
inductive Piece
  | char (c : Char)
  | unit (n : Nat)
deriving Repr, DecidableEq

/-- The pieces of a string up to its closing quote. -/
def readPieces : List Char → Option (List Piece × List Char)
  | [] => none
  | '"' :: cs => some ([], cs)
  | '\\' :: 'u' :: a :: b :: c :: d :: cs => do
    let n ← unit? a b c d
    let (pieces, rest) ← readPieces cs
    return (.unit n :: pieces, rest)
  | '\\' :: c :: cs => do
    let e ← letterEscape? c
    let (pieces, rest) ← readPieces cs
    return (.char e :: pieces, rest)
  | c :: cs =>
    if c.toNat < 0x20 || c = '\\' then none
    else do
      let (pieces, rest) ← readPieces cs
      return (.char c :: pieces, rest)

def isHigh (n : Nat) : Bool := 0xD800 ≤ n && n ≤ 0xDBFF

def isLow (n : Nat) : Bool := 0xDC00 ≤ n && n ≤ 0xDFFF

/-- The text of pieces in which each half of a surrogate pair stands with its partner. -/
def textOf? : List Piece → Option (List Char)
  | [] => some []
  | .char c :: ps => (textOf? ps).map (c :: ·)
  | .unit n :: ps =>
    if isHigh n then
      match ps with
      | .unit l :: ps =>
        if isLow l then
          (textOf? ps).map (Char.ofNat (0x10000 + (n - 0xD800) * 0x400 + (l - 0xDC00)) :: ·)
        else none
      | _ => none
    else if isLow n then none
    else (textOf? ps).map (Char.ofNat n :: ·)

/-- A string after its opening quote. -/
def readString (cs : List Char) : Option (Option String × List Char) :=
  (readPieces cs).map fun (pieces, rest) =>
    ((textOf? pieces).map String.ofList, rest)

/-! ## Numbers -/

/-- Digits, at least one. -/
def digits? (cs : List Char) : Option (List Char × List Char) :=
  let ds := cs.takeWhile Char.isDigit
  if ds.isEmpty then none else some (ds, cs.dropWhile Char.isDigit)

/-- The digits before the point, without needless zeros. -/
def whole? : List Char → Option (List Char × List Char)
  | '0' :: cs => if cs.head?.any Char.isDigit then none else some (['0'], cs)
  | cs => digits? cs

def fraction? : List Char → Option (List Char × List Char)
  | '.' :: cs => (digits? cs).map fun (ds, rest) => ('.' :: ds, rest)
  | cs => some ([], cs)

def exponent? : List Char → Option (List Char × List Char)
  | c :: cs =>
    if c = 'e' ∨ c = 'E' then
      match cs with
      | '+' :: cs => (digits? cs).map fun (ds, rest) => (c :: '+' :: ds, rest)
      | '-' :: cs => (digits? cs).map fun (ds, rest) => (c :: '-' :: ds, rest)
      | cs => (digits? cs).map fun (ds, rest) => (c :: ds, rest)
    else some ([], c :: cs)
  | [] => some ([], [])

def number? (cs : List Char) : Option (List Char × List Char) := do
  let (sign, cs) := match cs with
    | '-' :: cs => (['-'], cs)
    | cs => ([], cs)
  let (whole, cs) ← whole? cs
  let (fraction, cs) ← fraction? cs
  let (exponent, cs) ← exponent? cs
  return (sign ++ whole ++ fraction ++ exponent, cs)

/-! ## Values -/

mutual

/-- A value. -/
def readValue : (fuel : Nat) → List Char → Option (JsonSource × List Char)
  | 0, _ => none
  | fuel + 1, cs =>
    match skipBlanks cs with
    | 'n' :: 'u' :: 'l' :: 'l' :: cs => some (.null, cs)
    | 't' :: 'r' :: 'u' :: 'e' :: cs => some (.bool true, cs)
    | 'f' :: 'a' :: 'l' :: 's' :: 'e' :: cs => some (.bool false, cs)
    | '"' :: cs => (readString cs).map fun (s, rest) => (.string s, rest)
    | '[' :: cs =>
      match skipBlanks cs with
      | ']' :: cs => some (.array [], cs)
      | cs => (readItems fuel cs).map fun (items, rest) => (.array items, rest)
    | '{' :: cs =>
      match skipBlanks cs with
      | '}' :: cs => some (.object [], cs)
      | cs => (readMembers fuel cs).map fun (members, rest) => (.object members, rest)
    | cs => (number? cs).map fun (text, rest) => (.number text, rest)

/-- The items of an array that has some, up to its closing bracket. -/
def readItems : (fuel : Nat) → List Char → Option (List JsonSource × List Char)
  | 0, _ => none
  | fuel + 1, cs => do
    let (item, cs) ← readValue fuel cs
    match skipBlanks cs with
    | ',' :: cs => do
      let (items, rest) ← readItems fuel cs
      return (item :: items, rest)
    | ']' :: cs => return ([item], cs)
    | _ => none

/-- The members of an object that has some, up to its closing brace. -/
def readMembers : (fuel : Nat) → List Char → Option (List (Option String × JsonSource) × List Char)
  | 0, _ => none
  | fuel + 1, cs =>
    match skipBlanks cs with
    | '"' :: cs => do
      let (name, cs) ← readString cs
      match skipBlanks cs with
      | ':' :: cs => do
        let (value, cs) ← readValue fuel cs
        match skipBlanks cs with
        | ',' :: cs => do
          let (members, rest) ← readMembers fuel cs
          return ((name, value) :: members, rest)
        | '}' :: cs => return ([(name, value)], cs)
        | _ => none
      | _ => none
    | _ => none

end

/-- The value of a document. -/
def parse (text : String) : Option JsonSource :=
  let cs := text.toList
  match readValue (2 * cs.length + 2) cs with
  | some (v, rest) => if (skipBlanks rest).isEmpty then some v else none
  | none => none

mutual

/-- The value as it is written. -/
def json : JsonSource → Json
  | null => .null
  | bool b => .bool b
  | number text => .number (String.ofList text)
  | string s => .ofString? s
  | array items => .array (itemsJson items)
  | object members => .object (membersJson members)

def itemsJson : List JsonSource → List Json
  | [] => []
  | v :: vs => v.json :: itemsJson vs

def membersJson : List (Option String × JsonSource) → List (String × Json)
  | [] => []
  | (name, v) :: ms => (name.getD "", v.json) :: membersJson ms

end

/-! ## Records -/

/-- The values of some fields of a record, each given once if at all.  They stand in an object under
their names, among others, or in an array in their order. -/
def fields? (names : List String) : JsonSource → Option (List (Option JsonSource))
  | array items =>
    if items.length ≤ names.length then
      some ((List.range names.length).map fun i => items[i]?)
    else none
  | object members =>
    if members.any (·.1.isNone) || names.any (fun n => 1 < members.countP (·.1 == some n)) then none
    else some (names.map fun n => members.lookup (some n))
  | _ => none

def text? : JsonSource → Option String
  | string s => s
  | _ => none

def bool? : JsonSource → Option Bool
  | bool b => some b
  | _ => none

/-- One of some names, alone or as the only member of an object, over nothing. -/
def choice? {α : Type} (ofName? : String → Option α) : JsonSource → Option α
  | string (some s) => ofName? s
  | object [(some name, null)] => ofName? name
  | _ => none

end JsonSource

end ShellGuard
