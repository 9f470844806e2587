import ShellGuard.Pattern.Property
import ShellGuard.Pattern.Weight
import ShellGuard.Text.Blank
import ShellGuard.Text.Digit
import ShellGuard.Unicode.Fold

/-!
Reading patterns from text.  The text is read from left to right with the flags in force at each
point; a group gives the flags it changed back when it closes.  A text that is no pattern has no
reading, and the reason is not kept.
-/

namespace ShellGuard

namespace Pattern

/-- Flags in force while a pattern is read. -/
structure Flags where
  /-- Case does not count. -/
  caseless : Bool
  /-- `^` and `$` also match at line ends. -/
  multiLine : Bool
  /-- The dot also matches a line feed. -/
  dotAll : Bool
  /-- Repetitions are reluctant unless marked. -/
  swapGreed : Bool
  /-- Classes and case go by Unicode and not by ASCII. -/
  unicode : Bool
  /-- A carriage return also ends a line. -/
  crlf : Bool
  /-- Blanks and comments in the pattern do not count. -/
  spaced : Bool
deriving Repr, DecidableEq

namespace Flags

/-- The flags every pattern begins with. -/
def initial : Flags :=
  ⟨false, false, false, false, true, false, false⟩

/-- Set or clear the flag of a letter. -/
def set? (f : Flags) (letter : Char) (on : Bool) : Option Flags :=
  match letter with
  | 'i' => some { f with caseless := on }
  | 'm' => some { f with multiLine := on }
  | 's' => some { f with dotAll := on }
  | 'U' => some { f with swapGreed := on }
  | 'u' => some { f with unicode := on }
  | 'R' => some { f with crlf := on }
  | 'x' => some { f with spaced := on }
  | _ => none

end Flags

/-- What is left of a pattern, the flags in force and the groups met so far. -/
structure Scan where
  rest : List Char
  flags : Flags
  groups : Nat
  names : List (List Char)

/-- A reader of a part of a pattern. -/
abbrev Reader := StateT Scan Option

namespace Reader

/-- Drop blanks and comments, which run up to a line feed. -/
def dropSpace (inComment : Bool) : List Char → List Char
  | [] => []
  | c :: cs =>
    if inComment then dropSpace (c != '\n') cs
    else if Text.isBlank c then dropSpace false cs
    else if c = '#' then dropSpace true cs
    else c :: cs

/-- Pass over blanks and comments where they do not count. -/
def space : Reader Unit :=
  modify fun s => if s.flags.spaced then { s with rest := dropSpace false s.rest } else s

/-- The next character, if there is one. -/
def peek? : Reader (Option Char) :=
  return (← get).rest.head?

/-- The next character, which must be there. -/
def peek : Reader Char := do
  let some c ← peek? | failure
  return c

/-- Pass over one character. -/
def skip : Reader Unit :=
  modify fun s => { s with rest := s.rest.tail }

/-- Pass over one character and the blanks after it. -/
def skipSpace : Reader Unit := do
  skip
  space

/-- Pass over a text if it comes next, and say whether it did. -/
def accept (text : String) : Reader Bool := do
  let s ← get
  if text.toList.isPrefixOf s.rest then
    set { s with rest := s.rest.drop text.length }
    return true
  else return false

/-- Read characters of a class, passing over the blanks after each. -/
def takeWhile (p : Char → Bool) : Nat → Reader (List Char)
  | 0 => return []
  | n + 1 => do
    match ← peek? with
    | none => return []
    | some c =>
      if p c then
        skipSpace
        return c :: (← takeWhile p n)
      else return []

/-- The number of characters left. -/
def left : Reader Nat :=
  return (← get).rest.length

/-- Pass over blanks, whether they count or not. -/
def dropBlanks : Reader Unit :=
  modify fun s => { s with rest := Text.dropBlanks s.rest }

/-! ## Escapes -/

/-- What an escape or a plain character stands for. -/
inductive Atom
  /-- A code point; `byte` tells that it was written with exactly two digits. -/
  | literal (code : Nat) (byte : Bool)
  | anchor (a : Anchor)
  /-- A class of digits, blanks or word characters, or the characters outside it. -/
  | perl (kind : Char) (negated : Bool)
  | property (query : PropertyQuery) (negated : Bool)

/-- The code point some digits name; a surrogate names none. -/
def codePoint (digits : List Char) : Reader Nat :=
  let n := Digit.number 16 digits
  if n.isValidChar then pure n else failure

/-- Read a fixed number of hexadecimal digits. -/
def hexDigits : Nat → Reader (List Char)
  | 0 => return []
  | n + 1 => do
    let c ← peek
    if !Digit.isHex c then failure
    skipSpace
    return c :: (← hexDigits n)

/-- Read the code point after `\x`, `\u` or `\U`, whose plain form has `width` digits. -/
def hex (width : Nat) : Reader Atom := do
  skipSpace
  if (← peek) = '{' then
    skipSpace
    let digits ← takeWhile Digit.isHex (← left)
    if (← peek) ≠ '}' ∨ digits.isEmpty then failure
    skipSpace
    return .literal (← codePoint digits) false
  else
    let digits ← hexDigits width
    return .literal (← codePoint digits) (width == 2)

/-- Cut a text at the first occurrence of a separator. -/
def cutAt (separator : List Char) : List Char → Option (List Char × List Char)
  | [] => none
  | c :: cs =>
    if separator.isPrefixOf (c :: cs) then some ([], (c :: cs).drop separator.length)
    else (cutAt separator cs).map fun (a, b) => (c :: a, b)

/-- The property named between braces.  With `!=` between a name and a value, the characters with
any other value are meant. -/
def namedProperty (negated : Bool) (cs : List Char) : Atom :=
  match cutAt ['!', '='] cs, (cutAt [':'] cs).or (cutAt ['='] cs) with
  | some (p, v), _ => .property (.value p v) (!negated)
  | none, some (p, v) => .property (.value p v) negated
  | none, none => .property (.name cs) negated

/-- Read the property after `\p` or `\P`. -/
def property (negated : Bool) : Reader Atom := do
  skipSpace
  let c ← peek
  if c = '{' then
    skipSpace
    let name ← takeWhile (· != '}') (← left)
    let _ ← peek
    skip
    return namedProperty negated name
  else if c = '\\' then failure
  else
    skipSpace
    return .property (.name [c]) negated

/-- Characters with a meaning of their own in patterns. -/
def isMeta (c : Char) : Bool :=
  "\\.+*?()|[]\x7b\x7d^$#&-~".toList.contains c

/-- Characters a backslash may stand before without giving them a meaning. -/
def isEscapable (c : Char) : Bool :=
  isMeta c || (c.val < 0x80 && !c.isAlphanum && c != '<' && c != '>')

/-- The condition a word before a closing brace names. -/
def edge? (word : List Char) : Option Edge :=
  match String.ofList word with
  | "start" => some .start
  | "end" => some .stop
  | "start-half" => some .startHalf
  | "end-half" => some .stopHalf
  | _ => none

/-- Read what may follow `\b`: a condition between braces.  Braces that hold no letter or hyphen
first are left for the repetition they are. -/
def boundaryEdge : Reader Edge := do
  if (← peek?) ≠ some '{' then return .boundary
  let s ← get
  skipSpace
  let isPart := fun (c : Char) => c.isAlpha || c == '-'
  if !isPart (← peek) then
    set s
    return .boundary
  let word ← takeWhile isPart (← left)
  if (← peek) ≠ '}' then failure
  skip
  edge? word

/-- Read what follows a backslash. -/
def escape : Reader Atom := do
  let c ← peek
  let ascii := !(← get).flags.unicode
  let literal := fun (code : Nat) => (skip *> pure (.literal code false) : Reader Atom)
  let anchor := fun (a : Anchor) => (skip *> pure (.anchor a) : Reader Atom)
  match c with
  | 'x' => hex 2
  | 'u' => hex 4
  | 'U' => hex 8
  | 'p' => property false
  | 'P' => property true
  | 'd' | 's' | 'w' => skip *> pure (.perl c false)
  | 'D' | 'S' | 'W' => skip *> pure (.perl c.toLower true)
  | 'a' => literal 0x07
  | 'f' => literal 0x0c
  | 't' => literal 0x09
  | 'n' => literal 0x0a
  | 'r' => literal 0x0d
  | 'v' => literal 0x0b
  | 'A' => anchor .textStart
  | 'z' => anchor .textEnd
  | 'b' =>
    skip
    return .anchor (.word (← boundaryEdge) ascii)
  | 'B' => anchor (.word .inside ascii)
  | '<' => anchor (.word .start ascii)
  | '>' => anchor (.word .stop ascii)
  | c => if isEscapable c then literal c.toNat else failure

/-! ## Sets -/

/-- Close a set under case where case does not count. -/
def foldCase (f : Flags) (s : CharSet) : CharSet :=
  if !f.caseless then s else if f.unicode then s.folded else s.foldedAscii

/-- A set as it stands in a pattern: first closed under case, then turned round.  Without Unicode
it is a set of bytes; turned round it has bytes that are no characters, which no pattern may
match. -/
def finish (f : Flags) (negated : Bool) (s : CharSet) : Option CharSet :=
  let s := foldCase f s
  if !negated then some s else if f.unicode then some s.compl else none

/-- Digits, blanks or word characters of ASCII. -/
def asciiPerlSet : Char → CharSet
  | 'd' => .range 0x30 0x39
  | 's' => .union (.range 0x09 0x0d) (.single 0x20)
  | _ => .unions [.range 0x30 0x39, .range 0x41 0x5a, .single 0x5f, .range 0x61 0x7a]

/-- Decimal digits of every script. -/
def digitChars : CharSet :=
  (Unicode.Category.ofName? "nd").getD .none

/-- Digits, blanks or word characters. -/
def perlSet (f : Flags) (kind : Char) (negated : Bool) : Option CharSet :=
  if f.unicode then
    let s := match kind with
      | 'd' => digitChars
      | 's' => CharSet.blanks
      | _ => Unicode.wordChars
    some (if negated then s.compl else s)
  else if negated then none
  else some (asciiPerlSet kind)

/-- The set of a property. -/
def propertySet (f : Flags) (query : PropertyQuery) (negated : Bool) : Option CharSet :=
  if f.unicode then query.resolve?.bind (finish f negated) else none

/-- The sets with names between colons. -/
def posixSet? (name : List Char) : Option CharSet :=
  match String.ofList name with
  | "alnum" => some (.unions [.range 0x30 0x39, .range 0x41 0x5a, .range 0x61 0x7a])
  | "alpha" => some (.union (.range 0x41 0x5a) (.range 0x61 0x7a))
  | "ascii" => some (.range 0 0x7f)
  | "blank" => some (.union (.single 0x09) (.single 0x20))
  | "cntrl" => some (.union (.range 0 0x1f) (.single 0x7f))
  | "digit" => some (.range 0x30 0x39)
  | "graph" => some (.range 0x21 0x7e)
  | "lower" => some (.range 0x61 0x7a)
  | "print" => some (.range 0x20 0x7e)
  | "punct" =>
    some (.unions [.range 0x21 0x2f, .range 0x3a 0x40, .range 0x5b 0x60, .range 0x7b 0x7e])
  | "space" => some (.union (.range 0x09 0x0d) (.single 0x20))
  | "upper" => some (.range 0x41 0x5a)
  | "word" =>
    some (.unions [.range 0x30 0x39, .range 0x41 0x5a, .single 0x5f, .range 0x61 0x7a])
  | "xdigit" => some (.unions [.range 0x30 0x39, .range 0x41 0x46, .range 0x61 0x66])
  | _ => none

/-- Read `[:name:]` or `[:^name:]`, if that is what comes next. -/
def posix? : Reader (Option CharSet) := do
  let s ← get
  let back : Reader (Option CharSet) := do set s; return none
  if !(← accept "[:") then return none
  let negated ← accept "^"
  let rest := (← get).rest
  let name := rest.takeWhile (· != ':')
  let after := rest.dropWhile (· != ':')
  match posixSet? name, after with
  | some set, ':' :: ']' :: tail =>
    modify fun s => { s with rest := tail }
    let some closed := finish s.flags negated set | failure
    return some closed
  | _, _ => back

/-- The code point of an atom that can end a range.  Without Unicode it must be ASCII. -/
def endpoint (f : Flags) : Atom → Option Nat
  | .literal code _ => if f.unicode || code ≤ 0x7f then some code else none
  | _ => none

/-- The set of an atom inside brackets. -/
def atomSet (f : Flags) : Atom → Option CharSet
  | .literal code byte => (endpoint f (.literal code byte)).map .single
  | .perl kind negated => perlSet f kind negated
  | .property query negated => propertySet f query negated
  | .anchor _ => none

/-- Read one character or escape inside brackets. -/
def setAtom : Reader Atom := do
  let c ← peek
  skip
  if c = '\\' then escape else return .literal c.toNat false

/-- The character after the next one, blanks passed over where they do not count. -/
def peekSecond : Reader (Option Char) := do
  let s ← get
  if !s.flags.spaced then return s.rest.tail.head?
  match Text.dropBlanks s.rest.tail with
  | '#' :: cs => return (Text.dropBlanks cs).head?
  | cs => return cs.head?

/-- Read a character, an escape or a range inside brackets. -/
def setRange : Reader CharSet := do
  let f := (← get).flags
  let first ← setAtom
  space
  let c ← peek
  let second ← peekSecond
  if c ≠ '-' ∨ second = some ']' ∨ second = some '-' then atomSet f first
  else
    skipSpace
    let last ← setAtom
    let a ← endpoint f first
    let b ← endpoint f last
    if b < a then failure
    return .range a b

/-- How two sets are combined. -/
inductive SetOp
  | inter
  | diff
  | symmDiff

/-- Combine two sets; where case does not count, both are closed under it first. -/
def SetOp.apply (f : Flags) (op : SetOp) (a b : CharSet) : CharSet :=
  let combine := match op with
    | .inter => CharSet.inter
    | .diff => CharSet.diff
    | .symmDiff => CharSet.symmDiff
  combine (foldCase f a) (foldCase f b)

/-- A value and how deep the pattern nests inside it. -/
structure Nested (α : Type) where
  value : α
  depth : Nat

/-- The union of items, and its depth. -/
def unionOf (items : List (Nested CharSet)) : Nested CharSet :=
  let value := CharSet.unions (items.map (·.value))
  match items with
  | [] => ⟨value, 0⟩
  | [s] => ⟨value, s.depth⟩
  | _ => ⟨value, 1 + (items.map (·.depth)).foldl max 0⟩

/-- The items read so far inside brackets, joined with the operation that waits for them. -/
def joined (f : Flags) (waiting : Option (SetOp × Nested CharSet)) (items : List (Nested CharSet)) :
    Nested CharSet :=
  let right := unionOf items
  match waiting with
  | none => right
  | some (op, left) =>
    ⟨.union (op.apply f left.value right.value) .none, 1 + max left.depth right.depth⟩

/-- Read hyphens that stand first inside brackets. -/
def leadingHyphens : Nat → Reader (List (Nested CharSet))
  | 0 => return []
  | n + 1 => do
    if (← peek) = '-' then
      skipSpace
      return ⟨.char '-', 0⟩ :: (← leadingHyphens n)
    else return []

/-- Read what may stand first inside brackets: hyphens, or else a closing bracket, which stand for
themselves. -/
def leadingItems : Reader (List (Nested CharSet)) := do
  let hyphens ← leadingHyphens (← left)
  if hyphens.isEmpty && (← peek) = ']' then
    skipSpace
    let _ ← peek
    return [⟨.char ']', 0⟩]
  else return hyphens

mutual

/-- Read a set in brackets, the opening one coming next.  `fuel` bounds the characters read. -/
def bracketed : (fuel : Nat) → Reader (Nested CharSet)
  | 0 => failure
  | fuel + 1 => do
    let f := (← get).flags
    skipSpace
    let negated := (← peek) = '^'
    if negated then skipSpace
    let _ ← peek
    let items ← leadingItems
    let body ← setItems fuel none items
    let some value := finish f negated body.value | failure
    return ⟨value, body.depth + 1⟩

/-- Read the items of a set up to its closing bracket. -/
def setItems (fuel : Nat) (waiting : Option (SetOp × Nested CharSet))
    (items : List (Nested CharSet)) : Reader (Nested CharSet) :=
  match fuel with
  | 0 => failure
  | fuel + 1 => do
    space
    let f := (← get).flags
    let c ← peek
    if c = '[' then
      match ← posix? with
      | some s => setItems fuel waiting (⟨s, 0⟩ :: items)
      | none =>
        let inner ← bracketed fuel
        setItems fuel waiting (inner :: items)
    else if c = ']' then
      skip
      return joined f waiting items
    else if ← accept "&&" then setItems fuel (some (.inter, joined f waiting items)) []
    else if ← accept "--" then setItems fuel (some (.diff, joined f waiting items)) []
    else if ← accept "~~" then setItems fuel (some (.symmDiff, joined f waiting items)) []
    else
      let s ← setRange
      setItems fuel waiting (⟨s, 0⟩ :: items)

end

/-! ## Patterns -/

/-- One item of a sequence. -/
inductive Item
  | pattern (p : Nested Pattern)
  /-- A change of flags, which matches nothing and cannot be repeated. -/
  | flags

/-- The pattern of an item. -/
def Item.value : Item → Nested Pattern
  | pattern p => p
  | flags => ⟨.empty, 0⟩

/-- The pattern of a sequence of items. -/
def itemSequence : List Item → Nested Pattern
  | [] => ⟨.empty, 0⟩
  | [i] => i.value
  | items =>
    ⟨sequence (items.map (·.value.value)), 1 + (items.map (·.value.depth)).foldl max 0⟩

/-- The pattern of some alternatives. -/
def branchPattern : List (Nested Pattern) → Nested Pattern
  | [p] => p
  | ps => ⟨alternatives (ps.map (·.value)), 1 + (ps.map (·.depth)).foldl max 0⟩

/-- A code point as a pattern.  Without Unicode, a byte that is no character by itself is none. -/
def literalPattern (f : Flags) (code : Nat) (byte : Bool) : Option Pattern :=
  if !f.unicode ∧ byte ∧ 0x7f < code then none
  else if !f.caseless then some (literal [Char.ofNat code])
  else some (ofSet (.ofCodes (if f.unicode then Unicode.orbit code else CharSet.asciiOrbit code)))

/-- An atom as a pattern. -/
def atomPattern (f : Flags) : Atom → Option Pattern
  | .literal code byte => literalPattern f code byte
  | .anchor a => some (look a)
  | .perl kind negated => (perlSet f kind negated).map ofSet
  | .property query negated => (propertySet f query negated).map ofSet

/-- The dot. -/
def dot (f : Flags) : Option Pattern :=
  if !f.unicode then none
  else if f.dotAll then some (chars .all)
  else if f.crlf then some (chars (CharSet.ofCodes [0x0a, 0x0d]).compl)
  else some (chars (CharSet.single 0x0a).compl)

/-- The start of a line or of the text. -/
def caret (f : Flags) : Anchor :=
  if !f.multiLine then .textStart else if f.crlf then .anyLineStart else .lineStart

/-- The end of a line or of the text. -/
def dollar (f : Flags) : Anchor :=
  if !f.multiLine then .textEnd else if f.crlf then .anyLineEnd else .lineEnd

/-- The largest number a repetition can ask for. -/
def maxCount : Nat := 4294967295

/-- Read a number with blanks around it; none if there are no digits. -/
def decimal? : Reader (Option Nat) := do
  dropBlanks
  let digits ← takeWhile Char.isDigit (← left)
  dropBlanks
  space
  if digits.isEmpty then return none
  let n := Digit.number 10 digits
  if maxCount < n then failure
  return some n

/-- Read the counts of a repetition between braces, the opening one coming next. -/
def counts : Reader (Nat × Option Nat) := do
  skipSpace
  let _ ← peek
  let first ← decimal?
  let c ← peek
  if c = ',' then
    skipSpace
    if (← peek) = '}' then
      let some min := first | failure
      skipSpace
      return (min, none)
    else
      let some min := first | failure
      let some max ← decimal? | failure
      if (← peek) ≠ '}' ∨ max < min then failure
      skipSpace
      return (min, some max)
  else
    let some min := first | failure
    if c ≠ '}' then failure
    skipSpace
    return (min, some min)

/-- Repeat the last item of a sequence, whose items are given latest first. -/
def repeatLast (items : List Item) (min : Nat) (max : Option Nat) : Reader (List Item) := do
  let .pattern p :: before := items | failure
  let reluctant := (← peek?) = some '?'
  if reluctant then skip
  let swap := (← get).flags.swapGreed
  return .pattern ⟨repeated p.value min max (reluctant == swap), p.depth + 1⟩ :: before

/-- Read flags up to the colon or parenthesis after them, which is left. -/
def flagChange (f : Flags) (on : Bool) (seen : List Char) (last : Option Char) :
    (fuel : Nat) → Reader Flags
  | 0 => failure
  | fuel + 1 => do
    let c ← peek
    if c = ':' ∨ c = ')' then if last = some '-' then failure else return f
    else if seen.contains c then failure
    else
      skip
      if c = '-' then flagChange f false (c :: seen) (some c) fuel
      else
        let g ← f.set? c on
        flagChange g on (c :: seen) (some c) fuel

/-- Characters a group's name may hold. -/
def isNameChar (first : Bool) (c : Char) : Bool :=
  c == '_' || (Unicode.Trait.ofName? "alphabetic").any (·.contains c) ||
    (!first && (c == '.' || c == '[' || c == ']' ||
      (Unicode.Category.ofName? "n").any (·.contains c)))

/-- Read the name of a group up to its closing bracket.  A name may be given once. -/
def groupName : Reader Unit := do
  let rest := (← get).rest
  let name := rest.takeWhile (· != '>')
  match name, rest.dropWhile (· != '>') with
  | c :: cs, _ :: after =>
    if !isNameChar true c || !cs.all (isNameChar false) || (← get).names.contains name then failure
    modify fun s => { s with rest := after, names := name :: s.names }
  | _, _ => failure

/-- What an opening parenthesis begins. -/
inductive Opening
  /-- A change of flags for the rest of the group it stands in. -/
  | change (f : Flags) (any : Bool)
  /-- A group, remembered under a number or not, with the flags inside it. -/
  | group (index : Option Nat) (f : Flags)

/-- Take the next number for a group. -/
def nextGroup : Reader Nat := do
  modify fun s => { s with groups := s.groups + 1 }
  return (← get).groups

/-- Read what stands between an opening parenthesis and the first item of its group.  Groups that
look ahead or behind do not exist. -/
def opening : Reader Opening := do
  skipSpace
  let s ← get
  let f := s.flags
  if ["?=", "?!", "?<=", "?<!"].any fun look => look.toList.isPrefixOf s.rest then failure
  if ← accept "?P<" then
    let index ← nextGroup
    groupName
    return .group (some index) f
  else if ← accept "?<" then
    let index ← nextGroup
    groupName
    return .group (some index) f
  else if ← accept "?" then
    let _ ← peek
    let before := (← left)
    let g ← flagChange f true [] none (before + 1)
    let any := (← left) < before
    let c ← peek
    skip
    if c = ')' then return .change g any else return .group none g
  else return .group (some (← nextGroup)) f

mutual

/-- Read alternatives up to the end or to a closing parenthesis, which is left.  Those read before
are given latest first. -/
def alternation (fuel : Nat) (before : List (Nested Pattern)) : Reader (Nested Pattern) :=
  match fuel with
  | 0 => failure
  | fuel + 1 => do
    let items ← concatenation fuel []
    let branches := itemSequence items.reverse :: before
    if (← peek?) = some '|' then
      skip
      alternation fuel branches
    else return branchPattern branches.reverse

/-- Read items up to the end, a bar or a closing parenthesis, which is left.  Items are kept latest
first. -/
def concatenation (fuel : Nat) (items : List Item) : Reader (List Item) :=
  match fuel with
  | 0 => failure
  | fuel + 1 => do
    space
    let f := (← get).flags
    match ← peek? with
    | none => return items
    | some '|' => return items
    | some ')' => return items
    | some '(' =>
      match ← opening with
      | .change g any =>
        if !any then failure
        modify fun s => { s with flags := g }
        concatenation fuel (.flags :: items)
      | .group index g =>
        modify fun s => { s with flags := g }
        let body ← alternation fuel []
        if (← peek) ≠ ')' then failure
        skip
        modify fun s => { s with flags := f }
        let inner := match index with
          | some i => .group i body.value
          | none => body.value
        concatenation fuel (.pattern ⟨inner, body.depth + 1⟩ :: items)
    | some '[' =>
      let s ← bracketed fuel
      concatenation fuel (.pattern ⟨ofSet s.value, s.depth⟩ :: items)
    | some '?' =>
      skip
      concatenation fuel (← repeatLast items 0 (some 1))
    | some '*' =>
      skip
      concatenation fuel (← repeatLast items 0 none)
    | some '+' =>
      skip
      concatenation fuel (← repeatLast items 1 none)
    | some '{' =>
      let (min, max) ← counts
      concatenation fuel (← repeatLast items min max)
    | some '.' =>
      skip
      concatenation fuel (.pattern ⟨← dot f, 0⟩ :: items)
    | some '^' =>
      skip
      concatenation fuel (.pattern ⟨look (caret f), 0⟩ :: items)
    | some '$' =>
      skip
      concatenation fuel (.pattern ⟨look (dollar f), 0⟩ :: items)
    | some '\\' =>
      skip
      let atom ← escape
      concatenation fuel (.pattern ⟨← atomPattern f atom, 0⟩ :: items)
    | some c =>
      skip
      concatenation fuel (.pattern ⟨← literalPattern f c.toNat false, 0⟩ :: items)

end

end Reader

/-- How deep a pattern may nest. -/
def maxDepth : Nat := 250

/-- The pattern a text writes, if it writes one. -/
def ofText? (text : String) : Option Pattern := do
  let cs := text.toList
  let (p, s) ← (Reader.alternation (2 * cs.length + 2) []).run ⟨cs, .initial, 0, []⟩
  if s.rest.isEmpty && p.depth ≤ maxDepth && p.value.fits then some p.value else none

end Pattern

end ShellGuard
