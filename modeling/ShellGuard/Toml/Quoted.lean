import ShellGuard.Text.Digit
import ShellGuard.Text.Search

/-!
Quoted text in settings documents.  There are four forms: between double quotes, where a backslash
starts an escape, or between single quotes, where nothing does; and each of them on one line or,
between tripled quotes, over several lines.  Writing picks the form that needs the fewest escapes.
-/

namespace ShellGuard.Toml

/-! ## Writing -/

/-- What decides how a text can be written. -/
structure Traits where
  /-- It holds a control character other than a tab and a line feed. -/
  control : Bool
  backslash : Bool
  newline : Bool
  /-- The longest run of double quotes. -/
  doubles : Nat
  /-- The longest run of single quotes. -/
  singles : Nat
deriving Repr, DecidableEq

/-- A control character that is only written as an escape. -/
def isControl (c : Char) : Bool :=
  (c.toNat < 0x20 && c != '\t' && c != '\n') || c.toNat == 0x7f

/-- The longest run of a character in a text, with `run` of them directly before it. -/
def longestRun (q : Char) (run : Nat) : List Char → Nat
  | [] => run
  | c :: cs => if c = q then longestRun q (run + 1) cs else max run (longestRun q 0 cs)

def Traits.ofText (cs : List Char) : Traits where
  control := cs.any isControl
  backslash := cs.contains '\\'
  newline := cs.contains '\n'
  doubles := longestRun '"' 0 cs
  singles := longestRun '\'' 0 cs

/-- The forms of quoted text. -/
inductive Form
  | basic
  | literal
  | basicBlock
  | literalBlock
deriving Repr, DecidableEq

/-- The form in which a text is written: the first that needs no escape other than that of a tab, and
a form with escapes when there is none. -/
def Traits.form (t : Traits) : Form :=
  if !t.control && !t.backslash && t.doubles == 0 && !t.newline then .basic
  else if !t.control && t.singles == 0 && !t.newline then .literal
  else if !t.control && !t.backslash && t.doubles ≤ 2 then .basicBlock
  else if !t.control && t.singles ≤ 2 then .literalBlock
  else if t.newline then .basicBlock
  else .basic

/-- A character between double quotes.  A double quote is written as it is while fewer than `plain`
of them precede it, and a line feed where lines may end. -/
def escaped (lines : Bool) (plain run : Nat) (c : Char) : List Char :=
  match c with
  | '"' => if run < plain then ['"'] else ['\\', '"']
  | '\n' => if lines then ['\n'] else ['\\', 'n']
  | '\x08' => ['\\', 'b']
  | '\t' => ['\\', 't']
  | '\x0c' => ['\\', 'f']
  | '\r' => ['\\', 'r']
  | '\\' => ['\\', '\\']
  | c =>
    if isControl c then
      ['\\', 'u', '0', '0', Digit.ofValue 'A' (c.toNat / 16), Digit.ofValue 'A' (c.toNat % 16)]
    else [c]

/-- A text between double quotes, with `run` quotes written plainly just before it. -/
def escapedText (lines : Bool) (plain run : Nat) : List Char → List Char
  | [] => []
  | c :: cs =>
    let next := if c = '"' ∧ run < plain then run + 1 else 0
    escaped lines plain run c ++ escapedText lines plain next cs

/-- The text of a block form: it starts on a line of its own if it holds a line end. -/
def blockStart (t : Traits) : List Char :=
  if t.newline then ['\n'] else []

/-- A quoted text. -/
def quoteChars (cs : List Char) : List Char :=
  let t := Traits.ofText cs
  match t.form with
  | .basic => '"' :: escapedText false 0 0 cs ++ ['"']
  | .literal => '\'' :: cs ++ ['\'']
  | .basicBlock => ['"', '"', '"'] ++ blockStart t ++ escapedText true 2 0 cs ++ ['"', '"', '"']
  | .literalBlock => ['\'', '\'', '\''] ++ blockStart t ++ cs ++ ['\'', '\'', '\'']

def quote (s : String) : String :=
  String.ofList (quoteChars s.toList)

/-! ## Reading -/

/-- What a reader of quoted text does with a character. -/
inductive Step (σ : Type)
  /-- The character adds some text, and reading goes on. -/
  | keep (out : List Char) (next : σ)
  /-- The character ends the text. -/
  | close
  /-- The text has ended before the character. -/
  | closeBefore (out : List Char)
  | reject

/-- More text in front of what a step adds. -/
def Step.after {σ : Type} (out : List Char) : Step σ → Step σ
  | .keep out' next => .keep (out ++ out') next
  | .closeBefore out' => .closeBefore (out ++ out')
  | s => s

/-- Reads quoted text up to its end.  The result is the text and what follows it. -/
def readWith {σ : Type} (step : σ → Char → Step σ) (atEnd : σ → Option (List Char)) :
    σ → List Char → Option (List Char × List Char)
  | s, [] => (atEnd s).map (·, [])
  | s, c :: cs =>
    match step s c with
    | .keep out next => (readWith step atEnd next cs).map fun (text, rest) => (out ++ text, rest)
    | .close => some ([], cs)
    | .closeBefore out => some (out, c :: cs)
    | .reject => none

/-- A character that stands for itself in quoted text, quotes and backslashes apart. -/
def isTextChar (c : Char) : Bool :=
  c == '\t' || (0x20 ≤ c.toNat && c.toNat != 0x7f)

/-- The character of an escape of one letter. -/
def letterEscape? : Char → Option Char
  | 'b' => some '\x08'
  | 'f' => some '\x0c'
  | 'n' => some '\n'
  | 'r' => some '\r'
  | 't' => some '\t'
  | '"' => some '"'
  | '\\' => some '\\'
  | _ => none

/-- Where a reader stands between double quotes. -/
inductive BasicState
  | plain
  | escape
  /-- The digits of a character code, `left` of them still to come. -/
  | code (left value : Nat)
  /-- Double quotes in a row, in a block. -/
  | quotes (count : Nat)
  /-- A carriage return that a line feed must follow. -/
  | lineEnd
  /-- Blanks after a backslash, before the line end that it hides. -/
  | hidden
  | hiddenLineEnd
  /-- Blanks and lines after a hidden line end. -/
  | trim
  | trimLineEnd
deriving Repr, DecidableEq

/-- One more digit of a character code. -/
def codeStep (left value : Nat) (c : Char) : Step BasicState :=
  match Digit.value? c with
  | none => .reject
  | some d =>
    let value := value * 16 + d
    if 1 < left then .keep [] (.code (left - 1) value)
    else if value.isValidChar then .keep [Char.ofNat value] .plain
    else .reject

/-- The character after a backslash. -/
def escapeStep (c : Char) : Step BasicState :=
  match c with
  | 'u' => .keep [] (.code 4 0)
  | 'U' => .keep [] (.code 8 0)
  | c =>
    match letterEscape? c with
    | some e => .keep [e] .plain
    | none => .reject

/-- Text between double quotes on one line. -/
def basicStep (s : BasicState) (c : Char) : Step BasicState :=
  match s with
  | .escape => escapeStep c
  | .code left value => codeStep left value c
  | _ =>
    if c = '"' then .close
    else if c = '\\' then .keep [] .escape
    else if isTextChar c then .keep [c] .plain
    else .reject

/-- A character of a block that is neither escaped nor one more quote. -/
def blockPlain (c : Char) : Step BasicState :=
  if c = '"' then .keep [] (.quotes 1)
  else if c = '\\' then .keep [] .escape
  else if c = '\n' then .keep ['\n'] .plain
  else if c = '\r' then .keep [] .lineEnd
  else if isTextChar c then .keep [c] .plain
  else .reject

/-- Blanks between a backslash and the end of its line. -/
def hiddenStep (c : Char) : Step BasicState :=
  if c = ' ' ∨ c = '\t' then .keep [] .hidden
  else if c = '\n' then .keep [] .trim
  else if c = '\r' then .keep [] .hiddenLineEnd
  else .reject

/-- Text between tripled double quotes.  Up to two quotes may stand before the closing three. -/
def basicBlockStep (s : BasicState) (c : Char) : Step BasicState :=
  match s with
  | .plain => blockPlain c
  | .escape =>
    if c = ' ' ∨ c = '\t' ∨ c = '\n' ∨ c = '\r' then hiddenStep c else escapeStep c
  | .code left value => codeStep left value c
  | .quotes n =>
    if c = '"' ∧ n < 5 then .keep [] (.quotes (n + 1))
    else if 3 ≤ n then .closeBefore (List.replicate (n - 3) '"')
    else (blockPlain c).after (List.replicate n '"')
  | .lineEnd => if c = '\n' then .keep ['\n'] .plain else .reject
  | .hidden => hiddenStep c
  | .hiddenLineEnd => if c = '\n' then .keep [] .trim else .reject
  | .trim =>
    if c = ' ' ∨ c = '\t' ∨ c = '\n' then .keep [] .trim
    else if c = '\r' then .keep [] .trimLineEnd
    else blockPlain c
  | .trimLineEnd => if c = '\n' then .keep [] .trim else .reject

def basicBlockEnd : BasicState → Option (List Char)
  | .quotes n => if 3 ≤ n then some (List.replicate (n - 3) '"') else none
  | _ => none

/-- Where a reader stands between single quotes. -/
inductive LiteralState
  | plain
  | quotes (count : Nat)
  | lineEnd
deriving Repr, DecidableEq

/-- Text between single quotes on one line. -/
def literalStep (_ : LiteralState) (c : Char) : Step LiteralState :=
  if c = '\'' then .close
  else if isTextChar c then .keep [c] .plain
  else .reject

def literalPlain (c : Char) : Step LiteralState :=
  if c = '\'' then .keep [] (.quotes 1)
  else if c = '\n' then .keep ['\n'] .plain
  else if c = '\r' then .keep [] .lineEnd
  else if isTextChar c then .keep [c] .plain
  else .reject

/-- Text between tripled single quotes.  Up to two quotes may stand before the closing three. -/
def literalBlockStep (s : LiteralState) (c : Char) : Step LiteralState :=
  match s with
  | .plain => literalPlain c
  | .quotes n =>
    if c = '\'' ∧ n < 5 then .keep [] (.quotes (n + 1))
    else if 3 ≤ n then .closeBefore (List.replicate (n - 3) '\'')
    else (literalPlain c).after (List.replicate n '\'')
  | .lineEnd => if c = '\n' then .keep ['\n'] .plain else .reject

def literalBlockEnd : LiteralState → Option (List Char)
  | .quotes n => if 3 ≤ n then some (List.replicate (n - 3) '\'') else none
  | _ => none

/-- A line end directly after the opening quotes of a block is no part of its text. -/
def dropLineEnd : List Char → List Char
  | '\n' :: cs => cs
  | '\r' :: '\n' :: cs => cs
  | cs => cs

/-- Quoted text of any form. -/
def readQuoted : List Char → Option (List Char × List Char)
  | '"' :: '"' :: '"' :: cs => readWith basicBlockStep basicBlockEnd .plain (dropLineEnd cs)
  | '"' :: cs => readWith basicStep (fun _ => none) .plain cs
  | '\'' :: '\'' :: '\'' :: cs => readWith literalBlockStep literalBlockEnd .plain (dropLineEnd cs)
  | '\'' :: cs => readWith literalStep (fun _ => none) .plain cs
  | _ => none

/-- Quoted text of the forms that stand on one line. -/
def readQuotedLine : List Char → Option (List Char × List Char)
  | '"' :: cs => readWith basicStep (fun _ => none) .plain cs
  | '\'' :: cs => readWith literalStep (fun _ => none) .plain cs
  | _ => none

end ShellGuard.Toml
