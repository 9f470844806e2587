import ShellGuard.Cli.Completion
import ShellGuard.Risk.Level
import ShellGuard.Syntax.Dialect
import ShellGuard.Text.Digit

/-!
Grammars of command lines.  A grammar has options, words in fixed places, and subcommands with
grammars of their own.  Reading goes word by word; a value is looked at only when the next thing is
known to belong to the line.
-/

namespace ShellGuard

/-- Why a command line cannot be carried out. -/
inductive UsageError
  /-- Help was asked for. -/
  | help
  /-- The version was asked for. -/
  | version
  /-- Nothing was given where a subcommand is needed. -/
  | nothingGiven
  | missingSubcommand
  | missingArgument
  | unknownSubcommand
  | unknownArgument
  /-- A value is missing or none of those possible. -/
  | invalidValue
  /-- A value cannot be read. -/
  | unreadableValue
  /-- A value was given to an option that takes none. -/
  | needlessValue
  /-- An option was given twice. -/
  | repeated
deriving Repr, DecidableEq, Inhabited

/-- What a value stands for. -/
inductive ValueKind
  | text
  | path
  | count
  | dialect
  | level
  | completion
deriving Repr, DecidableEq, Inhabited

/-- A whole number of 64 bits, with or without a plus sign. -/
def readCount? (s : String) : Option Nat :=
  let ds := match s.toList with
    | '+' :: ds => ds
    | ds => ds
  if ds.isEmpty || !ds.all Char.isDigit then none
  else
    let n := Digit.number 10 ds
    if n < 18446744073709551616 then some n else none

/-- What is wrong with a value. -/
def ValueKind.complaint? (k : ValueKind) (s : String) : Option UsageError :=
  match k with
  | .text => none
  | .path => if s.isEmpty then some .invalidValue else none
  | .count => if (readCount? s).isNone then some .unreadableValue else none
  | .dialect =>
    match Dialect.parse s with
    | .ok _ => none
    | .error _ => some .unreadableValue
  | .level =>
    match RiskLevel.parse s with
    | .ok _ => none
    | .error _ => some .unreadableValue
  | .completion => if (CompletionShell.ofName? s).isNone then some .invalidValue else none

/-- What an option does. -/
inductive OptionEffect
  | help
  | version
  | switch
  | value (kind : ValueKind)
  /-- Takes a value each time it is given. -/
  | values (kind : ValueKind)
deriving Repr, DecidableEq, Inhabited

structure OptionSpec where
  long : String
  short : Option Char := none
  effect : OptionEffect
deriving Repr, DecidableEq

/-- A word in a fixed place. -/
structure WordSpec where
  kind : ValueKind := .text
  /-- All that is left of the line belongs to it, options too. -/
  takesRest : Bool := false
deriving Repr, DecidableEq

/-- A grammar of command lines. -/
inductive Grammar
  | node (options : List OptionSpec) (words : List WordSpec) (subcommands : List (String × Grammar))

namespace Grammar

def options : Grammar → List OptionSpec
  | node os _ _ => os

def words : Grammar → List WordSpec
  | node _ ws _ => ws

def subcommands : Grammar → List (String × Grammar)
  | node _ _ ss => ss

def long? (g : Grammar) (name : String) : Option OptionSpec :=
  g.options.find? (·.long == name)

def short? (g : Grammar) (c : Char) : Option OptionSpec :=
  g.options.find? (·.short == some c)

end Grammar

/-- A value that was read and not yet looked at. -/
inductive Held
  /-- An option, and its value if that has come. -/
  | option (spec : OptionSpec) (value : Option String)
  | word (spec : WordSpec) (value : String)
deriving Repr, DecidableEq

/-- What was read of a command line. -/
structure Reading where
  /-- The names of the subcommands, outermost first. -/
  path : List String := []
  switches : List String := []
  values : List (String × String) := []
  words : List String := []
  held : Option Held := none
deriving Repr

namespace Reading

/-- The reading with a value of an option. -/
def addValue (r : Reading) (o : OptionSpec) (value : String) : Except UsageError Reading :=
  let add := fun (kind : ValueKind) =>
    match kind.complaint? value with
    | some e => .error e
    | none => .ok { r with values := r.values ++ [(o.long, value)] }
  match o.effect with
  | .value kind => if r.values.any (·.1 == o.long) then .error .repeated else add kind
  | .values kind => add kind
  | _ => .error .needlessValue

/-- Looks at the value that is held. -/
def settle (r : Reading) : Except UsageError Reading :=
  let free := { r with held := none }
  match r.held with
  | none => .ok r
  | some (.option _ none) => .error .invalidValue
  | some (.option o (some value)) => free.addValue o value
  | some (.word w value) =>
    match w.kind.complaint? value with
    | some e => .error e
    | none => .ok { free with words := r.words ++ [value] }

/-- Whether an option waits for its value. -/
def awaits (r : Reading) : Option OptionSpec :=
  match r.held with
  | some (.option o none) => some o
  | _ => none

/-- How many words have come. -/
def wordCount (r : Reading) : Nat :=
  r.words.length +
    match r.held with
    | some (.word _ _) => 1
    | _ => 0

/-- The place of the next word. -/
def nextWord? (r : Reading) (g : Grammar) : Option WordSpec :=
  g.words[r.wordCount]?

/-- Whether the next word may look like an option. -/
def takesHyphens (r : Reading) (g : Grammar) : Bool :=
  (r.nextWord? g).any (·.takesRest)

/-- The reading after an option without an attached value. -/
def applyOption (r : Reading) (o : OptionSpec) : Except UsageError Reading := do
  let r ← r.settle
  match o.effect with
  | .help => .error .help
  | .version => .error .version
  | .switch =>
    if r.switches.contains o.long then .error .repeated
    else return { r with switches := r.switches ++ [o.long] }
  | _ => return { r with held := some (.option o none) }

/-- The reading after an option with an attached value. -/
def applyAttached (r : Reading) (o : OptionSpec) (value : String) : Except UsageError Reading :=
  match o.effect with
  | .value _ | .values _ => do (← r.settle).addValue o value
  | _ => .error .needlessValue

/-- A name and, after an equals sign, a value. -/
def splitEquals (cs : List Char) : List Char × Option (List Char) :=
  match cs.dropWhile (· != '=') with
  | '=' :: value => (cs.takeWhile (· != '='), some value)
  | _ => (cs, none)

/-- The reading after two hyphens and `cs`; nothing if that is a word after all. -/
def readLong (r : Reading) (g : Grammar) (cs : List Char) : Except UsageError (Option Reading) :=
  let (name, value) := splitEquals cs
  match g.long? (String.ofList name), value with
  | some o, none => (r.applyOption o).map some
  | some o, some v => (r.applyAttached o (String.ofList v)).map some
  | none, _ => if r.takesHyphens g then .ok none else .error .unknownArgument

/-- The reading after the letters of short options. -/
def readLetters (r : Reading) (g : Grammar) : List Char → Except UsageError Reading
  | [] => .ok r
  | c :: cs =>
    match g.short? c with
    | none => .error .unknownArgument
    | some o =>
      match o.effect, cs with
      | .value _, '=' :: value => r.applyAttached o (String.ofList value)
      | .value _, d :: value => r.applyAttached o (String.ofList (d :: value))
      | .values _, '=' :: value => r.applyAttached o (String.ofList value)
      | .values _, d :: value => r.applyAttached o (String.ofList (d :: value))
      | _, cs => do readLetters (← r.applyOption o) g cs

/-- The reading after a hyphen and `cs`; nothing if that is a word after all. -/
def readShort (r : Reading) (g : Grammar) (cs : List Char) : Except UsageError (Option Reading) :=
  if r.takesHyphens g && cs.any (fun c => (g.short? c).isNone) then .ok none
  else (r.readLetters g cs).map some

/-- The complaint about a word for which there is no place.  After two hyphens the name of a
subcommand, or of the help that goes with subcommands, is only an argument. -/
def surplus (g : Grammar) (afterHyphens : Bool) (word : String) : UsageError :=
  if g.subcommands.isEmpty then .unknownArgument
  else if afterHyphens && (word == "help" || (g.subcommands.lookup word).isSome) then
    .unknownArgument
  else .unknownSubcommand

/-- Whether all that a line needs was given. -/
def finish (r : Reading) (g : Grammar) : Except UsageError Reading := do
  let r ← r.settle
  if !g.subcommands.isEmpty then
    if r.switches.isEmpty && r.values.isEmpty then .error .nothingGiven else .error .missingSubcommand
  else if r.words.length < g.words.length then .error .missingArgument
  else return r

/-- The reading with all that is left of the line as words. -/
def takeRest (r : Reading) (rest : List String) : Reading :=
  { r with words := r.words ++ rest }

/-- The reading with a word to be looked at. -/
def holdWord (r : Reading) (spec : WordSpec) (word : String) : Reading :=
  { r with held := some (.word spec word) }

/-- The reading after words among which there are no options any more. -/
def readWords (r : Reading) (g : Grammar) : List String → Except UsageError Reading
  | [] => r.finish g
  | word :: rest =>
    match r.nextWord? g with
    | none => .error (surplus g true word)
    | some spec => do
      let r ← r.settle
      if spec.takesRest then (r.takeRest (word :: rest)).finish g
      else (r.holdWord spec word).readWords g rest

/-- What a subcommand adds to the line before it, whose options count only where it gives none. -/
def enter (outer : Reading) (name : String) (inner : Reading) : Reading where
  path := name :: inner.path
  switches := inner.switches ++ outer.switches
  values := inner.values ++ outer.values
  words := inner.words
  held := none

/-- Help about a subcommand of a subcommand and so on.  There is help about the help that goes with
subcommands, but nothing below it. -/
def readHelp (g : Grammar) : List String → UsageError
  | [] => .help
  | word :: rest =>
    match g.subcommands.lookup word with
    | some sub => readHelp sub rest
    | none =>
      if word = "help" ∧ !g.subcommands.isEmpty ∧ rest.isEmpty then .help else .unknownSubcommand

/-- Whether a word looks like an option: what follows two hyphens or one. -/
inductive Look
  | plain
  | separator
  | long (cs : List Char)
  | short (cs : List Char)
deriving Repr, DecidableEq

def Look.ofWord (word : String) : Look :=
  match word.toList with
  | ['-', '-'] => .separator
  | '-' :: '-' :: cs => .long cs
  | ['-'] => .plain
  | '-' :: cs => .short cs
  | _ => .plain

/-- The reading after a word that looks like an option; nothing if it is none after all. -/
def readOption (r : Reading) (g : Grammar) : Look → Except UsageError (Option Reading)
  | .long cs => r.readLong g cs
  | .short cs => r.readShort g cs
  | _ => .ok none

/-- The reading of a command line. -/
def readLine (r : Reading) (g : Grammar) : List String → Except UsageError Reading
  | [] => r.finish g
  | word :: rest =>
    let look := Look.ofWord word
    let subcommand := if r.awaits.isNone then g.subcommands.lookup word else none
    if r.awaits.isNone && word == "help" && !g.subcommands.isEmpty then .error (readHelp g rest)
    else
      match subcommand with
      | some sub => do
        let inner ← readLine {} sub rest
        return (← r.settle).enter word inner
      | none =>
        if look = .separator then r.readWords g rest
        else
          match r.readOption g look with
          | .error e => .error e
          | .ok (some r) => r.readLine g rest
          | .ok none =>
            match r.awaits, r.nextWord? g with
            | some o, _ => { r with held := some (.option o (some word)) }.readLine g rest
            | none, none => .error (surplus g false word)
            | none, some spec => do
              let r ← r.settle
              if spec.takesRest then (r.takeRest (word :: rest)).finish g
              else (r.holdWord spec word).readLine g rest

end Reading

/-- What is read of a command line. -/
def Grammar.read (g : Grammar) (line : List String) : Except UsageError Reading :=
  Reading.readLine {} g line

end ShellGuard
