import ShellGuard.Files
import ShellGuard.Rule.Custom

/-!
The store of the user's rules.  It keeps the rules in the order they were added, each with its
pattern ready to match.  A change is worked out aside and written to the store's file, if it has one,
before it takes effect, so a change that fails leaves the store as it was.
-/

namespace ShellGuard

/-- A rule with its form ready to match. -/
structure RuleEntry where
  rule : CustomRule
  compiled : Rule
deriving Repr, DecidableEq

/-- The rules of a user. -/
structure RuleStore where
  /-- The file that keeps the rules, if they are kept. -/
  path : Option String := none
  entries : List RuleEntry := []
deriving Repr, DecidableEq

/-- A change to a store. -/
inductive RuleEdit
  | add (rule : CustomRule)
  /-- Replaces a rule, keeping its name, and its pattern if the new one is empty. -/
  | update (name : String) (rule : CustomRule)
  | delete (name : String)
  | setEnabled (name : String) (enabled : Bool)
deriving Repr, DecidableEq

namespace RuleStore

/-- The text above the rules of a document. -/
def header : String :=
  "# cmdguard custom rules\n" ++
  "#\n" ++
  "# Each [[rules]] table defines one rule:\n" ++
  "#   name        unique identifier\n" ++
  "#   description what the rule checks for\n" ++
  "#   pattern     regular expression matched against the whole command\n" ++
  "#   risk        low, medium, high or critical\n" ++
  "#   message     shown when the rule matches\n" ++
  "#   suggest     optional fix or safer alternative\n" ++
  "#   enabled     optional, defaults to true\n" ++
  "#   tags        optional list of labels\n" ++
  "\n"

/-! ## Looking at a store -/

/-- The rules in their order. -/
def list (s : RuleStore) : List CustomRule :=
  s.entries.map (·.rule)

def get? (s : RuleStore) (name : String) : Option CustomRule :=
  s.list.find? (·.name == name)

/-- The rules that match a command, enabled or not. -/
def test (s : RuleStore) (command : String) : List CustomRule :=
  (s.entries.filter (·.compiled.fires command)).map (·.rule)

/-- The findings of the enabled rules that match a command. -/
def check (s : RuleStore) (command : String) : List Finding :=
  (s.entries.filter (·.rule.enabled)).filterMap (·.compiled.check .custom command)

/-- The rules document of a store. -/
def text (s : RuleStore) : String :=
  header ++ CustomRule.listText s.list

/-! ## Reading documents -/

/-- Entries with one more candidate of a document.  One that is no rule, repeats a name or cannot be
compiled is passed over. -/
def accept (entries : List RuleEntry) (v : Toml) : List RuleEntry :=
  match CustomRule.ofToml? v with
  | none => entries
  | some rule =>
    if entries.any (·.rule.name == rule.name) then entries
    else
      match rule.compile with
      | .ok compiled => entries ++ [⟨rule, compiled⟩]
      | .error _ => entries

/-- The store of a rules document. -/
def parse (text : String) : Except RuleError RuleStore :=
  match Toml.parse text with
  | none => .error .malformed
  | some document => .ok ⟨none, (CustomRule.candidates document).foldl accept []⟩

/-! ## Changes -/

/-- The entries after a change. -/
def revise (entries : List RuleEntry) : RuleEdit → Except RuleError (List RuleEntry)
  | .add rule =>
    match rule.compile with
    | .error e => .error e
    | .ok compiled =>
      if entries.any (·.rule.name == rule.name) then .error (.duplicate rule.name)
      else .ok (entries ++ [⟨rule, compiled⟩])
  | .update name rule =>
    match entries.find? (·.rule.name == name) with
    | none => .error (.notFound name)
    | some current =>
      let pattern := if rule.pattern.isEmpty then current.rule.pattern else rule.pattern
      let rule := { rule with name, pattern }
      let compiled :=
        if pattern = current.rule.pattern then .ok (rule.withPattern current.compiled.pattern)
        else rule.compile
      match compiled with
      | .error e => .error e
      | .ok compiled =>
        .ok (entries.map fun e => if e.rule.name = name then ⟨rule, compiled⟩ else e)
  | .delete name =>
    if entries.any (·.rule.name == name) then .ok (entries.filter (·.rule.name ≠ name))
    else .error (.notFound name)
  | .setEnabled name enabled =>
    if entries.any (·.rule.name == name) then
      .ok (entries.map fun e =>
        if e.rule.name = name then { e with rule := { e.rule with enabled } } else e)
    else .error (.notFound name)

/-- Writes a store to its file, if it has one. -/
def save {m : Type → Type} [Monad m] (files : Files m) (s : RuleStore) : m (Except RuleError Unit) :=
  match s.path with
  | none => return .ok ()
  | some path => do
    match ← files.write path s.text with
    | .ok () => return .ok ()
    | .error _ => return .error (.file path)

/-- A store after a change, and whether the change took effect. -/
def edit {m : Type → Type} [Monad m] (files : Files m) (s : RuleStore) (e : RuleEdit) :
    m (Except RuleError Unit × RuleStore) :=
  match revise s.entries e with
  | .error err => return (.error err, s)
  | .ok entries => do
    let candidate := { s with entries }
    match ← candidate.save files with
    | .error err => return (.error err, s)
    | .ok () => return (.ok (), candidate)

end RuleStore

end ShellGuard
