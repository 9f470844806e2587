import ShellGuard.Rule.Basic
import ShellGuard.Toml.Layout
import ShellGuard.Toml.Reader
import ShellGuard.Toml.Record

/-!
Rules of the user's own, as they stand in a rules document.
-/

namespace ShellGuard

/-- What can go wrong with the user's rules. -/
inductive RuleError
  | invalidPattern (rule : String)
  | duplicate (rule : String)
  | notFound (rule : String)
  /-- The name is blank or the pattern is empty. -/
  | missingField
  /-- The rules file could not be read or written. -/
  | file (path : String)
  /-- The rules document could not be read. -/
  | malformed
deriving Repr, DecidableEq, Inhabited

def RuleError.message : RuleError → String
  | .invalidPattern rule => "invalid pattern for rule '" ++ rule ++ "'"
  | .duplicate rule => "rule '" ++ rule ++ "' already exists"
  | .notFound rule => "rule '" ++ rule ++ "' not found"
  | .missingField => "rule name and pattern are required"
  | .file path => "failed to access rules file " ++ path
  | .malformed => "failed to parse rules file"

/-- A rule as it is written down. -/
structure CustomRule where
  name : String
  description : String
  pattern : String
  /-- The risk as it was written; what names no level counts as medium. -/
  risk : String
  message : String
  suggest : String
  enabled : Bool
  tags : List String
deriving Repr, DecidableEq, Inhabited

namespace CustomRule

/-- A rule with nothing but a name, a pattern and a risk. -/
def plain (name pattern : String) (level : RiskLevel) : CustomRule :=
  ⟨name, "", pattern, level.name, "", "", true, []⟩

def level (r : CustomRule) : RiskLevel :=
  .parseLenient r.risk

/-- The rule ready to match with a pattern. -/
def withPattern (r : CustomRule) (p : Pattern) : Rule where
  name := r.name
  description := r.description
  source := r.pattern
  pattern := p
  level := r.level
  message := if r.message.isEmpty then "Custom rule '" ++ r.name ++ "' matched" else r.message
  suggestion := r.suggest

/-- The rule ready to match. -/
def compile (r : CustomRule) : Except RuleError Rule :=
  if (Text.trim r.name).isEmpty || r.pattern.isEmpty then .error .missingField
  else
    match Pattern.ofText? r.pattern with
    | none => .error (.invalidPattern r.name)
    | some p => .ok (r.withPattern p)

/-! ## Documents -/

/-- The lines of a rule in a rules document. -/
def text (r : CustomRule) : String :=
  "[[rules]]\n" ++
    Toml.entry "name" (Toml.quote r.name) ++
    Toml.entry "description" (Toml.quote r.description) ++
    Toml.entry "pattern" (Toml.quote r.pattern) ++
    Toml.entry "risk" (Toml.quote r.risk) ++
    Toml.entry "message" (Toml.quote r.message) ++
    Toml.entry "suggest" (Toml.quote r.suggest) ++
    Toml.entry "enabled" (Toml.booleanText r.enabled) ++
    Toml.entry "tags" (Toml.inlineTexts r.tags)

/-- The rules of a document, an empty line between each two. -/
def listText (rules : List CustomRule) : String :=
  if rules.isEmpty then Toml.entry "rules" "[]"
  else Text.join "\n" (rules.map text)

/-- The rule of a table in a rules document. -/
def ofToml? (v : Toml) : Option CustomRule := do
  let field ← Toml.fields? 8 v
  let name ← (field "name" 0).bind Toml.text?
  let description ← Toml.withDefault Toml.text? "" (field "description" 1)
  let pattern ← (field "pattern" 2).bind Toml.text?
  let risk ← Toml.withDefault Toml.text? RiskLevel.medium.name (field "risk" 3)
  let message ← Toml.withDefault Toml.text? "" (field "message" 4)
  let suggest ← Toml.withDefault Toml.text? "" (field "suggest" 5)
  let enabled ← Toml.withDefault Toml.boolean? true (field "enabled" 6)
  let tags ← Toml.withDefault Toml.texts? [] (field "tags" 7)
  return ⟨name, description, pattern, risk, message, suggest, enabled, tags⟩

/-- The values that stand for rules in a document. -/
def candidates (document : Toml.Entries) : List Toml :=
  match document.lookup "rules" with
  | some (.array items) => items
  | _ => []

end CustomRule

end ShellGuard
