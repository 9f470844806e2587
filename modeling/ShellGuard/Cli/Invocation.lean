import ShellGuard.Cli.Grammar

/-!
What the program can be asked to do on its command line.
-/

namespace ShellGuard

/-- How commands are analysed, where a line says so. -/
structure AnalysisOptions where
  shell : Option Dialect
  strict : Bool
deriving Repr, DecidableEq

/-- Fields of a rule that a line may give. -/
structure RuleFields where
  risk : Option String
  description : Option String
  message : Option String
  suggest : Option String
  tags : Option (List String)
deriving Repr, DecidableEq

/-- What can be done with the user's rules. -/
inductive RuleAction
  | list (json : Bool)
  | inspect (name : String)
  | add (name pattern : String) (fields : RuleFields) (disabled : Bool)
  | update (name : String) (pattern : Option String) (fields : RuleFields)
  | delete (name : String)
  | enable (name : String)
  | disable (name : String)
  | test (command : String)
deriving Repr, DecidableEq

/-- What the program can be asked to do. -/
inductive Request
  /-- Report on a command. -/
  | check (analysis : AnalysisOptions) (json : Bool) (command : String)
  /-- Report on a command and have it confirmed. -/
  | safety (analysis : AnalysisOptions) (autoDeny : Option RiskLevel) (noEducation : Bool)
      (command : String)
  | rules (action : RuleAction)
  | history (stats json : Bool) (limit : Nat)
  | config (template : Bool)
  | completions (shell : CompletionShell)
deriving Repr, DecidableEq

/-- A request with the options that go with every request. -/
structure Invocation where
  noColor : Bool
  /-- The settings file to read in place of the usual ones. -/
  config : Option String
  /-- The rules file to use in place of the one that is set. -/
  rules : Option String
  request : Request
deriving Repr, DecidableEq

namespace Invocation

/-! ## The grammar -/

/-- The options that may stand after every subcommand. -/
def commonOptions : List OptionSpec :=
  [⟨"help", some 'h', .help⟩, ⟨"version", some 'V', .version⟩, ⟨"verbose", some 'v', .switch⟩,
    ⟨"no-color", none, .switch⟩, ⟨"config", none, .value .path⟩, ⟨"rules", none, .value .path⟩]

def leaf (options : List OptionSpec) (words : List WordSpec) : Grammar :=
  .node (commonOptions ++ options) words []

def switch (name : String) : OptionSpec := ⟨name, none, .switch⟩

def valued (name : String) (kind : ValueKind) : OptionSpec := ⟨name, none, .value kind⟩

def analysisOptions : List OptionSpec := [valued "shell" .dialect, switch "strict"]

def ruleOptions : List OptionSpec :=
  [valued "risk" .text, valued "description" .text, valued "message" .text, valued "suggest" .text,
    ⟨"tags", none, .values .text⟩]

/-- The words of a command. -/
def commandWords : List WordSpec := [⟨.text, true⟩]

def nameWord : WordSpec := ⟨.text, false⟩

def ruleGrammar : Grammar :=
  .node commonOptions [] [
    ("list", leaf [switch "json"] []),
    ("show", leaf [] [nameWord]),
    ("add", leaf (ruleOptions ++ [switch "disabled"]) [nameWord, nameWord]),
    ("update", leaf (valued "pattern" .text :: ruleOptions) [nameWord]),
    ("delete", leaf [] [nameWord]),
    ("enable", leaf [] [nameWord]),
    ("disable", leaf [] [nameWord]),
    ("test", leaf [] commandWords)]

/-- The grammar of the program. -/
def grammar : Grammar :=
  .node commonOptions [] [
    ("check", leaf (analysisOptions ++ [switch "json"]) commandWords),
    ("safety",
      leaf (analysisOptions ++ [valued "auto-deny" .level, switch "no-education"]) commandWords),
    ("rules", ruleGrammar),
    ("history", leaf [switch "stats", switch "json", ⟨"limit", some 'n', .value .count⟩] []),
    ("config", leaf [switch "template"] []),
    ("completions", leaf [] [⟨.completion, false⟩])]

/-! ## From readings to requests -/

/-- The pieces of a text between commas. -/
def splitCommas (piece : List Char) : List Char → List String
  | [] => [String.ofList piece.reverse]
  | c :: cs =>
    if c = ',' then String.ofList piece.reverse :: splitCommas [] cs else splitCommas (c :: piece) cs

def analysisOf (r : Reading) : AnalysisOptions :=
  ⟨(r.values.lookup "shell").bind (Dialect.parse · |>.toOption), r.switches.contains "strict"⟩

def fieldsOf (r : Reading) : RuleFields :=
  let tags := (r.values.filter (·.1 == "tags")).flatMap fun v => splitCommas [] v.2.toList
  ⟨r.values.lookup "risk", r.values.lookup "description", r.values.lookup "message",
    r.values.lookup "suggest", if tags.isEmpty then none else some tags⟩

def actionOf (r : Reading) (action : String) : RuleAction :=
  let word := fun (place : Nat) => (r.words[place]?).getD ""
  match action with
  | "show" => .inspect (word 0)
  | "add" => .add (word 0) (word 1) (fieldsOf r) (r.switches.contains "disabled")
  | "update" => .update (word 0) (r.values.lookup "pattern") (fieldsOf r)
  | "delete" => .delete (word 0)
  | "enable" => .enable (word 0)
  | "disable" => .disable (word 0)
  | "test" => .test (Text.join " " r.words)
  | _ => .list (r.switches.contains "json")

def requestOf (r : Reading) : Request :=
  let command := Text.join " " r.words
  match r.path with
  | "check" :: _ => .check (analysisOf r) (r.switches.contains "json") command
  | "safety" :: _ =>
    .safety (analysisOf r) ((r.values.lookup "auto-deny").bind (RiskLevel.parse · |>.toOption))
      (r.switches.contains "no-education") command
  | "history" :: _ =>
    .history (r.switches.contains "stats") (r.switches.contains "json")
      (((r.values.lookup "limit").bind readCount?).getD 20)
  | "config" :: _ => .config (r.switches.contains "template")
  | "completions" :: _ =>
    .completions ((r.words.head?.bind CompletionShell.ofName?).getD .bash)
  | "rules" :: action :: _ => .rules (actionOf r action)
  | _ => .rules (.list false)

/-- What a command line asks for. -/
def parse (line : List String) : Except UsageError Invocation := do
  let r ← grammar.read line
  return ⟨r.switches.contains "no-color", r.values.lookup "config", r.values.lookup "rules",
    requestOf r⟩

end Invocation

end ShellGuard
