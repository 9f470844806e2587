import ShellGuard.Cli.Invocation
import ShellGuard.Decision.Render
import ShellGuard.Report.Json
import ShellGuard.Report.Text
import ShellGuard.Rule.File
import ShellGuard.Settings.Document

/-!
Carrying out what a command line asks for.  All that this needs of the world is given as a host.
-/

namespace ShellGuard

/-- The world around a run of the program. -/
structure Host (m : Type → Type) where
  files : Files m
  /-- The variables of the environment. -/
  lookup : String → Option String
  currentDirectory : String
  /-- What the current directory is like. -/
  environment : m Environment
  git : m GitContext
  /-- What may be done with the files at some paths. -/
  access : List String → m Access
  now : m Timestamp
  /-- Nanoseconds on a clock that never goes back. -/
  clock : m Nat
  out : String → m Unit
  err : String → m Unit
  readLine : m (Option String)
  /-- Whether texts may be painted. -/
  color : Bool

/-- Why a run failed. -/
inductive RunError
  | rule (e : RuleError)
  | other (message : String)
deriving Repr, DecidableEq

def RunError.message : RunError → String
  | .rule e => e.message
  | .other message => message

namespace Cli

/-- The exit code for a command that is invalid or was denied. -/
def blocked : Nat := 1

variable {m : Type → Type} [Monad m]

def directories (host : Host m) : UserDirectories :=
  .ofLookup host.lookup

/-! ## Settings -/

/-- The settings files that there may be, the most important last; of those in one group the first
that exists counts. -/
def settingsFiles (host : Host m) : List (List String) :=
  let dirs := directories host
  [(dirs.config.map fun dir => Path.join (Path.join dir programName) "config.toml").toList,
    (dirs.home.map (Path.join · "cmdguard.toml")).toList,
    [Path.join host.currentDirectory "cmdguard.toml",
      Path.join host.currentDirectory ".cmdguard.toml"]]

def firstExisting (files : Files m) : List String → m (Option String)
  | [] => return none
  | path :: rest => do
    if ← files.exists? path then return some path else firstExisting files rest

/-- The texts of the settings files, as far as they can be read. -/
def layers (host : Host m) : List (List String) → m (List (Option String))
  | [] => return []
  | group :: rest => do
    match ← firstExisting host.files group with
    | none => layers host rest
    | some path => do
      let text ← host.files.read path
      return text :: (← layers host rest)

/-- The settings for an invocation. -/
def settings (host : Host m) (inv : Invocation) : m (Except RunError Settings) := do
  let missing ← match inv.config with
    | some path => do pure (!(← host.files.exists? path))
    | none => pure false
  if missing then return .error (.other ("Config file not found: " ++ inv.config.getD ""))
  else
    let groups := match inv.config with
      | some path => [[path]]
      | none => settingsFiles host
    match Settings.ofLayers? (← layers host groups) with
    | none => return .error (.other Settings.invalidMessage)
    | some s =>
      let s := s.override host.lookup
      return .ok { s with rulesPath := inv.rules <|> s.rulesPath }

def withAnalysis (s : Settings) (o : AnalysisOptions) : Settings :=
  { s with analysis := { s.analysis with
      shell := o.shell.getD s.analysis.shell
      strict := o.strict || s.analysis.strict } }

/-! ## Analysis -/

/-- The user's rules, none where they cannot be loaded. -/
def rulesFor (host : Host m) (s : Settings) : m RuleStore := do
  match if s.analysis.customRules then s.rulesFile (directories host) else none with
  | none => return {}
  | some path =>
    match ← RuleStore.load host.files path with
    | .ok store => return store
    | .error _ => return {}

def surroundings (host : Host m) (s : Settings) : m Surroundings := do
  let environment ← host.environment
  let git ← if s.analysis.gitChecks then host.git else pure .none
  return ⟨environment, git, .ofLookup host.lookup⟩

/-- The verdict on a command in the place where the program runs. -/
def judge (host : Host m) (s : Settings) (command : String) : m Verdict := do
  let rules ← rulesFor host s
  let around ← surroundings host s
  let home := (directories host).home
  let access ← host.access (Requirement.consulted home command)
  return Analyzer.judge ⟨s, rules, access, home⟩ around command

/-- A document on lines of its own. -/
def printJson (host : Host m) (v : Json) : m Unit :=
  host.out (v.pretty ++ "\n")

def check (host : Host m) (style : Style) (s : Settings) (json : Bool) (command : String) : m Nat := do
  let started ← host.clock
  let v ← judge host s command
  let finished ← host.clock
  if json then
    let duration := Binary64.ofRatio false (finished - started) 1000000
    printJson host (.object (v.members v.assessment.json ++
      [("timestamp", .string (← host.now).text), ("duration_ms", duration.json)]))
  else host.out (v.render style)
  return if v.valid then 0 else blocked

/-! ## Confirmation -/

/-- The history of decisions, kept in memory only where its file cannot be used. -/
def historyFor (host : Host m) (s : Settings) : m History := do
  if s.safety.trackDecisions then
    match ← History.openFile host.files (s.historyFile (directories host)) with
    | .ok h => return h
    | .error _ => return {}
  else return {}

def safety (host : Host m) (style : Style) (s : Settings) (command : String) :
    m (Except RunError Nat) := do
  let v ← judge host s command
  host.out (v.render style)
  let history ← historyFor host s
  let protocol : Protocol := ⟨s.safety, (directories host).home⟩
  let hold := Dialogue.perform (fun e => host.out (e.render style)) host.readLine
  match ← protocol.check host.files hold history (← host.now) command (some v.assessment) with
  | (.error e, _) => return .error (.other e.message)
  | (.ok outcome, _) =>
    if outcome.allowed then
      host.out (style.successLine "Command allowed")
      return .ok 0
    else
      host.err (style.errorLine "Command denied")
      return .ok blocked

/-! ## Rules -/

def withFields (r : CustomRule) (f : RuleFields) : CustomRule :=
  { r with
    risk := f.risk.getD r.risk
    description := f.description.getD r.description
    message := f.message.getD r.message
    suggest := f.suggest.getD r.suggest
    tags := f.tags.getD r.tags }

def missingRule (name : String) : RunError :=
  .other ("Rule '" ++ name ++ "' not found")

/-- Changes a store and says so. -/
def editRules (host : Host m) (style : Style) (store : RuleStore) (e : RuleEdit) (done : String) :
    m (Except RunError Nat) := do
  match ← store.edit host.files e with
  | (.error err, _) => return .error (.rule err)
  | (.ok (), _) =>
    host.out (style.successLine done)
    return .ok 0

def testLine (style : Style) (r : CustomRule) : String :=
  style.success "✓" ++ " " ++ style.bold r.name ++ style.muted (if r.enabled then "" else " (disabled)") ++
    "\n"

def ruleAction (host : Host m) (style : Style) (store : RuleStore) :
    RuleAction → m (Except RunError Nat)
  | .list json => do
    if json then printJson host (.array (store.list.map CustomRule.json))
    else host.out (CustomRule.renderList style store.list)
    return .ok 0
  | .inspect name => do
    match store.get? name with
    | none => return .error (missingRule name)
    | some r => host.out (r.render style); return .ok 0
  | .add name pattern fields disabled =>
    let rule := { withFields (.plain name pattern .medium) fields with enabled := !disabled }
    editRules host style store (.add rule) ("Added rule '" ++ name ++ "'")
  | .update name pattern fields =>
    match store.get? name with
    | none => return .error (missingRule name)
    | some r =>
      let rule := withFields { r with pattern := pattern.getD r.pattern } fields
      editRules host style store (.update name rule) ("Updated rule '" ++ name ++ "'")
  | .delete name => editRules host style store (.delete name) ("Deleted rule '" ++ name ++ "'")
  | .enable name =>
    editRules host style store (.setEnabled name true) ("Enabled rule '" ++ name ++ "'")
  | .disable name =>
    editRules host style store (.setEnabled name false) ("Disabled rule '" ++ name ++ "'")
  | .test command => do
    let matched := store.test command
    if matched.isEmpty then host.out (style.muted "No rule matches" ++ "\n")
    else host.out (String.join (matched.map (testLine style)))
    return .ok 0

def rules (host : Host m) (style : Style) (s : Settings) (action : RuleAction) :
    m (Except RunError Nat) := do
  match s.rulesFile (directories host) with
  | none => return .error (.other "No custom rules location; set [rules] path or pass --rules")
  | some path =>
    match ← RuleStore.load host.files path with
    | .error e => return .error (.rule e)
    | .ok store => ruleAction host style store action

/-! ## Runs -/

def history (host : Host m) (style : Style) (s : Settings) (stats json : Bool) (limit : Nat) :
    m (Except RunError Nat) := do
  match ← History.openFile host.files (s.historyFile (directories host)) with
  | .error e => return .error (.other e.message)
  | .ok h =>
    let shown := h.entries.drop (h.entries.length - limit)
    match stats, json with
    | true, true => printJson host h.stats.json
    | true, false => host.out h.stats.render
    | false, true => printJson host (Decision.listJson shown)
    | false, false => host.out (Decision.renderList style shown)
    return .ok 0

/-- Carries out an invocation; the result is the exit code. -/
def run (host : Host m) (inv : Invocation) : m (Except RunError Nat) := do
  let style : Style := ⟨host.color && !inv.noColor⟩
  match ← settings host inv with
  | .error e => return .error e
  | .ok s =>
    match inv.request with
    | .check analysis json command =>
      return .ok (← check host style (withAnalysis s analysis) json command)
    | .safety analysis autoDeny noEducation command =>
      let s := withAnalysis s analysis
      let own := { s.safety with
        autoDeny := autoDeny <|> s.safety.autoDeny
        showEducation := !noEducation && s.safety.showEducation }
      safety host style { s with safety := own } command
    | .rules action => rules host style s action
    | .history stats json limit => history host style s stats json limit
    | .config template =>
      host.out (if template then Settings.template else s.text)
      return .ok 0
    | .completions shell =>
      host.out (shell.instructions ++ "\n")
      return .ok 0

end Cli

end ShellGuard
