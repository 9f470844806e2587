import ShellGuard.Obfuscation.Detector
import ShellGuard.Risk.Assessment
import ShellGuard.Rule.Builtin
import ShellGuard.Rule.Ci
import ShellGuard.Rule.Git
import ShellGuard.Rule.Store
import ShellGuard.Settings.Basic
import ShellGuard.Syntax.Report

/-!
The verdict on a command.  Each stage of the analysis adds its findings to those of the stages before
it; the risk is assessed on all of them, and each finding either blocks the command or warns.
-/

namespace ShellGuard

/-- What surrounds a command, looked at once before the analysis. -/
structure Surroundings where
  environment : Environment := .unknown
  git : GitContext := .none
  ci : CiContext := .none
deriving Repr, DecidableEq

/-- Another way to write a command. -/
structure Suggestion where
  message : String
  alternative : String
  explanation : String
deriving Repr, DecidableEq

/-- What the analysis says about a command. -/
structure Verdict where
  /-- No finding blocks the command. -/
  valid : Bool
  command : String
  shell : Dialect
  errors : List Finding
  warnings : List Finding
  suggestions : List Suggestion
  assessment : Assessment
  /-- Absent when nobody looked for it. -/
  obfuscation : Option Obfuscation
  /-- What could not be looked at, and why. -/
  notes : List String
deriving Repr, DecidableEq

/-- All that an analysis needs beside the command and its surroundings. -/
structure Analyzer where
  settings : Settings := {}
  rules : RuleStore := {}
  access : Access
  home : Option String

namespace Analyzer

/-! ## Stages -/

/-- What is known about the form of a command; a parse alone when form is not to be checked. -/
def form (a : Analyzer) (command : String) : FormReport :=
  if a.settings.analysis.syntaxCheck then FormReport.analyze a.settings.analysis.strict command
  else ⟨(parse command).toOption, [], []⟩

def obfuscation (a : Analyzer) (command : String) : Option Obfuscation :=
  if a.settings.analysis.obfuscationDetection then some (.detect command) else none

/-- The finding about a hidden command: an error when it is certain enough, else a warning. -/
def obfuscationFinding (a : Analyzer) (o : Obfuscation) : Finding :=
  ((Finding.hit .safety "ObfuscationDetection" o.riskLevel
      ("Command appears to be obfuscated: " ++ o.explanation)).withSeverity
    (if o.reaches a.settings.confidenceThreshold then .error else .warning)).suggest
    "Obfuscated commands are often used to hide malicious intent. Review the deobfuscated command carefully."

def obfuscationFindings (a : Analyzer) (command : String) : List Finding :=
  match a.obfuscation command with
  | some o => if o.isObfuscated then [a.obfuscationFinding o] else []
  | none => []

/-- The findings of the built-in rules and of the user's own. -/
def patternFindings (a : Analyzer) (command : String) : List Finding :=
  (if a.settings.analysis.safetyCheck then Builtin.check command else []) ++
    if a.settings.analysis.customRules then a.rules.check command else []

def gitFindings (a : Analyzer) (around : Surroundings) (command : String) : List Finding :=
  if a.settings.analysis.gitChecks then
    Git.check Git.protectedBranches command (a.form command).root around.git
  else []

def ciFindings (a : Analyzer) (around : Surroundings) (command : String) : List Finding :=
  if a.settings.analysis.ciChecks then Ci.check command around.ci else []

/-- The findings about a command as it is written. -/
def rawFindings (a : Analyzer) (around : Surroundings) (command : String) : List Finding :=
  (a.form command).findings ++ a.obfuscationFindings command ++ a.patternFindings command ++
    a.gitFindings around command ++ a.ciFindings around command

/-- The findings that name a rule which neither `seen` nor an earlier one of them names. -/
def unseen (seen : List String) : List Finding → List Finding
  | [] => []
  | f :: fs =>
    match f.rule with
    | none => unseen seen fs
    | some rule => if seen.contains rule then unseen seen fs else f :: unseen (rule :: seen) fs

/-- A finding about what a command decodes to. -/
def decoded (f : Finding) : Finding :=
  { f with message := "(deobfuscated) " ++ f.message }

/-- The findings that only what the command decodes to shows. -/
def decodedFindings (a : Analyzer) (command : String) (raw : List Finding) : List Finding :=
  match a.obfuscation command with
  | some o =>
    if a.settings.analysis.analyzeDecoded && o.hasCandidate command then
      (unseen (raw.filterMap (·.rule)) (a.patternFindings o.deobfuscated)).map decoded
    else []
  | none => []

/-- All findings about a command. -/
def findings (a : Analyzer) (around : Surroundings) (command : String) : List Finding :=
  let raw := a.rawFindings around command
  raw ++ a.decodedFindings command raw

/-! ## Suggestions -/

/-- The suggestion that a finding calls for. -/
def suggestionFor (command : String) (f : Finding) : Option Suggestion :=
  match f.kind with
  | .malformed =>
    if Text.contains (Text.lower f.message) "quote" then
      some ⟨"Consider using single quotes for literal strings", Text.replace command "\"" "'",
        "Single quotes prevent variable expansion and special character interpretation"⟩
    else none
  | .safety =>
    if Text.contains command "rm -rf" then
      some ⟨"Use 'trash' command instead of 'rm -rf'", Text.replace command "rm -rf" "trash",
        "The trash command moves files to a recoverable location instead of permanent deletion"⟩
    else none
  | _ => none

/-- The suggestion to look at what a command decodes to. -/
def reviewSuggestion (command : String) (o : Option Obfuscation) : Option Suggestion :=
  (o.filter (·.hasCandidate command)).map fun o =>
    ⟨"Review the deobfuscated command before running it", o.deobfuscated,
      "This is what the command decodes to once the obfuscation is removed"⟩

/-- Suggestions with one more, unless one with its message is among them. -/
def addSuggestion (ss : List Suggestion) (s : Suggestion) : List Suggestion :=
  if ss.any (·.message == s.message) then ss else ss ++ [s]

def suggestions (command : String) (fs : List Finding) (o : Option Obfuscation) : List Suggestion :=
  (fs.filterMap (suggestionFor command) ++ (reviewSuggestion command o).toList).foldl addSuggestion []

/-! ## The verdict -/

/-- Whether a finding makes a command invalid: a flaw in its form if it is an error, a rule that
matched unless it only informs. -/
def blocks (f : Finding) : Bool :=
  match f.kind with
  | .malformed => f.severity == .error
  | .safety | .custom | .permission => f.severity != .info
  | .deprecated => false

/-- The verdict on a command. -/
def judge (a : Analyzer) (around : Surroundings) (command : String) : Verdict :=
  let found := a.findings around command
  let errors := found.filter blocks
  { valid := errors.isEmpty
    command
    shell := a.settings.analysis.shell.resolve command
    errors
    warnings := found.filter (!blocks ·)
    suggestions := suggestions command found (a.obfuscation command)
    assessment := Assessment.assess a.access a.home around.environment command found
    obfuscation := a.obfuscation command
    notes := (a.form command).warnings }

end Analyzer

namespace Verdict

/-- All findings, those that block first. -/
def findings (v : Verdict) : List Finding :=
  v.errors ++ v.warnings

/-- Whether a rule is among the findings. -/
def hasRule (v : Verdict) (rule : String) : Bool :=
  v.findings.any (·.rule == some rule)

end Verdict

end ShellGuard
