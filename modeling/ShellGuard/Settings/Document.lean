import ShellGuard.Settings.Basic
import ShellGuard.Toml.Layout
import ShellGuard.Toml.Reader
import ShellGuard.Toml.Record

/-!
Settings documents.  Settings are read from several documents, of which the later ones win key by
key; variables of the environment win over all of them.
-/

namespace ShellGuard

open Toml

/-! ## Reading -/

def AnalysisSettings.ofToml? (v : Toml) : Option AnalysisSettings := do
  let field ← fields? 9 v
  let shell ← withDefault (choice? Dialect.ofName?) .auto (field "shell" 0)
  let syntaxCheck ← withDefault boolean? true (field "enable_syntax_check" 1)
  let safetyCheck ← withDefault boolean? true (field "enable_safety_check" 2)
  let customRules ← withDefault boolean? true (field "enable_custom_rules" 3)
  let obfuscationDetection ← withDefault boolean? true (field "enable_obfuscation_detection" 4)
  let gitChecks ← withDefault boolean? true (field "enable_git_checks" 5)
  let ciChecks ← withDefault boolean? true (field "enable_ci_checks" 6)
  let strict ← withDefault boolean? false (field "strict_mode" 7)
  let analyzeDecoded ← withDefault boolean? true (field "analyze_deobfuscated" 8)
  return ⟨shell, syntaxCheck, safetyCheck, customRules, obfuscationDetection, gitChecks, ciChecks,
    strict, analyzeDecoded⟩

def SafetySettings.ofToml? (v : Toml) : Option SafetySettings := do
  let field ← fields? 8 v
  let enabled ← withDefault boolean? true (field "enabled" 0)
  let showEducation ← withDefault boolean? true (field "show_education" 1)
  let trackDecisions ← withDefault boolean? true (field "track_decisions" 2)
  let autoDeny ← optional (choice? RiskLevel.ofName?) (field "auto_deny_level" 3)
  let bypassTrusted ← withDefault boolean? true (field "bypass_trusted_paths" 4)
  let trustedPaths ← withDefault texts? startingTrustedPaths (field "trusted_paths" 5)
  let maxAttempts ← withDefault natural? 5 (field "max_prompt_attempts" 6)
  let historyPath ← optional text? (field "history_path" 7)
  return ⟨enabled, showEducation, trackDecisions, autoDeny, bypassTrusted, trustedPaths,
    maxAttempts, historyPath⟩

namespace Settings

/-- The confidence threshold of its section. -/
def threshold? (v : Toml) : Option Binary64 := do
  let field ← fields? 1 v
  withDefault number? (.ofPercent 70) (field "confidence_threshold" 0)

/-- The path of the rules file in its section. -/
def rulesPath? (v : Toml) : Option (Option String) := do
  let field ← fields? 1 v
  optional text? (field "path" 0)

/-- The settings of a document. -/
def ofEntries? (document : Entries) : Option Settings := do
  let analysis ← withDefault AnalysisSettings.ofToml? {} (document.lookup "validation")
  let confidenceThreshold ← withDefault threshold? (.ofPercent 70) (document.lookup "obfuscation")
  let rulesPath ← withDefault rulesPath? none (document.lookup "rules")
  let safety ← withDefault SafetySettings.ofToml? {} (document.lookup "safety")
  return ⟨analysis, confidenceThreshold, rulesPath, safety⟩

/-- A document under a later one, which counts for nothing if it cannot be read. -/
def addLayer (document : Entries) (layer : Option String) : Entries :=
  match layer.bind Toml.parse with
  | some later => merge document later
  | none => document

/-- The settings of several documents, later ones winning; none where there is no file. -/
def ofLayers? (layers : List (Option String)) : Option Settings :=
  ofEntries? (layers.foldl addLayer [])

/-- The complaint about settings that cannot be read. -/
def invalidMessage : String := "Invalid configuration"

/-! ## Variables -/

/-- The words that switch something on. -/
def isOn (s : String) : Bool :=
  ["true", "1", "yes", "on"].contains (Text.lower s)

/-- The level above which commands are denied, as a variable sets it. -/
def overrideAutoDeny (word : String) (current : Option RiskLevel) : Option RiskLevel :=
  match RiskLevel.parse word with
  | .ok level => some level
  | .error _ =>
    if word.isEmpty || word.map Char.toLower = "none" then none else current

/-- The settings with what variables of the environment set. -/
def override (lookup : String → Option String) (s : Settings) : Settings where
  analysis := { s.analysis with strict := ((lookup "CMDGUARD_STRICT").map isOn).getD s.analysis.strict }
  confidenceThreshold := s.confidenceThreshold
  rulesPath := (lookup "CMDGUARD_RULES_PATH").filter (!·.isEmpty) <|> s.rulesPath
  safety := { s.safety with
    enabled := ((lookup "CMDGUARD_NO_PROMPT").map (!isOn ·)).getD s.safety.enabled
    autoDeny :=
      match lookup "CMDGUARD_AUTO_DENY" with
      | some word => overrideAutoDeny word s.safety.autoDeny
      | none => s.safety.autoDeny }

/-! ## Writing -/

def analysisText (a : AnalysisSettings) : String :=
  "[validation]\n" ++
    entry "shell" (quote a.shell.name) ++
    entry "enable_syntax_check" (booleanText a.syntaxCheck) ++
    entry "enable_safety_check" (booleanText a.safetyCheck) ++
    entry "enable_custom_rules" (booleanText a.customRules) ++
    entry "enable_obfuscation_detection" (booleanText a.obfuscationDetection) ++
    entry "enable_git_checks" (booleanText a.gitChecks) ++
    entry "enable_ci_checks" (booleanText a.ciChecks) ++
    entry "strict_mode" (booleanText a.strict) ++
    entry "analyze_deobfuscated" (booleanText a.analyzeDecoded)

def safetyText (s : SafetySettings) : String :=
  "[safety]\n" ++
    entry "enabled" (booleanText s.enabled) ++
    entry "show_education" (booleanText s.showEducation) ++
    entry "track_decisions" (booleanText s.trackDecisions) ++
    entry? "auto_deny_level" (s.autoDeny.map RiskLevel.name) ++
    entry "bypass_trusted_paths" (booleanText s.bypassTrusted) ++
    entry "trusted_paths" (stackedTexts s.trustedPaths) ++
    entry "max_prompt_attempts" (toString s.maxAttempts) ++
    entry? "history_path" s.historyPath

/-- The settings as a document. -/
def text (s : Settings) : String :=
  Text.join "\n" [analysisText s.analysis,
    "[obfuscation]\n" ++ entry "confidence_threshold" s.confidenceThreshold.text,
    "[rules]\n" ++ entry? "path" s.rulesPath,
    safetyText s.safety]

/-- The settings a user starts with, as a document with comments. -/
def template : String :=
  "# cmdguard configuration\n" ++
  "#\n" ++
  "# Looked up in order, later files override earlier ones:\n" ++
  "#   ~/.config/cmdguard/config.toml\n" ++
  "#   ~/cmdguard.toml\n" ++
  "#   ./cmdguard.toml or ./.cmdguard.toml\n" ++
  "\n" ++
  "[validation]\n" ++
  "# bash, zsh, fish, posix or auto\n" ++
  "shell = \"auto\"\n" ++
  "enable_syntax_check = true\n" ++
  "enable_safety_check = true\n" ++
  "enable_custom_rules = true\n" ++
  "enable_obfuscation_detection = true\n" ++
  "enable_git_checks = true\n" ++
  "enable_ci_checks = true\n" ++
  "# Warn about deprecated constructs such as backticks\n" ++
  "strict_mode = false\n" ++
  "# Run the rules again on decoded payloads\n" ++
  "analyze_deobfuscated = true\n" ++
  "\n" ++
  "[obfuscation]\n" ++
  "confidence_threshold = 0.7\n" ++
  "\n" ++
  "[rules]\n" ++
  "# path = \"~/.config/cmdguard/rules.toml\"\n" ++
  "\n" ++
  "[safety]\n" ++
  "enabled = true\n" ++
  "show_education = true\n" ++
  "track_decisions = true\n" ++
  "# Deny without asking above this level: low, medium, high\n" ++
  "# auto_deny_level = \"high\"\n" ++
  "bypass_trusted_paths = true\n" ++
  "trusted_paths = [\"~/projects\", \"~/dev\", \"~/code\", \"~/src\"]\n" ++
  "max_prompt_attempts = 5\n" ++
  "# history_path = \"~/.local/share/cmdguard/history.json\"\n"

end Settings

end ShellGuard
