import ShellGuard.Json.Value
import ShellGuard.Verdict

/-!
Reports as JSON documents.
-/

namespace ShellGuard

/-- A place as a document. -/
def Position.json (p : Position) : Json :=
  .object [("line", .integer p.line), ("column", .integer p.column), ("offset", .integer p.offset)]

/-- A finding as a document; what it does not have is left out. -/
def Finding.json (f : Finding) : Json :=
  .object ([("kind", .string f.kind.name), ("severity", .string f.severity.name)] ++
    Json.member? "position" (f.position.map Position.json) ++
    [("message", .string f.message)] ++
    Json.member? "rule" (f.rule.map .string) ++
    Json.member? "suggestion" (f.suggestion.map .string) ++
    [("risk_level", .string f.riskLevel.name)])

/-- Findings as a document. -/
def Finding.listJson (fs : List Finding) : Json :=
  .array (fs.map Finding.json)

/-- A number as a document; what is no number is written as nothing. -/
def Binary64.json (x : Binary64) : Json :=
  match x.text? with
  | some t => .number t
  | none => .null

/-- What is known about the hiding of a command, as a document. -/
def Obfuscation.json (o : Obfuscation) : Json :=
  .object [("is_obfuscated", .bool o.isObfuscated),
    ("confidence", (Binary64.ofPercent o.confidence).json), ("techniques", .strings o.techniques),
    ("deobfuscated", .string o.deobfuscated), ("risk_level", .string o.riskLevel.name),
    ("explanation", .string o.explanation)]

/-- The place a command runs in as a document. -/
def Environment.json (e : Environment) : Json :=
  .object [("current_directory", .string e.currentDirectory),
    ("is_git_repository", .bool e.isGitRepository), ("is_home_directory", .bool e.isHomeDirectory),
    ("is_system_path", .bool e.isSystemPath), ("has_write_permission", .bool e.hasWritePermission),
    ("important_paths", .strings e.importantPaths)]

/-- A factor as a document. -/
def Factor.json (f : Factor) : Json :=
  .object [("type", .string f.kind.name), ("description", .string f.description),
    ("level", .string f.level.name), ("mitigation", .string f.mitigation)]

/-- The members of an assessment, the place apart. -/
def Assessment.members (a : Assessment) : List (String × Json) :=
  [("overall_risk", .string a.overall.name), ("factors", .array (a.factors.map Factor.json)),
    ("requires_root", .bool a.requiresRoot), ("affects_system", .bool a.affectsSystem),
    ("is_irreversible", .bool a.isIrreversible)]

/-- An assessment as a document. -/
def Assessment.json (a : Assessment) : Json :=
  .object (a.members ++ [("context", a.environment.json)])

/-- A suggestion as a document. -/
def Suggestion.json (s : Suggestion) : Json :=
  .object [("message", .string s.message), ("alternative", .string s.alternative),
    ("explanation", .string s.explanation)]

/-- The members of a verdict, the assessment being given. -/
def Verdict.members (v : Verdict) (assessment : Json) : List (String × Json) :=
  [("valid", .bool v.valid), ("command", .string v.command), ("shell", .string v.shell.name),
    ("errors", Finding.listJson v.errors), ("warnings", Finding.listJson v.warnings),
    ("suggestions", .array (v.suggestions.map Suggestion.json)),
    ("risk_assessment", assessment)] ++
    Json.member? "obfuscation" (v.obfuscation.map Obfuscation.json) ++
    if v.notes.isEmpty then [] else [("notes", .strings v.notes)]

/-- A rule of the user's own as a document. -/
def CustomRule.json (r : CustomRule) : Json :=
  .object [("name", .string r.name), ("description", .string r.description),
    ("pattern", .string r.pattern), ("risk", .string r.risk), ("message", .string r.message),
    ("suggest", .string r.suggest), ("enabled", .bool r.enabled), ("tags", .strings r.tags)]

/-- Settings as a document. -/
def Settings.json (s : Settings) : Json :=
  .object [
    ("validation", .object [("shell", .string s.analysis.shell.name),
      ("enable_syntax_check", .bool s.analysis.syntaxCheck),
      ("enable_safety_check", .bool s.analysis.safetyCheck),
      ("enable_custom_rules", .bool s.analysis.customRules),
      ("enable_obfuscation_detection", .bool s.analysis.obfuscationDetection),
      ("enable_git_checks", .bool s.analysis.gitChecks),
      ("enable_ci_checks", .bool s.analysis.ciChecks), ("strict_mode", .bool s.analysis.strict),
      ("analyze_deobfuscated", .bool s.analysis.analyzeDecoded)]),
    ("obfuscation", .object [("confidence_threshold", s.confidenceThreshold.json)]),
    ("rules", .object [("path", .ofString? s.rulesPath)]),
    ("safety", .object [("enabled", .bool s.safety.enabled),
      ("show_education", .bool s.safety.showEducation),
      ("track_decisions", .bool s.safety.trackDecisions),
      ("auto_deny_level", .ofString? (s.safety.autoDeny.map RiskLevel.name)),
      ("bypass_trusted_paths", .bool s.safety.bypassTrusted),
      ("trusted_paths", .strings s.safety.trustedPaths),
      ("max_prompt_attempts", .integer s.safety.maxAttempts),
      ("history_path", .ofString? s.safety.historyPath)])]

end ShellGuard
