import ShellGuard.Position
import ShellGuard.Risk.Level

/-!
Findings: what every stage of the analysis reports.
-/

namespace ShellGuard

/-- What a finding is about. -/
inductive FindingKind
  /-- The text is not a well-formed command. -/
  | malformed
  /-- A built-in check matched. -/
  | safety
  | permission
  | deprecated
  /-- A rule of the user's own matched. -/
  | custom
deriving Repr, DecidableEq, Inhabited

/-- The word a report uses for a kind. -/
def FindingKind.name : FindingKind → String
  | .malformed => "syntax"
  | .safety => "safety"
  | .permission => "permission"
  | .deprecated => "deprecated"
  | .custom => "custom"

/-- The kinds that count as risk factors. -/
def FindingKind.isSafetyRelevant : FindingKind → Bool
  | .safety | .custom => true
  | _ => false

/-- One reported issue. -/
structure Finding where
  kind : FindingKind
  severity : Severity
  position : Option Position
  message : String
  rule : Option String
  suggestion : Option String
  riskLevel : RiskLevel
deriving Repr, DecidableEq, Inhabited

namespace Finding

/-- A finding that names no rule, no place and no way out. -/
def plain (kind : FindingKind) (severity : Severity) (message : String) : Finding :=
  ⟨kind, severity, none, message, none, none, .low⟩

/-- A flaw in the form of the command. -/
def flaw (message : String) : Finding :=
  plain .malformed .error message

/-- A rule that matched, as loud as its level asks. -/
def hit (kind : FindingKind) (rule : String) (level : RiskLevel) (message : String) : Finding :=
  ⟨kind, level.severity, none, message, some rule, none, level⟩

/-- The same finding at a place. -/
def placed (f : Finding) (p : Position) : Finding :=
  { f with position := some p }

/-- The same finding with a way out; an empty text is none. -/
def suggest (f : Finding) (s : String) : Finding :=
  if s.isEmpty then f else { f with suggestion := some s }

/-- A check for safety that found something, with a way out. -/
def hazard (rule : String) (level : RiskLevel) (message suggestion : String) : Finding :=
  (hit .safety rule level message).suggest suggestion

/-- The same finding, louder or quieter. -/
def withSeverity (f : Finding) (s : Severity) : Finding :=
  { f with severity := s }

/-- The same finding at another level. -/
def withRisk (f : Finding) (level : RiskLevel) : Finding :=
  { f with riskLevel := level }

/-- A finding on one line. -/
def text (f : Finding) : String :=
  "[" ++ f.severity.name ++ "] " ++ f.message ++
    match f.position with
    | some p => " (at " ++ p.text ++ ")"
    | none => ""

/-- Whether an earlier finding says the same: same kind, same message. -/
def sameAs (f g : Finding) : Bool :=
  f.kind == g.kind && f.message == g.message

/-- The findings that repeat neither one of `seen` nor one before them. -/
def dedupeFrom (seen : List Finding) : List Finding → List Finding
  | [] => []
  | f :: fs =>
    if seen.any f.sameAs then dedupeFrom seen fs else f :: dedupeFrom (f :: seen) fs

/-- Keep the first finding of each kind and message. -/
def dedupe (fs : List Finding) : List Finding :=
  dedupeFrom [] fs

end Finding

end ShellGuard
