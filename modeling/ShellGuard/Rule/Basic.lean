import ShellGuard.Finding
import ShellGuard.Pattern.Reach
import ShellGuard.Pattern.Reader

/-!
Rules that match a pattern anywhere in a command.
-/

namespace ShellGuard

/-- A rule ready to match. -/
structure Rule where
  name : String
  description : String
  /-- The text of the pattern. -/
  source : String
  pattern : Pattern
  level : RiskLevel
  message : String
  suggestion : String
deriving Repr, DecidableEq

namespace Rule

/-- Whether the pattern of a rule matches somewhere in a command. -/
def fires (r : Rule) (command : String) : Bool :=
  r.pattern.isMatch command

/-- The finding of a rule that fires. -/
def finding (r : Rule) (kind : FindingKind) : Finding :=
  (Finding.hit kind r.name r.level r.message).suggest r.suggestion

/-- The finding of a rule in a command, if it fires. -/
def check (r : Rule) (kind : FindingKind) (command : String) : Option Finding :=
  if r.fires command then some (r.finding kind) else none

end Rule

/-- A rule as it is written down. -/
structure RuleDefinition where
  name : String
  description : String
  source : String
  level : RiskLevel
  message : String
  suggestion : String

/-- The rule of a definition whose pattern can be read. -/
def RuleDefinition.compile? (d : RuleDefinition) : Option Rule :=
  (Pattern.ofText? d.source).map fun p =>
    ⟨d.name, d.description, d.source, p, d.level, d.message, d.suggestion⟩

end ShellGuard
