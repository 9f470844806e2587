import ShellGuard.Finding
import ShellGuard.Risk.Environment
import ShellGuard.Risk.Permission
import ShellGuard.Text.Search

/-!
The risk of a command: everything that contributes to it, and the highest level among that.
-/

namespace ShellGuard

/-- What a factor is about. -/
inductive FactorKind
  | permission
  | safety
  | custom
  | system
  | git
  | force
deriving Repr, DecidableEq, Inhabited

/-- The word a report uses for a kind of factor. -/
def FactorKind.name : FactorKind → String
  | permission => "permission"
  | safety => "safety"
  | custom => "custom"
  | system => "system"
  | git => "git"
  | force => "force"

/-- One thing that contributes to the risk. -/
structure Factor where
  kind : FactorKind
  description : String
  level : RiskLevel
  mitigation : String
deriving Repr, DecidableEq

/-- The risk of a command. -/
structure Assessment where
  overall : RiskLevel
  factors : List Factor
  requiresRoot : Bool
  affectsSystem : Bool
  isIrreversible : Bool
  environment : Environment
deriving Repr, DecidableEq

namespace Assessment

/-- The highest level of some factors, low when there are none. -/
def overallOf (factors : List Factor) : RiskLevel :=
  RiskLevel.highest (factors.map (·.level))

/-- The assessment of some factors. -/
def ofFactors (env : Environment) (requiresRoot affectsSystem : Bool) (factors : List Factor) :
    Assessment where
  overall := overallOf factors
  factors := factors
  requiresRoot := requiresRoot
  affectsSystem := affectsSystem
  isIrreversible := factors.any (·.level == .critical)
  environment := env

/-- The assessment with one factor more. -/
def add (a : Assessment) (f : Factor) : Assessment :=
  ofFactors a.environment a.requiresRoot a.affectsSystem (a.factors ++ [f])

/-! ## Checks -/

/-- What missing permissions contribute. -/
def permissionFactors (r : Requirement) : List Factor :=
  (if r.requiresRoot && !r.missing.isEmpty then
    [⟨.permission, "Command requires elevated privileges that are not available", .high,
      "Run with sudo or as root user"⟩]
   else []) ++
  r.missing.map fun m =>
    ⟨.permission, m, .medium, "Ensure you have necessary permissions or use sudo"⟩

/-- What a finding contributes. -/
def findingFactor (f : Finding) : Factor :=
  ⟨if f.kind = .custom then .custom else .safety, f.message, f.riskLevel, f.suggestion.getD ""⟩

/-- What findings contribute. -/
def findingFactors (fs : List Finding) : List Factor :=
  (fs.filter (·.kind.isSafetyRelevant)).map findingFactor

/-- Commands that take on other rights. -/
def elevation : Option Pattern :=
  Pattern.ofText? "\\bsudo\\b|\\bsu\\s"

/-- Whether a command takes on other rights. -/
def elevates (command : String) : Bool :=
  elevation.any (·.isMatch command)

def elevationFactors (command : String) : List Factor :=
  if elevates command then
    [⟨.permission, "Command requires elevated privileges", .medium,
      "Ensure you understand why root access is needed"⟩]
  else []

/-- Characters a path may follow directly. -/
def opensPath (c : Char) : Bool :=
  Text.isBlank c || "'\"=:(<>".toList.contains c

/-- Characters a path may end before. -/
def closesPath (c : Char) : Bool :=
  c == '/' || Text.isBlank c || "'\";|&)".toList.contains c

/-- Whether a path stands in a command on its own or before further components. -/
def refersTo (command path : String) : Bool :=
  (Text.occurrences command.toList path.toList).any fun o =>
    o.before.all opensPath && o.after.head?.all closesPath

/-- The first important directory a command refers to. -/
def systemPath? (env : Environment) (command : String) : Option String :=
  env.importantPaths.find? (refersTo command)

def systemFactors (env : Environment) (command : String) : List Factor :=
  match systemPath? env command with
  | some path =>
    [⟨.system, "Command affects system directory: " ++ path, .high,
      "Be extra careful when modifying system directories"⟩]
  | none => []

def gitFactors (env : Environment) (command : String) : List Factor :=
  let has := Text.contains command
  if env.isGitRepository then
    (if has "git reset --hard" || has "git clean -fd" then
      [⟨.git, "Command will permanently discard git changes", .medium,
        "Consider using 'git stash' to save changes first"⟩]
     else []) ++
    if has "force" || has " -f" then
      [⟨.force, "Force flag detected - bypasses safety checks", .medium,
        "Remove force flag unless absolutely necessary"⟩]
    else []
  else []

/-- The risk of a command with its findings. -/
def assess (access : Access) (home : Option String) (env : Environment) (command : String)
    (findings : List Finding) : Assessment :=
  let need := Requirement.ofCommand access home command
  ofFactors env (need.requiresRoot || elevates command) (systemPath? env command).isSome
    (permissionFactors need ++ findingFactors findings ++ elevationFactors command ++
      systemFactors env command ++ gitFactors env command)

end Assessment

end ShellGuard
