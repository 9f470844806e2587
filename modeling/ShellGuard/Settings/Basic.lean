import ShellGuard.Path
import ShellGuard.Risk.Level
import ShellGuard.Syntax.Dialect
import ShellGuard.Number.Binary64

/-!
Settings: which analyses run, and when a command needs confirmation.
-/

namespace ShellGuard

/-- Which analyses run. -/
structure AnalysisSettings where
  shell : Dialect := .auto
  syntaxCheck : Bool := true
  safetyCheck : Bool := true
  customRules : Bool := true
  obfuscationDetection : Bool := true
  gitChecks : Bool := true
  ciChecks : Bool := true
  /-- Also report deprecated constructs. -/
  strict : Bool := false
  /-- Run the rules again on what a hidden command decodes to. -/
  analyzeDecoded : Bool := true
deriving Repr, DecidableEq

/-- The directories in which a user who sets nothing needs no confirmation. -/
def startingTrustedPaths : List String :=
  ["~/projects", "~/dev", "~/code", "~/src"]

/-- When a command needs confirmation. -/
structure SafetySettings where
  enabled : Bool := true
  showEducation : Bool := true
  trackDecisions : Bool := true
  /-- Deny without asking what is riskier than this. -/
  autoDeny : Option RiskLevel := none
  bypassTrusted : Bool := true
  trustedPaths : List String := startingTrustedPaths
  /-- How many answers are read before an undecided question counts as denied. -/
  maxAttempts : Nat := 5
  historyPath : Option String := none
deriving Repr, DecidableEq

/-- All settings. -/
structure Settings where
  analysis : AnalysisSettings := {}
  /-- How sure the detection of hidden commands must be. -/
  confidenceThreshold : Binary64 := .ofPercent 70
  rulesPath : Option String := none
  safety : SafetySettings := {}
deriving Repr, DecidableEq

/-- The directories of a user. -/
structure UserDirectories where
  home : Option String
  config : Option String
  data : Option String
deriving Repr, DecidableEq

namespace UserDirectories

/-- A directory named by a variable, if its path is absolute. -/
def absolute? (path : Option String) : Option String :=
  path.filter (·.toList.head? == some '/')

/-- The directories that the variables of a user name. -/
def ofLookup (lookup : String → Option String) : UserDirectories :=
  let home := (lookup "HOME").filter (!·.isEmpty)
  ⟨home,
    absolute? (lookup "XDG_CONFIG_HOME") <|> home.map (Path.join · ".config"),
    absolute? (lookup "XDG_DATA_HOME") <|> home.map (Path.join · ".local/share")⟩

end UserDirectories

/-- The name of the program's own directories. -/
def programName : String := "cmdguard"

namespace Settings

/-- The file of the user's rules. -/
def rulesFile (s : Settings) (dirs : UserDirectories) : Option String :=
  match s.rulesPath with
  | some path => some (Path.expandHome dirs.home path)
  | none => dirs.config.map fun dir => Path.join (Path.join dir programName) "rules.toml"

/-- The file of past decisions. -/
def historyFile (s : Settings) (dirs : UserDirectories) : String :=
  match s.safety.historyPath with
  | some path => Path.expandHome dirs.home path
  | none => Path.join (Path.join (dirs.data.getD ".") programName) "history.json"

end Settings

/-- The trusted directories, with the home directory written out. -/
def SafetySettings.trusted (s : SafetySettings) (home : Option String) : List String :=
  s.trustedPaths.map (Path.expandHome home)

end ShellGuard
