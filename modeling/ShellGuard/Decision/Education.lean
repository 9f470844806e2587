import ShellGuard.Risk.Level

/-!
What the risk levels mean, told before a question is asked.
-/

namespace ShellGuard

/-- A safer way to do something. -/
structure Alternative where
  description : String
  sample : String
deriving Repr, DecidableEq

/-- What a risk level means. -/
structure Education where
  level : RiskLevel
  title : String
  description : String
  consequences : List String
  alternatives : List Alternative
deriving Repr, DecidableEq

namespace Education

/-- What a risk level means; there is nothing to tell about a low risk. -/
def ofLevel? : RiskLevel → Option Education
  | .low => none
  | .medium => some {
      level := .medium
      title := "MEDIUM RISK: Caution Advised"
      description := "This command could have unintended consequences. Please review carefully."
      consequences := ["Potential data loss", "May affect other users", "Could require cleanup"]
      alternatives := [⟨"Test with dry-run first", "rsync --dry-run source/ dest/"⟩,
        ⟨"Create backups before modifying", "cp -a original original.bak"⟩] }
  | .high => some {
      level := .high
      title := "HIGH RISK: Dangerous Operation Detected"
      description := "This command performs potentially harmful operations that could affect system stability or security."
      consequences := ["Security vulnerabilities", "Service disruptions", "Data exposure",
        "Difficult to reverse changes"]
      alternatives := [⟨"Review scripts before executing",
          "curl -o script.sh URL && less script.sh && bash script.sh"⟩,
        ⟨"Use restrictive permissions", "chmod 755 instead of chmod 777"⟩] }
  | .critical => some {
      level := .critical
      title := "CRITICAL RISK: System Destruction Warning"
      description := "This command could permanently damage your system or delete critical data."
      consequences := ["Complete system failure requiring reinstallation",
        "Permanent loss of all data", "Corruption of system files",
        "Loss of user accounts and configurations"]
      alternatives := [⟨"Use specific paths instead of root directory", "rm -rf /tmp/specific-folder"⟩,
        ⟨"Use trash command for recoverable deletion", "trash /path/to/file"⟩] }

/-- Advice that applies to every command. -/
def tips : List String :=
  ["Use absolute paths to avoid mistakes",
   "Test commands with --dry-run or -n flags when available",
   "Create backups before destructive operations",
   "Use version control for important files"]

end Education

end ShellGuard
