import ShellGuard.Rule.Basic

/-!
The rules every analysis starts from: patterns of destructive and insecure commands.
-/

namespace ShellGuard

namespace Builtin

/-- The built-in rules as they are written down. -/
def definitions : List RuleDefinition := [
  { name := "RecursiveRootDelete"
    description :=
      "Detects recursive deletion of root directory"
    source :=
      "\\brm\\s+(-[a-zA-Z]*r[a-zA-Z]*f|-[a-zA-Z]*f[a-zA-Z]*r)\\s+/(\\s|$)"
    level := .critical
    message :=
      "CRITICAL: This command will recursively delete your entire system!"
    suggestion :=
      "Never run 'rm -rf /' - it will destroy your system. If you need to clean up, specify " ++
        "exact paths." },
  { name := "RecursiveHomeDelete"
    description :=
      "Detects recursive deletion of home directory"
    source :=
      "\\brm\\s+(-[a-zA-Z]*r[a-zA-Z]*f|-[a-zA-Z]*f[a-zA-Z]*r)\\s+(~|\\$HOME|\\$\\\x7bHOME\\\x7d)(/|\\s|$)"
    level := .critical
    message :=
      "CRITICAL: This command will recursively delete your entire home directory!"
    suggestion :=
      "Be extremely careful with 'rm -rf ~' - specify exact subdirectories instead." },
  { name := "RecursiveDelete"
    description :=
      "Detects potentially dangerous recursive deletion"
    source :=
      "\\brm\\s+(-[a-zA-Z]*r[a-zA-Z]*f|-[a-zA-Z]*f[a-zA-Z]*r)"
    level := .high
    message :=
      "Warning: Recursive deletion detected. This will permanently delete files and directories."
    suggestion :=
      "Consider using 'trash' command instead of 'rm -rf' for recoverable deletion." },
  { name := "CurlBash"
    description :=
      "Detects piping curl output directly to bash"
    source :=
      "curl\\s+[^|]+\\|\\s*(sudo\\s+)?(bash|sh)"
    level := .high
    message :=
      "Security Risk: Executing remote scripts without verification is dangerous."
    suggestion :=
      "Download the script first, review it, then execute: curl -o script.sh URL && cat script.sh" },
  { name := "DDCommand"
    description :=
      "Detects dd command which can overwrite disks"
    source :=
      "\\bdd\\s+.*of=/dev/[a-zA-Z]"
    level := .critical
    message :=
      "CRITICAL: dd command targeting a device - this can destroy disk data!"
    suggestion :=
      "Double-check the 'of=' parameter. Consider using 'dd status=progress' to monitor." },
  { name := "ChmodRecursive777"
    description :=
      "Detects making files world-writable"
    source :=
      "chmod\\s+(-[a-zA-Z]*R|--recursive)\\s+777"
    level := .high
    message :=
      "Security Risk: Making files world-writable (777) is a major security vulnerability."
    suggestion :=
      "Use more restrictive permissions like 755 or 644. Only give write access when necessary." },
  { name := "ForkBomb"
    description :=
      "Detects fork bomb patterns"
    source :=
      ":\\(\\)\\s*\\\x7b.*:\\|:&.*\\\x7d;:"
    level := .critical
    message :=
      "CRITICAL: Fork bomb detected! This will crash your system."
    suggestion :=
      "This is a fork bomb that creates infinite processes. Never run this command." },
  { name := "SudoPasswordPipe"
    description :=
      "Detects piping passwords to sudo"
    source :=
      "echo\\s+[^|]+\\|\\s*sudo\\s+-S"
    level := .high
    message :=
      "Security Risk: Piping passwords to sudo is insecure and may be logged."
    suggestion :=
      "Use 'sudo' directly or configure NOPASSWD in sudoers for automation." },
  { name := "TruncateFile"
    description :=
      "Detects file truncation"
    source :=
      ">\\s*/[^/\\s]+"
    level := .medium
    message :=
      "Warning: '>' will overwrite the file completely. Data will be lost."
    suggestion :=
      "Use '>>' to append instead of '>' to overwrite, or backup the file first." },
  { name := "SystemDirectoryModification"
    description :=
      "Detects modifications to system directories"
    source :=
      "(rm|mv|chmod|chown)\\s+.*(/etc|/usr|/bin|/sbin|/lib|/boot|/sys|/proc)"
    level := .high
    message :=
      "System directory modification detected. This could affect system stability."
    suggestion :=
      "Ensure you have backups and understand the impact. Consider using configuration " ++
        "management tools." },
  { name := "WildcardWithRm"
    description :=
      "Detects rm with wildcards"
    source :=
      "rm\\s+[^|]*\\*"
    level := .medium
    message :=
      "Wildcard deletion detected. This may delete more files than intended."
    suggestion :=
      "Use 'ls' first to verify which files match the pattern before deletion." },
  { name := "ServiceManipulation"
    description :=
      "Detects service start/stop/restart commands"
    source :=
      "(systemctl|service)\\s+(stop|restart|disable|mask)"
    level := .medium
    message :=
      "Service manipulation detected. This may affect system services."
    suggestion :=
      "Ensure you understand the service dependencies before stopping or disabling services." },
  { name := "NetworkConfigChange"
    description :=
      "Detects network configuration changes"
    source :=
      "(ifconfig|ip\\s+addr|iptables|firewall-cmd)\\s+"
    level := .high
    message :=
      "Network configuration change detected. This may affect connectivity."
    suggestion :=
      "Have a backup access method ready in case network access is lost." },
  { name := "KernelModuleOperation"
    description :=
      "Detects kernel module operations"
    source :=
      "(insmod|rmmod|modprobe)\\s+"
    level := .high
    message :=
      "Kernel module operation detected. This affects core system functionality."
    suggestion :=
      "Ensure the module is compatible with your kernel version." },
  { name := "GitForceOperation"
    description :=
      "Detects git force operations"
    source :=
      "git\\s+.*--force|git\\s+push\\s+.*-f"
    level := .medium
    message :=
      "Git force operation detected. This may overwrite remote history."
    suggestion :=
      "Consider if force push is necessary. It can cause issues for other collaborators." },
  { name := "DatabaseDropOperation"
    description :=
      "Detects database drop operations"
    source :=
      "(DROP\\s+(DATABASE|TABLE)|mysql.*-e.*drop|psql.*-c.*drop)"
    level := .critical
    message :=
      "Database drop operation detected! This will permanently delete data."
    suggestion :=
      "Create a backup before dropping databases or tables." }]

/-- The built-in rules. -/
def rules : List Rule :=
  definitions.filterMap RuleDefinition.compile?

/-- The built-in rule with a name. -/
def get? (name : String) : Option Rule :=
  rules.find? (·.name == name)

/-- The built-in rules that match a command, in their order. -/
def check (command : String) : List Finding :=
  rules.filterMap (·.check .safety command)

end Builtin

end ShellGuard
