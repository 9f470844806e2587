import ShellGuard.Rule.Store

/-!
The rules file that a user starts with, and loading a rules file.
-/

namespace ShellGuard

/-- The rules a user starts with. -/
def startingRules : List CustomRule :=
  [{ name := "no-force-push-main"
     description := "Prevent force push to main branch"
     pattern := "git\\s+push\\s+.*--force.*\\s+(origin\\s+)?(main|master)"
     risk := "high"
     message := "Force pushing to main branch is dangerous and can cause data loss"
     suggest := "Create a feature branch instead or use --force-with-lease"
     enabled := true
     tags := ["git", "security"] },
   { name := "no-curl-pipe-bash"
     description := "Prevent curl | bash pattern"
     pattern := "curl\\s+.*\\|\\s*(sudo\\s+)?bash"
     risk := "critical"
     message := "Piping curl output directly to bash is extremely dangerous"
     suggest := "Download the script first, review it, then execute"
     enabled := true
     tags := ["security", "download"] },
   { name := "no-password-in-command"
     description := "Prevent passwords in command line"
     pattern := "--password[= ]|PASS(WORD)?=|-p\\s+\\S+"
     risk := "critical"
     message := "Never include passwords directly in commands"
     suggest := "Use environment variables or secure credential storage"
     enabled := true
     tags := ["security", "credentials"] },
   { name := "no-npm-force"
     description := "Warn about npm --force flag"
     pattern := "npm\\s+.*--force"
     risk := "medium"
     message := "Using --force with npm can lead to broken dependencies"
     suggest := "Try to resolve conflicts without --force first"
     enabled := true
     tags := ["npm", "development"] },
   { name := "docker-privileged"
     description := "Warn about privileged Docker containers"
     pattern := "docker\\s+run\\s+.*--privileged"
     risk := "high"
     message := "Running privileged containers bypasses Docker security"
     suggest := "Use specific capabilities instead of --privileged"
     enabled := true
     tags := ["docker", "security"] },
   { name := "recursive-chmod-777"
     description := "Prevent chmod 777 on directories"
     pattern := "chmod\\s+.*\\b777\\b.*-R|chmod\\s+.*-R.*\\b777\\b"
     risk := "high"
     message := "Setting 777 permissions recursively is a security risk"
     suggest := "Use more restrictive permissions like 755 or 644"
     enabled := true
     tags := ["permissions", "security"] },
   { name := "aws-credentials-exposed"
     description := "Prevent AWS credential exposure"
     pattern := "AWS_(SECRET_)?ACCESS_KEY|aws_access_key_id|aws_secret_access_key"
     risk := "critical"
     message := "Command may expose AWS credentials"
     suggest := "Use AWS credential file or IAM roles"
     enabled := true
     tags := ["aws", "security", "credentials"] },
   { name := "drop-database-prod"
     description := "Prevent dropping production databases"
     pattern := "DROP\\s+DATABASE.*(prod|production)"
     risk := "critical"
     message := "Attempting to drop what appears to be a production database"
     suggest := "Double-check the database name and consider a backup first"
     enabled := true
     tags := ["database", "destructive"] }]

/-- A rule as it stands in the file a user starts with: the pattern between single quotes, and what
has its default left out. -/
def CustomRule.startingText (r : CustomRule) : String :=
  "[[rules]]\n" ++
    Toml.entry "name" (Toml.quote r.name) ++
    Toml.entry "description" (Toml.quote r.description) ++
    Toml.entry "pattern" ("'" ++ r.pattern ++ "'") ++
    Toml.entry "risk" (Toml.quote r.risk) ++
    Toml.entry "message" (Toml.quote r.message) ++
    Toml.entry "suggest" (Toml.quote r.suggest) ++
    Toml.entry "tags" (Toml.inlineTexts r.tags)

namespace RuleStore

/-- The text of the file a user starts with. -/
def startingText : String :=
  header ++ Text.join "\n" (startingRules.map CustomRule.startingText)

/-- Makes the file a user starts with, unless there is a file. -/
def ensure {m : Type → Type} [Monad m] (files : Files m) (path : String) :
    m (Except WriteFailure Unit) := do
  if ← files.exists? path then return .ok () else files.write path startingText

/-- The store of a rules file, which is made first if there is none. -/
def load {m : Type → Type} [Monad m] (files : Files m) (path : String) :
    m (Except RuleError RuleStore) := do
  match ← ensure files path with
  | .error _ => return .error (.file path)
  | .ok () =>
    match ← files.read path with
    | none => return .error (.file path)
    | some text =>
      match parse text with
      | .error e => return .error e
      | .ok store => return .ok { store with path := some path }

end RuleStore

end ShellGuard
