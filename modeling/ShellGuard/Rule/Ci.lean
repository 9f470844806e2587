import ShellGuard.Rule.Basic
import ShellGuard.Text.Search

/-!
Checks that apply only inside the jobs of a continuous integration system.
-/

namespace ShellGuard

/-- The systems that are told apart. -/
inductive CiPlatform
  | githubActions
  | gitlabCi
  | circleCi
  | jenkins
  | travisCi
  | azurePipelines
  | unknown
deriving Repr, DecidableEq, Inhabited

/-- The name of a system. -/
def CiPlatform.name : CiPlatform → String
  | githubActions => "github-actions"
  | gitlabCi => "gitlab-ci"
  | circleCi => "circleci"
  | jenkins => "jenkins"
  | travisCi => "travis-ci"
  | azurePipelines => "azure-pipelines"
  | unknown => "unknown"

/-- Whether a command runs in a job, and of which system. -/
structure CiContext where
  isCi : Bool
  platform : CiPlatform
deriving Repr, DecidableEq, Inhabited

namespace CiContext

/-- Outside any job. -/
def none : CiContext :=
  ⟨false, .unknown⟩

/-- Variables that show that a command runs in a job. -/
def markers : List String :=
  ["CI", "CONTINUOUS_INTEGRATION", "BUILD_ID", "BUILD_NUMBER", "GITHUB_ACTIONS", "GITLAB_CI",
    "CIRCLECI", "JENKINS_URL", "TRAVIS", "TF_BUILD"]

/-- Whether a variable has a value that is not empty. -/
def isSet (lookup : String → Option String) (name : String) : Bool :=
  (lookup name).any (!·.isEmpty)

/-- The system that the variables of the environment show. -/
def platformOf (lookup : String → Option String) : CiPlatform :=
  let is := fun (name value : String) => lookup name == some value
  if is "GITHUB_ACTIONS" "true" then .githubActions
  else if is "GITLAB_CI" "true" then .gitlabCi
  else if is "CIRCLECI" "true" then .circleCi
  else if isSet lookup "JENKINS_URL" || isSet lookup "BUILD_ID" then .jenkins
  else if is "TRAVIS" "true" then .travisCi
  else if is "TF_BUILD" "True" then .azurePipelines
  else .unknown

/-- What the variables of the environment show. -/
def ofLookup (lookup : String → Option String) : CiContext :=
  ⟨markers.any (isSet lookup), platformOf lookup⟩

end CiContext

namespace Ci

/-- Texts that look like a secret in the open. -/
def secretSources : List String := [
  "(?i)(password|passwd|pwd)\\s*[:=]\\s*\\S+",
  "(?i)(secret|token|key|api_key|apikey)\\s*[:=]\\s*\\S+",
  "(?i)(aws_access_key_id|aws_secret_access_key)\\s*[:=]\\s*\\S+",
  "(?i)(auth|authorization|bearer)\\s*[:=]\\s*\\S+",
  "(?i)-----BEGIN\\s+(RSA\\s+)?PRIVATE\\s+KEY-----",
  "(?i)(mysql|postgres|mongodb|redis)://[^@]+:[^@]+@",
  "(?i)sqlite://.*\\.db",
  "(?i)(github_token|gh_token|gitlab_token|gl_token)\\s*[:=]\\s*\\S+",
  "(?i)(npm_token|pypi_token|gem_token)\\s*[:=]\\s*\\S+"]

/-- Patterns of secrets in the open. -/
def secrets : List Pattern :=
  secretSources.filterMap Pattern.ofText?

/-- A variable that is printed. -/
def printedVariable : Option Pattern :=
  Pattern.ofText? "(echo|print|printf|cat)\\s+.*\\$\\\x7b?[A-Z_]+"

/-- All variables printed at once. -/
def environmentDump : Option Pattern :=
  Pattern.ofText? "(^|[;&|(]\\s*)(env|printenv)\\s*($|[;&)])"

/-- Variables that must not reach the log of a job. -/
def sensitiveVariables : List String :=
  ["AWS_ACCESS_KEY_ID", "AWS_SECRET_ACCESS_KEY", "GITHUB_TOKEN", "NPM_TOKEN", "DOCKER_PASSWORD"]

def checkSecrets (command : String) : List Finding :=
  if secrets.any (·.isMatch command) then
    [.hazard "cicd-secret-exposure" .critical "Potential secret detected in command"
      "Use secure secret storage (e.g., GitHub Secrets, GitLab Variables)"]
  else []

def checkPlatform (command : String) (platform : CiPlatform) : List Finding :=
  let has := Text.contains command
  match platform with
  | .githubActions =>
    (if has "GITHUB_TOKEN=" || has "GH_TOKEN=" then
      [.hazard "github-actions-token" .critical "Hardcoded GitHub token detected"
        ("Use $\x7b\x7b secrets.GITHUB_TOKEN \x7d\x7d or $\x7b\x7b github.token \x7d\x7d")]
     else []) ++
    if has "::set-output" then
      [((Finding.hit .deprecated "github-actions-deprecated" .low
        "set-output is deprecated in GitHub Actions").withSeverity .warning).suggest
        "Use $GITHUB_OUTPUT instead: echo \"name=value\" >> $GITHUB_OUTPUT"]
    else []
  | .gitlabCi =>
    if has "CI_JOB_TOKEN" && has "echo" then
      [.hazard "gitlab-ci-token" .high "Exposing CI_JOB_TOKEN is dangerous"
        "Never echo CI_JOB_TOKEN; use it directly in API calls"]
    else []
  | .circleCi =>
    if has "CIRCLE_TOKEN" then
      [.hazard "circleci-token" .critical "CircleCI token detected in command"
        "Use CircleCI contexts for secure credential storage"]
    else []
  | .jenkins =>
    if has "withCredentials" && has "echo" then
      [.hazard "jenkins-credentials" .medium "Echoing credentials in Jenkins pipeline"
        "Avoid echoing credentials; Jenkins masks them in logs"]
    else []
  | _ => []

def checkExposure (command : String) : List Finding :=
  (if printedVariable.any (·.isMatch command) then
    (sensitiveVariables.filter fun name =>
        Text.contains command ("$" ++ name) || Text.contains command ("$\x7b" ++ name ++ "\x7d")).map
      fun name =>
        .hazard "cicd-env-exposure" .high ("Exposing sensitive environment variable: " ++ name)
          "Mask or redact sensitive values in CI/CD logs"
   else []) ++
  if environmentDump.any (·.isMatch command) then
    [.hazard "cicd-env-dump" .medium "Command may expose all environment variables"
      "Filter output to show only necessary variables"]
  else []

/-- What a job should not do, as written down. -/
def jobDefinitions : List RuleDefinition := [
  { name := "cicd-infinite-loop"
    description := ""
    source := "while\\s+true|for\\s*\\(\\s*;\\s*;\\s*\\)"
    level := .high
    message := "Infinite loop detected - this will timeout CI/CD jobs"
    suggestion := "Add proper exit conditions or timeouts" },
  { name := "cicd-sleep-long"
    description := ""
    source := "sleep\\s+([0-9]\x7b4,\x7d|[0-9]+[hd])"
    level := .medium
    message := "Long sleep detected - this wastes CI/CD resources"
    suggestion := "Reduce sleep duration or use proper wait conditions" },
  { name := "cicd-modify-ci-files"
    description := ""
    source :=
      "(rm|mv|echo.*>)\\s+\\.?(github/workflows|gitlab-ci\\.yml|circleci/config|Jenkinsfile)"
    level := .high
    message := "Modifying CI/CD configuration files during build"
    suggestion := "CI/CD configs should be modified via version control" },
  { name := "cicd-docker-privileged"
    description := ""
    source := "docker\\s+run\\s+.*--privileged"
    level := .high
    message := "Running privileged Docker containers in CI/CD is risky"
    suggestion := "Use specific capabilities instead of --privileged" }]

/-- What a job should not do. -/
def jobRules : List Rule :=
  jobDefinitions.filterMap RuleDefinition.compile?

def checkJob (command : String) : List Finding :=
  jobRules.filterMap fun r => (r.check .safety command).map (·.withSeverity .warning)

/-- The findings in a job; outside any job there are none. -/
def check (command : String) (ctx : CiContext) : List Finding :=
  if ctx.isCi then
    checkSecrets command ++ checkPlatform command ctx.platform ++ checkExposure command ++
      checkJob command
  else []

end Ci

end ShellGuard
