import Std.Time.DateTime.Timestamp
import ShellGuard.Cli.Run

/-!
The program: reads its command line, carries it out on the machine it runs on, and ends with its
exit code.

Three questions about the machine are answered only approximately.  Permissions are not looked at:
what exists counts as writable, and a file counts as one that can be made anywhere.  The user is
root if the variable `USER` says so.  Of a repository only its root and the branch that its head
names are read, so that it never has uncommitted changes or a remote.
-/

namespace ShellGuard.Machine

/-- The result of an action, none if it fails. -/
def attempt {α : Type} (action : IO α) : IO (Option α) := do
  try return some (← action) catch _ => return none

/-- Whether there is a file or a directory at a path. -/
def exists? (path : String) : IO Bool := do
  match ← (IO.FS.Handle.mk path .read).toBaseIO with
  | .ok _ => return true
  | .error (.noFileOrDirectory ..) => return false
  | .error (.inappropriateType ..) => return false
  | .error _ => return true

def write (path text : String) : IO (Except WriteFailure Unit) := do
  let parent := (Path.parent? path).getD ""
  let made ← if parent.isEmpty then pure (.ok ()) else (IO.FS.createDirAll parent).toBaseIO
  match made with
  | .error e => return .error (.directory (toString e))
  | .ok () =>
    match ← attempt (IO.FS.writeFile path text) with
    | some () => return .ok ()
    | none => return .error .file

def files : Files IO where
  exists? := exists?
  read path := attempt (IO.FS.readFile path)
  write := write

/-- The variables that the program looks at. -/
def variableNames : List String :=
  ["HOME", "USER", "NO_COLOR", "XDG_CONFIG_HOME", "XDG_DATA_HOME", "CMDGUARD_STRICT",
    "CMDGUARD_NO_PROMPT", "CMDGUARD_RULES_PATH", "CMDGUARD_AUTO_DENY"] ++ CiContext.markers

def lookups : List String → IO (List (String × String))
  | [] => return []
  | name :: rest => do
    match ← IO.getEnv name with
    | some value => return (name, value) :: (← lookups rest)
    | none => lookups rest

/-- The paths of a list at which something stands. -/
def existing (paths : List String) : IO (List String) :=
  paths.filterM exists?

/-- What the directory is like in which the program runs. -/
def environment (dir : String) (home : Option String) : IO Environment := do
  let above := Path.ancestors dir (Environment.repositorySearchDepth + 1)
  let repositories ← existing (above.map (Path.join · ".git/."))
  return .ofDirectory ⟨fun path => repositories.contains (path ++ "/."), fun _ => true⟩ dir home

/-- The branch that the text of a repository's head names. -/
def branchOf (head : String) : String :=
  let start := "ref: refs/heads/"
  if head.startsWith start then Text.trim (String.ofList (head.toList.drop start.length)) else ""

/-- The repository that a directory belongs to, as far as its head tells. -/
def git (dir : String) : List String → IO GitContext
  | [] => return .none
  | above :: rest => do
    match ← attempt (IO.FS.readFile (Path.join above ".git/HEAD")) with
    | some head => return { GitContext.none with
        isRepository := true, currentBranch := branchOf head, rootPath := some above }
    | none => git dir rest

/-- Access to some paths: to all of them that exist. -/
def access (isRoot : Bool) (paths : List String) : IO Access := do
  let found ← existing paths
  return .listed isRoot found found

def now : IO Timestamp := do
  let t ← Std.Time.Timestamp.now
  return ⟨t.val.second.val, t.val.nano.val.toNat⟩

/-- Asks for an answer, of which there may be none. -/
def readLine : IO (Option String) := do
  IO.print "Proceed? [y]es / [n]o / [m]odify / [s]afe / [?]help "
  (← IO.getStdout).flush
  let line ← (← IO.getStdin).getLine
  return if line.isEmpty then none else some line

/-- The machine as a host. -/
def host : IO (Host IO) := do
  let known ← lookups variableNames
  let dir := toString (← IO.currentDir)
  let home := known.lookup "HOME"
  let tty ← (← IO.getStdout).isTty
  return {
    files
    lookup := (known.lookup ·)
    currentDirectory := dir
    environment := environment dir home
    git := git dir (Path.ancestors dir (dir.length + 1))
    access := access (known.lookup "USER" == some "root")
    now
    clock := IO.monoNanosNow
    out := fun s => IO.print s
    err := fun s => IO.eprint s
    readLine
    color := tty && (known.lookup "NO_COLOR").isNone }

/-- How the program is used. -/
def usage : String :=
  "Analyze shell commands before they run\n\n" ++
  "Usage: cmdguard [OPTIONS] <COMMAND>\n\n" ++
  "Commands:\n" ++
  "  check        Analyze a command and report findings (exit 1 when invalid)\n" ++
  "  safety       Analyze a command and ask for confirmation (exit 1 when denied)\n" ++
  "  rules        Manage custom rules\n" ++
  "  history      Show recorded decisions\n" ++
  "  config       Print the effective configuration\n" ++
  "  completions  Generate shell completions\n"

/-- What is printed about a command line that cannot be carried out. -/
def complaint : UsageError → String
  | .help | .nothingGiven => usage
  | .version => "cmdguard 0.1.0\n"
  | .missingSubcommand => "error: a subcommand is required\n"
  | .missingArgument => "error: a required argument was not provided\n"
  | .unknownSubcommand => "error: unrecognized subcommand\n"
  | .unknownArgument => "error: unexpected argument found\n"
  | .invalidValue | .unreadableValue => "error: invalid value for an argument\n"
  | .needlessValue => "error: unexpected value for an option\n"
  | .repeated => "error: an argument cannot be used multiple times\n"

end ShellGuard.Machine

open ShellGuard in
def main (args : List String) : IO UInt32 := do
  match Invocation.parse args with
  | .error e =>
    if e = .help ∨ e = .version then
      IO.print (Machine.complaint e)
      return 0
    else
      IO.eprint (Machine.complaint e)
      return 2
  | .ok inv =>
    match ← Cli.run (← Machine.host) inv with
    | .error e =>
      IO.eprintln ("Error: " ++ e.message)
      return 1
    | .ok code => return code.toUInt32
