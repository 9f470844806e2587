import ShellGuard.Path
import ShellGuard.Pattern.Reach
import ShellGuard.Pattern.Reader

/-!
The permissions a command needs, read off its text and compared with those there are.
-/

namespace ShellGuard

/-- What is known about the user and the files. -/
structure Access where
  isRoot : Bool
  canWrite : String → Bool
  exists? : String → Bool

/-- Access to the files in two lists: those that exist and those that can be written to.  Root can
write everywhere. -/
def Access.listed (isRoot : Bool) (existing writable : List String) : Access where
  isRoot := isRoot
  canWrite p := isRoot || writable.any (Path.same p)
  exists? p := existing.any (Path.same p)

/-- The permissions a command needs. -/
structure Requirement where
  requiresRoot : Bool
  requiresWrite : Bool
  affectedPaths : List String
  missing : List String
deriving Repr, DecidableEq

namespace Requirement

/-- Directories that only root may modify. -/
def systemPaths : List String :=
  ["/etc", "/usr", "/bin", "/sbin", "/boot", "/dev", "/proc", "/sys", "/lib", "/lib64", "/var/log",
    "/opt", "/root"]

/-- Whether a path lies in a directory that only root may modify. -/
def isSystemPath (path : String) : Bool :=
  systemPaths.any (Path.startsWith path ·)

/-- Commands that need root. -/
def rootVerbs : Option Pattern :=
  Pattern.ofText?
    ("\\b(sudo|systemctl|service|apt|apt-get|yum|dnf|pacman|mount|umount|fdisk|parted|mkfs|" ++
      "iptables|firewall-cmd|ufw|useradd|userdel|usermod|groupadd|chown)\\b|" ++
      "\\bchmod\\b.*[0-7]\x7b3\x7d|\\bsu\\s")

/-- Commands that write. -/
def writeVerbs : Option Pattern :=
  Pattern.ofText? ">|\\b(rm|mv|cp|mkdir|touch|tee)\\b|\\bsed\\s+-i"

/-- Words that are operators of the shell. -/
def operators : List String :=
  ["|", "||", "&&", ";", ">", ">>", "<", "<<", "&"]

def isQuote (c : Char) : Bool :=
  c == '"' || c == '\''

/-- A word without the quotes at its ends. -/
def unquoted (word : List Char) : List Char :=
  ((word.dropWhile isQuote).reverse.dropWhile isQuote).reverse

/-- Whether a word looks like a path. -/
def looksLikePath (word : List Char) : Bool :=
  word.contains '/' || word.head? == some '~'

/-- The words of a command that look like paths, without quotes. -/
def paths (command : String) : List String :=
  (((Text.words command).filter fun w => w.toList.head? != some '-' && !operators.contains w).map
    fun w => String.ofList (unquoted w.toList)).filter (looksLikePath ·.toList)

/-- The path that decides about a word: the path itself if it exists, else the directory it would be
made in. -/
def decisive (access : Access) (home : Option String) (word : String) : Option String :=
  let path := Path.expandHome home word
  if access.exists? path then some path else (Path.parent? path).filter access.exists?

/-- The paths that may decide about the words of a command. -/
def consulted (home : Option String) (command : String) : List String :=
  (paths command).flatMap fun word =>
    let path := Path.expandHome home word
    path :: (Path.parent? path).toList

/-- What is missing for one path. -/
def missingFor (access : Access) (writes : Bool) (path : String) : List String :=
  (if writes && !access.canWrite path then ["Write permission required for: " ++ path] else []) ++
    if isSystemPath path && !access.isRoot && writes then
      ["Root access required to modify system path: " ++ path]
    else []

/-- The permissions a command needs. -/
def ofCommand (access : Access) (home : Option String) (command : String) : Requirement :=
  let writes := writeVerbs.any (·.isMatch command)
  let affected := paths command
  let decisives := affected.filterMap (decisive access home)
  let root :=
    rootVerbs.any (·.isMatch command) || (!access.isRoot && decisives.any isSystemPath)
  { requiresRoot := root
    requiresWrite := writes
    affectedPaths := affected
    missing := decisives.flatMap (missingFor access writes) ++
      if root && !access.isRoot then
        ["Command requires root privileges but running as regular user"]
      else [] }

end Requirement

end ShellGuard
