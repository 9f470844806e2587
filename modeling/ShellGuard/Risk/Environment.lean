import ShellGuard.Path

/-!
What is known about the place a command runs in.
-/

namespace ShellGuard

/-- Directories whose modification affects the whole system. -/
def importantPaths : List String :=
  ["/etc", "/usr", "/bin", "/sbin", "/boot", "/dev", "/proc", "/sys", "/lib", "/lib64", "/var",
    "/opt", "/root"]

/-- The place a command runs in, looked at once before it is analysed. -/
structure Environment where
  currentDirectory : String
  isGitRepository : Bool
  isHomeDirectory : Bool
  isSystemPath : Bool
  hasWritePermission : Bool
  importantPaths : List String
deriving Repr, DecidableEq

namespace Environment

/-- A place about which nothing is known. -/
def unknown : Environment :=
  ⟨"", false, false, false, false, ShellGuard.importantPaths⟩

/-- How many directories above the current one may hold the repository. -/
def repositorySearchDepth : Nat := 5

/-- What the environment is asked about directories. -/
structure Directories where
  /-- Whether a path leads to a directory. -/
  isDirectory : String → Bool
  /-- Whether a file can be made in a directory. -/
  writable : String → Bool

/-- Look at a directory. -/
def ofDirectory (d : Directories) (dir : String) (home : Option String) : Environment where
  currentDirectory := dir
  isGitRepository :=
    (Path.ancestors dir (repositorySearchDepth + 1)).any fun p => d.isDirectory (Path.join p ".git")
  isHomeDirectory := home.any (Path.startsWith dir ·)
  isSystemPath := ShellGuard.importantPaths.any (Path.startsWith dir ·)
  hasWritePermission := d.writable dir
  importantPaths := ShellGuard.importantPaths

end Environment

end ShellGuard
