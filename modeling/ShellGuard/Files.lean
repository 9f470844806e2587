/-!
Access to files.  What a computation needs of a file system is given to it, so that it runs the same
on a real one and on one kept in memory.
-/

namespace ShellGuard

/-- Why a file was not written. -/
inductive WriteFailure
  /-- A directory above it could not be made, and why. -/
  | directory (reason : String)
  /-- The file itself could not be written. -/
  | file
deriving Repr, DecidableEq, Inhabited

/-- The files a computation may use. -/
structure Files (m : Type → Type) where
  exists? : String → m Bool
  /-- The text of a file, if it can be read. -/
  read : String → m (Option String)
  /-- Replaces the text of a file, making the directories above it. -/
  write : String → String → m (Except WriteFailure Unit)

end ShellGuard
