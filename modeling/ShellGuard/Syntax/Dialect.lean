import ShellGuard.Text.Case
import ShellGuard.Text.Search

/-!
Shell dialects.  One grammar serves all of them; the dialect is only reported.
-/

namespace ShellGuard

/-- The shell a command is written for. -/
inductive Dialect
  | bash
  | zsh
  | fish
  | posix
  /-- To be guessed from the command. -/
  | auto
deriving Repr, DecidableEq, Inhabited

namespace Dialect

/-- The name of a dialect, also its form in files. -/
def name : Dialect → String
  | bash => "bash"
  | zsh => "zsh"
  | fish => "fish"
  | posix => "posix"
  | auto => "auto"

/-- The dialect a name stands for exactly. -/
def ofName? : String → Option Dialect
  | "bash" => some bash
  | "zsh" => some zsh
  | "fish" => some fish
  | "posix" => some posix
  | "auto" => some auto
  | _ => none

/-- Read a dialect as people type it.  What cannot be read is given back in lower case. -/
def parse (s : String) : Except String Dialect :=
  let word := Text.lower s
  if word = "sh" then .ok posix
  else
    match ofName? word with
    | some d => .ok d
    | none => .error word

/-- The complaint about a word that is no dialect. -/
def unknownMessage (word : String) : String :=
  "unknown shell '" ++ word ++ "'"

/-- Guess the dialect from what only one shell has. -/
def detect (command : String) : Dialect :=
  let has := Text.contains command
  if has "[[" && has "]]" then bash
  else if has "setopt" || has "zstyle" then zsh
  else if has "set -x" || has "set -l" then fish
  else posix

/-- The dialect to report for a command. -/
def resolve (d : Dialect) (command : String) : Dialect :=
  match d with
  | auto => detect command
  | d => d

end Dialect

end ShellGuard
