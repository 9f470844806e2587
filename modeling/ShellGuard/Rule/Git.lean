import ShellGuard.Syntax.Parser
import ShellGuard.Text.Search

/-!
Checks on `git` commands, some of which depend on the state of the repository.
-/

namespace ShellGuard

/-- The state of the repository a command runs in. -/
structure GitContext where
  isRepository : Bool
  currentBranch : String
  hasUncommittedChanges : Bool
  remoteUrl : String
  rootPath : Option String
deriving Repr, DecidableEq, Inhabited

/-- The state outside any repository. -/
def GitContext.none : GitContext :=
  ⟨false, "", false, "", Option.none⟩

namespace Git

/-- The branches that are protected unless others are named. -/
def protectedBranches : List String :=
  ["main", "master", "production", "release"]

/-- A `git` command taken apart. -/
structure Invocation where
  subcommand : String
  flags : List String
  args : List String
deriving Repr, DecidableEq

/-- Whether a word is an option. -/
def isOption (w : String) : Bool :=
  ['-'].isPrefixOf w.toList

/-- Options before the subcommand that take the next word as their value. -/
def takesValue (w : String) : Bool :=
  w == "-C" || w == "-c" || w == "--git-dir" || w == "--work-tree"

/-- The words from the subcommand on, options before it dropped. -/
def dropGlobalOptions : List String → List String
  | [] => []
  | [w] => if takesValue w || isOption w then [] else [w]
  | w :: v :: rest =>
    if takesValue w then dropGlobalOptions rest
    else if isOption w then dropGlobalOptions (v :: rest)
    else w :: v :: rest

/-- Take apart the words after `git`. -/
def Invocation.ofWords (words : List String) : Option Invocation :=
  match dropGlobalOptions words with
  | [] => Option.none
  | subcommand :: rest => some ⟨subcommand, rest.filter isOption, rest.filter (!isOption ·)⟩

namespace Invocation

/-- Whether a push is forced: by a long option, by `-f`, or by a refspec that begins with `+`. -/
def isForced (inv : Invocation) : Bool :=
  inv.flags.any (fun f => Text.contains f "force" || (inv.subcommand == "push" && f == "-f")) ||
    (inv.subcommand == "push" && inv.args.any fun a => ['+'].isPrefixOf a.toList)

/-- Whether some short option holds a letter. -/
def hasShort (inv : Invocation) (c : Char) : Bool :=
  inv.flags.any fun f => !(['-', '-'].isPrefixOf f.toList) && (f.toList.drop 1).contains c

/-- Whether some long option begins with a name. -/
def hasLong (inv : Invocation) (name : String) : Bool :=
  inv.flags.any fun f => ('-' :: '-' :: name.toList).isPrefixOf f.toList

end Invocation

/-- Whether a branch is one of the protected ones. -/
def isProtected (branches : List String) (branch : String) : Bool :=
  !branch.isEmpty && branches.contains branch

/-- Ends of the names of files that hold secrets. -/
def sensitiveEndings : List String :=
  [".pem", ".key", ".pfx", ".p12", ".env", ".envrc", ".secrets", ".passwd"]

/-- Pieces of the names of files that hold secrets. -/
def sensitivePieces : List String :=
  [".env.", "id_rsa", "id_dsa", "id_ecdsa", "id_ed25519", ".password", ".aws/credentials", ".ssh/"]

/-- Whether a file probably holds secrets. -/
def isSensitive (path : String) : Bool :=
  sensitiveEndings.any (·.toList.isSuffixOf path.toList) ||
    sensitivePieces.any (Text.contains path ·)

/-- A text without any number of copies of a non-empty piece in front; the first `skip` characters
belong to the copy dropped last. -/
def dropCopies (piece : List Char) (skip : Nat) : List Char → List Char
  | [] => []
  | c :: cs =>
    match skip with
    | n + 1 => dropCopies piece n cs
    | 0 => if piece.isPrefixOf (c :: cs) then dropCopies piece (piece.length - 1) cs else c :: cs

/-- The branch a refspec writes to. -/
def refspecTarget (refspec : List Char) : List Char :=
  let spec := refspec.dropWhile (· == '+')
  let source := spec.takeWhile (· != ':')
  let destination := (spec.dropWhile (· != ':')).drop 1
  dropCopies "refs/heads/".toList 0 (if destination.isEmpty then source else destination)

/-- The branch a push writes to: that of the refspec after the remote, else the current one. -/
def pushTarget (inv : Invocation) (ctx : GitContext) : String :=
  match inv.args[1]? with
  | some refspec => String.ofList (refspecTarget refspec.toList)
  | Option.none => ctx.currentBranch

def checkPush (branches : List String) (ctx : GitContext) (inv : Invocation) : List Finding :=
  let target := pushTarget inv ctx
  if inv.isForced && isProtected branches target then
    [.hazard "git-force-push-protected" .high
      ("Force pushing to protected branch '" ++ target ++ "' is dangerous")
      "Create a feature branch or use --force-with-lease for safer force pushes"]
  else []

def checkReset (ctx : GitContext) (inv : Invocation) : List Finding :=
  if inv.hasLong "hard" && ctx.hasUncommittedChanges then
    [.hazard "git-reset-hard-uncommitted" .medium "Hard reset will discard uncommitted changes"
      "Stash your changes first with 'git stash' or commit them"]
  else []

def checkClean (inv : Invocation) : List Finding :=
  if (inv.hasShort 'f' || inv.hasLong "force") && inv.hasShort 'd' &&
      (inv.hasShort 'x' || inv.hasShort 'X') then
    [(Finding.hazard "git-clean-aggressive" .high
      "git clean -fdx will remove all untracked files, directories, and ignored files"
      "Use 'git clean -n' first to preview what will be deleted").withSeverity .warning]
  else []

def checkRebase (branches : List String) (ctx : GitContext) : List Finding :=
  if isProtected branches ctx.currentBranch then
    [.hazard "git-rebase-protected" .medium
      ("Rebasing protected branch '" ++ ctx.currentBranch ++
        "' can cause issues for other developers")
      "Consider creating a feature branch for rebasing"]
  else []

def checkAdd (inv : Invocation) : List Finding :=
  (inv.args.filter isSensitive).map fun path =>
    (Finding.hazard "git-add-sensitive" .high ("Adding potentially sensitive file: " ++ path)
      "Ensure this file doesn't contain secrets. Consider using .gitignore").withSeverity .warning

/-- The findings of one `git` command. -/
def checkInvocation (branches : List String) (ctx : GitContext) (inv : Invocation) :
    List Finding :=
  match inv.subcommand with
  | "push" => checkPush branches ctx inv
  | "reset" => checkReset ctx inv
  | "clean" => checkClean inv
  | "rebase" => checkRebase branches ctx
  | "add" => checkAdd inv
  | _ => []

/-- The words after `git` in a text that is a `git` command on one line. -/
def rawWords (command : List Char) : Option (List String) :=
  match Text.dropBlanks command with
  | 'g' :: 'i' :: 't' :: rest =>
    let words := Text.dropBlanks rest
    if rest.head?.any Text.isBlank && !words.contains '\n' then
      some (Text.words (String.ofList words))
    else Option.none
  | _ => Option.none

/-- The `git` commands of a tree or, where there is none, of the text itself. -/
def invocations (command : String) (root : Option Node) : List Invocation :=
  match root with
  | some root =>
    (root.commands.filter (·.words.head? == some "git")).filterMap
      fun c => Invocation.ofWords c.words.tail
  | Option.none => ((rawWords command.toList).bind Invocation.ofWords).toList

/-- The findings of all `git` commands of a command. -/
def check (branches : List String) (command : String) (root : Option Node) (ctx : GitContext) :
    List Finding :=
  (invocations command root).flatMap (checkInvocation branches ctx)

end Git

end ShellGuard
