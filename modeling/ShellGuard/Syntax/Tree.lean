import ShellGuard.Finding
import ShellGuard.Syntax.Parameter

/-!
Command trees, the order in which they are walked, and what can be wrong with a single node.
-/

namespace ShellGuard

/-- What a redirect does. -/
inductive RedirectKind
  | input
  | output
  | error
  | append
  | here
  | duplicate
deriving Repr, DecidableEq, Inhabited

/-- A redirect: what it does, to which descriptor, and where to. -/
structure Redirect where
  kind : RedirectKind
  fd : Int
  target : String
deriving Repr, DecidableEq, Inhabited

/-- What stands between two items of a list. -/
inductive Separator
  | semicolon
  | ampersand
  | andIf
  | orIf
deriving Repr, DecidableEq, Inhabited

/-- A command tree. -/
inductive Node
  /-- A simple command.  `children` holds the structured parts of its words and its redirects. -/
  | command (position : Position) (name : String) (args : List String) (children : List Node)
  /-- Commands joined by pipes; `trailingPipe` tells that nothing followed the last one. -/
  | pipeline (position : Position) (commands : List Node) (trailingPipe : Bool)
  | redirect (position : Position) (redirect : Redirect)
  /-- `(...)`, or a substitution when `isCommand` holds. -/
  | subshell (position : Position) (body : Option Node) (isCommand backtick : Bool)
  | parameter (position : Position) (parameter : Parameter)
  /-- Quoted text and the expansions found inside it. -/
  | quoted (position : Position) (style : QuoteStyle) (value : String) (expansions : List Node)
  | glob (position : Position) (pattern : String)
  | background (position : Position) (body : Node)
  | list (position : Position) (items : List Node) (separators : List Separator)
  /-- Two sides of `&&`. -/
  | both (position : Position) (left right : Node)
  /-- Two sides of `||`. -/
  | either (position : Position) (left right : Node)
deriving Repr, Inhabited

namespace Node

/-- The kind of a node, without its contents. -/
inductive Kind
  | command
  | pipeline
  | redirect
  | subshell
  | parameter
  | quoted
  | glob
  | background
  | list
  | both
  | either
deriving Repr, DecidableEq, Inhabited

def kind : Node → Kind
  | command .. => .command
  | pipeline .. => .pipeline
  | redirect .. => .redirect
  | subshell .. => .subshell
  | parameter .. => .parameter
  | quoted .. => .quoted
  | glob .. => .glob
  | background .. => .background
  | list .. => .list
  | both .. => .both
  | either .. => .either

def position : Node → Position
  | command p .. => p
  | pipeline p .. => p
  | redirect p .. => p
  | subshell p .. => p
  | parameter p .. => p
  | quoted p .. => p
  | glob p .. => p
  | background p .. => p
  | list p .. => p
  | both p .. => p
  | either p .. => p

/-- The direct children, in the order of the text. -/
def children : Node → List Node
  | command _ _ _ cs => cs
  | pipeline _ cs _ => cs
  | subshell _ body _ _ => body.toList
  | quoted _ _ _ es => es
  | background _ b => [b]
  | list _ is _ => is
  | both _ l r => [l, r]
  | either _ l r => [l, r]
  | redirect .. => []
  | parameter .. => []
  | glob .. => []

mutual

/-- The nodes of a tree in front of `after`, each before its children, entering only the children of
nodes that `enter` admits. -/
def walkOnto (enter : Node → Bool) (n : Node) (after : List Node) : List Node :=
  n :: if enter n then
    match n with
    | command _ _ _ cs => walkAllOnto enter cs after
    | pipeline _ cs _ => walkAllOnto enter cs after
    | subshell _ body _ _ => walkOptionOnto enter body after
    | quoted _ _ _ es => walkAllOnto enter es after
    | background _ b => b.walkOnto enter after
    | list _ is _ => walkAllOnto enter is after
    | both _ l r => l.walkOnto enter (r.walkOnto enter after)
    | either _ l r => l.walkOnto enter (r.walkOnto enter after)
    | redirect .. => after
    | parameter .. => after
    | glob .. => after
  else after

def walkAllOnto (enter : Node → Bool) : List Node → (after : List Node) → List Node
  | [], after => after
  | n :: ns, after => n.walkOnto enter (walkAllOnto enter ns after)

def walkOptionOnto (enter : Node → Bool) : Option Node → (after : List Node) → List Node
  | none, after => after
  | some n, after => n.walkOnto enter after

end

/-- The nodes of a tree, each before its children, entering only the children of nodes that `enter`
admits. -/
def walkWhere (enter : Node → Bool) (n : Node) : List Node :=
  n.walkOnto enter []

/-- The nodes of a tree, each before its children. -/
def walk (n : Node) : List Node :=
  n.walkWhere fun _ => true

/-- The nodes of one kind, in the order of the walk. -/
def find (kind : Kind) (n : Node) : List Node :=
  n.walk.filter (·.kind == kind)

/-- The words of a simple command, its name first. -/
def words : Node → List String
  | command _ name args _ => name :: args
  | _ => []

/-- The redirects of a simple command. -/
def redirects (n : Node) : List Redirect :=
  n.children.filterMap fun
    | redirect _ r => some r
    | _ => none

/-- Every simple command of a tree, those inside substitutions included. -/
def commands (n : Node) : List Node :=
  n.find .command

/-! ## What can be wrong with one node -/

/-- The flaws of a node itself; its children are not looked at. -/
def flaws : Node → List Finding
  | command p name _ _ =>
    if name.isEmpty then [(Finding.flaw "Empty command").placed p] else []
  | pipeline p commands trailingPipe =>
    (if commands.isEmpty then [(Finding.flaw "Empty pipeline").placed p] else []) ++
      if trailingPipe then
        [((Finding.flaw "Unexpected end of command after pipe").placed p).suggest
          "Add a command after the pipe (|) or remove the pipe"]
      else []
  | redirect p r =>
    (if r.target.isEmpty then [(Finding.flaw "Missing redirect target").placed p] else []) ++
      if 0 ≤ r.fd ∧ r.fd ≤ 9 then []
      else [(Finding.flaw ("Invalid file descriptor: " ++ toString r.fd)).placed p]
  | parameter p v =>
    if v.isSpecial || isName v.name.toList then []
    else
      [((Finding.flaw ("Invalid variable name: " ++ v.name)).placed p).suggest
        "Variable names must start with letter or underscore"]
  | _ => []

/-- The complaint about a substitution written with backticks. -/
def backtickWarning (p : Position) : Finding :=
  ((Finding.plain .deprecated .warning "Backticks for command substitution are deprecated").placed
    p).suggest "Use $(...) instead of `...`"

/-- The use of a form that still works but should not be written any more. -/
def deprecations : Node → List Finding
  | subshell p _ _ true => [backtickWarning p]
  | _ => []

/-- What is wrong anywhere in a tree; in strict mode also what is deprecated. -/
def review (strict : Bool) (n : Node) : List Finding :=
  n.walk.flatMap fun m => m.flaws ++ if strict then m.deprecations else []

end Node

end ShellGuard
