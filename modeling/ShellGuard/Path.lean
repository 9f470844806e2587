/-!
Paths of files.  A path is a text; it is compared by its components, so repeated and trailing
slashes and dots between components do not count.
-/

namespace ShellGuard

/-- One step of a path. -/
inductive Component
  /-- The root, at the front of an absolute path. -/
  | root
  /-- A dot at the front of a path. -/
  | here
  /-- Two dots. -/
  | up
  | name (s : List Char)
deriving Repr, DecidableEq

namespace Path

/-- The pieces between slashes; `piece` holds the one being read, last character first. -/
def cutSlashes (piece : List Char) : List Char → List (List Char)
  | [] => [piece.reverse]
  | c :: cs => if c = '/' then piece.reverse :: cutSlashes [] cs else cutSlashes (c :: piece) cs

/-- The component of a piece behind the front of a path; empty pieces and dots are none. -/
def component? (piece : List Char) : Option Component :=
  if piece = [] ∨ piece = ['.'] then none
  else if piece = ['.', '.'] then some .up
  else some (.name piece)

/-- The component a path begins with that no piece behind the front can be. -/
def front (path : List Char) : List Component :=
  match path with
  | '/' :: _ => [.root]
  | ['.'] => [.here]
  | '.' :: '/' :: _ => [.here]
  | _ => []

/-- The components of a path. -/
def components (path : List Char) : List Component :=
  front path ++ (cutSlashes [] path).filterMap component?

/-- Whether a path begins with another one, component by component. -/
def startsWith (path start : String) : Bool :=
  (components start.toList).isPrefixOf (components path.toList)

/-- Whether two paths have the same components. -/
def same (a b : String) : Bool :=
  components a.toList == components b.toList

/-- How many characters at the front of a path belong to its root or leading dot. -/
def frontLength (path : List Char) : Nat :=
  match front path with
  | [] => 0
  | _ => 1

/-- The text of a path, last character first, without slashes and dots at its end that make no
component; `keep` characters at the front stay. -/
def dropTrailing (keep : Nat) : (reversed : List Char) → List Char
  | [] => []
  | c :: cs =>
    if (c :: cs).length ≤ keep then c :: cs
    else if c = '/' then dropTrailing keep cs
    else if c = '.' ∧ cs.head? = some '/' then dropTrailing keep cs
    else c :: cs

/-- The text of a path, last character first, without its last piece. -/
def dropPiece (keep : Nat) : (reversed : List Char) → List Char
  | [] => []
  | c :: cs =>
    if (c :: cs).length ≤ keep then c :: cs
    else if c = '/' then c :: cs
    else dropPiece keep cs

/-- The path without its last component, if it has one other than the root. -/
def parent? (path : String) : Option String :=
  let cs := path.toList
  match (components cs).getLast? with
  | none => none
  | some .root => none
  | some .here => some ""
  | some _ =>
    let keep := frontLength cs
    let trimmed := dropTrailing keep cs.reverse
    some (String.ofList (dropTrailing keep (dropPiece keep trimmed)).reverse)

/-- A path and the paths above it, at most `n` of them. -/
def ancestors (path : String) : Nat → List String
  | 0 => []
  | n + 1 =>
    path :: match parent? path with
      | none => []
      | some p => ancestors p n

/-- The path of a name inside a directory; an absolute name stands for itself. -/
def join (dir name : String) : String :=
  if name.toList.head? = some '/' ∨ dir.isEmpty then name
  else if dir.toList.getLast? = some '/' then dir ++ name
  else dir ++ "/" ++ name

/-- The path with a leading `~` replaced by the home directory, where it stands alone or before a
slash. -/
def expandHome (home : Option String) (path : String) : String :=
  match home, path.toList with
  | some h, ['~'] => h
  | some h, '~' :: '/' :: rest => h ++ String.ofList ('/' :: rest)
  | _, _ => path

end Path

end ShellGuard
