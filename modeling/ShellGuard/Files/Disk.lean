import ShellGuard.Files
import ShellGuard.Path
import ShellGuard.Text.Utf8

/-!
A file system in memory.  A path is followed name by name, and every name but the last must lead to
a directory; so a dot or a slash behind a file leads nowhere, and neither do two dots behind
something that is not there.
-/

namespace ShellGuard

/-- What stands at a place. -/
inductive DiskNode
  | file (text : String)
  | directory
deriving Repr, DecidableEq

/-- The names on the way from the root. -/
abbrev DiskPlace := List (List Char)

/-- Files and directories by their places. -/
structure Disk where
  workingDirectory : DiskPlace := []
  nodes : List (DiskPlace × DiskNode) := []
deriving Repr

/-- Why a path cannot be used. -/
inductive PathFault
  | missing
  | taken
  | notDirectory
  | isDirectory
  | tooLong
  /-- It holds a character that no path can hold. -/
  | nulCharacter
deriving Repr, DecidableEq, Inhabited

/-- What the system says about a fault. -/
def PathFault.text : PathFault → String
  | missing => "No such file or directory (os error 2)"
  | taken => "File exists (os error 17)"
  | notDirectory => "Not a directory (os error 20)"
  | isDirectory => "Is a directory (os error 21)"
  | tooLong => "File name too long (os error 36)"
  | nulCharacter => "file name contained an unexpected NUL byte"

namespace Disk

/-- The most bytes a name may have. -/
def maxName : Nat := 255

/-- The most bytes a path may have. -/
def maxPath : Nat := 4095

/-- What stands at a place, the root being a directory. -/
def lookup (d : Disk) : DiskPlace → Option DiskNode
  | [] => some .directory
  | place => d.nodes.lookup place

def set (d : Disk) (place : DiskPlace) (n : DiskNode) : Disk :=
  { d with nodes := (place, n) :: d.nodes.filter (·.1 ≠ place) }

def erase (d : Disk) (place : DiskPlace) : Disk :=
  { d with nodes := d.nodes.filter (·.1 ≠ place) }

/-! ## Following paths -/

/-- The place a name leads to from a directory, whether or not something stands there. -/
def step (d : Disk) (place : DiskPlace) (name : List Char) : Except PathFault DiskPlace :=
  if d.lookup place ≠ some .directory then .error .notDirectory
  else if name = ['.'] then .ok place
  else if name = ['.', '.'] then .ok place.dropLast
  else if maxName < Utf8.size name then .error .tooLong
  else .ok (place ++ [name])

/-- The place some names lead to, something standing at each place on the way and at the end. -/
def follow (d : Disk) (place : DiskPlace) : List (List Char) → Except PathFault DiskPlace
  | [] => .ok place
  | name :: names => do
    let place ← d.step place name
    if (d.lookup place).isNone then .error .missing else d.follow place names

/-- Where a path starts, and the names in it. -/
def names (d : Disk) (path : String) : Except PathFault (DiskPlace × List (List Char)) :=
  let cs := path.toList
  if cs.contains (Char.ofNat 0) then .error .nulCharacter
  else if cs.isEmpty then .error .missing
  else if maxPath < Utf8.size cs then .error .tooLong
  else
    let start := if cs.head? = some '/' then [] else d.workingDirectory
    .ok (start, (Path.cutSlashes [] cs).filter (!·.isEmpty))

/-- Whether a path ends with a slash, which only directories may have. -/
def endsWithSlash (path : String) : Bool :=
  path.toList.getLast? == some '/'

/-- The place of what stands at a path. -/
def locate (d : Disk) (path : String) : Except PathFault DiskPlace := do
  let (start, names) ← d.names path
  let place ← d.follow start names
  if endsWithSlash path ∧ d.lookup place ≠ some .directory then .error .notDirectory
  else return place

/-- The place where something with the last name of a path can be made.  A path of dots alone at its
end leads to a directory that is there. -/
def placeFor (d : Disk) (path : String) : Except PathFault DiskPlace := do
  let (start, names) ← d.names path
  match names.getLast? with
  | none => .error .taken
  | some last =>
    let place ← d.follow start names.dropLast
    let target ← d.step place last
    if last = ['.'] ∨ last = ['.', '.'] then .error .taken else return target

/-! ## Looking -/

def node? (d : Disk) (path : String) : Option DiskNode :=
  match d.locate path with
  | .ok place => d.lookup place
  | .error _ => none

def exists? (d : Disk) (path : String) : Bool :=
  (d.node? path).isSome

def isDirectory (d : Disk) (path : String) : Bool :=
  d.node? path == some .directory

def read (d : Disk) (path : String) : Option String :=
  match d.node? path with
  | some (.file text) => some text
  | _ => none

/-- Whether a file can be made in a directory; the empty path is the working directory. -/
def canCreateIn (d : Disk) (path : String) : Bool :=
  d.isDirectory (if path.isEmpty then "." else path)

/-! ## Changing -/

/-- Makes a directory. -/
def makeDirectory (d : Disk) (path : String) : Except PathFault Disk := do
  let place ← d.placeFor path
  if (d.lookup place).isSome then .error .taken else return d.set place .directory

/-- Makes the first of some directories, each of the others being the one above it.  Those that can
be made stay even if not all can. -/
def makeDirectories (d : Disk) : List String → Except PathFault Unit × Disk
  | [] => (.ok (), d)
  | path :: above =>
    match d.makeDirectory path with
    | .ok d => (.ok (), d)
    | .error .missing =>
      match d.makeDirectories above with
      | (.error e, d) => (.error e, d)
      | (.ok (), d) =>
        match d.makeDirectory path with
        | .ok d => (.ok (), d)
        | .error e => (if d.isDirectory path then .ok () else .error e, d)
    | .error e => (if d.isDirectory path then .ok () else .error e, d)

/-- Makes a directory and those above it. -/
def makeTree (d : Disk) (path : String) : Except PathFault Unit × Disk :=
  d.makeDirectories ((Path.ancestors path (path.length + 1)).takeWhile (!·.isEmpty))

/-- Replaces the text of a file in a directory that is there. -/
def writeText (d : Disk) (path text : String) : Except PathFault Disk := do
  let place ← d.placeFor path
  if endsWithSlash path ∨ d.lookup place = some .directory then .error .isDirectory
  else return d.set place (.file text)

/-- Replaces the text of a file, making the directories above it. -/
def write (d : Disk) (path text : String) : Except WriteFailure Unit × Disk :=
  match d.makeTree ((Path.parent? path).getD "") with
  | (.error e, d) => (.error (.directory e.text), d)
  | (.ok (), d) =>
    match d.writeText path text with
    | .ok d => (.ok (), d)
    | .error _ => (.error .file, d)

/-- Removes a file and says whether there was one. -/
def removeFile (d : Disk) (path : String) : Bool × Disk :=
  match d.locate path with
  | .ok place =>
    match d.lookup place with
    | some (.file _) => (true, d.erase place)
    | _ => (false, d)
  | .error _ => (false, d)

/-- Puts an empty directory where a file may stand. -/
def putDirectory (d : Disk) (path : String) : Disk :=
  ((d.removeFile path).2.makeTree path).2

/-- Makes a directory the working directory. -/
def enter (d : Disk) (path : String) : Disk :=
  match d.locate path with
  | .ok place => { d with workingDirectory := place }
  | .error _ => d

/-- The files of a disk for computations that change it. -/
def files : Files (StateM Disk) where
  exists? path := do return (← get).exists? path
  read path := do return (← get).read path
  write path text := modifyGet (·.write path text)

end Disk

end ShellGuard
