import ShellGuard.Toml.Scalar

/-!
How the lines of a settings document make up its tables.  A table is opened by a header of its own,
by a longer header that names it on the way, or by a dotted key; what may be added to it later
depends on which.
-/

namespace ShellGuard.Toml

/-- A value for the last key of a path. -/
structure Setting where
  path : List String
  value : Toml
deriving Repr, Inhabited

/-- A line of a document. -/
inductive Line
  | setting (s : Setting)
  /-- A header that opens a table. -/
  | table (path : List String)
  /-- A header that opens a further table in an array of tables. -/
  | item (path : List String)
deriving Repr, Inhabited

/-- How a table came to be. -/
inductive Origin
  /-- By a header. -/
  | header
  /-- On the way to a longer header. -/
  | implied
  /-- On the way of a dotted key. -/
  | dotted
deriving Repr, DecidableEq, Inhabited

/-- An entry of a table that is being built. -/
inductive Node
  | value (v : Toml)
  | table (origin : Origin) (entries : List (String × Node))
  /-- An array of tables, which headers extend. -/
  | tables (items : List (List (String × Node)))
deriving Repr, Inhabited

abbrev Nodes := List (String × Node)

mutual

/-- The value of a finished entry. -/
def Node.finish : Node → Toml
  | .value v => v
  | .table _ entries => Toml.table (finishEntries entries)
  | .tables items => Toml.array (finishItems items)

def finishEntries : Nodes → Entries
  | [] => []
  | (key, node) :: rest => (key, node.finish) :: finishEntries rest

def finishItems : List Nodes → List Toml
  | [] => []
  | entries :: rest => Toml.table (finishEntries entries) :: finishItems rest

end

/-- Changes the table at the end of a path, opening the tables that are missing on the way.  A dotted
key does not reach into a table that has a header of its own. -/
def descend (dotted : Bool) (change : Origin → Nodes → Option Nodes) :
    (path : List String) → Origin → Nodes → Option Nodes
  | [], origin, nodes => change origin nodes
  | key :: path, _, nodes =>
    match nodes.lookup key with
    | none => do
      let origin := if dotted then Origin.dotted else .implied
      let entries ← descend dotted change path origin []
      return put key (.table origin entries) nodes
    | some (.value _) => none
    | some (.table origin entries) => do
      guard (!(dotted && origin == .header))
      let entries ← descend dotted change path origin entries
      return put key (.table origin entries) nodes
    | some (.tables items) =>
      match items.getLast? with
      | none => none
      | some entries => do
        let entries ← descend dotted change path .header entries
        return put key (.tables (items.dropLast ++ [entries])) nodes

/-- A path without its last key, and that key. -/
def splitLast : List String → Option (List String × String)
  | [] => none
  | path@(_ :: _) => path.getLast?.map (path.dropLast, ·)

/-- A setting in a table.  A dotted key may add only to tables that dotted keys opened. -/
def assign (s : Setting) (nodes : Nodes) : Option Nodes := do
  let (path, key) ← splitLast s.path
  let add := fun (origin : Origin) (entries : Nodes) => do
    guard (path.isEmpty || origin == .dotted)
    guard (entries.lookup key).isNone
    return put key (.value s.value) entries
  descend true add path .header nodes

/-- The entries of a table that is written on one line. -/
def inlineTable? (settings : List Setting) : Option Entries :=
  (settings.foldlM (fun nodes s => assign s nodes) []).map finishEntries

/-- A document that is being built: its tables, and the one that the last header opened. -/
structure Draft where
  root : Nodes
  /-- The path of the open table, empty for the document itself. -/
  path : List String
  /-- Whether the open table is an item of an array of tables. -/
  inArray : Bool
  /-- The entries of the open table. -/
  current : Nodes
deriving Repr, Inhabited

/-- Puts the open table in its place. -/
def Draft.settle (d : Draft) : Option Nodes :=
  match splitLast d.path with
  | none => some d.current
  | some (path, key) =>
    let place := fun (_ : Origin) (entries : Nodes) =>
      if d.inArray then
        match entries.lookup key with
        | none => some (put key (.tables [d.current]) entries)
        | some (.tables items) => some (put key (.tables (items ++ [d.current])) entries)
        | some _ => none
      else some (put key (.table .header d.current) entries)
    descend false place path .header d.root

/-- The entries at the end of a path, none of them where the path leads to nothing yet. -/
def reach : (path : List String) → Nodes → Option Nodes
  | [], nodes => some nodes
  | key :: path, nodes =>
    match nodes.lookup key with
    | none => some []
    | some (.value _) => none
    | some (.table _ entries) => reach path entries
    | some (.tables items) => items.getLast?.bind (reach path)

/-- The entries that a header for `key` takes over: those of a table that so far was only named on
the way to others. -/
def takeOver (key : String) (entries : Nodes) : Option Nodes :=
  match entries.lookup key with
  | none => some []
  | some (.table .implied own) => some own
  | some _ => none

/-- Tables without the entry of `key` at the end of a path.  The table that a header takes over
comes after the entries that stand beside it by then. -/
def vacate (path : List String) (key : String) (nodes : Nodes) : Option Nodes :=
  descend false (fun _ entries => some (entries.eraseP (·.1 == key))) path .header nodes

/-- Whether a header may add an item to the array of tables at `key`. -/
def mayExtend (key : String) (entries : Nodes) : Bool :=
  match entries.lookup key with
  | none => true
  | some (.tables _) => true
  | some _ => false

/-- A draft after one more line. -/
def Draft.step (d : Draft) : Line → Option Draft
  | .setting s => (assign s d.current).map fun current => { d with current }
  | .table path => do
    let root ← d.settle
    let (above, key) ← splitLast path
    let current ← takeOver key (← reach above root)
    return ⟨← vacate above key root, path, false, current⟩
  | .item path => do
    let root ← d.settle
    let (above, key) ← splitLast path
    guard (mayExtend key (← reach above root))
    return ⟨root, path, true, []⟩

/-! ## Date-times written as tables -/

/-- The key of a table that stands for a date-time. -/
def momentKey : String := "$__toml_private_datetime"

/-- The date-time that a value quotes. -/
def quotedMoment? : Toml → Option Toml
  | string s => (Clock.quoted.moment? s.toList).map moment
  | _ => none

mutual

/-- A value in which every table that starts with `momentKey` has become the date-time of that
entry.  The other entries of such a table are not looked at. -/
def resolve? : Toml → Option Toml
  | table [] => some (table [])
  | table ((key, value) :: rest) =>
    if key = momentKey then quotedMoment? value
    else do
      let value ← resolve? value
      let rest ← resolveEntries? rest
      return table ((key, value) :: rest)
  | array items => (resolveItems? items).map array
  | value => some value

def resolveEntries? : Entries → Option Entries
  | [] => some []
  | (key, value) :: rest => do
    let value ← resolve? value
    let rest ← resolveEntries? rest
    return (key, value) :: rest

def resolveItems? : List Toml → Option (List Toml)
  | [] => some []
  | value :: rest => do
    let value ← resolve? value
    let rest ← resolveItems? rest
    return value :: rest

end

/-- The entries of a document with the given lines. -/
def document? (lines : List Line) : Option Entries := do
  let d ← lines.foldlM Draft.step ⟨[], [], false, []⟩
  resolveEntries? (finishEntries (← d.settle))

end ShellGuard.Toml
