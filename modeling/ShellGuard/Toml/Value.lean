import ShellGuard.Number.Binary64

/-!
Values of settings documents.  A table keeps its entries in an order, that of the text it was read
from, and no key stands in a table twice.
-/

namespace ShellGuard

/-- A value of a settings document. -/
inductive Toml
  | string (s : String)
  | integer (n : Int)
  | float (x : Binary64)
  | boolean (b : Bool)
  /-- A date, a time or both, by their text. -/
  | moment (text : String)
  | array (items : List Toml)
  | table (entries : List (String × Toml))
deriving Repr, Inhabited

namespace Toml

/-- The entries of a table. -/
abbrev Entries := List (String × Toml)

/-- Entries with the value of a key replaced, or added after the others. -/
def put {α : Type} (key : String) (value : α) : List (String × α) → List (String × α)
  | [] => [(key, value)]
  | (k, v) :: rest => if k = key then (k, value) :: rest else (k, v) :: put key value rest

mutual

/-- What a value becomes when a later document gives its key again: two tables are joined, and
anything else is replaced. -/
def overlay (current : Option Toml) : Toml → Toml
  | table later =>
    match current with
    | some (table entries) => table (merge entries later)
    | _ => table later
  | value => value

/-- Entries under those of a later document. -/
def merge (entries : Entries) : Entries → Entries
  | [] => entries
  | (key, value) :: rest => merge (put key (overlay (entries.lookup key) value) entries) rest

end

end Toml

end ShellGuard
