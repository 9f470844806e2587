import ShellGuard.Toml.Value

/-!
Records in settings documents.  The fields of a record stand in a table under their names, or in an
array in their order; unknown names are passed over, surplus elements are not.
-/

namespace ShellGuard.Toml

/-- How the fields of a record are found, by name and place. -/
abbrev Fields := String → Nat → Option Toml

/-- The fields of a record of `count` fields. -/
def fields? (count : Nat) : Toml → Option Fields
  | table entries => some fun name _ => entries.lookup name
  | array items => if items.length ≤ count then some fun _ place => items[place]? else none
  | _ => none

/-- A text; a date or time counts by its text. -/
def text? : Toml → Option String
  | string s => some s
  | moment s => some s
  | _ => none

def boolean? : Toml → Option Bool
  | boolean b => some b
  | _ => none

def natural? : Toml → Option Nat
  | integer n => if 0 ≤ n then some n.toNat else none
  | _ => none

/-- A number, whole or not. -/
def number? : Toml → Option Binary64
  | float x => some x
  | integer n => some (Binary64.ofRatio (n < 0) n.natAbs 1)
  | _ => none

def textItems? : List Toml → Option (List String)
  | [] => some []
  | v :: vs => do return (← text? v) :: (← textItems? vs)

/-- An array of texts. -/
def texts? : Toml → Option (List String)
  | array items => textItems? items
  | _ => none

/-- One of some names, alone or as the only key of a table, over nothing. -/
def choice? {α : Type} (ofName? : String → Option α) : Toml → Option α
  | string s => ofName? s
  | table [(key, array [])] => ofName? key
  | table [(key, table [])] => ofName? key
  | _ => none

/-- A field that may be missing. -/
def withDefault {α : Type} (read? : Toml → Option α) (default : α) : Option Toml → Option α
  | none => some default
  | some v => read? v

/-- A field that may be missing and has no default. -/
def optional {α : Type} (read? : Toml → Option α) : Option Toml → Option (Option α)
  | none => some none
  | some v => (read? v).map some

end ShellGuard.Toml
