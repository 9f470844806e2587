import ShellGuard.Toml.Quoted

/-!
Writing settings documents line by line.
-/

namespace ShellGuard.Toml

/-- A line that sets a key. -/
def entry (key value : String) : String :=
  key ++ " = " ++ value ++ "\n"

def booleanText (b : Bool) : String :=
  if b then "true" else "false"

/-- Texts between brackets on one line. -/
def inlineTexts (items : List String) : String :=
  "[" ++ Text.join ", " (items.map quote) ++ "]"

/-- Texts between brackets, each on a line of its own if there are several. -/
def stackedTexts (items : List String) : String :=
  if items.length < 2 then inlineTexts items
  else "[\n" ++ String.join (items.map fun s => "    " ++ quote s ++ ",\n") ++ "]"

/-- A line for an optional text. -/
def entry? (key : String) : Option String → String
  | none => ""
  | some s => entry key (quote s)

end ShellGuard.Toml
