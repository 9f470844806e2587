import ShellGuard.Toml.Document

/-!
Reading settings documents.  A document is a sequence of lines that set a key or open a table; each
reader takes the text from where it stands and returns what it read with the text after it.
-/

namespace ShellGuard.Toml

/-! ## Blanks, comments and line ends -/

def isBlank (c : Char) : Bool := c == ' ' || c == '\t'

def skipBlanks (cs : List Char) : List Char := cs.dropWhile isBlank

/-- A character that a comment may hold. -/
def isCommentChar (c : Char) : Bool := c == '\t' || 0x20 ≤ c.toNat

/-- A line end, or the end of the document. -/
def lineEnd? : List Char → Option (List Char)
  | [] => some []
  | '\n' :: cs => some cs
  | '\r' :: '\n' :: cs => some cs
  | _ => none

def skipComment : List Char → List Char
  | '#' :: cs => cs.dropWhile isCommentChar
  | cs => cs

/-- What may follow on a line that is complete. -/
def lineRest? (cs : List Char) : Option (List Char) :=
  lineEnd? (skipComment (skipBlanks cs))

/-- Skips blanks, line ends and comments between the elements of an array. -/
def skipGap (comment : Bool) : List Char → List Char
  | [] => []
  | '\n' :: cs => skipGap false cs
  | '\r' :: '\n' :: cs => skipGap false cs
  | c :: cs =>
    if comment then if isCommentChar c then skipGap true cs else c :: cs
    else if isBlank c then skipGap false cs
    else if c = '#' then skipGap true cs
    else c :: cs

/-! ## Keys -/

def isBareKeyChar (c : Char) : Bool := c.isAlphanum || c == '-' || c == '_'

/-- A key without dots. -/
def readKey (cs : List Char) : Option (String × List Char) :=
  match cs with
  | '"' :: _ => (readQuotedLine cs).map fun (k, rest) => (String.ofList k, rest)
  | '\'' :: _ => (readQuotedLine cs).map fun (k, rest) => (String.ofList k, rest)
  | cs =>
    let k := cs.takeWhile isBareKeyChar
    if k.isEmpty then none else some (String.ofList k, cs.dropWhile isBareKeyChar)

/-- The most keys in a path, and the most arrays and tables inside one another. -/
def maxNesting : Nat := 79

/-- At most `limit` keys with dots between them. -/
def readPath : (limit : Nat) → List Char → Option (List String × List Char)
  | 0, _ => none
  | limit + 1, cs => do
    let (key, cs) ← readKey (skipBlanks cs)
    match skipBlanks cs with
    | '.' :: cs => do
      let (path, cs) ← readPath limit cs
      return (key :: path, cs)
    | cs => return ([key], cs)

/-! ## Values -/

/-- The elements of an array up to its closing bracket. -/
def readItems (item : List Char → Option (Toml × List Char)) :
    (fuel : Nat) → List Char → Option (List Toml × List Char)
  | 0, _ => none
  | fuel + 1, cs =>
    match skipGap false cs with
    | ']' :: cs => some ([], cs)
    | cs => do
      let (value, cs) ← item cs
      match skipGap false cs with
      | ',' :: cs => do
        let (values, cs) ← readItems item fuel cs
        return (value :: values, cs)
      | ']' :: cs => return ([value], cs)
      | _ => none

/-- A path, an equals sign and a value. -/
def readSetting (item : List Char → Option (Toml × List Char)) (cs : List Char) :
    Option (Setting × List Char) := do
  let (path, cs) ← readPath maxNesting cs
  let (value, cs) ← item (skipBlanks (← expect '=' cs))
  return (⟨path, value⟩, cs)

/-- The settings of a table on one line, up to its closing brace. -/
def readSettings (item : List Char → Option (Toml × List Char)) :
    (fuel : Nat) → List Char → Option (List Setting × List Char)
  | 0, _ => none
  | fuel + 1, cs => do
    let (setting, cs) ← readSetting item cs
    match skipBlanks cs with
    | ',' :: cs => do
      let (settings, cs) ← readSettings item fuel cs
      return (setting :: settings, cs)
    | '}' :: cs => return ([setting], cs)
    | _ => none

/-- A value, with at most `limit` arrays and tables inside one another, in a document of `size`
characters. -/
def readValue (size : Nat) : (limit : Nat) → List Char → Option (Toml × List Char)
  | 0, '[' :: _ => none
  | limit + 1, '[' :: cs =>
    (readItems (readValue size limit) size cs).map fun (items, rest) => (array items, rest)
  | 0, '{' :: _ => none
  | limit + 1, '{' :: cs =>
    match skipBlanks cs with
    | '}' :: cs => some (table [], cs)
    | cs => do
      let (settings, rest) ← readSettings (readValue size limit) size cs
      let entries ← inlineTable? settings
      return (table entries, rest)
  | _, '"' :: cs => (readQuoted ('"' :: cs)).map fun (s, rest) => (string (String.ofList s), rest)
  | _, '\'' :: cs => (readQuoted ('\'' :: cs)).map fun (s, rest) => (string (String.ofList s), rest)
  | _, cs => (scalar? (scalarRun cs).1).map (·, (scalarRun cs).2)

/-! ## Lines -/

/-- One line of a document of `size` characters: a setting, a header, or nothing. -/
def readLine (size : Nat) (cs : List Char) : Option (Option Line × List Char) :=
  match cs with
  | '#' :: _ => do return (none, ← lineRest? cs)
  | '\n' :: _ => do return (none, ← lineRest? cs)
  | '\r' :: _ => do return (none, ← lineRest? cs)
  | '[' :: '[' :: cs => do
    let (path, cs) ← readPath maxNesting cs
    return (some (.item path), ← lineRest? (← expect ']' (← expect ']' cs)))
  | '[' :: cs => do
    let (path, cs) ← readPath maxNesting cs
    return (some (.table path), ← lineRest? (← expect ']' cs))
  | cs => do
    let (setting, cs) ← readSetting (readValue size maxNesting) cs
    return (some (.setting setting), ← lineRest? cs)

/-- The lines of a document of `size` characters.  Every line takes a character at least, so `fuel`
need not be more than their number. -/
def readLines (size : Nat) : (fuel : Nat) → List Char → Option (List Line)
  | 0, _ => some []
  | fuel + 1, cs =>
    match skipBlanks cs with
    | [] => some []
    | c :: rest => do
      let (line, after) ← readLine size (c :: rest)
      let lines ← readLines size fuel after
      return line.toList ++ lines

/-- Drops the mark that may stand at the start of a document. -/
def dropMark : List Char → List Char
  | '\uFEFF' :: cs => cs
  | cs => cs

/-- The entries of a document. -/
def parse (text : String) : Option Entries :=
  let cs := dropMark text.toList
  (readLines cs.length cs.length cs).bind document?

end ShellGuard.Toml
