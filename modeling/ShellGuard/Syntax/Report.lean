import ShellGuard.Syntax.Parser
import ShellGuard.Text.Search

/-!
The report on the form of a command: what its raw text shows, what parsing it shows, and what the
tree shows, each issue once.
-/

namespace ShellGuard

/-- What is known about the form of a command. -/
structure FormReport where
  parse : Option Parse
  findings : List Finding
  /-- What could not be looked at, and why. -/
  warnings : List String

namespace FormReport

/-- How often a quote occurs that no backslash protects; `protect` tells that the next character is
protected. -/
def countQuotes (quote : Char) (protect : Bool) : List Char → Nat
  | [] => 0
  | c :: cs =>
    if c = '\\' then countQuotes quote (!protect) cs
    else countQuotes quote false cs + if c = quote ∧ protect = false then 1 else 0

/-- Whether some unprotected quote of a kind is left without a partner. -/
def unmatched (quote : Char) (command : String) : Bool :=
  countQuotes quote false command.toList % 2 != 0

/-- The complaint about a quote without a partner. -/
def unmatchedMessage (quote : Char) : String :=
  if quote = '\'' then "Unmatched single quote" else "Unmatched double quote"

/-- What the raw text shows without being parsed. -/
def glance (command : String) : List Finding :=
  let trimmed := Text.trimmed command.toList
  (if unmatched '\'' command then
    [(Finding.flaw (unmatchedMessage '\'')).suggest
      "Add a closing single quote (') to match the opening quote"]
   else []) ++
  (if unmatched '"' command then
    [(Finding.flaw (unmatchedMessage '"')).suggest
      "Add a closing double quote (\") to match the opening quote"]
   else []) ++
  (if trimmed.getLast? = some '|' then
    [(Finding.flaw "Unexpected end of command after pipe").suggest
      "Add a command after the pipe (|) or remove the pipe"]
   else []) ++
  if trimmed.isEmpty then [Finding.flaw "Empty command"] else []

/-- Whether the raw text has already shown the quote that a token lacks. -/
def alreadyShown (e : LexError) (shown : List Finding) : Bool :=
  match e.cause with
  | .quote c => (c == '\'' || c == '"') && shown.any (·.message == unmatchedMessage c)
  | .substitution => false

/-- What a text that cannot be cut into tokens adds to what it already shows. -/
def ofLexError (shown : List Finding) (e : LexError) : FormReport where
  parse := none
  findings :=
    if alreadyShown e shown then shown
    else shown ++ [complaint e.message.capitalize e.position]
  warnings := ["Structural analysis skipped: " ++ e.message]

/-- What a text without a command adds to what it already shows. -/
def ofNoCommands (shown notes : List Finding) : FormReport where
  parse := none
  findings :=
    if (shown ++ notes).isEmpty then [Finding.flaw "Empty command"] else shown ++ notes
  warnings := []

/-- What a parsed command adds to what its text already shows. -/
def ofParse (strict : Bool) (shown : List Finding) (p : Parse) : FormReport where
  parse := some p
  findings := shown ++ p.notes ++ p.root.review strict
  warnings := []

/-- The report before repetitions are dropped. -/
def gather (strict : Bool) (command : String) : FormReport :=
  match ShellGuard.parse command with
  | .ok p => ofParse strict (glance command) p
  | .error (.lex e) => ofLexError (glance command) e
  | .error (.noCommands notes) => ofNoCommands (glance command) notes

/-- Look at the form of a command; in strict mode also at what is deprecated. -/
def analyze (strict : Bool) (command : String) : FormReport :=
  let report := gather strict command
  { report with findings := Finding.dedupe report.findings }

/-- The tree of the command, if it has one. -/
def root (r : FormReport) : Option Node :=
  r.parse.map (·.root)

end FormReport

end ShellGuard
