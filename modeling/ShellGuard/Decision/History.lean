import ShellGuard.Decision.Basic
import ShellGuard.Files
import ShellGuard.Json.Source

/-!
The history of decisions.  It is kept in memory and, if it has a file, written out whole after each
decision.
-/

namespace ShellGuard

/-- Past decisions, oldest first. -/
structure History where
  /-- The file that keeps the decisions, if they are kept. -/
  path : Option String := none
  entries : List Decision := []
deriving Repr, DecidableEq

/-- What can go wrong with a history. -/
inductive HistoryError
  | unreadable (path : String)
  /-- The file holds no history. -/
  | malformed (path : String)
  | unwritable (path : String)
  /-- A directory above the file could not be made, and why. -/
  | directory (reason : String)
deriving Repr, DecidableEq, Inhabited

def HistoryError.message : HistoryError → String
  | .unreadable path => "Failed to read " ++ path
  | .malformed path => "Invalid decision history in " ++ path
  | .unwritable path => "Failed to write " ++ path
  | .directory reason => reason

namespace Decision

/-- A decision as a document. -/
def json (d : Decision) : Json :=
  .object [("command", .string d.command), ("risk_level", .string d.riskLevel.name),
    ("decision", .string d.ruling.name), ("timestamp", .string d.time.text),
    ("learned_safe", .bool d.learnedSafe)]

/-- Decisions as a document. -/
def listJson (ds : List Decision) : Json :=
  .array (ds.map json)

def ofSource? (v : JsonSource) : Option Decision := do
  match ← v.fields? ["command", "risk_level", "decision", "timestamp", "learned_safe"] with
  | [some command, some level, some ruling, some time, safe] => do
    let command ← command.text?
    let level ← level.choice? RiskLevel.ofName?
    let ruling ← ruling.choice? Ruling.ofName?
    let time ← time.text?.bind Timestamp.parse
    let safe ← match safe with
      | none => some false
      | some v => v.bool?
    return ⟨command, level, ruling, time, safe⟩
  | _ => none

/-- The decisions of a document. -/
def listOfSource? : JsonSource → Option (List Decision)
  | .array items => items.mapM ofSource?
  | _ => none

end Decision

namespace History

/-- The decisions of a history file; a blank one has none. -/
def parse (text : String) : Option (List Decision) :=
  if (Text.trim text).isEmpty then some []
  else (JsonSource.parse text).bind Decision.listOfSource?

def stats (h : History) : DecisionStats :=
  .ofDecisions h.entries

/-- The text of a history file. -/
def text (entries : List Decision) : String :=
  (Decision.listJson entries).pretty

/-- The history of a file, empty if there is none. -/
def openFile {m : Type → Type} [Monad m] (files : Files m) (path : String) :
    m (Except HistoryError History) := do
  if ← files.exists? path then
    match ← files.read path with
    | none => return .error (.unreadable path)
    | some text =>
      match parse text with
      | none => return .error (.malformed path)
      | some entries => return .ok ⟨some path, entries⟩
  else return .ok ⟨some path, []⟩

/-- Writes a history to its file, if it has one. -/
def save {m : Type → Type} [Monad m] (files : Files m) (h : History) : m (Except HistoryError Unit) :=
  match h.path with
  | none => return .ok ()
  | some path => do
    match ← files.write path (text h.entries) with
    | .ok () => return .ok ()
    | .error .file => return .error (.unwritable path)
    | .error (.directory reason) => return .error (.directory reason)

/-- A history after one more decision, and whether it could be written.  The decision is kept in
memory either way. -/
def record {m : Type → Type} [Monad m] (files : Files m) (h : History) (d : Decision) :
    m (Except HistoryError Unit × History) := do
  let h := { h with entries := h.entries ++ [d] }
  return (← h.save files, h)

end History

end ShellGuard
