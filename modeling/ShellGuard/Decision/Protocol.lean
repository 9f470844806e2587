import ShellGuard.Decision.Education
import ShellGuard.Decision.History
import ShellGuard.Risk.Assessment
import ShellGuard.Settings.Basic

/-!
The protocol by which a command is allowed or denied.  A dialogue shows something, asks for a line or
ends; it is run against a list of answers or carried out by whoever can show and ask.
-/

namespace ShellGuard

/-- How an answer is understood. -/
inductive Choice
  | proceed
  | cancel
  | modify
  | markSafe
  | help
  | invalid
deriving Repr, DecidableEq, Inhabited

def Choice.parse (line : String) : Choice :=
  match Text.lower (Text.trim line) with
  | "y" | "yes" => .proceed
  | "n" | "no" => .cancel
  | "m" | "modify" => .modify
  | "s" | "safe" => .markSafe
  | "?" | "h" | "help" => .help
  | _ => .invalid

/-- Where the protocol ended. -/
inductive ProtocolState
  | disabled
  | autoDenied
  | bypassedTrusted
  | skippedLowRisk
  | resolved
  /-- The answers ran out or settled nothing. -/
  | abandoned
deriving Repr, DecidableEq, Inhabited

def ProtocolState.name : ProtocolState → String
  | disabled => "disabled"
  | autoDenied => "auto-denied"
  | bypassedTrusted => "bypassed-trusted"
  | skippedLowRisk => "skipped-low-risk"
  | resolved => "resolved"
  | abandoned => "abandoned"

/-- How the protocol ended. -/
structure Outcome where
  state : ProtocolState
  allowed : Bool
  /-- The decision, if one was made. -/
  decision : Option Decision
deriving Repr, DecidableEq, Inhabited

/-- Something that is shown. -/
inductive Exhibit
  | education (e : Education)
  | summary (command : String) (a : Assessment)
  | help (a : Assessment)
  | suggestions (a : Assessment)
  | notice (message : String)
deriving Repr, DecidableEq

/-- An exhibit on one line. -/
def Exhibit.text : Exhibit → String
  | .education e => "education: " ++ e.title
  | .summary command a => "summary: " ++ command ++ " (" ++ a.overall.name ++ ")"
  | .help _ => "help"
  | .suggestions a => "suggestions: " ++ toString a.factors.length
  | .notice message => "notice: " ++ message

/-- A dialogue with whoever confirms a command. -/
inductive Dialogue
  | finish (outcome : Outcome)
  | present (exhibit : Exhibit) (next : Dialogue)
  /-- Asks for a line, of which there may be none left. -/
  | ask (next : Option String → Dialogue)

/-- What happened in a dialogue. -/
structure Transcript where
  outcome : Outcome
  exhibits : List Exhibit
  /-- The answers that were not read. -/
  unread : List String
deriving Repr, DecidableEq

namespace Dialogue

/-- A dialogue with the given answers. -/
def run : Dialogue → List String → Transcript
  | finish o, answers => ⟨o, [], answers⟩
  | present e next, answers =>
    let t := next.run answers
    { t with exhibits := e :: t.exhibits }
  | ask next, [] => (next none).run []
  | ask next, line :: rest => (next (some line)).run rest

/-- Carries out a dialogue. -/
def perform {m : Type → Type} [Monad m] (present' : Exhibit → m Unit) (readLine : m (Option String)) :
    Dialogue → m Outcome
  | finish o => return o
  | present e next => do
    present' e
    next.perform present' readLine
  | ask next => do
    (next (← readLine)).perform present' readLine

end Dialogue

/-- The protocol of a user: the settings, and the home directory that trusted paths refer to. -/
structure Protocol where
  settings : SafetySettings := {}
  home : Option String

namespace Protocol

/-- Whether a directory or one above it is a trusted one. -/
def isTrusted (p : Protocol) (dir : String) : Bool :=
  (Path.ancestors dir (dir.length + 1)).any fun ancestor =>
    (p.settings.trusted p.home).any (Path.same · ancestor)

/-- A decision that ends the dialogue. -/
def resolve (d : Decision) : Dialogue :=
  .finish ⟨.resolved, d.ruling.allows, some d⟩

/-- Asks until an answer decides, at most `attempts` times. -/
def question (now : Timestamp) (command : String) (a : Assessment) : (attempts : Nat) → Dialogue
  | 0 =>
    .present (.notice "Too many invalid answers, command cancelled.") (.finish ⟨.abandoned, false, none⟩)
  | attempts + 1 =>
    let decide := fun (ruling : Ruling) (safe : Bool) =>
      resolve ⟨command, a.overall, ruling, now, safe⟩
    .ask fun
      | none => .finish ⟨.abandoned, false, none⟩
      | some line =>
        match Choice.parse line with
        | .proceed => decide .proceed false
        | .cancel => .present (.notice "Command cancelled for safety.") (decide .cancel false)
        | .modify => .present (.suggestions a) (decide .modify false)
        | .markSafe => .present (.notice "Command marked as safe.") (decide .proceed true)
        | .help => .present (.help a) (question now command a attempts)
        | .invalid =>
          .present (.notice "Invalid choice. Please try again.") (question now command a attempts)

/-- Shows what is known about a command and asks. -/
def confirm (p : Protocol) (now : Timestamp) (command : String) (a : Assessment) : Dialogue :=
  let asking := Dialogue.present (.summary command a) (question now command a p.settings.maxAttempts)
  match if p.settings.showEducation then Education.ofLevel? a.overall else none with
  | some e => .present (.education e) asking
  | none => asking

/-- Whether a risk is denied without asking. -/
def autoDenies (p : Protocol) (level : RiskLevel) : Option RiskLevel :=
  p.settings.autoDeny.filter (· < level)

/-- The protocol for a command and its assessment, if it was assessed. -/
def dialogue (p : Protocol) (now : Timestamp) (command : String) (assessment : Option Assessment) :
    Dialogue :=
  match assessment with
  | none => .finish ⟨.disabled, true, none⟩
  | some a =>
    if !p.settings.enabled then .finish ⟨.disabled, true, none⟩
    else
      match p.autoDenies a.overall with
      | some limit =>
        .present (.notice ("Command blocked: " ++ a.overall.name ++
            " risk exceeds the auto-deny level (" ++ limit.name ++ ")"))
          (.finish ⟨.autoDenied, false, some ⟨command, a.overall, .autoDenied, now, false⟩⟩)
      | none =>
        if p.settings.bypassTrusted && a.overall < .critical &&
            p.isTrusted a.environment.currentDirectory then
          .finish ⟨.bypassedTrusted, true, none⟩
        else if a.overall = .low then .finish ⟨.skippedLowRisk, true, none⟩
        else p.confirm now command a

/-- Records the decision of an outcome, if decisions are tracked. -/
def keep {m : Type → Type} [Monad m] (p : Protocol) (files : Files m) (h : History) (o : Outcome) :
    m (Except HistoryError Unit × History) :=
  match o.decision with
  | some d => if p.settings.trackDecisions then h.record files d else return (.ok (), h)
  | none => return (.ok (), h)

/-- Holds the dialogue about a command and records the decision it ends with.  If that cannot be
written, the outcome is withheld. -/
def check {m : Type → Type} [Monad m] (p : Protocol) (files : Files m) (hold : Dialogue → m Outcome)
    (h : History) (now : Timestamp) (command : String) (assessment : Option Assessment) :
    m (Except HistoryError Outcome × History) := do
  let outcome ← hold (p.dialogue now command assessment)
  let (kept, h) ← p.keep files h outcome
  return (kept.map fun _ => outcome, h)

end Protocol

end ShellGuard
