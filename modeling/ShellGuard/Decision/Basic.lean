import ShellGuard.Risk.Level
import ShellGuard.Timestamp

/-!
Decisions: what was decided about a command that needed confirmation.
-/

namespace ShellGuard

/-- What can be decided about a command. -/
inductive Ruling
  | proceed
  | cancel
  | modify
  /-- Denied without asking. -/
  | autoDenied
deriving Repr, DecidableEq, Inhabited

namespace Ruling

/-- The word for a ruling, also its form in files. -/
def name : Ruling → String
  | proceed => "proceed"
  | cancel => "cancel"
  | modify => "modify"
  | autoDenied => "auto-denied"

/-- The ruling a word names exactly. -/
def ofName? : String → Option Ruling
  | "proceed" => some proceed
  | "cancel" => some cancel
  | "modify" => some modify
  | "auto-denied" => some autoDenied
  | _ => none

/-- Whether the command may run. -/
def allows : Ruling → Bool
  | proceed => true
  | _ => false

end Ruling

/-- A ruling on a command, with when and at what risk it was made. -/
structure Decision where
  command : String
  riskLevel : RiskLevel
  ruling : Ruling
  time : Timestamp
  /-- The user called the command safe. -/
  learnedSafe : Bool
deriving Repr, DecidableEq, Inhabited

/-- How many decisions there are of each kind. -/
structure DecisionStats where
  total : Nat
  proceed : Nat
  cancel : Nat
  modify : Nat
  autoDenied : Nat
  learnedSafe : Nat
deriving Repr, DecidableEq, Inhabited

def DecisionStats.ofDecisions (ds : List Decision) : DecisionStats where
  total := ds.length
  proceed := ds.countP (·.ruling == .proceed)
  cancel := ds.countP (·.ruling == .cancel)
  modify := ds.countP (·.ruling == .modify)
  autoDenied := ds.countP (·.ruling == .autoDenied)
  learnedSafe := ds.countP (·.learnedSafe)

end ShellGuard
