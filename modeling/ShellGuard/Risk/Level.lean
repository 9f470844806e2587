import ShellGuard.Text.Blank
import ShellGuard.Text.Case

/-!
The two scales a report is written in: how dangerous a command is, and how loud a finding is.
-/

namespace ShellGuard

/-- How loud a finding is. -/
inductive Severity
  | error
  | warning
  | info
deriving Repr, DecidableEq, Inhabited

/-- The word a report uses for a severity. -/
def Severity.name : Severity → String
  | .error => "error"
  | .warning => "warning"
  | .info => "info"

/-- How dangerous a command is, or one thing that makes it so. -/
inductive RiskLevel
  | low
  | medium
  | high
  | critical
deriving Repr, DecidableEq, Inhabited

namespace RiskLevel

/-- The place of a level on the scale; the order of levels is the order of their ranks. -/
def rank : RiskLevel → Nat
  | low => 0
  | medium => 1
  | high => 2
  | critical => 3

instance : LE RiskLevel := ⟨fun a b => a.rank ≤ b.rank⟩

instance : LT RiskLevel := ⟨fun a b => a.rank < b.rank⟩

instance (a b : RiskLevel) : Decidable (a ≤ b) := inferInstanceAs (Decidable (a.rank ≤ b.rank))

instance (a b : RiskLevel) : Decidable (a < b) := inferInstanceAs (Decidable (a.rank < b.rank))

/-- The higher of two levels. -/
def join (a b : RiskLevel) : RiskLevel :=
  if a ≤ b then b else a

/-- The highest of some levels, `low` when there are none. -/
def highest (levels : List RiskLevel) : RiskLevel :=
  levels.foldl join low

/-- The word for a level, also its form in files. -/
def name : RiskLevel → String
  | low => "low"
  | medium => "medium"
  | high => "high"
  | critical => "critical"

/-- The level a word names exactly. -/
def ofName? : String → Option RiskLevel
  | "low" => some low
  | "medium" => some medium
  | "high" => some high
  | "critical" => some critical
  | _ => none

/-- Read a level as people type it, in any case and with blanks around it.  What cannot be read is
given back in lower case, as the complaint quotes it. -/
def parse (s : String) : Except String RiskLevel :=
  let word := Text.lower (Text.trim s)
  match ofName? word with
  | some level => .ok level
  | none => .error word

/-- The complaint about a word that is no level. -/
def unknownMessage (word : String) : String :=
  "unknown risk level '" ++ word ++ "' (expected low, medium, high or critical)"

/-- Read a level from a file, where anything unknown counts as `medium`. -/
def parseLenient (s : String) : RiskLevel :=
  match parse s with
  | .ok level => level
  | .error _ => medium

/-- How loud a finding of this level is. -/
def severity : RiskLevel → Severity
  | low => .info
  | medium => .warning
  | high => .error
  | critical => .error

/-! ## The order of levels -/

/-- Levels are told apart by their ranks. -/
theorem rank_injective {a b : RiskLevel} (h : a.rank = b.rank) : a = b := by
  cases a <;> cases b <;> simp_all [rank]

theorem rank_join (a b : RiskLevel) : (a.join b).rank = max a.rank b.rank := by
  cases a <;> cases b <;> rfl

theorem le_join_left (a b : RiskLevel) : a ≤ a.join b := by
  show a.rank ≤ (a.join b).rank
  rw [rank_join]
  exact Nat.le_max_left _ _

theorem le_join_right (a b : RiskLevel) : b ≤ a.join b := by
  show b.rank ≤ (a.join b).rank
  rw [rank_join]
  exact Nat.le_max_right _ _

/-- Folding in more levels never lowers the one reached. -/
theorem le_foldl_join (levels : List RiskLevel) (a : RiskLevel) : a ≤ levels.foldl join a := by
  induction levels generalizing a with
  | nil => exact Nat.le_refl a.rank
  | cons l ls ih => exact Nat.le_trans (le_join_left a l) (ih (a.join l))

/-- The highest of some levels is above each of them. -/
theorem le_highest {levels : List RiskLevel} {l : RiskLevel} (h : l ∈ levels) :
    l ≤ highest levels := by
  unfold highest
  generalize low = a
  induction levels generalizing a with
  | nil => simp at h
  | cons k ks ih =>
    rcases List.mem_cons.1 h with rfl | h
    · exact Nat.le_trans (le_join_right a l) (le_foldl_join ks (a.join l))
    · exact ih h (a.join k)

theorem eq_low_of_le {a : RiskLevel} (h : a ≤ low) : a = low :=
  rank_injective (Nat.le_zero.1 h)

end RiskLevel

end ShellGuard
