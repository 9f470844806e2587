import Mathlib
import ShellGuard.Syntax.Report

/-!
# Quotes without a partner

Before a command is parsed its quotes of each kind are counted, and an odd number is reported.
Those count that no backslash protects, which is a matter of the backslashes directly in front: an
even number of them protect each other, an odd number protects the quote.  The count is made in one
pass that remembers only whether the next character is protected; `countQuotes_eq_card` says that it
is the number of places where a bare quote stands.
-/

namespace ShellGuard

namespace FormReport

/-! ## Bare quotes -/

/-- A text ends with a run of `n` backslashes that no further one precedes. -/
def EndsInRun (n : Nat) (text : List Char) : Prop :=
  ∃ front, text = front ++ List.replicate n '\\' ∧ front.getLast? ≠ some '\\'

/-- At a place stands a quote behind an even number of backslashes, possibly none. -/
def Bare (quote : Char) (cs : List Char) (i : Nat) : Prop :=
  cs[i]? = some quote ∧ ∃ n, EndsInRun n (cs.take i) ∧ Even n

/-- The number of backslashes at the end of a text. -/
def trailing (text : List Char) : Nat :=
  (text.rtakeWhile (· == '\\')).length

theorem trailing_concat (text : List Char) (c : Char) :
    trailing (text ++ [c]) = if c = '\\' then trailing text + 1 else 0 := by
  rw [trailing, List.rtakeWhile_concat]
  by_cases hc : c = '\\'
  · simp [hc, trailing]
  · simp [hc]

theorem trailing_append_replicate {front : List Char} (h : front.getLast? ≠ some '\\') (n : Nat) :
    trailing (front ++ List.replicate n '\\') = n := by
  induction n with
  | zero =>
    rcases List.eq_nil_or_concat' front with rfl | ⟨xs, c, rfl⟩
    · rfl
    · have hc : c ≠ '\\' := by simpa using h
      rw [List.replicate_zero, List.append_nil, trailing_concat, if_neg hc]
  | succ n ih =>
    rw [List.replicate_succ', ← List.append_assoc, trailing_concat, if_pos rfl, ih]

theorem endsInRun_trailing (text : List Char) : EndsInRun (trailing text) text := by
  induction text using List.reverseRecOn with
  | nil => exact ⟨[], rfl, by simp⟩
  | append_singleton text c ih =>
    rw [trailing_concat]
    by_cases hc : c = '\\'
    · obtain ⟨front, htext, hfront⟩ := ih
      refine ⟨front, ?_, hfront⟩
      rw [if_pos hc, List.replicate_succ', ← List.append_assoc, ← htext, hc]
    · rw [if_neg hc]
      exact ⟨text ++ [c], by simp, by simpa using hc⟩

/-- Each text ends in exactly one such run. -/
theorem endsInRun_iff {n : Nat} {text : List Char} : EndsInRun n text ↔ trailing text = n := by
  constructor
  · rintro ⟨front, rfl, hfront⟩
    exact trailing_append_replicate hfront n
  · rintro rfl
    exact endsInRun_trailing text

theorem bare_iff {quote : Char} {cs : List Char} {i : Nat} :
    Bare quote cs i ↔ cs[i]? = some quote ∧ Even (trailing (cs.take i)) := by
  simp only [Bare, endsInRun_iff, exists_eq_left']

instance (quote : Char) (cs : List Char) : DecidablePred (Bare quote cs) :=
  fun _ => decidable_of_iff _ bare_iff.symm

/-- The places where a bare quote of a kind stands. -/
def bareQuotes (quote : Char) (cs : List Char) : Finset Nat :=
  (Finset.range cs.length).filter (Bare quote cs)

/-! ## Counting them in one pass -/

theorem countQuotes_cons {quote : Char} (hquote : quote ≠ '\\') (protect : Bool) (c : Char)
    (cs : List Char) :
    countQuotes quote protect (c :: cs) =
      countQuotes quote (c == '\\' && !protect) cs +
        if c = quote ∧ protect = false then 1 else 0 := by
  rw [countQuotes]
  by_cases hc : c = '\\'
  · have hne : ¬(c = quote ∧ protect = false) := fun h => hquote (h.1.symm.trans hc)
    rw [if_pos hc, if_neg hne, hc, beq_self_eq_true, Bool.true_and, Nat.add_zero]
  · rw [if_neg hc, beq_false_of_ne hc, Bool.false_and]

/-- What the pass remembers: the next character is protected exactly if the text so far ends with an
odd number of backslashes. -/
theorem odd_trailing_concat (text : List Char) (c : Char) :
    decide (Odd (trailing (text ++ [c]))) = (c == '\\' && !decide (Odd (trailing text))) := by
  rw [trailing_concat]
  by_cases hc : c = '\\'
  · rw [if_pos hc, hc, beq_self_eq_true, Bool.true_and, ← decide_not]
    exact decide_eq_decide.2 Nat.odd_add_one
  · rw [if_neg hc, beq_false_of_ne hc, Bool.false_and]
    rfl

theorem bare_append_cons {quote c : Char} {text cs : List Char} :
    Bare quote (text ++ c :: cs) text.length ↔ c = quote ∧ ¬Odd (trailing text) := by
  simp [bare_iff]

/-- The pass over what follows a text counts the bare quotes behind that text. -/
theorem countQuotes_behind {quote : Char} (hquote : quote ≠ '\\') (text cs : List Char) :
    countQuotes quote (decide (Odd (trailing text))) cs =
      ∑ i ∈ Finset.range cs.length, if Bare quote (text ++ cs) (text.length + i) then 1 else 0 := by
  induction cs generalizing text with
  | nil => rfl
  | cons c cs ih =>
    have hlater := ih (text ++ [c])
    have hplace (i : Nat) : (text ++ [c]).length + i = text.length + (i + 1) := by
      rw [List.length_append, List.length_singleton]
      omega
    simp only [List.append_assoc, List.singleton_append, hplace] at hlater
    rw [countQuotes_cons hquote, ← odd_trailing_concat, hlater, List.length_cons,
      Finset.sum_range_succ']
    simp only [Nat.add_zero, bare_append_cons, decide_eq_false_iff_not]

theorem countQuotes_eq_card {quote : Char} (hquote : quote ≠ '\\') (cs : List Char) :
    countQuotes quote false cs = (bareQuotes quote cs).card := by
  have hcount := countQuotes_behind hquote [] cs
  have hstart : decide (Odd (trailing [])) = false := rfl
  simp only [hstart, List.nil_append, List.length_nil, Nat.zero_add] at hcount
  rw [hcount, bareQuotes, Finset.card_filter]

theorem unmatched_iff {quote : Char} (hquote : quote ≠ '\\') (command : String) :
    unmatched quote command = true ↔ Odd (bareQuotes quote command.toList).card := by
  rw [unmatched, countQuotes_eq_card hquote, bne_iff_ne, Nat.odd_iff]
  omega

/-! ## Reporting them -/

theorem glance_messages (command : String) :
    (glance command).map (·.message) =
      (if unmatched '\'' command then ["Unmatched single quote"] else []) ++
      (if unmatched '"' command then ["Unmatched double quote"] else []) ++
      (if (Text.trimmed command.toList).getLast? = some '|' then
        ["Unexpected end of command after pipe"] else []) ++
      if (Text.trimmed command.toList).isEmpty then ["Empty command"] else [] := by
  unfold glance
  simp only [List.map_append, apply_ite (List.map _), List.map_cons, List.map_nil]
  rfl

/-- A quote without a partner is reported exactly if an odd number of places hold a quote of its
kind behind an even number of backslashes. -/
theorem glance_quote_parity (command : String) :
    ((∃ f ∈ glance command, f.message = "Unmatched single quote") ↔
      Odd (bareQuotes '\'' command.toList).card) ∧
    ((∃ f ∈ glance command, f.message = "Unmatched double quote") ↔
      Odd (bareQuotes '"' command.toList).card) := by
  rw [← unmatched_iff (by decide) command, ← unmatched_iff (by decide) command]
  simp only [← List.mem_map, glance_messages]
  constructor <;> simp

example : bareQuotes '"' "echo \\\\\"a\\\" \"".toList = {7, 12} := by decide

end FormReport

end ShellGuard
