import Mathlib
import ShellGuard.Text.Search

/-!
# Occurrences of a piece in a text

The occurrences of a piece are looked for from left to right, and the search goes on behind each one
that is found.  So everything that is listed stands in the text (`exists_of_mem_occurrences`), but
what overlaps an occurrence is passed over.  How much that can hide is bounded: whatever is passed
over stands directly behind a character of the piece (`mem_occurrences_or`).
-/

namespace ShellGuard

namespace Text

theorem getLast?_cons_or (before : Option Char) (c : Char) (cs : List Char) :
    (c :: cs).getLast?.or before = cs.getLast?.or (some c) := by
  rw [List.getLast?_cons]
  cases cs.getLast? <;> rfl

/-- What is listed stands in the text. -/
theorem exists_of_mem_occurrencesFrom {needle cs : List Char} {before : Option Char} {skip : Nat}
    {o : Occurrence} (h : o ∈ occurrencesFrom needle before skip cs) :
    ∃ u v, cs = u ++ needle ++ v ∧ o = ⟨u.getLast?.or before, v⟩ := by
  induction cs generalizing before skip with
  | nil =>
    rw [occurrencesFrom] at h
    split at h
    · next hnil =>
      obtain rfl := List.mem_singleton.1 h
      exact ⟨[], [], by rw [hnil.2]; rfl, rfl⟩
    · cases h
  | cons c cs ih =>
    have hlater {skip : Nat} (h : o ∈ occurrencesFrom needle (some c) skip cs) :
        ∃ u v, c :: cs = u ++ needle ++ v ∧ o = ⟨u.getLast?.or before, v⟩ := by
      obtain ⟨u, v, rfl, rfl⟩ := ih h
      exact ⟨c :: u, v, rfl, by rw [getLast?_cons_or]⟩
    cases skip with
    | succ skip => exact hlater h
    | zero =>
      rw [occurrencesFrom] at h
      split at h
      · next hhere =>
        rcases List.mem_cons.1 h with rfl | h
        · obtain ⟨v, hv⟩ := List.isPrefixOf_iff_prefix.1 hhere
          exact ⟨[], v, hv.symm, by rw [← hv, List.drop_left]; rfl⟩
        · exact hlater h
      · exact hlater h

/-- An occurrence is listed, or the character in front of it belongs to the one found last.  The
characters still to be skipped, and the one before them, are part of that. -/
theorem mem_occurrencesFrom_or {needle : List Char} (hneedle : needle ≠ []) (u v : List Char)
    (before : Option Char) (skip : Nat) (hskip : ∀ c ∈ (u ++ needle ++ v).take skip, c ∈ needle)
    (hbefore : 0 < skip → ∃ c ∈ needle, before = some c) :
    ⟨u.getLast?.or before, v⟩ ∈ occurrencesFrom needle before skip (u ++ needle ++ v) ∨
      ∃ c ∈ needle, u.getLast?.or before = some c := by
  induction u generalizing before skip with
  | nil =>
    cases skip with
    | succ skip => exact .inr (hbefore (Nat.succ_pos skip))
    | zero =>
      obtain ⟨n, ns, rfl⟩ := List.exists_cons_of_ne_nil hneedle
      have hhere : (n :: ns).isPrefixOf (n :: (ns ++ v)) = true :=
        List.isPrefixOf_iff_prefix.2 ⟨v, rfl⟩
      have hafter : (n :: (ns ++ v)).drop (n :: ns).length = v := List.drop_left
      refine .inl ?_
      show _ ∈ occurrencesFrom (n :: ns) before 0 (n :: (ns ++ v))
      rw [occurrencesFrom, if_pos hhere, hafter]
      exact List.mem_cons_self
  | cons x u ih =>
    rw [getLast?_cons_or]
    show _ ∈ occurrencesFrom needle before skip (x :: (u ++ needle ++ v)) ∨ _
    cases skip with
    | succ skip =>
      have hx : x ∈ needle := hskip x List.mem_cons_self
      exact ih (some x) skip (fun c hc => hskip c (List.mem_cons_of_mem x hc)) fun _ => ⟨x, hx, rfl⟩
    | zero =>
      rw [occurrencesFrom]
      split
      · next hhere =>
        -- the rest of the occurrence found here is what is skipped next
        obtain ⟨n, ns, rfl⟩ := List.exists_cons_of_ne_nil hneedle
        obtain ⟨rfl, hrest⟩ := List.cons_prefix_cons.1 (List.isPrefixOf_iff_prefix.1 hhere)
        have hskipped : ∀ c ∈ (u ++ n :: ns ++ v).take ns.length, c ∈ n :: ns := by
          rw [← List.prefix_iff_eq_take.1 hrest]
          exact fun c => List.mem_cons_of_mem n
        exact (ih (some n) ns.length hskipped fun _ => ⟨n, List.mem_cons_self, rfl⟩).imp_left
          (List.mem_cons_of_mem _)
      · exact ih (some x) 0 (by simp) fun hpos => absurd hpos (Nat.lt_irrefl 0)

/-- An occurrence that is passed over stands behind a character of what is looked for. -/
theorem mem_occurrences_or {needle : List Char} (hneedle : needle ≠ []) (u v : List Char) :
    ⟨u.getLast?, v⟩ ∈ occurrences (u ++ needle ++ v) needle ∨
      ∃ c ∈ needle, u.getLast? = some c := by
  have h := mem_occurrencesFrom_or hneedle u v none 0 (by simp)
    fun hpos => absurd hpos (Nat.lt_irrefl 0)
  rwa [Option.or_none] at h

theorem exists_of_mem_occurrences {needle cs : List Char} {o : Occurrence}
    (h : o ∈ occurrences cs needle) : ∃ u v, cs = u ++ needle ++ v ∧ o = ⟨u.getLast?, v⟩ := by
  obtain ⟨u, v, hcs, rfl⟩ := exists_of_mem_occurrencesFrom h
  exact ⟨u, v, hcs, by rw [Option.or_none]⟩

theorem occurrences_eq_nil {needle cs : List Char} (h : ¬needle <:+: cs) :
    occurrences cs needle = [] := by
  refine List.eq_nil_iff_forall_not_mem.2 fun o ho => ?_
  obtain ⟨u, v, hcs, -⟩ := exists_of_mem_occurrences ho
  exact h ⟨u, v, hcs.symm⟩

end Text

end ShellGuard
