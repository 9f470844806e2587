import Mathlib
import ShellGuard.Proofs.Verdict.Isolation

/-!
# A report that says nothing

The report on the form of a command is put together from what its raw text shows, what the parser notes
and what the nodes of the tree show, and on the way some of it is left out: a text that cannot be cut
into tokens is not complained about when the raw text seems to show the missing quote already, a text
without a command is complained about only when nothing else was, and repetitions are dropped.  None of
this silences a report.  What is left out repeats something that stays in, so a report is empty only if
there was nothing to put in, and a command that cannot be parsed always has a flaw in its report.
-/

namespace ShellGuard

/-! ## Dropping repetitions -/

namespace Finding

theorem sameAs_iff {f g : Finding} :
    f.sameAs g = true ↔ (f.kind, f.message) = (g.kind, g.message) := by
  simp [sameAs]

theorem not_seen_of_mem_dedupeFrom {seen fs : List Finding} {f : Finding}
    (h : f ∈ dedupeFrom seen fs) : ∀ g ∈ seen, f.sameAs g = false := by
  induction fs generalizing seen with
  | nil => cases h
  | cons e fs ih =>
    unfold dedupeFrom at h
    split at h
    · exact ih h
    · next hnew =>
      intro g hg
      rcases List.mem_cons.1 h with rfl | h
      · rw [Bool.eq_false_iff]
        exact fun hsame => hnew (List.any_eq_true.2 ⟨g, hg, hsame⟩)
      · exact ih h g (List.mem_cons_of_mem e hg)

theorem dedupeFrom_pairwise (seen fs : List Finding) :
    (dedupeFrom seen fs).Pairwise fun f g => (f.kind, f.message) ≠ (g.kind, g.message) := by
  induction fs generalizing seen with
  | nil => exact .nil
  | cons f fs ih =>
    unfold dedupeFrom
    split
    · exact ih seen
    · refine .cons (fun g hg heq => ?_) (ih (f :: seen))
      have hother := not_seen_of_mem_dedupeFrom hg f List.mem_cons_self
      rw [sameAs_iff.2 heq.symm] at hother
      cases hother

/-- The first finding is never a repetition. -/
theorem dedupe_eq_nil_iff {fs : List Finding} : dedupe fs = [] ↔ fs = [] := by
  cases fs with
  | nil => exact Iff.rfl
  | cons f fs => simp [dedupe, dedupeFrom]

/-! ## Flaws -/

theorem OfForm.kind_cases {f : Finding} (h : f.OfForm) :
    f.kind = .malformed ∧ f.severity = .error ∨ f.kind = .deprecated := by
  induction h with
  | flaw message => exact .inl ⟨rfl, rfl⟩
  | outdated message => exact .inr rfl
  | placed _ p ih => exact ih
  | suggest _ s ih =>
    rw [suggest_kind, suggest_severity]
    exact ih

theorem OfForm.severity_of_malformed {f : Finding} (h : f.OfForm) (hkind : f.kind = .malformed) :
    f.severity = .error := by
  rcases h.kind_cases with ⟨-, hseverity⟩ | hother
  · exact hseverity
  · rw [hkind] at hother
    cases hother

theorem OfForm.malformed_of_current {f : Finding} (h : f.OfForm) (hcurrent : f.isOutdated = false) :
    f.kind = .malformed := by
  rcases h.kind_cases with ⟨hkind, -⟩ | hother
  · exact hkind
  · simp [isOutdated, hother] at hcurrent

end Finding

/-! ## Trees -/

namespace Node

/-- Whether a node is a substitution written with backticks. -/
def isBacktick : Node → Bool
  | subshell _ _ _ backtick => backtick
  | _ => false

theorem deprecations_eq_nil_iff {n : Node} : n.deprecations = [] ↔ n.isBacktick = false := by
  cases n with
  | subshell p body isCommand backtick => cases backtick <;> simp [deprecations, isBacktick]
  | _ => simp [deprecations, isBacktick]

theorem review_eq_nil_iff {strict : Bool} {n : Node} :
    n.review strict = [] ↔
      ∀ m ∈ n.walk, m.flaws = [] ∧ (strict = true → m.isBacktick = false) := by
  rw [review, List.flatMap_eq_nil_iff]
  refine forall₂_congr fun m _ => ?_
  rw [List.append_eq_nil_iff]
  cases strict with
  | false => simp
  | true => simp [deprecations_eq_nil_iff]

end Node

/-! ## The report -/

namespace FormReport

/-- An error that is not reported again has been shown. -/
theorem ne_nil_of_alreadyShown {e : LexError} {shown : List Finding}
    (h : alreadyShown e shown = true) : shown ≠ [] := by
  rintro rfl
  unfold alreadyShown at h
  split at h
  · simp at h
  · cases h

theorem gather_error_ne_nil (strict : Bool) {command : String} {e : SyntaxError}
    (h : ShellGuard.parse command = .error e) : (gather strict command).findings ≠ [] := by
  unfold gather
  rw [h]
  cases e with
  | lex e =>
    show (ofLexError (glance command) e).findings ≠ []
    unfold ofLexError
    dsimp only
    split
    · next hshown => exact ne_nil_of_alreadyShown hshown
    · simp
  | noCommands notes =>
    show (ofNoCommands (glance command) notes).findings ≠ []
    unfold ofNoCommands
    dsimp only
    split
    · simp
    · next hsome => exact fun hnil => hsome (List.isEmpty_iff.2 hnil)

theorem gather_eq_nil_iff {strict : Bool} {command : String} :
    (gather strict command).findings = [] ↔
      glance command = [] ∧ ∃ p, ShellGuard.parse command = .ok p ∧ p.notes = [] ∧
        p.root.review strict = [] := by
  cases hparse : ShellGuard.parse command with
  | ok p =>
    have hfindings : (gather strict command).findings =
        glance command ++ p.notes ++ p.root.review strict := by
      unfold gather
      rw [hparse]
      rfl
    simp [hfindings]
  | error e => simp [gather_error_ne_nil strict hparse]

theorem analyze_error_malformed (strict : Bool) {command : String} {e : SyntaxError}
    (h : ShellGuard.parse command = .error e) :
    ∃ f ∈ (analyze strict command).findings, f.kind = .malformed := by
  have hfound : (analyze strict command).findings ≠ [] :=
    mt Finding.dedupe_eq_nil_iff.1 (gather_error_ne_nil strict h)
  obtain ⟨f, hf⟩ := List.exists_mem_of_ne_nil _ hfound
  have hgathered := (Finding.dedupeFrom_sublist [] _).subset hf
  exact ⟨f, hf, (analyze_ofForm strict command f hf).malformed_of_current
    (gather_error_flaws strict h f hgathered)⟩

end FormReport

namespace Analyzer

variable (a : Analyzer) (around : Surroundings) {command : String}

theorem invalid_of_form_malformed {f : Finding} (hf : f ∈ (a.form command).findings)
    (hkind : f.kind = .malformed) : (a.judge around command).valid = false := by
  rw [Bool.eq_false_iff]
  intro hvalid
  have hmem : f ∈ (a.judge around command).findings := by
    refine (a.judge_findings_perm around command).mem_iff.2 ?_
    rw [findings_eq]
    exact List.mem_append_left _ hf
  exact ((a.judge_valid_iff_kinds around command).1 hvalid).1 f hmem hkind

theorem invalid_of_parse_error {e : SyntaxError} (h : parse command = .error e)
    (hform : a.settings.analysis.syntaxCheck = true) : (a.judge around command).valid = false := by
  obtain ⟨f, hf, hkind⟩ := FormReport.analyze_error_malformed a.settings.analysis.strict h
  refine a.invalid_of_form_malformed around (f := f) ?_ hkind
  unfold form
  rw [if_pos hform]
  exact hf

end Analyzer

/-- The report on the form of a command is empty exactly if its raw text shows nothing, the text is
parsed in silence, and no node of the tree has a flaw or, in strict mode, is outdated.  No two of its
findings agree in kind and message, and its flaws are errors.  A command that cannot be parsed has a
flaw in its report, so an analysis that looks at the form finds it invalid. -/
theorem FormReport.analyze_exact (strict : Bool) (command : String) :
    ((analyze strict command).findings = [] ↔
      glance command = [] ∧ ∃ p, ShellGuard.parse command = .ok p ∧ p.notes = [] ∧
        ∀ n ∈ p.root.walk, n.flaws = [] ∧ (strict = true → n.isBacktick = false)) ∧
    ((analyze strict command).findings.Pairwise fun f g =>
      (f.kind, f.message) ≠ (g.kind, g.message)) ∧
    (∀ f ∈ (analyze strict command).findings, f.kind = .malformed → f.severity = .error) ∧
    ((∀ p, ShellGuard.parse command ≠ .ok p) →
      (∃ f ∈ (analyze strict command).findings, f.kind = .malformed) ∧
      ∀ (a : Analyzer) (around : Surroundings), a.settings.analysis.syntaxCheck = true →
        (a.judge around command).valid = false) := by
  refine ⟨?_, Finding.dedupeFrom_pairwise [] _, ?_, ?_⟩
  · simp only [← Node.review_eq_nil_iff]
    exact Finding.dedupe_eq_nil_iff.trans gather_eq_nil_iff
  · intro f hf
    exact (analyze_ofForm strict command f hf).severity_of_malformed
  · intro hfails
    cases hparse : ShellGuard.parse command with
    | ok p => exact absurd hparse (hfails p)
    | error e =>
      exact ⟨analyze_error_malformed strict hparse,
        fun a around hform => a.invalid_of_parse_error around hparse hform⟩

end ShellGuard
