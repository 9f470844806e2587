import Mathlib
import ShellGuard.Proofs.Verdict.Masking

/-!
# Looking at what a command decodes to

The rules can be run a second time, on the text that a hidden command decodes to.  The second run
comes last: it sees the findings of all stages before it, but changes none of them, and it keeps only
findings under names that are new.  So a verdict with it is the verdict without it and some findings
more, and what follows from the findings can only get worse.

The findings are told apart by whether they block.  Since a filter keeps the order, findings added at
the end of the list stand at the end of the errors and at the end of the warnings.
-/

namespace ShellGuard

namespace Analyzer

/-- The same analysis, with or without the rules on what a command decodes to. -/
def withDecoding (a : Analyzer) (on : Bool) : Analyzer :=
  { a with settings.analysis := { a.settings.analysis with analyzeDecoded := on } }

/-- What a built-in rule or an enabled rule of the user that matches a text reports about it, as far
as such rules are looked at. -/
inductive Reports (a : Analyzer) (text : String) : Finding → Prop
  | builtin {r : Rule} (looked : a.settings.analysis.safetyCheck = true) (mem : r ∈ Builtin.rules)
    (fires : r.fires text = true) : Reports a text (r.finding .safety)
  | custom {e : RuleEntry} (looked : a.settings.analysis.customRules = true)
    (mem : e ∈ a.rules.entries) (enabled : e.rule.enabled = true)
    (fires : e.compiled.fires text = true) : Reports a text (e.compiled.finding .custom)

theorem fires_of_check {r : Rule} {kind : FindingKind} {text : String} {f : Finding}
    (h : r.check kind text = some f) : r.fires text = true ∧ f = r.finding kind := by
  refine ⟨?_, Rule.check_eq_some h⟩
  by_contra hsilent
  rw [Rule.check, if_neg hsilent] at h
  cases h

variable (a : Analyzer) (around : Surroundings) (command : String)

theorem mem_patternFindings_iff {text : String} {f : Finding} :
    f ∈ a.patternFindings text ↔ a.Reports text f := by
  constructor
  · intro hf
    rcases List.mem_append.1 hf with hf | hf
    · split at hf
      · next looked =>
        obtain ⟨r, hr, hcheck⟩ := List.mem_filterMap.1 hf
        obtain ⟨hfires, rfl⟩ := fires_of_check hcheck
        exact .builtin looked hr hfires
      · cases hf
    · split at hf
      · next looked =>
        obtain ⟨e, he, hcheck⟩ := List.mem_filterMap.1 hf
        obtain ⟨he, henabled⟩ := List.mem_filter.1 he
        obtain ⟨hfires, rfl⟩ := fires_of_check hcheck
        exact .custom looked he henabled hfires
      · cases hf
  · intro hf
    cases hf with
    | @builtin r looked hr hfires =>
      refine List.mem_append_left _ ?_
      rw [if_pos looked]
      exact List.mem_filterMap.2 ⟨r, hr, if_pos hfires⟩
    | @custom e looked he henabled hfires =>
      refine List.mem_append_right _ ?_
      rw [if_pos looked]
      exact List.mem_filterMap.2 ⟨e, List.mem_filter.2 ⟨he, henabled⟩, if_pos hfires⟩

/-! ## The findings of the second run -/

/-- What the rules find in the text a command decodes to, if that is another text. -/
def addedByDecoding : List Finding :=
  (a.withDecoding true).decodedFindings command (a.rawFindings around command)

theorem findings_withDecoding_true : (a.withDecoding true).findings around command =
    a.rawFindings around command ++ a.addedByDecoding around command :=
  rfl

theorem findings_withDecoding_false : (a.withDecoding false).findings around command =
    a.rawFindings around command := by
  have hnone : (a.withDecoding false).decodedFindings command (a.rawFindings around command) = [] := by
    unfold decodedFindings
    split
    · exact if_neg (by simp [withDecoding])
    · rfl
  show a.rawFindings around command ++
    (a.withDecoding false).decodedFindings command (a.rawFindings around command) = _
  rw [hnone, List.append_nil]

theorem addedByDecoding_eq {o : Obfuscation} (ho : a.obfuscation command = some o)
    (hcandidate : o.hasCandidate command = true) :
    a.addedByDecoding around command =
      (unseen ((a.rawFindings around command).filterMap (·.rule))
        (a.patternFindings o.deobfuscated)).map decoded := by
  have ho' : (a.withDecoding true).obfuscation command = some o := ho
  unfold addedByDecoding decodedFindings
  rw [ho']
  exact if_pos (by simp [withDecoding, hcandidate])

/-- Without another text to look at, nothing is added. -/
theorem exists_candidate_of_mem {f : Finding} (h : f ∈ a.addedByDecoding around command) :
    ∃ o, a.obfuscation command = some o ∧ o.hasCandidate command = true := by
  unfold addedByDecoding decodedFindings at h
  split at h
  · next o ho =>
    split at h
    · next hon => exact ⟨o, ho, (Bool.and_eq_true_iff.1 hon).2⟩
    · cases h
  · cases h

theorem addedByDecoding_of_same {o : Obfuscation} (ho : a.obfuscation command = some o)
    (hsame : Text.trim o.deobfuscated = Text.trim command) :
    a.addedByDecoding around command = [] := by
  refine List.eq_nil_iff_forall_not_mem.2 fun f hf => ?_
  obtain ⟨o', ho', hcandidate⟩ := a.exists_candidate_of_mem around command hf
  obtain rfl : o = o' := Option.some.inj (ho.symm.trans ho')
  simp [Obfuscation.hasCandidate, hsame] at hcandidate

/-- The names that pass the filter are all different: each joins those seen when it passes. -/
theorem unseen_nodup (seen : List String) (fs : List Finding) :
    ((unseen seen fs).map (·.rule)).Nodup := by
  induction fs generalizing seen with
  | nil => exact .nil
  | cons f fs ih =>
    unfold unseen
    split
    · exact ih seen
    · next name hname =>
      split
      · exact ih seen
      · refine List.nodup_cons.2 ⟨fun hmem => ?_, ih (name :: seen)⟩
        obtain ⟨g, hg, hgname⟩ := List.mem_map.1 hmem
        obtain ⟨other, hother, hnew⟩ := unseen_new hg
        have hsame : other = name := Option.some.inj (hother.symm.trans (hgname.trans hname))
        exact hnew (hsame ▸ List.mem_cons_self)

theorem addedByDecoding_nodup : ((a.addedByDecoding around command).map (·.rule)).Nodup := by
  by_cases hnone : a.addedByDecoding around command = []
  · rw [hnone]
    exact .nil
  · obtain ⟨f, hf⟩ := List.exists_mem_of_ne_nil _ hnone
    obtain ⟨o, ho, hcandidate⟩ := a.exists_candidate_of_mem around command hf
    rw [a.addedByDecoding_eq around command ho hcandidate, List.map_map]
    exact unseen_nodup _ _

/-- Where an added finding comes from, and that its name is new. -/
theorem addedByDecoding_source {f : Finding} (hf : f ∈ a.addedByDecoding around command) :
    ∃ o g name, a.obfuscation command = some o ∧ o.hasCandidate command = true ∧
      a.Reports o.deobfuscated g ∧ f = { g with message := "(deobfuscated) " ++ g.message } ∧
      f.rule = some name ∧ ∀ r ∈ a.rawFindings around command, r.rule ≠ some name := by
  obtain ⟨o, ho, hcandidate⟩ := a.exists_candidate_of_mem around command hf
  rw [a.addedByDecoding_eq around command ho hcandidate] at hf
  obtain ⟨g, hg, rfl⟩ := List.mem_map.1 hf
  obtain ⟨name, hname, hnew⟩ := unseen_new hg
  have hreports := a.mem_patternFindings_iff.1 ((unseen_sublist _ _).subset hg)
  exact ⟨o, g, name, ho, hcandidate, hreports, rfl, hname,
    fun r hr hrname => hnew (List.mem_filterMap.2 ⟨r, hr, hrname⟩)⟩

/-- A match on what a command decodes to is added under its name unless the name is taken. -/
theorem addedByDecoding_complete {o : Obfuscation} {g : Finding} {name : String}
    (ho : a.obfuscation command = some o) (hcandidate : o.hasCandidate command = true)
    (hg : a.Reports o.deobfuscated g) (hname : g.rule = some name) :
    (∃ r ∈ a.rawFindings around command, r.rule = some name) ∨
      ∃ f ∈ a.addedByDecoding around command, f.rule = some name := by
  rw [a.addedByDecoding_eq around command ho hcandidate]
  rcases unseen_name (a.mem_patternFindings_iff.2 hg) hname with hseen | ⟨k, hk, hkname⟩
  · exact .inl (List.mem_filterMap.1 hseen)
  · exact .inr ⟨decoded k, List.mem_map_of_mem hk, hkname⟩

/-! ## The verdict -/

theorem judge_overall_mono {b : Analyzer} (haccess : b.access = a.access) (hhome : b.home = a.home)
    (h : a.findings around command ⊆ b.findings around command) :
    (a.judge around command).assessment.overall ≤ (b.judge around command).assessment.overall := by
  rw [judge_assessment_eq, judge_assessment_eq, haccess, hhome]
  exact Assessment.overall_mono _ _ _ _ h

/-- The verdict is drawn from the findings and from what the setting does not touch. -/
theorem judge_withDecoding_congr
    (h : (a.withDecoding true).findings around command =
      (a.withDecoding false).findings around command) :
    (a.withDecoding true).judge around command = (a.withDecoding false).judge around command := by
  simp only [judge, h]
  rfl

/-- Looking at what a command decodes to only adds.  The errors and the warnings are those found
without it, each list with some findings more.  What is added is what rules report about the decoded
text, marked as such and each under a name of its own that nothing else is reported under; and no
rule that matches the decoded text is left without a finding under its name.  So the risk never goes
down and no command becomes valid, and where the decoded text is the command itself the verdict is
the same. -/
theorem judge_withDecoding_adds (a : Analyzer) (around : Surroundings) (command : String) :
    let off := (a.withDecoding false).judge around command
    let on := (a.withDecoding true).judge around command
    on.obfuscation = off.obfuscation ∧
    (∃ errors warnings, on.errors = off.errors ++ errors ∧ on.warnings = off.warnings ++ warnings ∧
      (∀ f ∈ errors ++ warnings, ∃ o g name,
        off.obfuscation = some o ∧ o.hasCandidate command = true ∧
        a.Reports o.deobfuscated g ∧ f = { g with message := "(deobfuscated) " ++ g.message } ∧
        f.rule = some name ∧ ∀ r ∈ off.findings, r.rule ≠ some name) ∧
      ((errors ++ warnings).map (·.rule)).Nodup ∧
      ∀ o g name, off.obfuscation = some o → o.hasCandidate command = true →
        a.Reports o.deobfuscated g → g.rule = some name →
        ∃ f ∈ off.findings ++ (errors ++ warnings), f.rule = some name) ∧
    off.assessment.overall ≤ on.assessment.overall ∧
    (on.valid = true → off.valid = true) ∧
    ∀ o, off.obfuscation = some o → Text.trim o.deobfuscated = Text.trim command → on = off := by
  intro off on
  have hoff := a.findings_withDecoding_false around command
  have hon := a.findings_withDecoding_true around command
  let extra := a.addedByDecoding around command
  have hperm : (extra.filter blocks ++ extra.filter (!blocks ·)).Perm extra :=
    List.filter_append_perm blocks extra
  have herrors : on.errors = off.errors ++ extra.filter blocks := by
    show ((a.withDecoding true).findings around command).filter blocks =
      ((a.withDecoding false).findings around command).filter blocks ++ _
    rw [hon, hoff, List.filter_append]
  have hwarnings : on.warnings = off.warnings ++ extra.filter (!blocks ·) := by
    show ((a.withDecoding true).findings around command).filter (!blocks ·) =
      ((a.withDecoding false).findings around command).filter (!blocks ·) ++ _
    rw [hon, hoff, List.filter_append]
  have hraw : ∀ r, r ∈ off.findings ↔ r ∈ a.rawFindings around command := by
    intro r
    rw [← hoff]
    exact ((a.withDecoding false).judge_findings_perm around command).mem_iff
  refine ⟨rfl, ⟨_, _, herrors, hwarnings, ?_, ?_, ?_⟩, ?_, ?_, ?_⟩
  · intro f hf
    obtain ⟨o, g, name, ho, hcandidate, hreports, hmessage, hname, hnew⟩ :=
      a.addedByDecoding_source around command (hperm.mem_iff.1 hf)
    exact ⟨o, g, name, ho, hcandidate, hreports, hmessage, hname,
      fun r hr => hnew r ((hraw r).1 hr)⟩
  · exact (hperm.map _).nodup_iff.2 (a.addedByDecoding_nodup around command)
  · intro o g name ho hcandidate hg hname
    rcases a.addedByDecoding_complete around command ho hcandidate hg hname with
      ⟨r, hr, hrname⟩ | ⟨f, hf, hfname⟩
    · exact ⟨r, List.mem_append_left _ ((hraw r).2 hr), hrname⟩
    · exact ⟨f, List.mem_append_right _ (hperm.mem_iff.2 hf), hfname⟩
  · refine (a.withDecoding false).judge_overall_mono around command rfl rfl ?_
    rw [hoff, hon]
    exact List.subset_append_left _ _
  · intro hvalid
    have hempty : on.errors = [] := List.isEmpty_iff.1 hvalid
    rw [herrors] at hempty
    exact List.isEmpty_iff.2 (List.append_eq_nil_iff.1 hempty).1
  · intro o ho hsame
    refine a.judge_withDecoding_congr around command ?_
    rw [hon, hoff, a.addedByDecoding_of_same around command ho hsame, List.append_nil]

end Analyzer

end ShellGuard
