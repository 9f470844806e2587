import Mathlib
import ShellGuard.Proofs.Obfuscation.Level
import ShellGuard.Proofs.Risk.Aggregation
import ShellGuard.Proofs.Syntax.Complaints
import ShellGuard.Verdict

/-!
# Verdicts are decided by kind and level

Whether a finding blocks a command is read off its kind and its severity, and several checks set the
severity by hand.  A finding is `Graded` when that comes to the same as looking at its kind and its
level: it blocks exactly if it is a flaw of the form, or a rule that matched at more than low level.
Every stage of the analysis makes graded findings only.  From this the verdict follows: a command is
valid exactly if nothing among its findings is a flaw or a match above low level.
-/

namespace ShellGuard

/-- Whether a finding blocks is told by its kind and its level. -/
def Finding.Graded (f : Finding) : Prop :=
  Analyzer.blocks f = true ↔
    f.kind = .malformed ∨ f.kind.isSafetyRelevant = true ∧ f.riskLevel ≠ .low

namespace Finding

/-! ## Graded findings -/

@[simp] theorem suggest_kind (f : Finding) (s : String) : (f.suggest s).kind = f.kind := by
  unfold suggest
  split <;> rfl

@[simp] theorem suggest_severity (f : Finding) (s : String) :
    (f.suggest s).severity = f.severity := by
  unfold suggest
  split <;> rfl

@[simp] theorem suggest_riskLevel (f : Finding) (s : String) :
    (f.suggest s).riskLevel = f.riskLevel := by
  unfold suggest
  split <;> rfl

namespace Graded

/-- Only kind, severity and level matter. -/
theorem congr {f g : Finding} (h : f.Graded) (hk : g.kind = f.kind) (hs : g.severity = f.severity)
    (hl : g.riskLevel = f.riskLevel) : g.Graded := by
  have hblocks : Analyzer.blocks g = Analyzer.blocks f := by
    unfold Analyzer.blocks
    rw [hk, hs]
  unfold Graded
  rw [hblocks, hk, hl]
  exact h

theorem suggest {f : Finding} (h : f.Graded) (s : String) : (f.suggest s).Graded :=
  h.congr (suggest_kind f s) (suggest_severity f s) (suggest_riskLevel f s)

theorem placed {f : Finding} (h : f.Graded) (p : Position) : (f.placed p).Graded :=
  h.congr rfl rfl rfl

theorem flaw (message : String) : (Finding.flaw message).Graded := by
  simp [Graded, Analyzer.blocks, Finding.flaw, Finding.plain]

/-- A finding about an outdated form never blocks. -/
theorem deprecated {f : Finding} (h : f.kind = .deprecated) : f.Graded := by
  simp [Graded, Analyzer.blocks, h, FindingKind.isSafetyRelevant]

/-- A match is as loud as its level asks, and only a low one merely informs. -/
theorem hit {kind : FindingKind} (hk : kind.isSafetyRelevant = true) (rule : String)
    (level : RiskLevel) (message : String) : (Finding.hit kind rule level message).Graded := by
  cases kind <;> cases level <;>
    simp_all [Graded, Analyzer.blocks, Finding.hit, RiskLevel.severity, FindingKind.isSafetyRelevant]

/-- The severity of a match above low level may be set to anything that does not merely inform. -/
theorem withSeverity {f : Finding} (hk : f.kind.isSafetyRelevant = true) (hl : f.riskLevel ≠ .low)
    {s : Severity} (hs : s ≠ .info) : (f.withSeverity s).Graded := by
  rcases FindingKind.isSafetyRelevant_iff.1 hk with hf | hf <;>
    simp [Graded, Analyzer.blocks, Finding.withSeverity, hf, hl, hs, FindingKind.isSafetyRelevant]

/-- What rules and checks report: a match with advice. -/
theorem advice {kind : FindingKind} (hk : kind.isSafetyRelevant = true) (rule : String)
    (level : RiskLevel) (message suggestion : String) :
    ((Finding.hit kind rule level message).suggest suggestion).Graded :=
  (hit hk rule level message).suggest suggestion

/-- A check may lower an error to a warning, which blocks as well. -/
theorem warning {kind : FindingKind} (hk : kind.isSafetyRelevant = true) (rule : String)
    {level : RiskLevel} (hl : level ≠ .low) (message suggestion : String) :
    (((Finding.hit kind rule level message).suggest suggestion).withSeverity .warning).Graded := by
  refine withSeverity ?_ ?_ (by decide)
  · rw [suggest_kind]
    exact hk
  · rw [suggest_riskLevel]
    exact hl

end Graded

end Finding

/-! ## Lists of findings -/

/-- Findings all of which have a property. -/
def Every (P : Finding → Prop) (fs : List Finding) : Prop :=
  ∀ f ∈ fs, P f

namespace Every

variable {P Q : Finding → Prop}

theorem nil : Every P [] := by
  intro f hf
  simp at hf

theorem one {f : Finding} (h : P f) : Every P [f] := by
  intro g hg
  rw [List.mem_singleton.1 hg]
  exact h

theorem append {fs gs : List Finding} (hf : Every P fs) (hg : Every P gs) : Every P (fs ++ gs) :=
  List.forall_mem_append.2 ⟨hf, hg⟩

/-- A check that reports something or nothing. -/
theorem ite {c : Prop} [Decidable c] {fs : List Finding} (h : Every P fs) :
    Every P (if c then fs else []) := by
  split
  · exact h
  · exact nil

theorem imp {fs : List Finding} (h : Every P fs) (hPQ : ∀ f, P f → Q f) : Every Q fs :=
  fun f hf => hPQ f (h f hf)

end Every

/-- Findings all of which are graded. -/
abbrev AllGraded (fs : List Finding) : Prop :=
  Every Finding.Graded fs

/-! ## The form of a command -/

/-- How a finding about the form of a command is made: it is a flaw or an outdated form, and may be
given a place and a way out. -/
inductive Finding.OfForm : Finding → Prop
  | flaw (message : String) : OfForm (.flaw message)
  | outdated (message : String) : OfForm (.plain .deprecated .warning message)
  | placed {f : Finding} (h : OfForm f) (p : Position) : OfForm (f.placed p)
  | suggest {f : Finding} (h : OfForm f) (s : String) : OfForm (f.suggest s)

theorem Finding.OfForm.graded {f : Finding} (h : f.OfForm) : f.Graded := by
  induction h with
  | flaw message => exact .flaw message
  | outdated message => exact .deprecated rfl
  | placed _ p ih => exact ih.placed p
  | suggest _ s ih => exact ih.suggest s

theorem IsComplaint.ofForm {f : Finding} (h : IsComplaint f) : f.OfForm := by
  obtain ⟨message, p, rfl⟩ := h
  exact (Finding.OfForm.flaw message).placed p

theorem Complaints.ofForm {fs : List Finding} (h : Complaints fs) : Every Finding.OfForm fs :=
  fun f hf => (h f hf).ofForm

theorem glance_ofForm (command : String) : Every Finding.OfForm (FormReport.glance command) := by
  have hone (message suggestion : String) :
      Every Finding.OfForm [(Finding.flaw message).suggest suggestion] :=
    .one ((Finding.OfForm.flaw message).suggest suggestion)
  unfold FormReport.glance
  exact (((Every.ite (hone _ _)).append (.ite (hone _ _))).append (.ite (hone _ _))).append
    (.ite (.one (.flaw _)))

theorem flaws_ofForm (n : Node) : Every Finding.OfForm n.flaws := by
  have hone (message : String) (p : Position) :
      Every Finding.OfForm [(Finding.flaw message).placed p] :=
    .one ((Finding.OfForm.flaw message).placed p)
  have hadvised (message suggestion : String) (p : Position) :
      Every Finding.OfForm [((Finding.flaw message).placed p).suggest suggestion] :=
    .one (((Finding.OfForm.flaw message).placed p).suggest suggestion)
  unfold Node.flaws
  split
  · exact .ite (hone _ _)
  · exact (Every.ite (hone _ _)).append (.ite (hadvised _ _ _))
  · refine (Every.ite (hone _ _)).append ?_
    split
    · exact .nil
    · exact hone _ _
  · split
    · exact .nil
    · exact hadvised _ _ _
  · exact .nil

theorem deprecations_ofForm (n : Node) : Every Finding.OfForm n.deprecations := by
  unfold Node.deprecations
  split
  · exact .one (((Finding.OfForm.outdated _).placed _).suggest _)
  · exact .nil

theorem review_ofForm (strict : Bool) (n : Node) : Every Finding.OfForm (n.review strict) := by
  intro f hf
  obtain ⟨m, _, hf⟩ := List.mem_flatMap.1 hf
  exact ((flaws_ofForm m).append (.ite (deprecations_ofForm m))) f hf

theorem gather_ofForm (strict : Bool) (command : String) :
    Every Finding.OfForm (FormReport.gather strict command).findings := by
  have hglance := glance_ofForm command
  unfold FormReport.gather
  split
  · rename_i p hp
    exact (hglance.append (parse_notes hp).ofForm).append (review_ofForm strict p.root)
  · unfold FormReport.ofLexError
    dsimp only
    split
    · exact hglance
    · exact hglance.append (.one ((Finding.OfForm.flaw _).placed _))
  · rename_i notes hnotes
    unfold FormReport.ofNoCommands
    dsimp only
    split
    · exact .one (.flaw _)
    · exact hglance.append (parse_noCommands_notes hnotes).ofForm

/-- Dropping repetitions keeps some of the findings, in their order. -/
theorem Finding.dedupeFrom_sublist (seen fs : List Finding) :
    (Finding.dedupeFrom seen fs).Sublist fs := by
  induction fs generalizing seen with
  | nil => exact .slnil
  | cons f fs ih =>
    unfold Finding.dedupeFrom
    split
    · exact (ih seen).cons f
    · exact (ih (f :: seen)).cons_cons f

theorem analyze_ofForm (strict : Bool) (command : String) :
    Every Finding.OfForm (FormReport.analyze strict command).findings :=
  fun f hf => gather_ofForm strict command f ((Finding.dedupeFrom_sublist [] _).subset hf)

/-! ## Rules -/

/-- What a rule reports, it reports as itself. -/
theorem Rule.check_eq_some {r : Rule} {kind : FindingKind} {command : String} {f : Finding}
    (h : r.check kind command = some f) : f = r.finding kind := by
  unfold Rule.check at h
  split at h
  · exact (Option.some.inj h).symm
  · simp at h

theorem builtin_graded (command : String) : AllGraded (Builtin.check command) := by
  intro f hf
  obtain ⟨r, _, hr⟩ := List.mem_filterMap.1 hf
  rw [Rule.check_eq_some hr]
  exact .advice rfl r.name r.level r.message r.suggestion

theorem custom_graded (rules : RuleStore) (command : String) : AllGraded (rules.check command) := by
  intro f hf
  obtain ⟨e, _, he⟩ := List.mem_filterMap.1 hf
  rw [Rule.check_eq_some he]
  exact .advice rfl _ _ _ _

/-! ## Git -/

namespace Git

theorem checkInvocation_graded (branches : List String) (ctx : GitContext) (inv : Invocation) :
    AllGraded (checkInvocation branches ctx inv) := by
  unfold checkInvocation
  split
  · exact .ite (.one (.advice rfl _ _ _ _))
  · exact .ite (.one (.advice rfl _ _ _ _))
  · exact .ite (.one (Finding.Graded.warning rfl _ (by decide) _ _))
  · exact .ite (.one (.advice rfl _ _ _ _))
  · intro f hf
    obtain ⟨path, _, rfl⟩ := List.mem_map.1 hf
    exact Finding.Graded.warning rfl _ (by decide) _ _
  · exact .nil

theorem check_graded (branches : List String) (command : String) (root : Option Node)
    (ctx : GitContext) : AllGraded (check branches command root ctx) := by
  intro f hf
  obtain ⟨inv, _, hf⟩ := List.mem_flatMap.1 hf
  exact checkInvocation_graded branches ctx inv f hf

end Git

/-! ## Jobs of a continuous integration system -/

namespace Ci

theorem checkPlatform_graded (command : String) (platform : CiPlatform) :
    AllGraded (checkPlatform command platform) := by
  unfold checkPlatform
  dsimp only
  split
  · exact (Every.ite (.one (.advice rfl _ _ _ _))).append
      (.ite (.one (.deprecated (Finding.suggest_kind _ _))))
  · exact .ite (.one (.advice rfl _ _ _ _))
  · exact .ite (.one (.advice rfl _ _ _ _))
  · exact .ite (.one (.advice rfl _ _ _ _))
  · exact .nil

theorem checkExposure_graded (command : String) : AllGraded (checkExposure command) := by
  refine (Every.ite ?_).append (.ite (.one (.advice rfl _ _ _ _)))
  intro f hf
  obtain ⟨name, _, rfl⟩ := List.mem_map.1 hf
  exact .advice rfl _ _ _ _

/-- A rule for jobs has the level of its definition, and none of them is low. -/
theorem jobRules_level_ne_low {r : Rule} (h : r ∈ jobRules) : r.level ≠ .low := by
  obtain ⟨d, hd, hr⟩ := List.mem_filterMap.1 h
  obtain ⟨p, _, rfl⟩ := Option.map_eq_some_iff.1 hr
  have hlevels : ∀ d ∈ jobDefinitions, d.level ≠ .low := by
    simp [jobDefinitions]
  exact hlevels d hd

theorem checkJob_graded (command : String) : AllGraded (checkJob command) := by
  intro f hf
  obtain ⟨r, hr, hf⟩ := List.mem_filterMap.1 hf
  obtain ⟨g, hg, rfl⟩ := Option.map_eq_some_iff.1 hf
  rw [Rule.check_eq_some hg]
  exact .warning rfl _ (jobRules_level_ne_low hr) _ _

theorem check_graded (command : String) (ctx : CiContext) : AllGraded (check command ctx) := by
  have hsecrets : AllGraded (checkSecrets command) := .ite (.one (.advice rfl _ _ _ _))
  have hplatform := checkPlatform_graded command ctx.platform
  have hexposure := checkExposure_graded command
  exact .ite (((hsecrets.append hplatform).append hexposure).append (checkJob_graded command))

end Ci

/-! ## The whole analysis -/

namespace Analyzer

variable (a : Analyzer) (around : Surroundings) (command : String)

/-- The finding about a hidden command is a warning at least, and never of low level. -/
theorem obfuscationFinding_graded {o : Obfuscation} (h : o.riskLevel ≠ .low) :
    (a.obfuscationFinding o).Graded := by
  refine Finding.Graded.suggest (.withSeverity rfl h ?_) _
  split <;> decide

theorem form_ofForm : Every Finding.OfForm (a.form command).findings := by
  unfold form
  split
  · exact analyze_ofForm _ command
  · exact .nil

theorem form_graded : AllGraded (a.form command).findings :=
  (a.form_ofForm command).imp fun _ => Finding.OfForm.graded

theorem obfuscationFindings_graded : AllGraded (a.obfuscationFindings command) := by
  unfold obfuscationFindings obfuscation
  split
  · rename_i o ho
    obtain ⟨_, rfl⟩ : a.settings.analysis.obfuscationDetection = true ∧
        Obfuscation.detect command = o := by simpa using ho
    by_cases hid : (Obfuscation.detect command).isObfuscated = true
    · rw [if_pos hid]
      exact .one (a.obfuscationFinding_graded (Obfuscation.detect_riskLevel_ne_low hid))
    · rw [if_neg hid]
      exact .nil
  · exact .nil

theorem patternFindings_graded : AllGraded (a.patternFindings command) :=
  (Every.ite (builtin_graded command)).append (.ite (custom_graded a.rules command))

theorem rawFindings_graded : AllGraded (a.rawFindings around command) :=
  ((((a.form_graded command).append (a.obfuscationFindings_graded command)).append
    (a.patternFindings_graded command)).append (.ite (Git.check_graded _ _ _ _))).append
    (.ite (Ci.check_graded _ _))

/-- What only the decoded command shows is among what its rules report. -/
theorem unseen_sublist (seen : List String) (fs : List Finding) : (unseen seen fs).Sublist fs := by
  induction fs generalizing seen with
  | nil => exact .slnil
  | cons f fs ih =>
    unfold unseen
    split
    · exact (ih seen).cons f
    · split
      · exact (ih seen).cons f
      · exact (ih _).cons_cons f

theorem decodedFindings_graded (raw : List Finding) :
    AllGraded (a.decodedFindings command raw) := by
  unfold decodedFindings
  split
  · refine .ite fun f hf => ?_
    obtain ⟨g, hg, rfl⟩ := List.mem_map.1 hf
    exact (a.patternFindings_graded _ g ((unseen_sublist _ _).subset hg)).congr rfl rfl rfl
  · exact .nil

/-- Every finding of an analysis is graded. -/
theorem findings_graded : AllGraded (a.findings around command) :=
  (a.rawFindings_graded around command).append (a.decodedFindings_graded command _)

/-! ## The verdict -/

theorem judge_errors : (a.judge around command).errors = (a.findings around command).filter blocks :=
  rfl

theorem judge_warnings :
    (a.judge around command).warnings = (a.findings around command).filter (!blocks ·) :=
  rfl

/-- Errors and warnings are the collected findings, told apart. -/
theorem judge_findings_perm :
    ((a.judge around command).findings).Perm (a.findings around command) :=
  List.filter_append_perm blocks (a.findings around command)

theorem judge_valid_iff :
    (a.judge around command).valid = true ↔
      ∀ f ∈ (a.judge around command).findings, blocks f ≠ true := by
  have hvalid : (a.judge around command).valid = (a.judge around command).errors.isEmpty := rfl
  rw [hvalid, List.isEmpty_iff, judge_errors, List.filter_eq_nil_iff]
  constructor
  · intro h f hf
    exact h f ((a.judge_findings_perm around command).mem_iff.1 hf)
  · intro h f hf
    exact h f ((a.judge_findings_perm around command).mem_iff.2 hf)

theorem judge_findings_graded : AllGraded (a.judge around command).findings :=
  fun f hf => a.findings_graded around command f
    ((a.judge_findings_perm around command).mem_iff.1 hf)

/-- In a valid command every match is of low level, however loud it is. -/
theorem match_low_of_valid {f : Finding} (hvalid : (a.judge around command).valid = true)
    (hf : f ∈ (a.judge around command).findings) (hk : f.kind = .safety ∨ f.kind = .custom) :
    f.riskLevel = .low := by
  have hrelevant := FindingKind.isSafetyRelevant_iff.2 hk
  by_cases hl : f.riskLevel = .low
  · exact hl
  · have hblocks := (a.judge_findings_graded around command f hf).2 (.inr ⟨hrelevant, hl⟩)
    exact absurd hblocks ((a.judge_valid_iff around command).1 hvalid f hf)

/-- The finding about a hidden command is among those of the verdict. -/
theorem obfuscationFinding_mem (hon : a.settings.analysis.obfuscationDetection = true)
    (hid : (Obfuscation.detect command).isObfuscated = true) :
    a.obfuscationFinding (Obfuscation.detect command) ∈ (a.judge around command).findings := by
  refine (a.judge_findings_perm around command).mem_iff.2 (List.mem_append_left _ ?_)
  have hstage : a.obfuscationFinding (Obfuscation.detect command) ∈
      a.obfuscationFindings command := by
    simp [obfuscationFindings, obfuscation, hon, hid]
  simp only [rawFindings, List.mem_append]
  exact .inl (.inl (.inl (.inr hstage)))

/-- Severity plays no part: a command is valid exactly if it has no flaw and no match above low. -/
theorem judge_valid_iff_kinds :
    (a.judge around command).valid = true ↔
      (∀ f ∈ (a.judge around command).findings, f.kind ≠ .malformed) ∧
      ∀ f ∈ (a.judge around command).findings, f.kind = .safety ∨ f.kind = .custom →
        f.riskLevel = .low := by
  constructor
  · intro hvalid
    refine ⟨?_, fun f hf hk => a.match_low_of_valid around command hvalid hf hk⟩
    intro f hf hk
    have hblocks := (a.judge_findings_graded around command f hf).2 (.inl hk)
    exact (a.judge_valid_iff around command).1 hvalid f hf hblocks
  · rintro ⟨hform, hlow⟩
    refine (a.judge_valid_iff around command).2 ?_
    intro f hf hblocks
    rcases (a.judge_findings_graded around command f hf).1 hblocks with hk | ⟨hk, hl⟩
    · exact hform f hf hk
    · exact hl (hlow f hf (FindingKind.isSafetyRelevant_iff.1 hk))

theorem not_obfuscated_of_valid (hvalid : (a.judge around command).valid = true)
    (hon : a.settings.analysis.obfuscationDetection = true) :
    ∃ o, (a.judge around command).obfuscation = some o ∧ o.isObfuscated = false := by
  refine ⟨Obfuscation.detect command, by simp [judge, obfuscation, hon], ?_⟩
  rw [Bool.eq_false_iff]
  intro hid
  have hmem := a.obfuscationFinding_mem around command hon hid
  have hlow := a.match_low_of_valid around command hvalid hmem (.inl rfl)
  exact Obfuscation.detect_riskLevel_ne_low hid hlow

/-- A command is valid exactly if none of its findings is a flaw of the form and each match among
them is of low level.  So nothing hidden is valid, and a match of medium level or more blocks
whatever its severity was set to.  Errors and warnings keep the order in which findings were
collected, and together they are those findings, each as often as it was collected. -/
theorem judge_exact :
    ((a.judge around command).valid = true ↔
      (∀ f ∈ (a.judge around command).findings, f.kind ≠ .malformed) ∧
      ∀ f ∈ (a.judge around command).findings, f.kind = .safety ∨ f.kind = .custom →
        f.riskLevel = .low) ∧
    ((a.judge around command).valid = true → a.settings.analysis.obfuscationDetection = true →
      ∃ o, (a.judge around command).obfuscation = some o ∧ o.isObfuscated = false) ∧
    (∀ f ∈ (a.judge around command).findings, f.kind = .safety ∨ f.kind = .custom →
      .medium ≤ f.riskLevel → (a.judge around command).valid = false) ∧
    (a.judge around command).errors.Sublist (a.findings around command) ∧
    (a.judge around command).warnings.Sublist (a.findings around command) ∧
    ((a.judge around command).errors ++ (a.judge around command).warnings).Perm
      (a.findings around command) := by
  refine ⟨a.judge_valid_iff_kinds around command, a.not_obfuscated_of_valid around command, ?_, ?_,
    ?_, a.judge_findings_perm around command⟩
  · intro f hf hk hl
    rw [Bool.eq_false_iff]
    intro hvalid
    rw [a.match_low_of_valid around command hvalid hf hk] at hl
    exact absurd hl (by decide)
  · rw [judge_errors]
    exact List.filter_sublist
  · rw [judge_warnings]
    exact List.filter_sublist

end Analyzer

end ShellGuard
