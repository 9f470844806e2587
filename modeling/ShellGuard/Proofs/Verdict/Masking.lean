import Mathlib
import ShellGuard.Proofs.Rule.Coherence
import ShellGuard.Proofs.Verdict.Grading

/-!
# What the risk of a verdict covers

The overall risk of a command is at least the level of every rule that matches its text.  What the
command decodes to is searched as well, but of findings that share a name only the first is kept,
and rules, checks and the user's own rules all take their names from one supply.  So a rule that
matches the decoded text counts unless a finding of a lower level has its name, and it always counts
where the user's rules keep to names of their own.
-/

namespace ShellGuard

/-! ## Names of findings -/

@[simp] theorem Finding.suggest_rule (f : Finding) (s : String) : (f.suggest s).rule = f.rule := by
  unfold Finding.suggest
  split <;> rfl

/-- A finding about the form of a command is no risk. -/
theorem Finding.OfForm.not_relevant {f : Finding} (h : f.OfForm) :
    f.kind.isSafetyRelevant = false := by
  induction h with
  | flaw message => rfl
  | outdated message => rfl
  | placed _ p ih => exact ih
  | suggest _ s ih => rw [Finding.suggest_kind, ih]

theorem Rule.finding_rule (r : Rule) (kind : FindingKind) : (r.finding kind).rule = some r.name := by
  rw [Rule.finding, Finding.suggest_rule]
  rfl

theorem Rule.finding_riskLevel (r : Rule) (kind : FindingKind) :
    (r.finding kind).riskLevel = r.level := by
  rw [Rule.finding, Finding.suggest_riskLevel]
  rfl

theorem Rule.finding_kind (r : Rule) (kind : FindingKind) : (r.finding kind).kind = kind := by
  rw [Rule.finding, Finding.suggest_kind]
  rfl

theorem CustomRule.finding_rule (r : CustomRule) : r.finding.rule = some r.name := by
  rw [CustomRule.finding]

theorem CustomRule.finding_riskLevel (r : CustomRule) : r.finding.riskLevel = r.level := by
  rw [CustomRule.finding]

theorem CustomRule.finding_kind (r : CustomRule) : r.finding.kind = .custom := by
  rw [CustomRule.finding]

theorem Finding.OfForm.rule {f : Finding} (h : f.OfForm) : f.rule = none := by
  induction h with
  | flaw message => rfl
  | outdated message => rfl
  | placed _ p ih => exact ih
  | suggest _ s ih => rw [Finding.suggest_rule, ih]

/-- If a finding has a name, it is one of `names`, and the finding counts as a risk or is of low
level. -/
def Finding.Signed (names : List String) (f : Finding) : Prop :=
  ∀ name, f.rule = some name →
    name ∈ names ∧ (f.kind.isSafetyRelevant = true ∨ f.riskLevel = .low)

namespace Finding.Signed

variable {names : List String} {f : Finding}

theorem of_rule (name : String) (hrule : f.rule = some name) (hname : name ∈ names)
    (hk : f.kind.isSafetyRelevant = true ∨ f.riskLevel = .low) : f.Signed names := by
  intro n hn
  rw [hrule] at hn
  rw [← Option.some.inj hn]
  exact ⟨hname, hk⟩

theorem mono {more : List String} (h : f.Signed names) (hsub : names ⊆ more) : f.Signed more :=
  fun name hname => ⟨hsub (h name hname).1, (h name hname).2⟩

/-- What checks report. -/
theorem advice {rule : String} (hrule : rule ∈ names) (level : RiskLevel)
    (message suggestion : String) :
    ((Finding.hit .safety rule level message).suggest suggestion).Signed names :=
  .of_rule rule (Finding.suggest_rule _ _) hrule (.inl (by rw [Finding.suggest_kind]; rfl))

theorem withSeverity (h : f.Signed names) (s : Severity) : (f.withSeverity s).Signed names :=
  h

end Finding.Signed

/-- A compiled rule keeps the name and the level of its definition. -/
theorem RuleDefinition.compile?_eq_some {d : RuleDefinition} {r : Rule} (h : d.compile? = some r) :
    r.name = d.name ∧ r.level = d.level := by
  obtain ⟨p, -, rfl⟩ := Option.map_eq_some_iff.1 h
  exact ⟨rfl, rfl⟩

/-- The names under which the checks of `git` commands report. -/
def Git.ruleNames : List String :=
  ["git-force-push-protected", "git-reset-hard-uncommitted", "git-clean-aggressive",
    "git-rebase-protected", "git-add-sensitive"]

theorem Git.check_signed (branches : List String) (command : String) (root : Option Node)
    (ctx : GitContext) : Every (Finding.Signed ruleNames) (check branches command root ctx) := by
  intro f hf
  obtain ⟨inv, -, hf⟩ := List.mem_flatMap.1 hf
  refine (?_ : Every (Finding.Signed ruleNames) (checkInvocation branches ctx inv)) f hf
  unfold checkInvocation
  split
  · exact .ite (.one (.advice (by simp [ruleNames]) _ _ _))
  · exact .ite (.one (.advice (by simp [ruleNames]) _ _ _))
  · exact .ite (.one (Finding.Signed.withSeverity (.advice (by simp [ruleNames]) _ _ _) _))
  · exact .ite (.one (.advice (by simp [ruleNames]) _ _ _))
  · intro g hg
    obtain ⟨path, -, rfl⟩ := List.mem_map.1 hg
    exact Finding.Signed.withSeverity (.advice (by simp [ruleNames]) _ _ _) _
  · exact .nil

/-- The names under which the checks of jobs report. -/
def Ci.ruleNames : List String :=
  ["cicd-secret-exposure", "github-actions-token", "github-actions-deprecated", "gitlab-ci-token",
    "circleci-token", "jenkins-credentials", "cicd-env-exposure", "cicd-env-dump"] ++
    jobDefinitions.map (·.name)

namespace Ci

theorem checkPlatform_signed (command : String) (platform : CiPlatform) :
    Every (Finding.Signed ruleNames) (checkPlatform command platform) := by
  unfold checkPlatform
  dsimp only
  split
  · refine (Every.ite (.one (.advice (by simp [ruleNames]) _ _ _))).append (.ite (.one ?_))
    exact .of_rule "github-actions-deprecated" (Finding.suggest_rule _ _) (by simp [ruleNames])
      (.inr (Finding.suggest_riskLevel _ _))
  · exact .ite (.one (.advice (by simp [ruleNames]) _ _ _))
  · exact .ite (.one (.advice (by simp [ruleNames]) _ _ _))
  · exact .ite (.one (.advice (by simp [ruleNames]) _ _ _))
  · exact .nil

theorem checkExposure_signed (command : String) :
    Every (Finding.Signed ruleNames) (checkExposure command) := by
  refine (Every.ite ?_).append (.ite (.one (.advice (by simp [ruleNames]) _ _ _)))
  intro f hf
  obtain ⟨name, -, rfl⟩ := List.mem_map.1 hf
  exact .advice (by simp [ruleNames]) _ _ _

theorem checkJob_signed (command : String) :
    Every (Finding.Signed ruleNames) (checkJob command) := by
  intro f hf
  obtain ⟨r, hr, hf⟩ := List.mem_filterMap.1 hf
  obtain ⟨g, hg, rfl⟩ := Option.map_eq_some_iff.1 hf
  obtain ⟨d, hd, hr⟩ := List.mem_filterMap.1 hr
  have hname : r.name ∈ ruleNames := by
    rw [(RuleDefinition.compile?_eq_some hr).1]
    exact List.mem_append_right _ (List.mem_map_of_mem hd)
  rw [Rule.check_eq_some hg]
  exact Finding.Signed.withSeverity (.advice hname _ _ _) _

theorem check_signed (command : String) (ctx : CiContext) :
    Every (Finding.Signed ruleNames) (check command ctx) := by
  have hsecrets : Every (Finding.Signed ruleNames) (checkSecrets command) :=
    .ite (.one (.advice (by simp [ruleNames]) _ _ _))
  exact .ite (((hsecrets.append (checkPlatform_signed command ctx.platform)).append
    (checkExposure_signed command)).append (checkJob_signed command))

end Ci

namespace Analyzer

/-- The names under which everything but the rules reports. -/
def checkNames : List String :=
  "ObfuscationDetection" :: (Git.ruleNames ++ Ci.ruleNames)

variable (a : Analyzer) (around : Surroundings) (command : String)

theorem obfuscationFindings_signed :
    Every (Finding.Signed checkNames) (a.obfuscationFindings command) := by
  unfold obfuscationFindings
  split
  · refine .ite (.one (.of_rule "ObfuscationDetection" (Finding.suggest_rule _ _) ?_ (.inl ?_)))
    · simp [checkNames]
    · rw [obfuscationFinding, Finding.suggest_kind]
      rfl
  · exact .nil

/-- A finding about a command as it is written is one of a rule, or it is signed by a check. -/
theorem rawFindings_cases :
    Every (fun f => f ∈ a.patternFindings command ∨ f.Signed checkNames)
      (a.rawFindings around command) := by
  have hform : Every (Finding.Signed checkNames) (a.form command).findings :=
    (a.form_ofForm command).imp fun f hf name hname => by rw [hf.rule] at hname; cases hname
  have hgit : Every (Finding.Signed checkNames) (a.gitFindings around command) :=
    .ite ((Git.check_signed _ _ _ _).imp fun f hf => hf.mono fun n hn => by simp [checkNames, hn])
  have hci : Every (Finding.Signed checkNames) (a.ciFindings around command) :=
    .ite ((Ci.check_signed _ _).imp fun f hf => hf.mono fun n hn => by simp [checkNames, hn])
  exact ((((hform.imp fun _ => .inr).append
    ((a.obfuscationFindings_signed command).imp fun _ => .inr)).append
    fun f hf => .inl hf).append (hgit.imp fun _ => .inr)).append (hci.imp fun _ => .inr)

/-! ## Rules that match -/

/-- A built-in rule or an enabled rule of the user with this name and level matches a text. -/
inductive Hits (a : Analyzer) (text : String) : String → RiskLevel → Prop
  | builtin {r : Rule} (mem : r ∈ Builtin.rules) (fires : r.fires text = true) :
    Hits a text r.name r.level
  | custom {r : CustomRule} (mem : r ∈ a.rules.list) (enabled : r.enabled = true)
    (hits : r.hits text = true) : Hits a text r.name r.level

/-- The built-in rules, the user's, and both on what a command decodes to are looked for. -/
structure LooksEverywhere (a : Analyzer) : Prop where
  safety : a.settings.analysis.safetyCheck = true
  custom : a.settings.analysis.customRules = true
  obfuscation : a.settings.analysis.obfuscationDetection = true
  decoded : a.settings.analysis.analyzeDecoded = true

section Findings

variable {a} {text name : String} {level : RiskLevel} (hlooks : a.LooksEverywhere)
  (hrules : RuleStore.Coherent a.rules.entries)
include hlooks hrules

theorem mem_patternFindings {f : Finding} :
    f ∈ a.patternFindings text ↔
      (∃ r ∈ Builtin.rules, r.fires text = true ∧ f = r.finding .safety) ∨
      ∃ r ∈ a.rules.list, r.enabled = true ∧ r.hits text = true ∧ f = r.finding := by
  have hbuiltin : f ∈ Builtin.check text ↔
      ∃ r ∈ Builtin.rules, r.fires text = true ∧ f = r.finding .safety := by
    rw [Builtin.check, List.mem_filterMap]
    constructor
    · rintro ⟨r, hr, hcheck⟩
      refine ⟨r, hr, ?_, Rule.check_eq_some hcheck⟩
      by_contra hsilent
      simp [Rule.check, hsilent] at hcheck
    · rintro ⟨r, hr, hfires, rfl⟩
      exact ⟨r, hr, if_pos hfires⟩
  have hcustom : f ∈ a.rules.check text ↔
      ∃ r ∈ a.rules.list, r.enabled = true ∧ r.hits text = true ∧ f = r.finding := by
    rw [hrules.check_eq]
    simp only [List.mem_map, List.mem_filter]
    constructor
    · rintro ⟨r, ⟨⟨hr, hhits⟩, henabled⟩, rfl⟩
      exact ⟨r, hr, henabled, hhits, rfl⟩
    · rintro ⟨r, hr, henabled, hhits, rfl⟩
      exact ⟨r, ⟨⟨hr, hhits⟩, henabled⟩, rfl⟩
  rw [patternFindings, if_pos hlooks.safety, if_pos hlooks.custom, List.mem_append, hbuiltin,
    hcustom]

/-- A rule that matches reports its name and its level. -/
theorem Hits.finding (h : a.Hits text name level) :
    ∃ f ∈ a.patternFindings text, f.rule = some name ∧ f.riskLevel = level := by
  cases h with
  | @builtin r hr hfires =>
    refine ⟨r.finding .safety, (mem_patternFindings hlooks hrules).2 (.inl ⟨r, hr, hfires, rfl⟩), ?_⟩
    exact ⟨r.finding_rule _, r.finding_riskLevel _⟩
  | @custom r hr henabled hhits =>
    exact ⟨r.finding, (mem_patternFindings hlooks hrules).2 (.inr ⟨r, hr, henabled, hhits, rfl⟩),
      r.finding_rule, r.finding_riskLevel⟩

/-- Every finding of the rules is that of a rule which matches, and counts as a risk. -/
theorem hits_of_mem_patternFindings {f : Finding} (h : f ∈ a.patternFindings text) :
    f.kind.isSafetyRelevant = true ∧ ∃ name, f.rule = some name ∧ a.Hits text name f.riskLevel := by
  rcases (mem_patternFindings hlooks hrules).1 h with ⟨r, hr, hfires, rfl⟩ |
      ⟨r, hr, henabled, hhits, rfl⟩
  · rw [r.finding_kind, r.finding_riskLevel]
    exact ⟨rfl, r.name, r.finding_rule _, .builtin hr hfires⟩
  · rw [r.finding_kind, r.finding_riskLevel]
    exact ⟨rfl, r.name, r.finding_rule, .custom hr henabled hhits⟩

end Findings

/-! ## The overall risk -/

theorem judge_assessment_eq : (a.judge around command).assessment =
    .assess a.access a.home around.environment command (a.findings around command) := by
  simp only [judge]

/-- A finding that counts as a risk is covered by the overall risk. -/
theorem le_overall {f : Finding} (hf : f ∈ a.findings around command)
    (hk : f.kind.isSafetyRelevant = true) :
    f.riskLevel ≤ (a.judge around command).assessment.overall := by
  rw [judge_assessment_eq]
  exact Assessment.riskLevel_le_overall _ _ _ _ _ hf hk

/-- Of the findings with a name that has not been seen, the first is kept. -/
theorem unseen_name {seen : List String} {fs : List Finding} {f : Finding} {name : String}
    (hf : f ∈ fs) (hname : f.rule = some name) :
    name ∈ seen ∨ ∃ g ∈ unseen seen fs, g.rule = some name := by
  induction fs generalizing seen with
  | nil => simp at hf
  | cons g gs ih =>
    by_cases hseen : name ∈ seen
    · exact .inl hseen
    right
    rcases List.mem_cons.1 hf with rfl | hf
    · refine ⟨f, ?_, hname⟩
      rw [unseen, hname]
      simp [hseen]
    · rw [unseen]
      split
      · exact (ih hf).resolve_left hseen
      · rename_i rule hrule
        split
        · exact (ih hf).resolve_left hseen
        · by_cases heq : rule = name
          · exact ⟨g, List.mem_cons_self .., heq ▸ hrule⟩
          · have hlater := (ih hf).resolve_left (show name ∉ rule :: seen by simp [hseen, Ne.symm heq])
            obtain ⟨h, hh, hhname⟩ := hlater
            exact ⟨h, List.mem_cons_of_mem g hh, hhname⟩

theorem unseen_new {seen : List String} {fs : List Finding} {f : Finding}
    (h : f ∈ unseen seen fs) : ∃ name, f.rule = some name ∧ name ∉ seen := by
  induction fs generalizing seen with
  | nil => simp [unseen] at h
  | cons g gs ih =>
    rw [unseen] at h
    split at h
    · exact ih h
    · rename_i rule hrule
      split at h
      · exact ih h
      · rename_i hseen
        rcases List.mem_cons.1 h with rfl | h
        · exact ⟨rule, hrule, by simpa using hseen⟩
        · obtain ⟨name, hname, hnew⟩ := ih h
          exact ⟨name, hname, fun hmem => hnew (List.mem_cons_of_mem rule hmem)⟩

section Candidate

variable {a around command} {o : Obfuscation} {name : String} {level : RiskLevel}
  (hlooks : a.LooksEverywhere) (hrules : RuleStore.Coherent a.rules.entries)
include hlooks hrules

/-- A finding is one of a rule that matches the command or what it decodes to, or it is signed by a
check. -/
theorem findings_cases {f : Finding} (hf : f ∈ a.findings around command) :
    f.Signed checkNames ∨ f.kind.isSafetyRelevant = true ∧
      ∃ text name, f.rule = some name ∧ a.Hits text name f.riskLevel := by
  rcases List.mem_append.1 hf with hf | hf
  · rcases a.rawFindings_cases around command f hf with hf | hf
    · obtain ⟨hk, name, hname, hhits⟩ := hits_of_mem_patternFindings hlooks hrules hf
      exact .inr ⟨hk, command, name, hname, hhits⟩
    · exact .inl hf
  · unfold decodedFindings at hf
    split at hf
    · split at hf
      · obtain ⟨g, hg, rfl⟩ := List.mem_map.1 hf
        have hg := (unseen_sublist _ _).subset hg
        obtain ⟨hk, name, hname, hhits⟩ := hits_of_mem_patternFindings hlooks hrules hg
        exact .inr ⟨hk, _, name, hname, hhits⟩
      · simp at hf
    · simp at hf

theorem le_overall_of_hits (h : a.Hits command name level) :
    level ≤ (a.judge around command).assessment.overall := by
  obtain ⟨f, hf, -, rfl⟩ := h.finding hlooks hrules
  refine a.le_overall around command (List.mem_append_left _ ?_)
    (hits_of_mem_patternFindings hlooks hrules hf).1
  simp only [rawFindings, List.mem_append]
  exact .inl (.inl (.inr hf))

/-- The name of a rule that matches what a command decodes to is among those of the findings. -/
theorem exists_named (ho : a.obfuscation command = some o) (hcandidate : o.hasCandidate command = true)
    (h : a.Hits o.deobfuscated name level) :
    ∃ f ∈ a.findings around command, f.rule = some name := by
  obtain ⟨g, hg, hname, -⟩ := h.finding hlooks hrules
  have hdecoded : a.decodedFindings command (a.rawFindings around command) =
      (unseen ((a.rawFindings around command).filterMap (·.rule))
        (a.patternFindings o.deobfuscated)).map decoded := by
    simp [decodedFindings, ho, hlooks.decoded, hcandidate]
  rcases unseen_name hg hname with hseen | ⟨k, hk, hkname⟩
  · obtain ⟨f, hf, hfname⟩ := List.mem_filterMap.1 hseen
    exact ⟨f, List.mem_append_left _ hf, hfname⟩
  · refine ⟨decoded k, List.mem_append_right _ ?_, hkname⟩
    rw [hdecoded]
    exact List.mem_map_of_mem hk

/-- A rule that matches what a command decodes to is covered, unless a finding of a lower level has
its name. -/
theorem le_overall_or_masked (ho : a.obfuscation command = some o)
    (hcandidate : o.hasCandidate command = true) (h : a.Hits o.deobfuscated name level) :
    level ≤ (a.judge around command).assessment.overall ∨
      ∃ f ∈ a.findings around command, f.rule = some name ∧ f.riskLevel < level := by
  obtain ⟨f, hf, hname⟩ := exists_named hlooks hrules ho hcandidate h
  by_cases hlevel : f.riskLevel < level
  · exact .inr ⟨f, hf, hname, hlevel⟩
  have hle : level ≤ f.riskLevel := Nat.le_of_not_lt hlevel
  left
  have hcounts : f.kind.isSafetyRelevant = true ∨ f.riskLevel = .low := by
    rcases findings_cases hlooks hrules hf with hsigned | ⟨hk, -⟩
    · exact (hsigned name hname).2
    · exact .inl hk
  rcases hcounts with hk | hlow
  · exact Nat.le_trans hle (a.le_overall around command hf hk)
  · rw [hlow] at hle
    rw [RiskLevel.eq_low_of_le hle]
    exact Nat.zero_le _

end Candidate

/-! ## Names kept apart -/

/-- The names that built-in rules and checks report under. -/
def reservedNames : List String :=
  Builtin.definitions.map (·.name) ++ checkNames

/-- The user's rules keep to names of their own. -/
def NamesApart (a : Analyzer) : Prop :=
  ∀ r ∈ a.rules.list, r.name ∉ reservedNames

theorem builtin_definition {r : Rule} (h : r ∈ Builtin.rules) :
    ∃ d ∈ Builtin.definitions, r.name = d.name ∧ r.level = d.level := by
  obtain ⟨d, hd, hr⟩ := List.mem_filterMap.1 h
  exact ⟨d, hd, RuleDefinition.compile?_eq_some hr⟩

theorem builtin_names_nodup : (Builtin.definitions.map (·.name)).Nodup := by
  decide

theorem builtin_name_not_check {name : String} (h : name ∈ Builtin.definitions.map (·.name)) :
    name ∉ checkNames := by
  have hall : ∀ n ∈ Builtin.definitions.map (·.name), n ∉ checkNames := by decide
  exact hall name h

section Apart

variable {a} (hrules : RuleStore.Coherent a.rules.entries) (hapart : a.NamesApart)
  {text other name : String} {level level' : RiskLevel}
include hapart

theorem Hits.not_check (h : a.Hits text name level) : name ∉ checkNames := by
  cases h with
  | builtin hr _ =>
    obtain ⟨d, hd, hname, -⟩ := builtin_definition hr
    rw [hname]
    exact builtin_name_not_check (List.mem_map_of_mem hd)
  | custom hr _ _ => exact fun hcheck => hapart _ hr (List.mem_append_right _ hcheck)

include hrules

/-- Where names are kept apart, rules that match under one name have one level. -/
theorem Hits.level_unique (h : a.Hits text name level) (h' : a.Hits other name level') :
    level = level' := by
  generalize hname : name = name' at h'
  cases h with
  | @builtin r hr _ =>
    obtain ⟨d, hd, hdname, hdlevel⟩ := builtin_definition hr
    cases h' with
    | @builtin r' hr' _ =>
      obtain ⟨d', hd', hdname', hdlevel'⟩ := builtin_definition hr'
      have hsame : d = d' := List.inj_on_of_nodup_map builtin_names_nodup hd hd'
        (by rw [← hdname, ← hdname', hname])
      rw [hdlevel, hdlevel', hsame]
    | custom hr' _ _ =>
      refine absurd ?_ (hapart _ hr')
      rw [← hname, hdname]
      exact List.mem_append_left _ (List.mem_map_of_mem hd)
  | @custom r hr _ _ =>
    cases h' with
    | builtin hr' _ =>
      obtain ⟨d', hd', hdname', -⟩ := builtin_definition hr'
      refine absurd ?_ (hapart _ hr)
      rw [hname, hdname']
      exact List.mem_append_left _ (List.mem_map_of_mem hd')
    | @custom r' hr' _ _ =>
      rw [List.inj_on_of_nodup_map hrules.list_names hr hr' hname]

end Apart

section Covered

variable {σ : Type} {files : Files (StateM σ)} {a}

/-- Where the user's rules keep to names of their own, nothing that a command decodes to is
masked. -/
theorem le_overall_of_apart (hlooks : a.LooksEverywhere)
    (hrules : RuleStore.Coherent a.rules.entries) (hapart : a.NamesApart) {o : Obfuscation}
    (ho : a.obfuscation command = some o) (hcandidate : o.hasCandidate command = true)
    {name : String} {level : RiskLevel} (h : a.Hits o.deobfuscated name level) :
    level ≤ (a.judge around command).assessment.overall := by
  have hnamed : ∃ f ∈ a.findings around command, f.rule = some name :=
    exists_named hlooks hrules ho hcandidate h
  obtain ⟨f, hf, hname⟩ := hnamed
  rcases findings_cases hlooks hrules hf with hsigned | ⟨hk, text, name', hname', hhits⟩
  · exact absurd (hsigned name hname).1 (h.not_check hapart)
  · obtain rfl : name = name' := Option.some.inj (hname.symm.trans hname')
    rw [h.level_unique hrules hapart hhits]
    exact a.le_overall around command hf hk

/-- The overall risk covers every rule that matches the command.  It covers every rule that matches
what the command decodes to as well, except one whose name a finding of a lower level has, and none
is excepted if the user's rules keep to names of their own. -/
theorem judge_covers_hits (hlooks : a.LooksEverywhere) (hrules : RuleStore.Reachable files a.rules) :
    (∀ name level, a.Hits command name level →
      level ≤ (a.judge around command).assessment.overall) ∧
    ∀ o, (a.judge around command).obfuscation = some o → o.hasCandidate command = true →
      (∀ name level, a.Hits o.deobfuscated name level →
        level ≤ (a.judge around command).assessment.overall ∨
        ∃ f ∈ (a.judge around command).findings, f.rule = some name ∧ f.riskLevel < level) ∧
      (a.NamesApart → ∀ name level, a.Hits o.deobfuscated name level →
        level ≤ (a.judge around command).assessment.overall) := by
  have hcoherent := hrules.coherent
  refine ⟨fun name level h => le_overall_of_hits hlooks hcoherent h, ?_⟩
  intro o ho hcandidate
  have ho : a.obfuscation command = some o := ho
  refine ⟨fun name level h => ?_, fun hapart name level h =>
    le_overall_of_apart around command hlooks hcoherent hapart ho hcandidate h⟩
  rcases le_overall_or_masked hlooks hcoherent ho hcandidate h with hle | ⟨f, hf, hmasks⟩
  · exact .inl hle
  · exact .inr ⟨f, (a.judge_findings_perm around command).mem_iff.2 hf, hmasks⟩

end Covered

/-! ## A rule that is masked -/

/-- Only findings make the overall risk critical. -/
theorem overall_le_high
    (h : ∀ f ∈ a.findings around command, f.kind.isSafetyRelevant = true → f.riskLevel ≤ .high) :
    (a.judge around command).assessment.overall ≤ .high := by
  refine RiskLevel.le_high_of_ne_critical fun hcritical => ?_
  rw [judge_assessment_eq, Assessment.overall_critical_iff_finding] at hcritical
  obtain ⟨f, hf, hk, hlevel⟩ := hcritical
  have hhigh := h f hf hk
  rw [hlevel] at hhigh
  exact absurd hhigh (by decide)

/-- A key is added to a repository, a part of its name spelled in bytes. -/
def hiddenKey : String := "git add $'\\x70\\x72\\x6f\\x64'.pem"

theorem hiddenKey_detected :
    (Obfuscation.detect hiddenKey).hasCandidate hiddenKey = true ∧
      (Obfuscation.detect hiddenKey).deobfuscated = "git add prod.pem" ∧
      (Obfuscation.detect hiddenKey).riskLevel = .high := by
  decide +kernel

theorem hiddenKey_git :
    (Git.check Git.protectedBranches hiddenKey (FormReport.analyze false hiddenKey).root .none).map
      (fun f => (f.rule, f.riskLevel)) = [(some "git-add-sensitive", .high)] := by
  decide +kernel

/-- The pattern of a text, whatever memory it takes. -/
def reading? (text : String) : Option Pattern :=
  ((Pattern.Reader.alternation (2 * text.toList.length + 2) []).run
    ⟨text.toList, .initial, 0, []⟩).map (·.1.value)

theorem reading?_of_ofText? {text : String} {p : Pattern} (h : Pattern.ofText? text = some p) :
    reading? text = some p := by
  unfold Pattern.ofText? at h
  cases hread : (Pattern.Reader.alternation (2 * text.toList.length + 2) []).run
      ⟨text.toList, .initial, 0, []⟩ with
  | none => simp [hread] at h
  | some result =>
    simp only [hread, bind, Option.bind] at h
    split at h
    · rw [reading?, hread]
      exact h
    · cases h

/-- No built-in rule above high level matches the command or what it decodes to. -/
theorem hiddenKey_builtin :
    ∀ d ∈ Builtin.definitions, ¬d.level ≤ .high →
      (reading? d.source).any (·.isMatch hiddenKey) = false ∧
      (reading? d.source).any (·.isMatch "git add prod.pem") = false := by
  decide +kernel

/-- A rule of the user's against names that begin with `prod`. -/
def keyRule (name : String) : CustomRule :=
  .plain name "prod" .critical

theorem keyRule_hits (name : String) :
    (keyRule name).hits hiddenKey = false ∧ (keyRule name).hits "git add prod.pem" = true := by
  have hmatch : (Pattern.ofText? "prod").any (·.isMatch hiddenKey) = false ∧
      (Pattern.ofText? "prod").any (·.isMatch "git add prod.pem") = true := by
    decide +kernel
  exact hmatch

/-- A store with nothing but that rule. -/
theorem exists_keyRule_store {name : String} (hname : Text.trim name ≠ "") :
    ∃ s, RuleStore.Reachable RuleStore.noFiles s ∧ s.list = [keyRule name] := by
  have hread : ∃ p, Pattern.ofText? "prod" = some p := Option.isSome_iff_exists.1 (by cbv)
  have hadd : Change (.add (keyRule name)) [] [keyRule name] :=
    .add ⟨hname, by simp [keyRule, CustomRule.plain], hread⟩ (by simp)
  obtain ⟨s, hs, -, hlist⟩ :=
    (RuleStore.Reachable.empty : RuleStore.Reachable RuleStore.noFiles {}).changed rfl () hadd
  exact ⟨s, hs, hlist⟩

/-- An analysis with the settings a user starts with. -/
def usual (rules : RuleStore) : Analyzer where
  rules := rules
  access := .listed true [] []
  home := some "/home/tester"

theorem usual_looksEverywhere (rules : RuleStore) : (usual rules).LooksEverywhere :=
  ⟨rfl, rfl, rfl, rfl⟩

section Masked

variable {s : RuleStore}

theorem usual_gitFindings : ((usual s).gitFindings {} hiddenKey).map
    (fun f => (f.rule, f.riskLevel)) = [(some "git-add-sensitive", .high)] :=
  hiddenKey_git

theorem usual_gitFindings_named :
    ∃ f ∈ (usual s).gitFindings {} hiddenKey,
      f.rule = some "git-add-sensitive" ∧ f.riskLevel = .high := by
  have hmem : (some "git-add-sensitive", RiskLevel.high) ∈
      ((usual s).gitFindings {} hiddenKey).map (fun f => (f.rule, f.riskLevel)) := by
    rw [usual_gitFindings]
    exact List.mem_singleton_self _
  obtain ⟨f, hf, hpair⟩ := List.mem_map.1 hmem
  exact ⟨f, hf, Prod.mk.inj hpair⟩

theorem usual_obfuscation : (usual s).obfuscation hiddenKey = some (.detect hiddenKey) :=
  rfl

/-- Only the user's rule matches above high level, and only what the command decodes to. -/
theorem usual_hits (hlist : s.list = [keyRule "git-add-sensitive"]) {text name : String}
    {level : RiskLevel} (h : (usual s).Hits text name level)
    (htext : text = hiddenKey ∨ text = "git add prod.pem") :
    level ≤ .high ∨ name = "git-add-sensitive" ∧ text = "git add prod.pem" := by
  cases h with
  | @builtin r hr hfires =>
    left
    by_contra hlevel
    obtain ⟨d, hd, hcompile⟩ := List.mem_filterMap.1 hr
    obtain ⟨p, hp, rfl⟩ := Option.map_eq_some_iff.1 hcompile
    obtain ⟨hraw, hdecoded⟩ := hiddenKey_builtin d hd hlevel
    rw [reading?_of_ofText? hp] at hraw hdecoded
    have hfires : p.isMatch text = true := hfires
    rcases htext with rfl | rfl
    · simp [hfires] at hraw
    · simp [hfires] at hdecoded
  | @custom r hr _ hhits =>
    have hr : r ∈ s.list := hr
    rw [hlist, List.mem_singleton] at hr
    subst hr
    rcases htext with rfl | rfl
    · rw [(keyRule_hits _).1] at hhits
      cases hhits
    · exact .inr ⟨rfl, rfl⟩

variable (hs : RuleStore.Coherent s.entries) (hlist : s.list = [keyRule "git-add-sensitive"])
include hs hlist

theorem usual_rawFindings_le_high {f : Finding} (hf : f ∈ (usual s).rawFindings {} hiddenKey)
    (hk : f.kind.isSafetyRelevant = true) : f.riskLevel ≤ .high := by
  have hhigh : RiskLevel.high ≤ .high := by decide
  simp only [rawFindings, List.mem_append] at hf
  rcases hf with (((hform | hhidden) | hpattern) | hgit) | hci
  · have hform := ((usual s).form_ofForm hiddenKey f hform).not_relevant
    simp [hform] at hk
  · have hlevel : f.riskLevel = (Obfuscation.detect hiddenKey).riskLevel := by
      rw [obfuscationFindings, usual_obfuscation] at hhidden
      rw [mem_ite_singleton hhidden, obfuscationFinding, Finding.suggest_riskLevel]
      rfl
    rw [hlevel, hiddenKey_detected.2.2]
    exact hhigh
  · obtain ⟨-, name, -, hhits⟩ :=
      hits_of_mem_patternFindings (usual_looksEverywhere s) hs hpattern
    rcases usual_hits hlist hhits (.inl rfl) with hle | ⟨-, htext⟩
    · exact hle
    · exact absurd htext (by decide)
  · have hmem : (f.rule, f.riskLevel) ∈ [(some "git-add-sensitive", RiskLevel.high)] := by
      rw [← @usual_gitFindings s]
      exact List.mem_map_of_mem hgit
    rw [(Prod.mk.inj (List.mem_singleton.1 hmem)).2]
    exact hhigh
  · have hnone : (usual s).ciFindings {} hiddenKey = [] := rfl
    simp [hnone] at hci

theorem usual_findings_le_high {f : Finding} (hf : f ∈ (usual s).findings {} hiddenKey)
    (hk : f.kind.isSafetyRelevant = true) : f.riskLevel ≤ .high := by
  rcases List.mem_append.1 hf with hf | hf
  · exact usual_rawFindings_le_high hs hlist hf hk
  -- What the user's rule reports about the decoded text bears the name of a finding that is there.
  rw [decodedFindings, usual_obfuscation] at hf
  dsimp only at hf
  split at hf
  · obtain ⟨g, hg, rfl⟩ := List.mem_map.1 hf
    obtain ⟨name, hname, hnew⟩ := unseen_new hg
    obtain ⟨-, name', hname', hhits⟩ := hits_of_mem_patternFindings (usual_looksEverywhere s) hs
      ((unseen_sublist _ _).subset hg)
    rcases usual_hits hlist hhits (.inr hiddenKey_detected.2.1) with hle | ⟨rfl, -⟩
    · exact hle
    · obtain rfl : name = "git-add-sensitive" := Option.some.inj (hname.symm.trans hname')
      obtain ⟨check, hcheck, hrule, -⟩ := usual_gitFindings_named
      refine absurd (List.mem_filterMap.2 ⟨check, ?_, hrule⟩) hnew
      simp only [rawFindings, List.mem_append]
      exact .inl (.inr hcheck)
  · simp at hf

end Masked

theorem keyRule_hits_candidate {s : RuleStore} {name : String}
    (hlist : s.list = [keyRule name]) :
    (usual s).Hits (Obfuscation.detect hiddenKey).deobfuscated name .critical := by
  have hmem : keyRule name ∈ (usual s).rules.list := by
    show keyRule name ∈ s.list
    rw [hlist]
    exact List.mem_singleton_self _
  have hhits : (keyRule name).hits (Obfuscation.detect hiddenKey).deobfuscated = true := by
    rw [hiddenKey_detected.2.1]
    exact (keyRule_hits name).2
  have hlevel : (keyRule name).level = .critical := by
    show RiskLevel.parseLenient "critical" = .critical
    decide
  have h : (usual s).Hits (Obfuscation.detect hiddenKey).deobfuscated (keyRule name).name
      (keyRule name).level := .custom hmem rfl hhits
  rw [hlevel] at h
  exact h

/-- The user's rule has the name of a check that the command meets as it is written, so what the
rule reports about the decoded command is dropped. -/
theorem hidden_key_masked :
    ∃ s, RuleStore.Reachable RuleStore.noFiles s ∧ s.list = [keyRule "git-add-sensitive"] ∧
      (usual s).LooksEverywhere ∧
      ∃ o, ((usual s).judge {} hiddenKey).obfuscation = some o ∧
        o.hasCandidate hiddenKey = true ∧
        (usual s).Hits o.deobfuscated "git-add-sensitive" .critical ∧
        ((usual s).judge {} hiddenKey).assessment.overall = .high := by
  obtain ⟨s, hs, hlist⟩ := exists_keyRule_store (show Text.trim "git-add-sensitive" ≠ "" by decide)
  refine ⟨s, hs, hlist, usual_looksEverywhere s, .detect hiddenKey, rfl, hiddenKey_detected.1,
    keyRule_hits_candidate hlist, RiskLevel.rank_injective (Nat.le_antisymm ?_ ?_)⟩
  · exact (usual s).overall_le_high {} hiddenKey fun f hf hk =>
      usual_findings_le_high hs.coherent hlist hf hk
  · obtain ⟨check, hcheck, hrule, hlevel⟩ := @usual_gitFindings_named s
    have hmem : check ∈ (usual s).findings {} hiddenKey := by
      simp only [findings, rawFindings, List.mem_append]
      exact .inl (.inl (.inr hcheck))
    have hk : check.kind.isSafetyRelevant = true := by
      refine ((Git.check_signed _ _ _ _ check hcheck _ hrule).2).resolve_right ?_
      rw [hlevel]
      decide
    have hle := (usual s).le_overall {} hiddenKey hmem hk
    rw [hlevel] at hle
    exact hle

/-- The same rule under a name of its own counts. -/
theorem judge_covers_hits_hidden_key :
    ∃ s, RuleStore.Reachable RuleStore.noFiles s ∧ s.list = [keyRule "prod-keys"] ∧
      (usual s).LooksEverywhere ∧ (usual s).NamesApart ∧
      ∃ o, ((usual s).judge {} hiddenKey).obfuscation = some o ∧
        o.hasCandidate hiddenKey = true ∧
        (usual s).Hits o.deobfuscated "prod-keys" .critical ∧
        .critical ≤ ((usual s).judge {} hiddenKey).assessment.overall := by
  obtain ⟨s, hs, hlist⟩ := exists_keyRule_store (show Text.trim "prod-keys" ≠ "" by decide)
  have hapart : (usual s).NamesApart := by
    intro r hr
    have hr : r ∈ s.list := hr
    rw [hlist, List.mem_singleton] at hr
    rw [hr]
    exact (by decide : "prod-keys" ∉ reservedNames)
  have hhits := keyRule_hits_candidate hlist
  obtain ⟨-, hcovers⟩ := judge_covers_hits {} hiddenKey (usual_looksEverywhere s) hs
  exact ⟨s, hs, hlist, usual_looksEverywhere s, hapart, .detect hiddenKey, rfl,
    hiddenKey_detected.1, hhits,
    (hcovers _ rfl hiddenKey_detected.1).2 hapart _ _ hhits⟩

end Analyzer

end ShellGuard
