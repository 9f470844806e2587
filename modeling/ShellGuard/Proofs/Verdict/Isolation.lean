import Mathlib
import ShellGuard.Proofs.Verdict.Masking

/-!
# Form and risk are judged apart

An analysis collects what it finds about the form of a command and what its rules and checks match in
one list, and reads that list again for the risk, for the suggestions and for what blocks.  Three
facts keep the two apart.  The later stages take from the form the tree alone, and the tree is the
same whether the form is reported on or not.  A finding about the form names no rule, so it never
stands in for a match on what the command decodes to.  And it is of a kind that the risk passes over.
So what is matched (`Analyzer.matched`) and the risk depend on none of the settings for the form.

Strict mode changes the report on the form by outdated constructs only.  Repetitions are dropped by
kind and message, and no flaw is of their kind, so the flaws stay as they are
(`Finding.filter_dedupe`); and all outdated constructs share one message, so the first stands for all
of them.
-/

namespace ShellGuard

/-! ## Dropping repetitions -/

namespace Finding

/-- Findings of some kinds are told apart by findings of those kinds alone. -/
theorem filter_dedupeFrom {p : Finding → Bool} (hp : ∀ f g : Finding, f.kind = g.kind → p f = p g)
    (seen fs : List Finding) :
    (dedupeFrom seen fs).filter p = dedupeFrom (seen.filter p) (fs.filter p) := by
  induction fs generalizing seen with
  | nil => rfl
  | cons f fs ih =>
    by_cases hf : p f = true
    · have hseen : (seen.filter p).any f.sameAs = seen.any f.sameAs := by
        rw [List.any_filter]
        congr 1
        funext g
        by_cases hkind : f.kind = g.kind
        · rw [← hp f g hkind, hf, Bool.true_and]
        · simp [sameAs, hkind]
      rw [List.filter_cons_of_pos hf]
      simp only [dedupeFrom, hseen]
      by_cases hany : seen.any f.sameAs = true
      · rw [if_pos hany, if_pos hany]
        exact ih seen
      · rw [if_neg hany, if_neg hany, List.filter_cons_of_pos hf, ih, List.filter_cons_of_pos hf]
    · rw [List.filter_cons_of_neg hf, dedupeFrom]
      by_cases hany : seen.any f.sameAs = true
      · rw [if_pos hany]
        exact ih seen
      · rw [if_neg hany, List.filter_cons_of_neg hf, ih, List.filter_cons_of_neg hf]

theorem filter_dedupe {p : Finding → Bool} (hp : ∀ f g : Finding, f.kind = g.kind → p f = p g)
    (fs : List Finding) : (dedupe fs).filter p = dedupe (fs.filter p) :=
  filter_dedupeFrom hp [] fs

theorem dedupeFrom_eq_nil {seen fs : List Finding} (h : ∀ f ∈ fs, seen.any f.sameAs = true) :
    dedupeFrom seen fs = [] := by
  induction fs with
  | nil => rfl
  | cons f fs ih =>
    rw [dedupeFrom, if_pos (h f List.mem_cons_self)]
    exact ih fun g hg => h g (List.mem_cons_of_mem f hg)

/-- Where all findings say the same, the first is kept. -/
theorem dedupe_of_same {fs : List Finding} (h : ∀ f ∈ fs, ∀ g ∈ fs, f.sameAs g = true) :
    dedupe fs = fs.take 1 := by
  cases fs with
  | nil => rfl
  | cons f fs =>
    have hrest : dedupeFrom [f] fs = [] := by
      refine dedupeFrom_eq_nil fun g hg => ?_
      rw [List.any_cons, h g (List.mem_cons_of_mem f hg) f List.mem_cons_self, Bool.true_or]
    show f :: dedupeFrom [f] fs = [f]
    rw [hrest]

/-! ## Outdated constructs among findings -/

/-- Whether a finding is about an outdated construct. -/
def isOutdated (f : Finding) : Bool :=
  f.kind == .deprecated

theorem isOutdated_congr (f g : Finding) (h : f.kind = g.kind) : f.isOutdated = g.isOutdated := by
  rw [isOutdated, isOutdated, h]

/-- Of what is found about the form, all blocks but outdated constructs. -/
theorem OfForm.blocks_eq {f : Finding} (h : f.OfForm) : Analyzer.blocks f = !f.isOutdated := by
  induction h with
  | flaw message => rfl
  | outdated message => rfl
  | placed _ p ih => exact ih
  | @suggest f _ s ih =>
    have hblocks : Analyzer.blocks (f.suggest s) = Analyzer.blocks f := by
      simp only [Analyzer.blocks, suggest_kind, suggest_severity]
    rw [hblocks, ih, isOutdated_congr _ _ (suggest_kind f s)]

end Finding

/-- Findings none of which is about an outdated construct. -/
abbrev AllFlaws (fs : List Finding) : Prop :=
  Every (·.isOutdated = false) fs

namespace AllFlaws

theorem filter_outdated {fs : List Finding} (h : AllFlaws fs) : fs.filter (·.isOutdated) = [] :=
  List.filter_eq_nil_iff.2 fun f hf => by simp [h f hf]

theorem filter_flaws {fs : List Finding} (h : AllFlaws fs) : fs.filter (!·.isOutdated) = fs :=
  List.filter_eq_self.2 fun f hf => by simp [h f hf]

end AllFlaws

theorem isOutdated_flaw (message suggestion : String) :
    ((Finding.flaw message).suggest suggestion).isOutdated = false :=
  Finding.isOutdated_congr _ (.flaw message) (Finding.suggest_kind _ _)

theorem glance_flaws (command : String) : AllFlaws (FormReport.glance command) :=
  (((Every.ite (.one (isOutdated_flaw _ _))).append (.ite (.one (isOutdated_flaw _ _)))).append
    (.ite (.one (isOutdated_flaw _ _)))).append (.ite (.one rfl))

theorem Complaints.flaws {fs : List Finding} (h : Complaints fs) : AllFlaws fs := by
  intro f hf
  obtain ⟨message, p, rfl⟩ := h f hf
  rfl

theorem Node.flaws_flaws (n : Node) : AllFlaws n.flaws := by
  have hone (p : Position) (message : String) : AllFlaws [(Finding.flaw message).placed p] :=
    .one rfl
  have hadvised (p : Position) (message suggestion : String) :
      AllFlaws [((Finding.flaw message).placed p).suggest suggestion] :=
    .one (Finding.isOutdated_congr _ (.flaw message) (Finding.suggest_kind _ _))
  unfold Node.flaws
  split
  · exact .ite (hone _ _)
  · exact (Every.ite (hone _ _)).append (.ite (hadvised _ _ _))
  · refine (Every.ite (hone _ _)).append ?_
    split
    · exact .nil
    · exact hone _ _
  · split
    · exact .nil
    · exact hadvised _ _ _
  · exact .nil

theorem Node.mem_deprecations {n : Node} {f : Finding} (h : f ∈ n.deprecations) :
    ∃ p, f = Node.backtickWarning p := by
  unfold Node.deprecations at h
  split at h
  · exact ⟨_, List.mem_singleton.1 h⟩
  · cases h

theorem Node.isOutdated_backtickWarning (p : Position) : (backtickWarning p).isOutdated = true :=
  Finding.isOutdated_congr _ (.plain .deprecated .warning "") (Finding.suggest_kind _ _)

theorem Node.filter_deprecations (n : Node) :
    n.deprecations.filter (·.isOutdated) = n.deprecations ∧
      n.deprecations.filter (!·.isOutdated) = [] := by
  have hall : ∀ f ∈ n.deprecations, f.isOutdated = true := by
    intro f hf
    obtain ⟨p, rfl⟩ := mem_deprecations hf
    exact isOutdated_backtickWarning p
  exact ⟨List.filter_eq_self.2 hall, List.filter_eq_nil_iff.2 fun f hf => by simp [hall f hf]⟩

/-! ## The report on the form -/

namespace FormReport

/-- The outdated constructs of a command, in the order of the text. -/
def outdatedForms (command : String) : List Finding :=
  (ShellGuard.parse command).toOption.toList.flatMap fun p => p.root.walk.flatMap Node.deprecations

theorem review_outdated (n : Node) :
    (n.review true).filter (·.isOutdated) = n.walk.flatMap Node.deprecations := by
  rw [Node.review, List.filter_flatMap]
  refine List.flatMap_congr fun m _ => ?_
  rw [List.filter_append, (Node.flaws_flaws m).filter_outdated, List.nil_append, if_pos rfl,
    m.filter_deprecations.1]

theorem review_flaws (n : Node) : (n.review true).filter (!·.isOutdated) = n.review false := by
  rw [Node.review, Node.review, List.filter_flatMap]
  refine List.flatMap_congr fun m _ => ?_
  rw [List.filter_append, (Node.flaws_flaws m).filter_flaws, if_pos rfl, m.filter_deprecations.2,
    if_neg Bool.false_ne_true]

/-- Without a tree the report is made of flaws. -/
theorem gather_error_flaws (strict : Bool) {command : String} {e : SyntaxError}
    (h : ShellGuard.parse command = .error e) : AllFlaws (gather strict command).findings := by
  have hglance := glance_flaws command
  unfold gather
  rw [h]
  cases e with
  | lex e =>
    show AllFlaws (ofLexError (glance command) e).findings
    unfold ofLexError
    dsimp only
    split
    · exact hglance
    · exact hglance.append (.one rfl)
  | noCommands notes =>
    show AllFlaws (ofNoCommands (glance command) notes).findings
    unfold ofNoCommands
    dsimp only
    split
    · exact .one rfl
    · exact hglance.append (parse_noCommands_notes h).flaws

/-- Strict mode adds the outdated constructs of a command to what is gathered about its form, and
changes nothing else. -/
theorem gather_strict (command : String) :
    (gather true command).findings.filter (!·.isOutdated) = (gather false command).findings ∧
      (gather true command).findings.filter (·.isOutdated) = outdatedForms command ∧
      (gather true command).warnings = (gather false command).warnings := by
  cases hparse : ShellGuard.parse command with
  | ok p =>
    have hglance := glance_flaws command
    have hnotes : AllFlaws p.notes := (parse_notes hparse).flaws
    have hshown : AllFlaws (glance command ++ p.notes) := hglance.append hnotes
    unfold gather outdatedForms
    rw [hparse]
    refine ⟨?_, ?_, rfl⟩
    · show (glance command ++ p.notes ++ p.root.review true).filter (!·.isOutdated) = _
      rw [List.filter_append, hshown.filter_flaws, review_flaws]
      rfl
    · show (glance command ++ p.notes ++ p.root.review true).filter (·.isOutdated) = _
      rw [List.filter_append, hshown.filter_outdated, review_outdated]
      simp [Except.toOption]
  | error e =>
    have hmode : gather true command = gather false command := by
      unfold gather
      rw [hparse]
      cases e <;> rfl
    have hnone : outdatedForms command = [] := by
      unfold outdatedForms
      rw [hparse]
      rfl
    have hall := gather_error_flaws false hparse
    rw [hmode, hnone]
    exact ⟨hall.filter_flaws, hall.filter_outdated, rfl⟩

theorem mem_outdatedForms {command : String} {f : Finding} (h : f ∈ outdatedForms command) :
    ∃ p, f = Node.backtickWarning p := by
  obtain ⟨r, -, h⟩ := List.mem_flatMap.1 h
  obtain ⟨n, -, h⟩ := List.mem_flatMap.1 h
  exact Node.mem_deprecations h

theorem dedupe_outdatedForms (command : String) :
    Finding.dedupe (outdatedForms command) = (outdatedForms command).take 1 := by
  refine Finding.dedupe_of_same fun f hf g hg => ?_
  obtain ⟨p, rfl⟩ := mem_outdatedForms hf
  obtain ⟨q, rfl⟩ := mem_outdatedForms hg
  rfl

theorem analyze_flaws (command : String) :
    (analyze true command).findings.filter (!·.isOutdated) = (analyze false command).findings := by
  show (Finding.dedupe (gather true command).findings).filter _ = Finding.dedupe _
  rw [Finding.filter_dedupe fun f g h => by rw [Finding.isOutdated_congr f g h],
    (gather_strict command).1]

theorem analyze_outdated (command : String) :
    (analyze true command).findings.filter (·.isOutdated) = (outdatedForms command).take 1 := by
  show (Finding.dedupe (gather true command).findings).filter _ = _
  rw [Finding.filter_dedupe Finding.isOutdated_congr, (gather_strict command).2.1,
    dedupe_outdatedForms]

theorem analyze_parse (strict : Bool) (command : String) :
    (analyze strict command).parse = (ShellGuard.parse command).toOption := by
  show (gather strict command).parse = _
  unfold gather
  split
  · next h => rw [h]; rfl
  · next h => rw [h]; rfl
  · next h => rw [h]; rfl

end FormReport

/-! ## What is matched -/

namespace Analyzer

/-- The same analysis with other settings for the form of commands. -/
def withForm (a : Analyzer) (shell : Dialect) (syntaxCheck strict : Bool) : Analyzer :=
  { a with settings.analysis := { a.settings.analysis with shell, syntaxCheck, strict } }

/-- The same analysis, strict or not. -/
def withStrict (a : Analyzer) (strict : Bool) : Analyzer :=
  a.withForm a.settings.analysis.shell a.settings.analysis.syntaxCheck strict

variable (a : Analyzer) (around : Surroundings) (command : String)

/-- What the stages after the form find in the command as it is written. -/
def sighted : List Finding :=
  a.obfuscationFindings command ++ a.patternFindings command ++ a.gitFindings around command ++
    a.ciFindings around command

/-- What is found about a command apart from its form. -/
def matched : List Finding :=
  a.sighted around command ++ a.decodedFindings command (a.sighted around command)

/-- The tree that the later stages see does not depend on whether the form is reported on. -/
theorem form_root : (a.form command).root = (parse command).toOption.map (·.root) := by
  unfold form
  split
  · rw [FormReport.root, FormReport.analyze_parse]
  · rfl

/-- Findings about the form name no rule, so they hide no match. -/
theorem decodedFindings_form (fs : List Finding) :
    a.decodedFindings command ((a.form command).findings ++ fs) = a.decodedFindings command fs := by
  have hnames : (a.form command).findings.filterMap (·.rule) = [] :=
    List.filterMap_eq_nil_iff.2 fun f hf => (a.form_ofForm command f hf).rule
  unfold decodedFindings
  rw [List.filterMap_append, hnames, List.nil_append]

theorem findings_eq : a.findings around command =
    (a.form command).findings ++ a.matched around command := by
  have hraw : a.rawFindings around command =
      (a.form command).findings ++ a.sighted around command := by
    simp only [rawFindings, sighted, List.append_assoc]
  show a.rawFindings around command ++ a.decodedFindings command (a.rawFindings around command) = _
  rw [hraw, decodedFindings_form, List.append_assoc]
  rfl

theorem matched_withForm (shell : Dialect) (syntaxCheck strict : Bool) :
    (a.withForm shell syntaxCheck strict).matched around command = a.matched around command := by
  have hgit : (a.withForm shell syntaxCheck strict).gitFindings around command =
      a.gitFindings around command := by
    unfold gitFindings
    rw [form_root, form_root]
    rfl
  have hsighted : (a.withForm shell syntaxCheck strict).sighted around command =
      a.sighted around command := by
    unfold sighted
    rw [hgit]
    rfl
  unfold matched
  rw [hsighted]
  rfl

/-! ## The verdict -/

theorem findingFactors_findings :
    Assessment.findingFactors (a.findings around command) =
      Assessment.findingFactors (a.matched around command) := by
  have hform : (a.form command).findings.filter (·.kind.isSafetyRelevant) = [] :=
    List.filter_eq_nil_iff.2 fun f hf => by simp [(a.form_ofForm command f hf).not_relevant]
  rw [findings_eq, Assessment.findingFactors, List.filter_append, hform, List.nil_append]
  rfl

theorem judge_assessment : (a.judge around command).assessment =
    Assessment.assess a.access a.home around.environment command (a.matched around command) := by
  show Assessment.assess _ _ _ _ (a.findings around command) = _
  rw [Assessment.assess, findingFactors_findings]
  rfl

/-- The matches among the findings that have some property are matches. -/
theorem relevant_findings (p : Finding → Bool) :
    ((a.findings around command).filter p).filter (·.kind.isSafetyRelevant) =
      ((a.matched around command).filter p).filter (·.kind.isSafetyRelevant) := by
  have hform : ((a.form command).findings.filter p).filter (·.kind.isSafetyRelevant) = [] := by
    refine List.filter_eq_nil_iff.2 fun f hf => ?_
    simp [(a.form_ofForm command f (List.mem_of_mem_filter hf)).not_relevant]
  rw [findings_eq, List.filter_append, List.filter_append, hform, List.nil_append]

/-- The finding that strict mode adds: the first outdated construct, if the form is reported on. -/
def outdated : List Finding :=
  if a.settings.analysis.syntaxCheck then (FormReport.outdatedForms command).take 1 else []

theorem kind_of_mem_outdated {f : Finding} (h : f ∈ a.outdated command) : f.kind = .deprecated := by
  unfold outdated at h
  split at h
  · obtain ⟨p, rfl⟩ := FormReport.mem_outdatedForms (List.mem_of_mem_take h)
    exact beq_iff_eq.1 (Node.isOutdated_backtickWarning p)
  · cases h

theorem form_withStrict :
    ((a.withStrict true).form command).findings.filter (!·.isOutdated) =
        ((a.withStrict false).form command).findings ∧
      ((a.withStrict true).form command).findings.filter (·.isOutdated) = a.outdated command ∧
      ((a.withStrict true).form command).warnings = ((a.withStrict false).form command).warnings := by
  unfold form outdated
  by_cases hcheck : a.settings.analysis.syntaxCheck = true
  · have hon : ∀ strict, (a.withStrict strict).settings.analysis.syntaxCheck = true :=
      fun _ => hcheck
    rw [if_pos (hon true), if_pos (hon false), if_pos hcheck]
    exact ⟨FormReport.analyze_flaws command, FormReport.analyze_outdated command,
      (FormReport.gather_strict command).2.2⟩
  · have hoff : ∀ strict, ¬(a.withStrict strict).settings.analysis.syntaxCheck = true :=
      fun _ => hcheck
    rw [if_neg (hoff true), if_neg (hoff false), if_neg hcheck]
    exact ⟨rfl, rfl, rfl⟩

theorem form_blocks : (a.form command).findings.filter blocks =
    (a.form command).findings.filter (!·.isOutdated) :=
  List.filter_congr fun f hf => (a.form_ofForm command f hf).blocks_eq

theorem form_warns : (a.form command).findings.filter (!blocks ·) =
    (a.form command).findings.filter (·.isOutdated) :=
  List.filter_congr fun f hf => by rw [(a.form_ofForm command f hf).blocks_eq, Bool.not_not]

/-- An outdated construct calls for no suggestion. -/
theorem filterMap_suggestionFor (fs : List Finding) :
    (fs.filter (!·.isOutdated)).filterMap (suggestionFor command) =
      fs.filterMap (suggestionFor command) := by
  rw [List.filterMap_filter]
  refine List.filterMap_congr fun f _ => ?_
  by_cases hkind : f.kind = .deprecated
  · simp [Finding.isOutdated, suggestionFor, hkind]
  · simp [Finding.isOutdated, hkind]

theorem judge_withStrict :
    (a.withStrict true).judge around command =
      { (a.withStrict false).judge around command with
        warnings :=
          a.outdated command ++ ((a.withStrict false).judge around command).warnings } := by
  obtain ⟨hflaws, houtdated, hnotes⟩ := a.form_withStrict command
  have hmatched : (a.withStrict true).matched around command =
      (a.withStrict false).matched around command :=
    (a.matched_withForm around command _ _ true).trans
      (a.matched_withForm around command _ _ false).symm
  have herrors : ((a.withStrict true).findings around command).filter blocks =
      ((a.withStrict false).findings around command).filter blocks := by
    rw [findings_eq, findings_eq, List.filter_append, List.filter_append, form_blocks, form_blocks,
      hflaws, hmatched, ← hflaws, List.filter_filter]
    simp
  have hwarnings : ((a.withStrict true).findings around command).filter (!blocks ·) =
      a.outdated command ++ ((a.withStrict false).findings around command).filter (!blocks ·) := by
    -- a report that is not strict holds flaws only, and these block
    have hlax : ((a.withStrict false).form command).findings.filter (·.isOutdated) = [] := by
      rw [← hflaws, List.filter_filter]
      simp
    rw [findings_eq, findings_eq, List.filter_append, List.filter_append, form_warns, form_warns,
      houtdated, hlax, hmatched, List.nil_append]
  have hsuggestions :
      ((a.withStrict true).findings around command).filterMap (suggestionFor command) =
        ((a.withStrict false).findings around command).filterMap (suggestionFor command) := by
    rw [findings_eq, findings_eq, List.filterMap_append, List.filterMap_append, hmatched, ← hflaws,
      filterMap_suggestionFor]
  have hassessment : ((a.withStrict true).judge around command).assessment =
      ((a.withStrict false).judge around command).assessment := by
    rw [judge_assessment, judge_assessment, hmatched]
    rfl
  simp only [judge] at hassessment ⊢
  rw [herrors, hwarnings, hassessment, hnotes]
  unfold suggestions
  rw [hsuggestions]
  rfl

/-- The settings for the form of commands have no influence on the risk, on what is hidden in a
command or on what its rules and checks match.  Strict mode has none on the verdict but for a warning
about an outdated construct. -/
theorem judge_isolates_form (shell : Dialect) (syntaxCheck strict : Bool) :
    (let v := a.judge around command
     let w := (a.withForm shell syntaxCheck strict).judge around command
     w.assessment = v.assessment ∧ w.obfuscation = v.obfuscation ∧
      w.errors.filter (·.kind.isSafetyRelevant) = v.errors.filter (·.kind.isSafetyRelevant) ∧
      w.warnings.filter (·.kind.isSafetyRelevant) = v.warnings.filter (·.kind.isSafetyRelevant)) ∧
    (a.withStrict true).judge around command =
      { (a.withStrict false).judge around command with
        warnings :=
          a.outdated command ++ ((a.withStrict false).judge around command).warnings } ∧
    ∀ f ∈ a.outdated command, f.kind = .deprecated := by
  have hmatched := a.matched_withForm around command shell syntaxCheck strict
  refine ⟨⟨?_, rfl, ?_, ?_⟩, a.judge_withStrict around command,
    fun f hf => a.kind_of_mem_outdated command hf⟩
  · rw [judge_assessment, judge_assessment, hmatched]
    rfl
  · rw [judge_errors, judge_errors, relevant_findings, relevant_findings, hmatched]
  · rw [judge_warnings, judge_warnings, relevant_findings, relevant_findings, hmatched]

end Analyzer

end ShellGuard
