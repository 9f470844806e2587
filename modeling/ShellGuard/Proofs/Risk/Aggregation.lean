import Mathlib
import ShellGuard.Risk.Assessment

/-!
# The risk as a maximum

An assessment lists what five checks contribute, one check after the other, and its level is the
highest among that.  Only one of the checks looks at the findings, and only its factors are of the
kinds `safety` and `custom`; the others depend on the command and on where it runs, and contribute a
high level at most (`Factor.Ambient`).  So the two parts can be told apart in the list, the findings
alone decide whether the risk is critical, and more findings can only raise it.
-/

namespace ShellGuard

theorem mem_ite_singleton {α : Type} {c : Prop} [Decidable c] {x y : α}
    (h : x ∈ if c then [y] else []) : x = y := by
  split at h
  · exact List.mem_singleton.1 h
  · simp at h

/-! ## The highest of some levels -/

namespace RiskLevel

theorem le_antisymm {a b : RiskLevel} (h : a ≤ b) (h' : b ≤ a) : a = b :=
  rank_injective (Nat.le_antisymm h h')

theorem critical_of_le {a : RiskLevel} (h : critical ≤ a) : a = critical := by
  cases a with
  | critical => rfl
  | low | medium | high => exact absurd h (by decide)

theorem le_high_of_ne_critical {a : RiskLevel} (h : a ≠ critical) : a ≤ high := by
  cases a with
  | critical => exact absurd rfl h
  | low | medium | high => decide

theorem highest_le {levels : List RiskLevel} {b : RiskLevel}
    (h : ∀ l ∈ levels, l ≤ b) : highest levels ≤ b := by
  have hfold : ∀ a : RiskLevel, a ≤ b → levels.foldl join a ≤ b := by
    induction levels with
    | nil => exact fun a ha => ha
    | cons l levels ih =>
      intro a ha
      refine ih (fun k hk => h k (List.mem_cons_of_mem l hk)) (a.join l) ?_
      show (a.join l).rank ≤ b.rank
      rw [rank_join]
      exact Nat.max_le.2 ⟨ha, h l (List.mem_cons_self ..)⟩
  exact hfold low (Nat.zero_le _)

theorem highest_mono {levels more : List RiskLevel} (h : levels ⊆ more) :
    highest levels ≤ highest more :=
  highest_le fun _ hl => le_highest (h hl)

theorem highest_perm {levels shuffled : List RiskLevel} (h : levels.Perm shuffled) :
    highest levels = highest shuffled :=
  le_antisymm (highest_mono h.subset) (highest_mono h.symm.subset)

theorem join_le {a b c : RiskLevel} (ha : a ≤ c) (hb : b ≤ c) : a.join b ≤ c := by
  show (a.join b).rank ≤ c.rank
  rw [rank_join]
  exact Nat.max_le.2 ⟨ha, hb⟩

theorem join_low (a : RiskLevel) : a.join low = a :=
  le_antisymm (join_le (Nat.le_refl _) (Nat.zero_le _)) (le_join_left _ _)

theorem highest_singleton (a : RiskLevel) : highest [a] = a := by
  cases a <;> rfl

theorem highest_append (levels more : List RiskLevel) :
    highest (levels ++ more) = (highest levels).join (highest more) := by
  refine le_antisymm (highest_le fun l hl => ?_) (join_le ?_ ?_)
  · rcases List.mem_append.1 hl with hl | hl
    · exact Nat.le_trans (le_highest hl) (le_join_left _ _)
    · exact Nat.le_trans (le_highest hl) (le_join_right _ _)
  · exact highest_mono (List.subset_append_left _ _)
  · exact highest_mono (List.subset_append_right _ _)

/-- The level a fold starts from is left only for one of the levels folded in. -/
theorem foldl_join_mem (levels : List RiskLevel) (a : RiskLevel) :
    levels.foldl join a = a ∨ levels.foldl join a ∈ levels := by
  induction levels generalizing a with
  | nil => exact .inl rfl
  | cons l levels ih =>
    rcases ih (a.join l) with h | h
    · have hone : a.join l = a ∨ a.join l = l := by
        unfold join
        split
        · exact .inr rfl
        · exact .inl rfl
      rw [List.foldl_cons, h]
      refine hone.imp_right fun hl => ?_
      rw [hl]
      exact List.mem_cons_self
    · exact .inr (List.mem_cons_of_mem l h)

/-- The highest of some levels is one of them. -/
theorem highest_mem {levels : List RiskLevel} (h : levels ≠ []) : highest levels ∈ levels := by
  rcases foldl_join_mem levels low with hlow | hmem
  · -- nothing is above low, so each of the levels is the highest
    obtain ⟨l, hl⟩ := List.exists_mem_of_ne_nil levels h
    have hhighest : highest levels = low := hlow
    have hle := le_highest hl
    rw [hhighest] at hle ⊢
    rwa [eq_low_of_le hle] at hl
  · exact hmem

theorem highest_eq_critical_iff {levels : List RiskLevel} :
    highest levels = critical ↔ critical ∈ levels := by
  constructor
  · intro h
    have hne : levels ≠ [] := by
      rintro rfl
      cases h
    exact h ▸ highest_mem hne
  · intro h
    exact critical_of_le (le_highest h)

end RiskLevel

/-! ## Findings and the other checks -/

theorem FindingKind.isSafetyRelevant_iff {kind : FindingKind} :
    kind.isSafetyRelevant = true ↔ kind = .safety ∨ kind = .custom := by
  cases kind <;> simp [isSafetyRelevant]

/-- The kinds of what findings contribute. -/
def FactorKind.isFinding : FactorKind → Bool
  | safety | custom => true
  | _ => false

/-- What a check that does not look at the findings contributes. -/
structure Factor.Ambient (f : Factor) : Prop where
  kind : f.kind.isFinding = false
  level : f.level ≤ .high

namespace Assessment

theorem permissionFactors_ambient (need : Requirement) :
    ∀ f ∈ permissionFactors need, f.Ambient := by
  intro f hf
  rcases List.mem_append.1 hf with hf | hf
  · rw [mem_ite_singleton hf]
    exact ⟨rfl, by decide⟩
  · obtain ⟨m, -, rfl⟩ := List.mem_map.1 hf
    exact ⟨rfl, Nat.le_succ 1⟩

theorem elevationFactors_ambient (command : String) :
    ∀ f ∈ elevationFactors command, f.Ambient := by
  intro f hf
  rw [mem_ite_singleton hf]
  exact ⟨rfl, by decide⟩

theorem systemFactors_ambient (env : Environment) (command : String) :
    ∀ f ∈ systemFactors env command, f.Ambient := by
  intro f hf
  unfold systemFactors at hf
  split at hf
  · rw [List.mem_singleton.1 hf]
    exact ⟨rfl, Nat.le_refl _⟩
  · simp at hf

theorem gitFactors_ambient (env : Environment) (command : String) :
    ∀ f ∈ gitFactors env command, f.Ambient := by
  intro f hf
  unfold gitFactors at hf
  dsimp only at hf
  split at hf
  · rcases List.mem_append.1 hf with hf | hf
    · rw [mem_ite_singleton hf]
      exact ⟨rfl, by decide⟩
    · rw [mem_ite_singleton hf]
      exact ⟨rfl, by decide⟩
  · simp at hf

theorem findingFactors_isFinding (findings : List Finding) :
    ∀ f ∈ findingFactors findings, f.kind.isFinding = true := by
  intro f hf
  obtain ⟨g, -, rfl⟩ := List.mem_map.1 hf
  unfold findingFactor
  dsimp only
  split <;> rfl

section Parts

variable (access : Access) (home : Option String) (env : Environment) (command : String)

/-- What all checks but the one on findings contribute. -/
def ambientFactors : List Factor :=
  permissionFactors (.ofCommand access home command) ++
    (elevationFactors command ++ systemFactors env command ++ gitFactors env command)

theorem ambientFactors_ambient : ∀ f ∈ ambientFactors access home env command, f.Ambient := by
  intro f hf
  simp only [ambientFactors, List.mem_append] at hf
  rcases hf with hf | (hf | hf) | hf
  · exact permissionFactors_ambient _ f hf
  · exact elevationFactors_ambient command f hf
  · exact systemFactors_ambient env command f hf
  · exact gitFactors_ambient env command f hf

variable (findings : List Finding)

/-- The findings come between the permissions and the other checks. -/
theorem assess_factors : (assess access home env command findings).factors =
    permissionFactors (.ofCommand access home command) ++ findingFactors findings ++
      (elevationFactors command ++ systemFactors env command ++ gitFactors env command) := by
  simp only [assess, ofFactors, List.append_assoc]

theorem assess_requiresRoot : (assess access home env command findings).requiresRoot =
    ((Requirement.ofCommand access home command).requiresRoot || elevates command) := by
  simp only [assess, ofFactors]

theorem assess_affectsSystem : (assess access home env command findings).affectsSystem =
    (systemPath? env command).isSome := by
  simp only [assess, ofFactors]

theorem assess_factors_perm : (assess access home env command findings).factors.Perm
    (ambientFactors access home env command ++ findingFactors findings) := by
  have hswap (first middle last : List Factor) :
      (first ++ middle ++ last).Perm (first ++ last ++ middle) := by
    rw [List.append_assoc, List.append_assoc]
    exact List.perm_append_comm.append_left first
  rw [assess_factors, ambientFactors]
  exact hswap _ _ _

theorem filter_isFinding :
    (assess access home env command findings).factors.filter (·.kind.isFinding) =
      findingFactors findings := by
  have hambient := ambientFactors_ambient access home env command
  have hnone (fs : List Factor) (h : fs ⊆ ambientFactors access home env command) :
      fs.filter (·.kind.isFinding) = [] :=
    List.filter_eq_nil_iff.2 fun f hf => by simp [(hambient f (h hf)).kind]
  rw [assess_factors, List.filter_append, List.filter_append,
    hnone _ (List.subset_append_left _ _), hnone _ (List.subset_append_right _ _),
    List.filter_eq_self.2 (findingFactors_isFinding findings), List.nil_append, List.append_nil]

theorem filter_not_isFinding :
    (assess access home env command findings).factors.filter (!·.kind.isFinding) =
      ambientFactors access home env command := by
  have hambient := ambientFactors_ambient access home env command
  have hall (fs : List Factor) (h : fs ⊆ ambientFactors access home env command) :
      fs.filter (!·.kind.isFinding) = fs :=
    List.filter_eq_self.2 fun f hf => by simp [(hambient f (h hf)).kind]
  have hnone : (findingFactors findings).filter (!·.kind.isFinding) = [] :=
    List.filter_eq_nil_iff.2 fun f hf => by simp [findingFactors_isFinding findings f hf]
  rw [assess_factors, List.filter_append, List.filter_append,
    hall _ (List.subset_append_left _ _), hall _ (List.subset_append_right _ _), hnone,
    List.append_nil, ambientFactors]

theorem findingFactors_levels : (findingFactors findings).map (·.level) =
    (findings.filter (·.kind.isSafetyRelevant)).map (·.riskLevel) := by
  rw [findingFactors, List.map_map]
  rfl

theorem assess_overall_eq : (assess access home env command findings).overall =
    .highest ((assess access home env command findings).factors.map (·.level)) := by
  simp only [assess, ofFactors, overallOf]

/-- The findings and the other checks raise the risk independently. -/
theorem assess_overall : (assess access home env command findings).overall =
    (assess access home env command []).overall.join
      (.highest ((findings.filter (·.kind.isSafetyRelevant)).map (·.riskLevel))) := by
  have hparts (findings : List Finding) : (assess access home env command findings).overall =
      (RiskLevel.highest ((ambientFactors access home env command).map (·.level))).join
        (.highest ((findingFactors findings).map (·.level))) := by
    rw [assess_overall_eq, ← RiskLevel.highest_append, ← List.map_append]
    exact RiskLevel.highest_perm ((assess_factors_perm access home env command findings).map _)
  have hnil : RiskLevel.highest ((findingFactors []).map (·.level)) = .low := rfl
  rw [hparts findings, hparts [], findingFactors_levels, hnil, RiskLevel.join_low]

theorem overall_critical_iff_factor :
    (assess access home env command findings).overall = .critical ↔
      ∃ factor ∈ (assess access home env command findings).factors, factor.level = .critical := by
  rw [assess_overall_eq, RiskLevel.highest_eq_critical_iff, List.mem_map]

theorem isIrreversible_iff :
    (assess access home env command findings).isIrreversible = true ↔
      (assess access home env command findings).overall = .critical := by
  have hany : (assess access home env command findings).isIrreversible =
      (assess access home env command findings).factors.any (·.level == .critical) := by
    simp only [assess, ofFactors]
  rw [hany, overall_critical_iff_factor, List.any_eq_true]
  simp only [beq_iff_eq]

/-- No check but the one on findings makes the risk critical. -/
theorem overall_critical_iff_finding :
    (assess access home env command findings).overall = .critical ↔
      ∃ f ∈ findings, f.kind.isSafetyRelevant = true ∧ f.riskLevel = .critical := by
  rw [overall_critical_iff_factor]
  constructor
  · rintro ⟨factor, hmem, hlevel⟩
    rcases List.mem_append.1 ((assess_factors_perm _ _ _ _ _).mem_iff.1 hmem) with hmem | hmem
    · have hhigh := (ambientFactors_ambient access home env command factor hmem).level
      rw [hlevel] at hhigh
      exact absurd hhigh (by decide)
    · obtain ⟨f, hf, rfl⟩ := List.mem_map.1 hmem
      obtain ⟨hf, hkind⟩ := List.mem_filter.1 hf
      exact ⟨f, hf, hkind, hlevel⟩
  · rintro ⟨f, hf, hkind, hlevel⟩
    have hmem : findingFactor f ∈ findingFactors findings :=
      List.mem_map_of_mem (List.mem_filter.2 ⟨hf, hkind⟩)
    exact ⟨findingFactor f,
      (assess_factors_perm _ _ _ _ _).mem_iff.2 (List.mem_append_right _ hmem), hlevel⟩

theorem le_assess_overall {factor : Factor}
    (h : factor ∈ (assess access home env command findings).factors) :
    factor.level ≤ (assess access home env command findings).overall := by
  rw [assess_overall_eq]
  exact RiskLevel.le_highest (List.mem_map_of_mem h)

theorem exists_factor_overall (h : (assess access home env command findings).factors ≠ []) :
    ∃ factor ∈ (assess access home env command findings).factors,
      factor.level = (assess access home env command findings).overall := by
  rw [assess_overall_eq, ← List.mem_map]
  exact RiskLevel.highest_mem (List.map_eq_nil_iff.not.2 h)

/-- A finding that counts as a risk is covered by the overall risk. -/
theorem riskLevel_le_overall {f : Finding} (hf : f ∈ findings)
    (hkind : f.kind.isSafetyRelevant = true) :
    f.riskLevel ≤ (assess access home env command findings).overall := by
  have hmem : f ∈ findings.filter (·.kind.isSafetyRelevant) := List.mem_filter.2 ⟨hf, hkind⟩
  rw [assess_overall]
  exact Nat.le_trans (RiskLevel.le_highest (List.mem_map_of_mem hmem)) (RiskLevel.le_join_right _ _)

theorem findingFactors_subset {fewer more : List Finding} (h : fewer ⊆ more) :
    findingFactors fewer ⊆ findingFactors more :=
  List.map_subset _ (List.filter_subset _ h)

theorem overall_mono {fewer more : List Finding} (h : fewer ⊆ more) :
    (assess access home env command fewer).overall ≤
      (assess access home env command more).overall := by
  rw [assess_overall_eq, assess_overall_eq]
  refine RiskLevel.highest_mono (List.map_subset _ fun factor hmem => ?_)
  rw [(assess_factors_perm access home env command fewer).mem_iff, List.mem_append] at hmem
  rw [(assess_factors_perm access home env command more).mem_iff, List.mem_append]
  exact hmem.imp_right fun hmem => findingFactors_subset h hmem

end Parts

/-- The overall risk is the highest level of a factor, and low where there is none; it is the higher
one of what the findings and of what the other checks come to.  Critical it is, and irreversible the
command, exactly if a match among the findings is.  The factors of findings are those of the matches
among them, in their order and with their words.  Whatever was found, the other factors and the two
flags stay the same; with fewer findings the risk is no higher, and their order does not count. -/
theorem assess_maximum (access : Access) (home : Option String) (env : Environment)
    (command : String) :
    let assessed := assess access home env command
    (∀ findings,
      (∀ factor ∈ (assessed findings).factors, factor.level ≤ (assessed findings).overall) ∧
      ((assessed findings).factors ≠ [] →
        ∃ factor ∈ (assessed findings).factors, factor.level = (assessed findings).overall) ∧
      ((assessed findings).factors = [] → (assessed findings).overall = .low) ∧
      (assessed findings).overall = (assessed []).overall.join
        (.highest ((findings.filter fun f => f.kind = .safety ∨ f.kind = .custom).map
          (·.riskLevel))) ∧
      ((assessed findings).isIrreversible = true ↔ (assessed findings).overall = .critical) ∧
      ((assessed findings).overall = .critical ↔
        ∃ f ∈ findings, (f.kind = .safety ∨ f.kind = .custom) ∧ f.riskLevel = .critical) ∧
      (assessed findings).factors.filter (·.kind.isFinding) =
        (findings.filter fun f => f.kind = .safety ∨ f.kind = .custom).map fun f =>
          ⟨if f.kind = .custom then .custom else .safety, f.message, f.riskLevel,
            f.suggestion.getD ""⟩) ∧
    (∀ fewer more,
      (assessed fewer).requiresRoot = (assessed more).requiresRoot ∧
      (assessed fewer).affectsSystem = (assessed more).affectsSystem ∧
      (assessed fewer).factors.filter (!·.kind.isFinding) =
        (assessed more).factors.filter (!·.kind.isFinding) ∧
      (fewer.Sublist more → (assessed fewer).overall ≤ (assessed more).overall)) ∧
    ∀ findings shuffled, findings.Perm shuffled →
      (assessed findings).overall = (assessed shuffled).overall ∧
      (assessed findings).isIrreversible = (assessed shuffled).isIrreversible := by
  intro assessed
  have hrelevant : (fun f : Finding => decide (f.kind = .safety ∨ f.kind = .custom)) =
      fun f => f.kind.isSafetyRelevant := by
    funext f
    rw [Bool.eq_iff_iff, decide_eq_true_iff, FindingKind.isSafetyRelevant_iff]
  refine ⟨fun findings => ⟨fun factor hmem => ?_, fun hne => ?_, fun hnil => ?_, ?_, ?_, ?_, ?_⟩,
    fun fewer more => ⟨?_, ?_, ?_, fun h => ?_⟩, fun findings shuffled h => ?_⟩
  · exact le_assess_overall access home env command findings hmem
  · exact exists_factor_overall access home env command findings hne
  · rw [assess_overall_eq, hnil]
    rfl
  · rw [hrelevant]
    exact assess_overall access home env command findings
  · exact isIrreversible_iff access home env command findings
  · simp only [← FindingKind.isSafetyRelevant_iff]
    exact overall_critical_iff_finding access home env command findings
  · rw [filter_isFinding, hrelevant]
    rfl
  · rw [assess_requiresRoot, assess_requiresRoot]
  · rw [assess_affectsSystem, assess_affectsSystem]
  · rw [filter_not_isFinding, filter_not_isFinding]
  · exact overall_mono access home env command h.subset
  · have hoverall : (assessed findings).overall = (assessed shuffled).overall :=
      RiskLevel.le_antisymm (overall_mono access home env command h.subset)
        (overall_mono access home env command h.symm.subset)
    refine ⟨hoverall, ?_⟩
    rw [Bool.eq_iff_iff, isIrreversible_iff, isIrreversible_iff, ← hoverall]

end Assessment

end ShellGuard
