import Mathlib
import ShellGuard.Proofs.Risk.Aggregation

/-!
# More rights, less risk

What a command lacks is worked out path by path, and whether it needs root is asked once more for
each of the paths.  Both questions are put to what is known about the user (`Access`), so the rights
of the user enter in several places.  They enter everywhere with the same sign: with more rights
about the same files (`Access.Within`) some of the complaints go away, none is added, and the order
of those that stay is kept.  The factors of the assessment are made from these complaints one by
one, so fewer complaints mean fewer factors and a level that is no higher.
-/

namespace ShellGuard

namespace Access

/-- `b` knows of the same files as `a` and may do at least as much. -/
structure Within (a b : Access) : Prop where
  sameFiles : ∀ path, a.exists? path = b.exists? path
  root : a.isRoot = true → b.isRoot = true
  write : ∀ path, a.canWrite path = true → b.canWrite path = true

/-- Root can write everywhere. -/
def RootWrites (a : Access) : Prop :=
  a.isRoot = true → ∀ path, a.canWrite path = true

theorem listed_rootWrites (isRoot : Bool) (existing writable : List String) :
    (listed isRoot existing writable).RootWrites := by
  intro hroot path
  have hroot : isRoot = true := hroot
  simp [listed, hroot]

/-- Lists of paths are compared as sets, path by path. -/
theorem listed_within {isRoot isRoot' : Bool} {existing existing' writable writable' : List String}
    (hexisting : ∀ path, existing.any (Path.same path) = existing'.any (Path.same path))
    (hroot : isRoot = true → isRoot' = true)
    (hwritable : ∀ path, writable.any (Path.same path) = true →
      writable'.any (Path.same path) = true) :
    (listed isRoot existing writable).Within (listed isRoot' existing' writable') where
  sameFiles := hexisting
  root := hroot
  write := by
    intro path h
    rcases Bool.or_eq_true_iff.1 h with h | h
    · exact Bool.or_eq_true_iff.2 (.inl (hroot h))
    · exact Bool.or_eq_true_iff.2 (.inr (hwritable path h))

end Access

namespace Requirement

variable {a b : Access} {home : Option String} {command : String}

/-! ## One path -/

theorem decisive_congr (h : a.Within b) : decisive a home = decisive b home := by
  have hfiles : a.exists? = b.exists? := funext h.sameFiles
  funext word
  unfold decisive
  rw [hfiles]

/-- A user with more rights misses some of what one with fewer does, and nothing else. -/
theorem missingFor_sublist (h : a.Within b) (writes : Bool) (path : String) :
    (missingFor b writes path).Sublist (missingFor a writes path) := by
  have hite {c d : Bool} (hcd : c = true → d = true) (message : String) :
      (if c = true then [message] else []).Sublist (if d = true then [message] else []) := by
    by_cases hc : c = true
    · rw [if_pos hc, if_pos (hcd hc)]
    · rw [if_neg hc]
      exact List.nil_sublist _
  refine (hite ?_ _).append (hite ?_ _)
  · intro hlacks
    simp only [Bool.and_eq_true, Bool.not_eq_true'] at hlacks ⊢
    refine ⟨hlacks.1, Bool.eq_false_iff.2 fun hwrite => ?_⟩
    rw [h.write path hwrite] at hlacks
    exact Bool.noConfusion hlacks.2
  · intro hlacks
    simp only [Bool.and_eq_true, Bool.not_eq_true'] at hlacks ⊢
    refine ⟨⟨hlacks.1.1, Bool.eq_false_iff.2 fun hroot => ?_⟩, hlacks.2⟩
    rw [h.root hroot] at hlacks
    exact Bool.noConfusion hlacks.1.2

theorem missingFor_root (hroot : a.isRoot = true) (hwrites : a.RootWrites) (writes : Bool)
    (path : String) : missingFor a writes path = [] := by
  simp [missingFor, hroot, hwrites hroot path]

/-! ## All paths of a command -/

theorem ofCommand_requiresRoot : (ofCommand a home command).requiresRoot =
    (rootVerbs.any (·.isMatch command) ||
      (!a.isRoot && ((paths command).filterMap (decisive a home)).any isSystemPath)) := by
  simp only [ofCommand]

theorem ofCommand_missing : (ofCommand a home command).missing =
    ((paths command).filterMap (decisive a home)).flatMap
      (missingFor a (writeVerbs.any (·.isMatch command))) ++
        if (ofCommand a home command).requiresRoot && !a.isRoot then
          ["Command requires root privileges but running as regular user"]
        else [] := by
  rw [ofCommand_requiresRoot]
  rfl

theorem requiresRoot_mono (h : a.Within b) :
    (ofCommand b home command).requiresRoot = true →
      (ofCommand a home command).requiresRoot = true := by
  rw [ofCommand_requiresRoot, ofCommand_requiresRoot, decisive_congr h]
  simp only [Bool.or_eq_true, Bool.and_eq_true, Bool.not_eq_true']
  refine Or.imp_right fun ⟨hroot, hsystem⟩ => ⟨Bool.eq_false_iff.2 fun ha => ?_, hsystem⟩
  rw [h.root ha] at hroot
  exact Bool.noConfusion hroot

theorem flatMap_sublist {α β : Type} {f g : α → List β} (h : ∀ x, (f x).Sublist (g x))
    (xs : List α) : (xs.flatMap f).Sublist (xs.flatMap g) := by
  induction xs with
  | nil => exact .slnil
  | cons x xs ih =>
    rw [List.flatMap_cons, List.flatMap_cons]
    exact (h x).append ih

theorem missing_sublist (h : a.Within b) :
    (ofCommand b home command).missing.Sublist (ofCommand a home command).missing := by
  rw [ofCommand_missing, ofCommand_missing, decisive_congr h]
  refine (flatMap_sublist (missingFor_sublist h _) _).append ?_
  split
  · next hneeds =>
    obtain ⟨hneeds, hroot⟩ := Bool.and_eq_true_iff.1 hneeds
    have ha : a.isRoot = false := Bool.eq_false_iff.2 fun ha => by simp [h.root ha] at hroot
    rw [requiresRoot_mono h hneeds, ha]
    exact List.Sublist.refl _
  · exact List.nil_sublist _

theorem missing_of_root (hroot : a.isRoot = true) (hwrites : a.RootWrites) :
    (ofCommand a home command).missing = [] := by
  have hnone : missingFor a (writeVerbs.any (·.isMatch command)) = fun _ => [] :=
    funext (missingFor_root hroot hwrites _)
  rw [ofCommand_missing, hnone, hroot]
  simp

theorem missing_ne_nil (hroot : a.isRoot = false)
    (hneeds : (ofCommand a home command).requiresRoot = true) :
    (ofCommand a home command).missing ≠ [] := by
  rw [ofCommand_missing, hroot, hneeds]
  simp

end Requirement

namespace Assessment

/-! ## The assessment -/

theorem permissionFactors_sublist {less more : Requirement}
    (hmissing : less.missing.Sublist more.missing)
    (hroot : less.requiresRoot = true → more.requiresRoot = true) :
    (permissionFactors less).Sublist (permissionFactors more) := by
  refine List.Sublist.append ?_ (hmissing.map _)
  split
  · next hboth =>
    obtain ⟨hneeds, hsome⟩ := Bool.and_eq_true_iff.1 hboth
    have hmore : more.missing.isEmpty = false := by
      rw [Bool.eq_false_iff]
      intro hnil
      rw [List.isEmpty_iff.1 hnil, List.sublist_nil] at hmissing
      simp [hmissing] at hsome
    rw [hroot hneeds, hmore]
    exact List.Sublist.refl _
  · exact List.nil_sublist _

variable {a b : Access} {home : Option String} {env : Environment} {command : String}
  {findings : List Finding}

theorem factors_sublist (h : a.Within b) :
    (assess b home env command findings).factors.Sublist
      (assess a home env command findings).factors := by
  rw [assess_factors, assess_factors]
  refine (List.Sublist.append ?_ (List.Sublist.refl _)).append (List.Sublist.refl _)
  exact permissionFactors_sublist (Requirement.missing_sublist h) (Requirement.requiresRoot_mono h)

theorem overall_le_of_within (h : a.Within b) :
    (assess b home env command findings).overall ≤
      (assess a home env command findings).overall := by
  rw [assess_overall_eq, assess_overall_eq]
  exact RiskLevel.highest_mono ((factors_sublist h).map _).subset

theorem high_le_overall (hneeds : (Requirement.ofCommand a home command).requiresRoot = true)
    (hmissing : (Requirement.ofCommand a home command).missing ≠ []) :
    .high ≤ (assess a home env command findings).overall := by
  have hfactor :
      ∃ factor ∈ permissionFactors (.ofCommand a home command), factor.level = .high := by
    simp [permissionFactors, hneeds, hmissing]
  obtain ⟨factor, hmem, hlevel⟩ := hfactor
  rw [← hlevel]
  refine le_assess_overall a home env command findings ?_
  rw [assess_factors]
  exact List.mem_append_left _ (List.mem_append_left _ hmem)

/-- A user with more rights about the same files misses some of what one with fewer rights does, in
the same order, needs root only where the other does, and runs no higher a risk.  Root misses
nothing, and where root is needed anybody else misses something and runs a high risk at least. -/
theorem more_rights_less_risk (a b : Access) (h : a.Within b) (hwrites : a.RootWrites)
    (home : Option String) (env : Environment) (command : String) (findings : List Finding) :
    (Requirement.ofCommand b home command).missing.Sublist
      (Requirement.ofCommand a home command).missing ∧
    ((Requirement.ofCommand b home command).requiresRoot = true →
      (Requirement.ofCommand a home command).requiresRoot = true) ∧
    ((assess b home env command findings).requiresRoot = true →
      (assess a home env command findings).requiresRoot = true) ∧
    (assess b home env command findings).overall ≤
      (assess a home env command findings).overall ∧
    (a.isRoot = true → (Requirement.ofCommand a home command).missing = []) ∧
    (a.isRoot = false → (Requirement.ofCommand a home command).requiresRoot = true →
      (Requirement.ofCommand a home command).missing ≠ [] ∧
      .high ≤ (assess a home env command findings).overall) := by
  refine ⟨Requirement.missing_sublist h, Requirement.requiresRoot_mono h, ?_,
    overall_le_of_within h, fun hroot => Requirement.missing_of_root hroot hwrites, ?_⟩
  · rw [assess_requiresRoot, assess_requiresRoot, Bool.or_eq_true, Bool.or_eq_true]
    exact Or.imp_left (Requirement.requiresRoot_mono h)
  · intro hroot hneeds
    have hmissing := Requirement.missing_ne_nil hroot hneeds
    exact ⟨hmissing, high_le_overall hneeds hmissing⟩

/-- A user who may write to a system file, however its path is written, against one who may not. -/
theorem more_rights_less_risk_hosts :
    let user := Access.listed false ["/etc/hosts"] []
    let owner := Access.listed false ["//etc/hosts/"] ["/etc/./hosts"]
    (user.Within owner ∧ user.RootWrites) ∧
    (Requirement.ofCommand owner none "touch /etc/hosts").missing.Sublist
      (Requirement.ofCommand user none "touch /etc/hosts").missing ∧
    (assess owner none .unknown "touch /etc/hosts" []).overall ≤
      (assess user none .unknown "touch /etc/hosts" []).overall ∧
    (Requirement.ofCommand user none "touch /etc/hosts").requiresRoot = true ∧
    .high ≤ (assess user none .unknown "touch /etc/hosts" []).overall := by
  intro user owner
  have hexisting (path : String) :
      ["/etc/hosts"].any (Path.same path) = ["//etc/hosts/"].any (Path.same path) := by
    have hsame : Path.components "/etc/hosts".toList = Path.components "//etc/hosts/".toList := by
      decide
    simp only [List.any_cons, List.any_nil, Path.same, hsame]
  have hwithin : user.Within owner := Access.listed_within hexisting id (by simp)
  have hwrites : user.RootWrites := Access.listed_rootWrites false ["/etc/hosts"] []
  have hsystem : ((Requirement.paths "touch /etc/hosts").filterMap
      (Requirement.decisive user none)).any Requirement.isSystemPath = true := by
    decide +kernel
  have hneeds : (Requirement.ofCommand user none "touch /etc/hosts").requiresRoot = true := by
    rw [Requirement.ofCommand_requiresRoot, hsystem]
    exact Bool.or_true _
  obtain ⟨hmissing, -, -, hoverall, -, hhigh⟩ :=
    more_rights_less_risk user owner hwithin hwrites none .unknown "touch /etc/hosts" []
  exact ⟨⟨hwithin, hwrites⟩, hmissing, hoverall, hneeds, (hhigh rfl hneeds).2⟩

end Assessment

end ShellGuard
