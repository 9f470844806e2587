import Mathlib
import ShellGuard.Proofs.Git.Rewording

/-!
# Forced pushes to protected branches

A push names its remote and then any number of refspecs.  Which branch a refspec writes to is said
here by its form (`Refspec.Names`): plus signs in front, a source and a destination around a colon,
the path of branches in front of the name.  A push is judged by one branch, its target: that of the
first refspec, or the current one where there is none.  `check_forced_push_iff` says that a forced
push is reported exactly if its target is protected; refspecs behind the first are not looked at.
-/

namespace ShellGuard.Git

/-! ## Refspecs -/

namespace Refspec

/-- The path in front of the name of a branch that is written in full. -/
def headsPath : List Char := "refs/heads/".toList

/-- The side of a refspec that it writes to: what follows the first colon or, where nothing does,
what stands in front of it. -/
inductive Side : List Char → List Char → Prop
  | bare {body : List Char} (h : ':' ∉ body) : Side body body
  | pair {src dst : List Char} (h : ':' ∉ src) (hdst : dst ≠ []) : Side (src ++ ':' :: dst) dst
  | sourceOnly {src : List Char} (h : ':' ∉ src) : Side (src ++ [':']) src

/-- The branch a refspec writes to: its leading plus signs and the paths in front of the name are no
part of it. -/
def Names (refspec branch : List Char) : Prop :=
  ∃ (pluses paths : Nat) (body side : List Char),
    refspec = List.replicate pluses '+' ++ body ∧ body.head? ≠ some '+' ∧ Side body side ∧
      side = (List.replicate paths headsPath).flatten ++ branch ∧ ¬headsPath <+: branch

theorem ne_colon {src : List Char} (h : ':' ∉ src) : ∀ c ∈ src, (c != ':') = true := by
  intro c hc
  simpa using fun heq : c = ':' => h (heq ▸ hc)

theorem takeWhile_colon {src : List Char} (h : ':' ∉ src) (dst : List Char) :
    (src ++ ':' :: dst).takeWhile (· != ':') = src := by
  rw [List.takeWhile_append_of_pos (ne_colon h)]
  simp

theorem dropWhile_colon {src : List Char} (h : ':' ∉ src) (dst : List Char) :
    (src ++ ':' :: dst).dropWhile (· != ':') = ':' :: dst := by
  rw [List.dropWhile_append_of_pos (ne_colon h)]
  simp

theorem side_iff {body side : List Char} :
    Side body side ↔
      (if ((body.dropWhile (· != ':')).drop 1).isEmpty then body.takeWhile (· != ':')
        else (body.dropWhile (· != ':')).drop 1) = side := by
  constructor
  · intro h
    cases h with
    | bare h =>
      rw [List.dropWhile_eq_nil_iff.2 (ne_colon h), List.takeWhile_eq_self_iff.2 (ne_colon h)]
      rfl
    | pair h hdst =>
      rw [takeWhile_colon h, dropWhile_colon h]
      simp [hdst]
    | sourceOnly h =>
      rw [takeWhile_colon h, dropWhile_colon h]
      rfl
  · rintro rfl
    by_cases hcolon : ':' ∈ body
    · obtain ⟨src, dst, rfl, hsrc⟩ := List.eq_append_cons_of_mem hcolon
      rw [takeWhile_colon hsrc, dropWhile_colon hsrc, List.drop_one, List.tail_cons]
      by_cases hdst : dst = []
      · rw [hdst]
        exact .sourceOnly hsrc
      · rw [if_neg (by simpa using hdst)]
        exact .pair hsrc hdst
    · rw [List.dropWhile_eq_nil_iff.2 (ne_colon hcolon),
        List.takeWhile_eq_self_iff.2 (ne_colon hcolon)]
      exact .bare hcolon

theorem dropCopies_skip (piece : List Char) (skip : Nat) (cs : List Char) :
    dropCopies piece skip cs = dropCopies piece 0 (cs.drop skip) := by
  induction cs generalizing skip with
  | nil => simp [dropCopies]
  | cons c cs ih =>
    cases skip with
    | zero => rfl
    | succ skip => rw [dropCopies, ih, List.drop_succ_cons]

theorem dropCopies_other {piece cs : List Char} (h : ¬piece <+: cs) :
    dropCopies piece 0 cs = cs := by
  cases cs with
  | nil => rfl
  | cons c cs => rw [dropCopies, if_neg (mt List.isPrefixOf_iff_prefix.1 h)]

section Copies

variable {piece : List Char} (hpiece : piece ≠ [])

include hpiece

theorem dropCopies_copy (cs : List Char) :
    dropCopies piece 0 (piece ++ cs) = dropCopies piece 0 cs := by
  obtain ⟨c, piece, rfl⟩ := List.exists_cons_of_ne_nil hpiece
  have hcopy : (c :: piece).isPrefixOf (c :: (piece ++ cs)) = true :=
    List.isPrefixOf_iff_prefix.2 (List.prefix_append _ _)
  rw [List.cons_append, dropCopies, if_pos hcopy, dropCopies_skip]
  simp

theorem dropCopies_copies (n : Nat) (cs : List Char) :
    dropCopies piece 0 ((List.replicate n piece).flatten ++ cs) = dropCopies piece 0 cs := by
  induction n with
  | zero => rfl
  | succ n ih =>
    rw [List.replicate_succ, List.flatten_cons, List.append_assoc, dropCopies_copy hpiece, ih]

/-- Every text is some copies of the piece and a rest that does not begin with one. -/
theorem exists_copies (cs : List Char) :
    ∃ n rest, cs = (List.replicate n piece).flatten ++ rest ∧ ¬piece <+: rest := by
  induction hlength : cs.length using Nat.strong_induction_on generalizing cs with
  | _ length ih =>
    by_cases h : piece <+: cs
    · obtain ⟨more, rfl⟩ := h
      have hshorter : more.length < length := by
        have hpos := List.length_pos_iff.2 hpiece
        rw [List.length_append] at hlength
        omega
      obtain ⟨n, rest, hmore, hrest⟩ := ih more.length hshorter more rfl
      refine ⟨n + 1, rest, ?_, hrest⟩
      rw [List.replicate_succ, List.flatten_cons, List.append_assoc, ← hmore]
    · exact ⟨0, cs, rfl, h⟩

theorem dropCopies_eq_iff {cs rest : List Char} :
    dropCopies piece 0 cs = rest ↔
      ∃ n, cs = (List.replicate n piece).flatten ++ rest ∧ ¬piece <+: rest := by
  constructor
  · rintro rfl
    obtain ⟨n, rest, rfl, hrest⟩ := exists_copies hpiece cs
    rw [dropCopies_copies hpiece, dropCopies_other hrest]
    exact ⟨n, rfl, hrest⟩
  · rintro ⟨n, rfl, hrest⟩
    rw [dropCopies_copies hpiece, dropCopies_other hrest]

end Copies

theorem dropWhile_plus_eq_iff {cs body : List Char} :
    cs.dropWhile (· == '+') = body ↔
      ∃ n, cs = List.replicate n '+' ++ body ∧ body.head? ≠ some '+' := by
  constructor
  · rintro rfl
    refine ⟨(cs.takeWhile (· == '+')).length, ?_, ?_⟩
    · have hplus : cs.takeWhile (· == '+') =
          List.replicate (cs.takeWhile (· == '+')).length '+' := by
        rw [List.eq_replicate_iff]
        exact ⟨rfl, fun c hc => by simpa using List.mem_takeWhile_imp hc⟩
      rw [← hplus, List.takeWhile_append_dropWhile]
    · intro hhead
      have hnot := List.head?_dropWhile_not (· == '+') cs
      rw [hhead] at hnot
      cases hnot
  · rintro ⟨n, rfl, hhead⟩
    rw [List.dropWhile_append_of_pos fun c hc => by simp [List.eq_of_mem_replicate hc]]
    cases body with
    | nil => rfl
    | cons c body =>
      rw [List.dropWhile_cons_of_neg]
      simpa using fun hc : c = '+' => hhead (congrArg some hc)

theorem names_iff {refspec branch : List Char} :
    Names refspec branch ↔ refspecTarget refspec = branch := by
  have hpath : headsPath ≠ [] := by decide
  unfold refspecTarget
  constructor
  · rintro ⟨pluses, paths, body, side, hrefspec, hbody, hside, hpaths, hbranch⟩
    dsimp only
    rw [dropWhile_plus_eq_iff.2 ⟨pluses, hrefspec, hbody⟩, side_iff.1 hside]
    exact (dropCopies_eq_iff hpath).2 ⟨paths, hpaths, hbranch⟩
  · intro h
    obtain ⟨pluses, hrefspec, hbody⟩ :=
      dropWhile_plus_eq_iff.1 (Eq.refl (refspec.dropWhile (· == '+')))
    obtain ⟨paths, hpaths, hbranch⟩ := (dropCopies_eq_iff hpath).1 h
    exact ⟨pluses, paths, _, _, hrefspec, hbody, side_iff.2 rfl, hpaths, hbranch⟩

end Refspec

/-! ## Pushes -/

/-- A word behind `push` that asks for force: an option that speaks of it, its short form, or a
refspec with a plus sign. -/
def Forces (w : String) : Prop :=
  isOption w = true ∧ (Text.contains w "force" = true ∨ w = "-f") ∨ w.toList.head? = some '+'

/-- The branch that is looked at, given the words behind `push`: that of the first refspec behind
the remote, else the current one. -/
def LandsOn (ctx : GitContext) (rest : List String) (branch : String) : Prop :=
  match rest.filter (!isOption ·) with
  | _ :: refspec :: _ => Refspec.Names refspec.toList branch.toList
  | _ => branch = ctx.currentBranch

theorem isOption_iff {w : String} : isOption w = true ↔ w.toList.head? = some '-' := by
  rw [isOption, List.isPrefixOf_iff_prefix]
  cases w.toList <;> simp [eq_comm]

theorem isForced_push_iff {rest : List String} :
    Invocation.isForced ⟨"push", rest.filter isOption, rest.filter (!isOption ·)⟩ = true ↔
      ∃ w ∈ rest, Forces w := by
  have hplus (w : String) : ['+'].isPrefixOf w.toList = true ↔ w.toList.head? = some '+' := by
    rw [List.isPrefixOf_iff_prefix]
    cases w.toList <;> simp [eq_comm]
  simp only [Invocation.isForced, Bool.or_eq_true, Bool.and_eq_true, List.any_eq_true, beq_iff_eq,
    List.mem_filter, hplus, true_and]
  constructor
  · rintro (⟨w, ⟨hw, hoption⟩, hforce⟩ | ⟨w, ⟨hw, -⟩, hhead⟩)
    · exact ⟨w, hw, .inl ⟨hoption, hforce⟩⟩
    · exact ⟨w, hw, .inr hhead⟩
  · rintro ⟨w, hw, ⟨hoption, hforce⟩ | hhead⟩
    · exact .inl ⟨w, ⟨hw, hoption⟩, hforce⟩
    · refine .inr ⟨w, ⟨hw, ?_⟩, hhead⟩
      rw [Bool.not_eq_true', Bool.eq_false_iff, ne_eq, isOption_iff, hhead]
      decide

theorem landsOn_iff {ctx : GitContext} {rest flags : List String} {branch : String} :
    LandsOn ctx rest branch ↔
      pushTarget ⟨"push", flags, rest.filter (!isOption ·)⟩ ctx = branch := by
  unfold LandsOn pushTarget
  generalize rest.filter (!isOption ·) = args
  rcases args with _ | ⟨remote, _ | ⟨refspec, others⟩⟩
  · exact eq_comm
  · exact eq_comm
  · show Refspec.Names refspec.toList branch.toList ↔
      String.ofList (refspecTarget refspec.toList) = branch
    rw [Refspec.names_iff, ← String.toList_inj, String.toList_ofList]

theorem hazard_rule (rule : String) (level : RiskLevel) (message suggestion : String) :
    (Finding.hazard rule level message suggestion).rule = some rule := by
  unfold Finding.hazard Finding.suggest
  split <;> rfl

/-- Of all checks only the one of pushes reports under this name. -/
theorem checkInvocation_rule_iff {branches : List String} {ctx : GitContext} {inv : Invocation} :
    (∃ f ∈ checkInvocation branches ctx inv, f.rule = some "git-force-push-protected") ↔
      inv.subcommand = "push" ∧ inv.isForced = true ∧
        isProtected branches (pushTarget inv ctx) = true := by
  by_cases hsub : inv.subcommand = "push"
  · obtain ⟨sub, flags, args⟩ := inv
    obtain rfl : sub = "push" := hsub
    show (∃ f ∈ checkPush branches ctx ⟨"push", flags, args⟩, _) ↔ _
    rw [checkPush, ← Bool.and_eq_true]
    dsimp only
    split
    · next hraised => exact iff_of_true ⟨_, List.mem_singleton_self _, hazard_rule ..⟩ ⟨rfl, hraised⟩
    · next hraised => exact iff_of_false (by simp) fun h => hraised h.2
  · refine iff_of_false ?_ fun h => hsub h.1
    rintro ⟨f, hf, hrule⟩
    have hother {rule : String} (hne : rule ≠ "git-force-push-protected")
        (hname : f.rule = some rule) : False :=
      hne (Option.some.inj (hname.symm.trans hrule))
    unfold checkInvocation at hf
    split at hf
    · next hpush => exact hsub hpush
    · unfold checkReset at hf
      split at hf
      · obtain rfl := List.mem_singleton.1 hf
        exact hother (by decide) (hazard_rule ..)
      · cases hf
    · unfold checkClean at hf
      split at hf
      · obtain rfl := List.mem_singleton.1 hf
        exact hother (by decide) (hazard_rule ..)
      · cases hf
    · unfold checkRebase at hf
      split at hf
      · obtain rfl := List.mem_singleton.1 hf
        exact hother (by decide) (hazard_rule ..)
      · cases hf
    · obtain ⟨path, -, rfl⟩ := List.mem_map.1 hf
      exact hother (by decide) (hazard_rule ..)
    · cases hf

theorem isProtected_iff {branches : List String} {branch : String} :
    isProtected branches branch = true ↔ branch ∈ branches ∧ branch ≠ "" := by
  simp [isProtected, and_comm]

theorem checkWords_rule_iff {branches : List String} {ctx : GitContext} {words : List String} :
    (∃ f ∈ checkWords branches ctx words, f.rule = some "git-force-push-protected") ↔
      ∃ g rest, GlobalOptions g ∧ words = g ++ "push" :: rest ∧ (∃ w ∈ rest, Forces w) ∧
        ∃ branch ∈ branches, branch ≠ "" ∧ LandsOn ctx rest branch := by
  constructor
  · rintro ⟨f, hf, hrule⟩
    obtain ⟨inv, hinv, hf⟩ := List.mem_flatMap.1 hf
    obtain ⟨g, rest, hg, hwords, hparts⟩ := exists_of_ofWords (Option.mem_toList.1 hinv)
    obtain ⟨hsub, hforced, hprotected⟩ := checkInvocation_rule_iff.1 ⟨f, hf, hrule⟩
    rw [hsub] at hwords hparts
    rw [hparts] at hforced hprotected
    obtain ⟨hmem, hne⟩ := isProtected_iff.1 hprotected
    exact ⟨g, rest, hg, hwords, isForced_push_iff.1 hforced, _, hmem, hne, landsOn_iff.2 rfl⟩
  · rintro ⟨g, rest, hg, rfl, hforces, branch, hmem, hne, hlands⟩
    have hpush : isOption "push" = false := by decide
    rw [checkWords, ofWords_append hg, ofWords_subcommand hpush, Option.toList_some,
      List.flatMap_singleton, checkInvocation_rule_iff, landsOn_iff.1 hlands]
    exact ⟨rfl, isForced_push_iff.2 hforces, isProtected_iff.2 ⟨hmem, hne⟩⟩

/-- A forced push is reported exactly if the branch of its first refspec is protected or, where it
names none, the current one. -/
theorem check_forced_push_iff (branches : List String) (ctx : GitContext) (command : String)
    (root : Option Node) :
    (∃ f ∈ check branches command root ctx, f.rule = some "git-force-push-protected") ↔
      ∃ g rest, GlobalOptions g ∧ g ++ "push" :: rest ∈ requests command root ∧
        (∃ w ∈ rest, Forces w) ∧ ∃ branch ∈ branches, branch ≠ "" ∧ LandsOn ctx rest branch := by
  rw [check_eq_flatMap]
  constructor
  · rintro ⟨f, hf, hrule⟩
    obtain ⟨words, hwords, hf⟩ := List.mem_flatMap.1 hf
    obtain ⟨g, rest, hg, rfl, hpush⟩ := checkWords_rule_iff.1 ⟨f, hf, hrule⟩
    exact ⟨g, rest, hg, hwords, hpush⟩
  · rintro ⟨g, rest, hg, hwords, hpush⟩
    obtain ⟨f, hf, hrule⟩ := checkWords_rule_iff.2 ⟨g, rest, hg, rfl, hpush⟩
    exact ⟨f, List.mem_flatMap.2 ⟨_, hwords, hf⟩, hrule⟩

/-- Not every refspec behind the remote is looked at: `git push --force origin feature main` is
passed over. -/
theorem later_refspec_unseen :
    ¬∀ (branches : List String) (ctx : GitContext) (command : String) (root : Option Node)
      (g rest : List String), GlobalOptions g → g ++ "push" :: rest ∈ requests command root →
      (∃ w ∈ rest, Forces w) →
      ∀ remote refspecs, rest.filter (!isOption ·) = remote :: refspecs →
      ∀ refspec ∈ refspecs, ∀ branch ∈ branches, branch ≠ "" →
      Refspec.Names refspec.toList branch.toList →
      ∃ f ∈ check branches command root ctx, f.rule = some "git-force-push-protected" := by
  intro h
  let text := "git push --force origin feature main"
  let root := (parse text).toOption.map (·.root)
  have hsilent : check protectedBranches text root .none = [] := by decide +kernel
  have hwords : [] ++ "push" :: ["--force", "origin", "feature", "main"] ∈ requests text root := by
    decide +kernel
  have hforces : ∃ w ∈ ["--force", "origin", "feature", "main"], Forces w :=
    ⟨"--force", List.mem_cons_self, .inl ⟨by decide, .inl (by decide)⟩⟩
  obtain ⟨f, hf, -⟩ := h protectedBranches .none text root [] _ .nil hwords hforces "origin"
    ["feature", "main"] (by decide) "main" (by decide) "main" (by decide) (by decide)
    (Refspec.names_iff.2 (by decide))
  rw [hsilent] at hf
  cases hf

end ShellGuard.Git
