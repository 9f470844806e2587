import Mathlib
import ShellGuard.Rule.Git

/-!
# Options of `git` commands, wherever they are written

The checks see a `git` command as the list of its words, and much of that list is free: options may
stand in front of the subcommand, those behind it may stand anywhere among the arguments, and the
letters of short options may be written in one word or in several.  `Rewording` is one such change
and `SameRequest` any number of them, in both directions.  What is found depends on none of it,
because an invocation keeps the arguments in their order and asks of the options only whether one of
them is there.
-/

namespace ShellGuard.Git

/-! ## What a check looks at -/

/-- The words after `git` of each `git` command of a tree or, where there is none, of the text. -/
def requests (command : String) (root : Option Node) : List (List String) :=
  match root with
  | some root => (root.commands.filter (·.words.head? == some "git")).map (·.words.tail)
  | Option.none => (rawWords command.toList).toList

/-- What is found in one command, by the words after `git`. -/
def checkWords (branches : List String) (ctx : GitContext) (words : List String) : List Finding :=
  (Invocation.ofWords words).toList.flatMap (checkInvocation branches ctx)

theorem check_eq_flatMap (branches : List String) (command : String) (root : Option Node)
    (ctx : GitContext) :
    check branches command root ctx =
      (requests command root).flatMap (checkWords branches ctx) := by
  cases root with
  | some root =>
    simp only [check, invocations, requests, List.filterMap_eq_flatMap_toList, List.flatMap_assoc,
      List.flatMap_map]
    rfl
  | none =>
    simp only [check, invocations, requests]
    cases rawWords command.toList with
    | none => rfl
    | some words => simp [checkWords]

/-! ## Options in front of the subcommand -/

/-- Words that can stand between `git` and the subcommand: options that take the next word as their
value, with that word, and options that take none. -/
inductive GlobalOptions : List String → Prop
  | nil : GlobalOptions []
  | valued {w : String} {more : List String} (hw : takesValue w = true) (v : String)
    (h : GlobalOptions more) : GlobalOptions (w :: v :: more)
  | single {w : String} {more : List String} (hw : isOption w = true) (hv : takesValue w = false)
    (h : GlobalOptions more) : GlobalOptions (w :: more)

theorem isOption_of_takesValue {w : String} (h : takesValue w = true) : isOption w = true := by
  simp only [takesValue, Bool.or_eq_true, beq_iff_eq] at h
  rcases h with ((rfl | rfl) | rfl) | rfl <;> rfl

theorem dropGlobalOptions_single {w : String} (hw : isOption w = true) (hv : takesValue w = false)
    (ws : List String) : dropGlobalOptions (w :: ws) = dropGlobalOptions ws := by
  cases ws with
  | nil => simp [dropGlobalOptions, hw]
  | cons v ws => simp [dropGlobalOptions, hw, hv]

theorem dropGlobalOptions_subcommand {sub : String} (h : isOption sub = false)
    (rest : List String) : dropGlobalOptions (sub :: rest) = sub :: rest := by
  have hv : takesValue sub = false := by
    by_contra hv
    rw [isOption_of_takesValue (Bool.not_eq_false _ ▸ hv)] at h
    cases h
  cases rest with
  | nil => simp [dropGlobalOptions, h, hv]
  | cons w rest => simp [dropGlobalOptions, h, hv]

theorem dropGlobalOptions_append {g : List String} (h : GlobalOptions g) (ws : List String) :
    dropGlobalOptions (g ++ ws) = dropGlobalOptions ws := by
  induction h with
  | nil => rfl
  | valued hw v _ ih =>
    rw [List.cons_append, List.cons_append, dropGlobalOptions, if_pos hw]
    exact ih
  | single hw hv _ ih =>
    rw [List.cons_append, dropGlobalOptions_single hw hv]
    exact ih

theorem exists_of_dropGlobalOptions {ws rest : List String} {sub : String}
    (h : dropGlobalOptions ws = sub :: rest) : ∃ g, GlobalOptions g ∧ ws = g ++ sub :: rest := by
  fun_induction dropGlobalOptions ws with
  | case1 => cases h
  | case2 => cases h
  | case3 w hw => exact ⟨[], .nil, h⟩
  | case4 w v ws hw ih =>
    obtain ⟨g, hg, hws⟩ := ih h
    exact ⟨w :: v :: g, .valued hw v hg, by rw [hws]; rfl⟩
  | case5 w v ws hv hw ih =>
    obtain ⟨g, hg, hws⟩ := ih h
    exact ⟨w :: g, .single hw (Bool.eq_false_iff.2 hv) hg, by rw [hws]; rfl⟩
  | case6 w v ws hv hw => exact ⟨[], .nil, h⟩

theorem ofWords_append {g : List String} (h : GlobalOptions g) (ws : List String) :
    Invocation.ofWords (g ++ ws) = Invocation.ofWords ws := by
  rw [Invocation.ofWords, dropGlobalOptions_append h]
  rfl

theorem ofWords_subcommand {sub : String} (h : isOption sub = false) (rest : List String) :
    Invocation.ofWords (sub :: rest) =
      some ⟨sub, rest.filter isOption, rest.filter (!isOption ·)⟩ := by
  rw [Invocation.ofWords, dropGlobalOptions_subcommand h]

theorem exists_of_ofWords {ws : List String} {inv : Invocation}
    (h : Invocation.ofWords ws = some inv) :
    ∃ g rest, GlobalOptions g ∧ ws = g ++ inv.subcommand :: rest ∧
      inv = ⟨inv.subcommand, rest.filter isOption, rest.filter (!isOption ·)⟩ := by
  unfold Invocation.ofWords at h
  split at h
  · cases h
  · next sub rest hrest =>
    obtain ⟨g, hg, hws⟩ := exists_of_dropGlobalOptions hrest
    cases h
    exact ⟨g, rest, hg, hws, rfl⟩

/-! ## Rewording -/

/-- Short options written in one word. -/
def bundle (letters : List Char) : String :=
  String.ofList ('-' :: letters)

/-- Another way to write the words after `git`. -/
inductive Rewording : List String → List String → Prop
  /-- With options in front. -/
  | options {g : List String} (h : GlobalOptions g) (ws : List String) : Rewording ws (g ++ ws)
  /-- With the words behind the subcommand in another order, which is the same one for those that
  are no options. -/
  | reorder {sub : String} {ws vs : List String} (hsub : isOption sub = false) (h : ws.Perm vs)
    (hargs : ws.filter (!isOption ·) = vs.filter (!isOption ·)) : Rewording (sub :: ws) (sub :: vs)
  /-- With the letters of a bundle each in a word of its own.  Behind two dashes there are no
  letters. -/
  | split {letters : List Char} (h : letters.head? ≠ some '-') (front back : List String) :
    Rewording ("clean" :: (front ++ bundle letters :: back))
      ("clean" :: (front ++ letters.map (fun c => bundle [c]) ++ back))

/-- Any number of rewordings, there and back. -/
def SameRequest : List String → List String → Prop :=
  Relation.EqvGen Rewording

/-! ## What is found does not depend on the wording -/

theorem checkInvocation_perm {sub : String} {flags flags' : List String} (h : flags.Perm flags')
    (args : List String) (branches : List String) (ctx : GitContext) :
    checkInvocation branches ctx ⟨sub, flags, args⟩ =
      checkInvocation branches ctx ⟨sub, flags', args⟩ := by
  have hshort (c : Char) :
      Invocation.hasShort ⟨sub, flags, args⟩ c = Invocation.hasShort ⟨sub, flags', args⟩ c :=
    h.any_eq
  have hlong (name : String) :
      Invocation.hasLong ⟨sub, flags, args⟩ name = Invocation.hasLong ⟨sub, flags', args⟩ name :=
    h.any_eq
  have hforced :
      Invocation.isForced ⟨sub, flags, args⟩ = Invocation.isForced ⟨sub, flags', args⟩ := by
    rw [Invocation.isForced, Invocation.isForced, h.any_eq]
  have hpush : checkPush branches ctx ⟨sub, flags, args⟩ =
      checkPush branches ctx ⟨sub, flags', args⟩ := by
    rw [checkPush, checkPush, hforced]
    rfl
  have hreset : checkReset ctx ⟨sub, flags, args⟩ = checkReset ctx ⟨sub, flags', args⟩ := by
    rw [checkReset, checkReset, hlong]
  have hclean : checkClean ⟨sub, flags, args⟩ = checkClean ⟨sub, flags', args⟩ := by
    rw [checkClean, checkClean, hshort 'f', hshort 'd', hshort 'x', hshort 'X', hlong]
  have hadd : checkAdd ⟨sub, flags, args⟩ = checkAdd ⟨sub, flags', args⟩ := rfl
  unfold checkInvocation
  dsimp only
  rw [hpush, hreset, hclean, hadd]

theorem isOption_bundle (letters : List Char) : isOption (bundle letters) = true := by
  simp [isOption, bundle]

theorem hasShort_iff {inv : Invocation} {c : Char} :
    inv.hasShort c = true ↔
      ∃ f ∈ inv.flags, ¬['-', '-'] <+: f.toList ∧ c ∈ f.toList.drop 1 := by
  simp [Invocation.hasShort, ← List.isPrefixOf_iff_prefix]

theorem hasLong_iff {inv : Invocation} {name : String} :
    inv.hasLong name = true ↔ ∃ f ∈ inv.flags, '-' :: '-' :: name.toList <+: f.toList := by
  simp [Invocation.hasLong, ← List.isPrefixOf_iff_prefix]

theorem twoDashes_bundle_iff {letters name : List Char} :
    '-' :: '-' :: name <+: (bundle letters).toList ↔ '-' :: name <+: letters := by
  rw [bundle, String.toList_ofList, List.cons_prefix_cons]
  exact and_iff_right rfl

section Bundle

variable {letters : List Char} (h : letters.head? ≠ some '-')

include h

theorem dash_not_leading (name : List Char) : ¬ '-' :: name <+: letters := by
  rintro ⟨rest, rfl⟩
  exact h rfl

/-- A bundle holds a letter if one of the words it is split into does.  A dash among the letters
makes a word that holds none, but no check asks for a dash. -/
theorem hasShort_bundle {c : Char} (hc : c ≠ '-') (sub : String) (args : List String) :
    Invocation.hasShort ⟨sub, [bundle letters], args⟩ c =
      Invocation.hasShort ⟨sub, letters.map (fun l => bundle [l]), args⟩ c := by
  have hbundle (ls : List Char) : (bundle ls).toList.drop 1 = ls := by simp [bundle]
  rw [Bool.eq_iff_iff, hasShort_iff, hasShort_iff]
  constructor
  · rintro ⟨f, hf, -, hmem⟩
    obtain rfl := List.mem_singleton.1 hf
    rw [hbundle] at hmem
    refine ⟨bundle [c], List.mem_map_of_mem hmem, ?_, by simp [hbundle]⟩
    rw [twoDashes_bundle_iff, List.cons_prefix_cons]
    exact fun hdash => hc hdash.1.symm
  · rintro ⟨f, hf, -, hmem⟩
    obtain ⟨l, hl, rfl⟩ := List.mem_map.1 hf
    rw [hbundle, List.mem_singleton] at hmem
    refine ⟨bundle letters, List.mem_singleton_self _, ?_, by rwa [hbundle, hmem]⟩
    rw [twoDashes_bundle_iff]
    exact dash_not_leading h []

theorem hasLong_bundle (sub : String) (args : List String) :
    Invocation.hasLong ⟨sub, [bundle letters], args⟩ "force" =
      Invocation.hasLong ⟨sub, letters.map (fun l => bundle [l]), args⟩ "force" := by
  rw [Bool.eq_iff_iff, hasLong_iff, hasLong_iff]
  constructor
  · rintro ⟨f, hf, hlong⟩
    obtain rfl := List.mem_singleton.1 hf
    exact absurd (twoDashes_bundle_iff.1 hlong) (dash_not_leading h _)
  · rintro ⟨f, hf, hlong⟩
    obtain ⟨l, -, rfl⟩ := List.mem_map.1 hf
    have hlength : 6 ≤ 1 := (twoDashes_bundle_iff.1 hlong).length_le
    omega

end Bundle

theorem hasShort_append (sub : String) (flags more args : List String) (c : Char) :
    Invocation.hasShort ⟨sub, flags ++ more, args⟩ c =
      (Invocation.hasShort ⟨sub, flags, args⟩ c || Invocation.hasShort ⟨sub, more, args⟩ c) :=
  List.any_append

theorem hasLong_append (sub : String) (flags more args : List String) (name : String) :
    Invocation.hasLong ⟨sub, flags ++ more, args⟩ name =
      (Invocation.hasLong ⟨sub, flags, args⟩ name || Invocation.hasLong ⟨sub, more, args⟩ name) :=
  List.any_append

theorem checkClean_split {letters : List Char} (h : letters.head? ≠ some '-')
    (front back args : List String) :
    checkClean ⟨"clean", front ++ [bundle letters] ++ back, args⟩ =
      checkClean ⟨"clean", front ++ letters.map (fun c => bundle [c]) ++ back, args⟩ := by
  simp only [checkClean, hasShort_append, hasLong_append, hasLong_bundle h,
    hasShort_bundle h (show 'f' ≠ '-' by decide), hasShort_bundle h (show 'd' ≠ '-' by decide),
    hasShort_bundle h (show 'x' ≠ '-' by decide), hasShort_bundle h (show 'X' ≠ '-' by decide)]

theorem checkWords_rewording {ws vs : List String} (h : Rewording ws vs) (branches : List String)
    (ctx : GitContext) : checkWords branches ctx ws = checkWords branches ctx vs := by
  cases h with
  | options hg => rw [checkWords, checkWords, ofWords_append hg]
  | reorder hsub hperm hargs =>
    rw [checkWords, checkWords, ofWords_subcommand hsub, ofWords_subcommand hsub]
    simp only [Option.toList_some, List.flatMap_singleton]
    rw [hargs]
    exact checkInvocation_perm (hperm.filter isOption) _ branches ctx
  | @split letters hletters front back =>
    have hsub : isOption "clean" = false := by decide
    have hflags : (letters.map fun c => bundle [c]).filter isOption =
        letters.map fun c => bundle [c] := by
      rw [List.filter_eq_self]
      intro w hw
      obtain ⟨c, -, rfl⟩ := List.mem_map.1 hw
      exact isOption_bundle [c]
    have hargs : (letters.map fun c => bundle [c]).filter (!isOption ·) = [] := by
      rw [List.filter_eq_nil_iff]
      intro w hw
      obtain ⟨c, -, rfl⟩ := List.mem_map.1 hw
      simp [isOption_bundle]
    rw [checkWords, checkWords, ofWords_subcommand hsub, ofWords_subcommand hsub]
    simp only [Option.toList_some, List.flatMap_singleton, List.filter_append, List.filter_cons,
      isOption_bundle, hflags, hargs, if_true, Bool.not_true, Bool.false_eq_true, if_false,
      List.append_nil]
    have hclean := checkClean_split hletters (front.filter isOption) (back.filter isOption)
      (front.filter (!isOption ·) ++ back.filter (!isOption ·))
    rw [List.append_assoc, List.singleton_append] at hclean
    exact hclean

theorem checkWords_sameRequest {ws vs : List String} (h : SameRequest ws vs)
    (branches : List String) (ctx : GitContext) :
    checkWords branches ctx ws = checkWords branches ctx vs := by
  induction h with
  | rel ws vs h => exact checkWords_rewording h branches ctx
  | refl ws => rfl
  | symm ws vs _ ih => exact ih.symm
  | trans ws vs us _ _ ih ih' => exact ih.trans ih'

/-- Commands that make the same requests in the same order give the same findings, however their
options are written. -/
theorem check_reworded {command command' : String} {root root' : Option Node}
    (h : List.Forall₂ SameRequest (requests command root) (requests command' root'))
    (branches : List String) (ctx : GitContext) :
    check branches command root ctx = check branches command' root' ctx := by
  have hall {rs rs' : List (List String)} (h : List.Forall₂ SameRequest rs rs') :
      rs.flatMap (checkWords branches ctx) = rs'.flatMap (checkWords branches ctx) := by
    induction h with
    | nil => rfl
    | cons hfirst _ ih =>
      rw [List.flatMap_cons, List.flatMap_cons, checkWords_sameRequest hfirst branches ctx, ih]
  rw [check_eq_flatMap, check_eq_flatMap]
  exact hall h

theorem sameRequest_clean :
    SameRequest ["-C", "/srv", "-p", "clean", "src", "-fdx"]
      ["clean", "-x", "src", "-f", "-d"] := by
  have hoptions : GlobalOptions ["-C", "/srv", "-p"] :=
    .valued (by decide) "/srv" (.single (by decide) (by decide) .nil)
  have hfront : Rewording ["clean", "src", "-fdx"] ["-C", "/srv", "-p", "clean", "src", "-fdx"] :=
    .options hoptions ["clean", "src", "-fdx"]
  have hsplit : Rewording ["clean", "src", "-fdx"] ["clean", "src", "-f", "-d", "-x"] :=
    .split (show ['f', 'd', 'x'].head? ≠ some '-' by decide) ["src"] []
  have horder : Rewording ["clean", "src", "-f", "-d", "-x"] ["clean", "-x", "src", "-f", "-d"] :=
    .reorder (by decide) (by decide) (by decide)
  exact (Relation.EqvGen.rel _ _ hfront).symm.trans _ _ _
    ((Relation.EqvGen.rel _ _ hsplit).trans _ _ _ (Relation.EqvGen.rel _ _ horder))

/-- `git -C /srv -p clean src -fdx` as a text, and a tree of `git clean -x src -f -d`. -/
theorem check_reworded_clean :
    let text := "git -C /srv -p clean src -fdx"
    let tree := Node.command .start "git" ["clean", "-x", "src", "-f", "-d"] []
    List.Forall₂ SameRequest (requests text Option.none) (requests "" (some tree)) ∧
      check protectedBranches text Option.none .none =
        check protectedBranches "" (some tree) .none ∧
      (check protectedBranches text Option.none .none).map (·.rule) =
        [some "git-clean-aggressive"] := by
  intro text tree
  have htext : requests text Option.none = [["-C", "/srv", "-p", "clean", "src", "-fdx"]] := by
    decide +kernel
  have htree : requests "" (some tree) = [["clean", "-x", "src", "-f", "-d"]] := by decide +kernel
  have hsame : List.Forall₂ SameRequest (requests text Option.none) (requests "" (some tree)) := by
    rw [htext, htree]
    exact .cons sameRequest_clean .nil
  exact ⟨hsame, check_reworded hsame protectedBranches .none, by decide +kernel⟩

end ShellGuard.Git
