import Mathlib
import ShellGuard.Decision.Protocol
import ShellGuard.Proofs.Path.Ancestors

/-!
# Trusted directories

A directory is trusted if it lies in a trusted one, component by component (`Path.Encloses`); that a
path begins with the same text is not enough.  What lies in a trusted directory is trusted too,
since lying in a directory is transitive.
-/

namespace ShellGuard

namespace Path

/-! ## Paths inside a directory -/

/-- A directory that a path lies in, or is.  The empty path stands for the directory that relative
paths start from, so no absolute path lies in it. -/
structure Encloses (dir path : String) : Prop where
  components : components dir.toList <+: components path.toList
  relative : dir = "" → path.toList.head? ≠ some '/'

theorem components_eq_nil {cs : List Char} : components cs = [] ↔ cs = [] := by
  refine ⟨fun h => ?_, by rintro rfl; rfl⟩
  obtain ⟨hfront, hinner⟩ := List.append_eq_nil_iff.1 h
  rcases front_cases cs with ⟨hroot, -⟩ | ⟨hhere, -⟩ | ⟨-, -, hroot, hdot, hhere⟩
  · simp [hroot] at hfront
  · simp [hhere] at hfront
  change inner cs = [] at hinner
  by_cases hslash : '/' ∈ cs
  · obtain ⟨piece, rest, rfl, hpiece⟩ := List.eq_append_cons_of_mem hslash
    rw [inner_append, List.append_eq_nil_iff, inner_of_not_mem hpiece, Option.toList_eq_nil_iff,
      component?_eq_none] at hinner
    rcases hinner.1 with rfl | rfl
    · exact absurd rfl hroot
    · exact absurd rfl (hhere rest)
  · rw [inner_of_not_mem hslash, Option.toList_eq_nil_iff, component?_eq_none] at hinner
    exact hinner.resolve_right hdot

theorem encloses_iff {dir path : String} :
    Encloses dir path ↔ components dir.toList <+: components path.toList ∧
      (components dir.toList = [] → path.toList.head? ≠ some '/') := by
  rw [components_eq_nil, String.toList_eq_nil_iff]
  exact ⟨fun h => ⟨h.components, h.relative⟩, fun h => ⟨h.1, h.2⟩⟩

theorem Encloses.trans {a b c : String} (h : Encloses a b) (h' : Encloses b c) : Encloses a c where
  components := h.components.trans h'.components
  relative := by
    intro ha hc
    have hb := h.relative ha
    rw [Ne, ← head?_components] at hb
    rw [← head?_components] at hc
    obtain ⟨hstart, hempty⟩ := encloses_iff.1 h'
    cases hcs : Path.components b.toList with
    | nil => exact hempty hcs (head?_components.1 hc)
    | cons x cs =>
      obtain ⟨rest, hrest⟩ := hstart
      rw [← hrest, hcs] at hc
      rw [hcs] at hb
      exact hb hc

theorem frontLength_le_one (cs : List Char) : frontLength cs ≤ 1 := by
  rcases front_cases cs with ⟨-, h, -⟩ | ⟨-, h, -⟩ | ⟨-, h, -⟩
  all_goals omega

theorem front_append {xs : List Char} (h : xs ≠ []) (ys : List Char) :
    front (xs ++ '/' :: ys) = front xs :=
  (front_of_cut (List.prefix_append xs _)
    (Nat.le_trans (frontLength_le_one _) (List.length_pos_iff.2 h)) (.inr ⟨ys, rfl⟩)).symm

theorem components_append {xs : List Char} (h : xs ≠ []) (ys : List Char) :
    components (xs ++ '/' :: ys) = components xs ++ inner ys := by
  rw [components_eq, components_eq, front_append h, inner_append, List.append_assoc]

/-- What is joined to a directory lies in it, unless it is absolute. -/
theorem encloses_join (dir : String) {name : String} (h : name.toList.head? ≠ some '/') :
    Encloses dir (join dir name) := by
  rw [encloses_iff, join]
  split
  · next hname =>
    obtain rfl : dir = "" := by simpa [h] using hname
    exact ⟨List.nil_prefix, fun _ => h⟩
  next hname =>
  have hdir : dir.toList ≠ [] := by
    rw [not_or] at hname
    simpa using hname.2
  have hempty (path : String) (hnil : components dir.toList = []) :
      path.toList.head? ≠ some '/' :=
    absurd (components_eq_nil.1 hnil) hdir
  split
  · next hslash =>
    obtain ⟨xs, hxs⟩ := List.getLast?_eq_some_iff.1 hslash
    refine ⟨?_, hempty _⟩
    rw [String.toList_append, hxs, List.append_assoc, List.singleton_append]
    cases xs with
    | nil => exact ⟨inner name.toList, rfl⟩
    | cons c xs =>
      rw [components_append (List.cons_ne_nil c xs), components_append (List.cons_ne_nil c xs)]
      exact ⟨inner name.toList, by simp⟩
  · refine ⟨?_, hempty _⟩
    have htext : (dir ++ "/" ++ name).toList = dir.toList ++ '/' :: name.toList := by simp
    rw [htext, components_append hdir]
    exact List.prefix_append _ _

/-! ## Paths that only begin with the same text -/

/-- A path whose text ends inside a piece of another one: the other begins with the same text, but
its piece is a longer one. -/
def EndsInside (path longer : String) : Prop :=
  ∃ base piece more : List Char, path.toList = base ++ piece ∧
    longer.toList = base ++ (piece ++ more) ∧
    (base = [] ∨ base.getLast? = some '/') ∧ '/' ∉ piece ∧ component? piece ≠ none ∧
    more ≠ [] ∧ more.head? ≠ some '/'

theorem component?_inj {p q : List Char} {x : Component} (hp : component? p = some x)
    (hq : component? q = some x) : p = q := by
  have hpiece {p : List Char} (h : component? p = some x) :
      p = ['.', '.'] ∧ x = .up ∨ p ≠ ['.', '.'] ∧ x = .name p := by
    unfold component? at h
    split at h
    · cases h
    · split at h
      · next hup => exact .inl ⟨hup, (Option.some.inj h).symm⟩
      · next hname => exact .inr ⟨hname, (Option.some.inj h).symm⟩
  rcases hpiece hp with ⟨rfl, rfl⟩ | ⟨-, rfl⟩
  · rcases hpiece hq with ⟨rfl, -⟩ | ⟨-, hname⟩
    · rfl
    · cases hname
  · rcases hpiece hq with ⟨-, hup⟩ | ⟨-, hname⟩
    · cases hup
    · exact Component.name.inj hname

theorem front_piece {piece more : List Char} (hslash : '/' ∉ piece)
    (hpiece : component? piece ≠ none)
    (hmore : more.head? ≠ some '/') : front (piece ++ more) = [] := by
  rw [Ne, component?_eq_none, not_or] at hpiece
  obtain ⟨c, piece, rfl⟩ := List.exists_cons_of_ne_nil hpiece.1
  rcases front_cases (c :: piece ++ more) with ⟨-, -, r, hr⟩ | ⟨-, -, hdot⟩ | ⟨h, -⟩
  · rw [(List.cons.inj hr).1] at hslash
    exact absurd List.mem_cons_self hslash
  · exfalso
    cases piece with
    | nil =>
      rcases hdot with hdot | ⟨r, hr⟩
      · exact hpiece.2 (by rw [(List.cons.inj hdot).1])
      · exact hmore (by rw [show more = '/' :: r from (List.cons.inj hr).2]; rfl)
    | cons d piece =>
      rcases hdot with hdot | ⟨r, hr⟩
      · simp at hdot
      · have hd : d = '/' := (List.cons.inj (List.cons.inj hr).2).1
        exact hslash (by simp [hd])
  · exact h

/-- Behind a slash or at the start of a text, what comes first does not depend on what follows. -/
theorem components_behind {base : List Char} (h : base = [] ∨ base.getLast? = some '/') :
    ∃ first, ∀ cs, front cs = [] → components (base ++ cs) = first ++ inner cs := by
  rcases h with rfl | h
  · exact ⟨[], fun cs hcs => by rw [List.nil_append, components_eq, hcs]⟩
  · obtain ⟨xs, rfl⟩ := List.getLast?_eq_some_iff.1 h
    cases xs with
    | nil => exact ⟨[.root], fun cs _ => rfl⟩
    | cons c xs =>
      refine ⟨components (c :: xs), fun cs _ => ?_⟩
      rw [List.append_assoc, List.singleton_append, components_append (List.cons_ne_nil c xs)]

/-- Sharing a text is not enough to lie in a directory. -/
theorem EndsInside.not_encloses {path longer : String} (h : EndsInside path longer) :
    ¬Encloses path longer := by
  obtain ⟨base, piece, more, hpath, hlonger, hbase, hslash, hpiece, hne, hmore⟩ := h
  obtain ⟨first, hfirst⟩ := components_behind hbase
  obtain ⟨x, hx⟩ := Option.ne_none_iff_exists'.1 hpiece
  have hshort : components path.toList = first ++ [x] := by
    have hfront : front (piece ++ []) = [] := front_piece hslash hpiece (by simp)
    rw [List.append_nil] at hfront
    rw [hpath, hfirst piece hfront, inner_of_not_mem hslash, hx]
    rfl
  -- the piece that goes on up to the next slash
  have hpieces : ∃ v rest, v ≠ [] ∧
      inner (piece ++ more) = (component? (piece ++ v)).toList ++ rest := by
    by_cases hmem : '/' ∈ more
    · obtain ⟨v, rest, rfl, hv⟩ := List.eq_append_cons_of_mem hmem
      refine ⟨v, inner rest, by rintro rfl; exact hmore rfl, ?_⟩
      rw [← List.append_assoc, inner_append, inner_of_not_mem (by simp [hslash, hv])]
    · refine ⟨more, [], hne, ?_⟩
      rw [inner_of_not_mem (by simp [hslash, hmem]), List.append_nil]
  obtain ⟨v, rest, hv, hinner⟩ := hpieces
  have hmakes : component? (piece ++ v) ≠ none := by
    rw [Ne, component?_eq_none] at hpiece ⊢
    rintro (hnil | hdot)
    · exact hv (List.append_eq_nil_iff.1 hnil).2
    · rcases List.append_eq_singleton_iff.1 hdot with ⟨hnil, -⟩ | ⟨hdot, -⟩
      · exact hpiece (.inl hnil)
      · exact hpiece (.inr hdot)
  obtain ⟨y, hy⟩ := Option.ne_none_iff_exists'.1 hmakes
  rintro ⟨hstart, -⟩
  rw [hshort, hlonger, hfirst _ (front_piece hslash hpiece hmore), hinner, hy,
    List.prefix_append_right_inj] at hstart
  obtain ⟨rfl, -⟩ := List.cons_prefix_cons.1 hstart
  exact hv (List.append_right_eq_self.1 (component?_inj hx hy).symm)

end Path

namespace Protocol

theorem isTrusted_iff {p : Protocol} {dir : String} :
    p.isTrusted dir = true ↔
      ∃ t ∈ p.settings.trustedPaths, Path.Encloses (Path.expandHome p.home t) dir := by
  have hfuel : (Path.components dir.toList).length < dir.length + 1 := by
    rw [← String.length_toList]
    exact Nat.lt_succ_of_le (Path.length_components_le _)
  have hancestors (t : String) : (∃ a ∈ Path.ancestors dir (dir.length + 1),
      Path.same t a = true) ↔ Path.Encloses t dir := by
    rw [Path.encloses_iff, ← Path.mem_ancestors hfuel]
    simp only [Path.same, beq_iff_eq]
    exact exists_congr fun a => and_congr_right fun _ => eq_comm
  simp only [isTrusted, List.any_eq_true, SafetySettings.trusted, List.mem_map,
    exists_exists_and_eq_and, ← hancestors]
  constructor
  · rintro ⟨a, ha, t, ht, hsame⟩
    exact ⟨t, ht, a, ha, hsame⟩
  · rintro ⟨t, ht, a, ha, hsame⟩
    exact ⟨a, ha, t, ht, hsame⟩

/-- Trust goes by whole components: a directory is trusted exactly if the components of a trusted
path are the first of its own, where the empty path counts for relative directories alone.  A
trusted path that ends inside a piece of the directory does not count, and trust is passed on to
everything inside. -/
theorem isTrusted_componentwise (p : Protocol) (dir : String) :
    (p.isTrusted dir = true ↔ ∃ t ∈ p.settings.trustedPaths,
      Path.components (Path.expandHome p.home t).toList <+: Path.components dir.toList ∧
        (Path.expandHome p.home t = "" → dir.toList.head? ≠ some '/')) ∧
    ((∀ t ∈ p.settings.trustedPaths, Path.EndsInside (Path.expandHome p.home t) dir) →
      p.isTrusted dir = false) ∧
    (p.isTrusted dir = true →
      (∀ below, Path.Encloses dir below → p.isTrusted below = true) ∧
        ∀ name : String, name.toList.head? ≠ some '/' →
          p.isTrusted (Path.join dir name) = true) := by
  have hbelow (htrusted : p.isTrusted dir = true) (below : String) (h : Path.Encloses dir below) :
      p.isTrusted below = true := by
    obtain ⟨t, ht, hdir⟩ := isTrusted_iff.1 htrusted
    exact isTrusted_iff.2 ⟨t, ht, hdir.trans h⟩
  refine ⟨?_, fun htext => ?_, fun htrusted => ⟨hbelow htrusted, fun name hname => ?_⟩⟩
  · rw [isTrusted_iff]
    constructor
    · rintro ⟨t, ht, h⟩
      exact ⟨t, ht, h.components, h.relative⟩
    · rintro ⟨t, ht, hstart, hrelative⟩
      exact ⟨t, ht, hstart, hrelative⟩
  · refine Bool.eq_false_iff.2 fun htrusted => ?_
    obtain ⟨t, ht, h⟩ := isTrusted_iff.1 htrusted
    exact (htext t ht).not_encloses h
  · exact hbelow htrusted _ (Path.encloses_join dir hname)

/-- A home directory written with doubled slashes and dots, and a neighbour that shares its text. -/
theorem isTrusted_componentwise_spellings :
    let p : Protocol := ⟨{ trustedPaths := ["~//work/./app/"] }, some "/home/me"⟩
    let q : Protocol := ⟨{ trustedPaths := ["~/work"] }, some "/home/me"⟩
    p.isTrusted "/home/me/work/app/.." = true ∧
      p.isTrusted (Path.join "/home/me/work/app/.." "src") = true ∧
      q.isTrusted "/home/me/workshop/app" = false := by
  intro p q
  have hcomponents : Path.components "/home/me//work/./app/".toList <+:
      Path.components "/home/me/work/app/..".toList := by decide
  have htrusted : p.isTrusted "/home/me/work/app/.." = true :=
    (isTrusted_componentwise p _).1.2
      ⟨"~//work/./app/", by simp [p], hcomponents, fun h => absurd h (by decide)⟩
  have hinside : Path.EndsInside "/home/me/work" "/home/me/workshop/app" :=
    ⟨"/home/me/".toList, "work".toList, "shop/app".toList, by decide, by decide, .inr (by decide),
      by decide, by decide, by decide, by decide⟩
  refine ⟨htrusted, ((isTrusted_componentwise p _).2.2 htrusted).2 "src" (by decide), ?_⟩
  refine (isTrusted_componentwise q _).2.1 fun t ht => ?_
  obtain rfl : t = "~/work" := by simpa [q] using ht
  exact hinside

end Protocol

end ShellGuard
