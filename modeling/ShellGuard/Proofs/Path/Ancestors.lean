import Mathlib
import ShellGuard.Path

/-!
# The paths above a path

Going up from a path drops its last component and nothing else (`components_parent?`), so the
components of the paths above it are the beginnings of its own (`mem_ancestors`).  Only the empty
beginning is special: it is reached from a relative path and never from an absolute one, which ends
at its root.

A path goes up by its text: what makes no component is cut off at the end, then the last piece, then
again what makes no component.  The text is cut next to a slash each time, or at the root or dot it
begins with, so the beginning of the text stays what it is and the pieces before the cut too.
-/

namespace ShellGuard.Path

/-! ## Pieces -/

/-- The components behind the front of a path. -/
def inner (cs : List Char) : List Component :=
  (cutSlashes [] cs).filterMap component?

theorem components_eq (cs : List Char) : components cs = front cs ++ inner cs := rfl

theorem cutSlashes_append (piece xs ys : List Char) :
    cutSlashes piece (xs ++ '/' :: ys) = cutSlashes piece xs ++ cutSlashes [] ys := by
  induction xs generalizing piece with
  | nil => rfl
  | cons c xs ih =>
    rw [List.cons_append, cutSlashes, cutSlashes]
    split
    · rw [ih, List.cons_append]
    · exact ih _

theorem cutSlashes_of_not_mem {cs : List Char} (h : '/' ∉ cs) (piece : List Char) :
    cutSlashes piece cs = [piece.reverse ++ cs] := by
  induction cs generalizing piece with
  | nil => rw [cutSlashes, List.append_nil]
  | cons c cs ih =>
    have hc : c ≠ '/' := (List.ne_of_not_mem_cons h).symm
    rw [cutSlashes, if_neg hc, ih (List.not_mem_of_not_mem_cons h)]
    simp

theorem inner_append (xs ys : List Char) : inner (xs ++ '/' :: ys) = inner xs ++ inner ys := by
  rw [inner, cutSlashes_append, List.filterMap_append]
  rfl

@[simp] theorem inner_nil : inner [] = [] := rfl

theorem inner_slash (xs : List Char) : inner (xs ++ ['/']) = inner xs := by
  rw [inner_append, inner_nil, List.append_nil]

theorem inner_of_not_mem {cs : List Char} (h : '/' ∉ cs) : inner cs = (component? cs).toList := by
  rw [inner, cutSlashes_of_not_mem h, List.reverse_nil, List.nil_append, List.filterMap_cons]
  cases component? cs <;> rfl

theorem component?_eq_none {piece : List Char} :
    component? piece = none ↔ piece = [] ∨ piece = ['.'] := by
  unfold component?
  split
  · next h => simp [h]
  · next h =>
    split
    · simp [h]
    · simp [h]

/-- A piece is neither the root nor the dot at the front of a path. -/
theorem not_front_of_mem_inner {cs : List Char} {x : Component} (h : x ∈ inner cs) :
    x ≠ .root ∧ x ≠ .here := by
  obtain ⟨piece, -, hx⟩ := List.mem_filterMap.1 h
  unfold component? at hx
  split at hx
  · cases hx
  · split at hx
    · obtain rfl := Option.some.inj hx
      simp
    · obtain rfl := Option.some.inj hx
      simp

/-! ## Fronts -/

/-- The three ways a path can begin. -/
theorem front_cases (cs : List Char) :
    (front cs = [.root] ∧ frontLength cs = 1 ∧ ∃ r, cs = '/' :: r) ∨
      (front cs = [.here] ∧ frontLength cs = 1 ∧ (cs = ['.'] ∨ ∃ r, cs = '.' :: '/' :: r)) ∨
      (front cs = [] ∧ frontLength cs = 0 ∧ cs.head? ≠ some '/' ∧ cs ≠ ['.'] ∧
        ∀ r, cs ≠ '.' :: '/' :: r) := by
  unfold frontLength front
  split
  · next r => exact .inl ⟨rfl, rfl, r, rfl⟩
  · exact .inr (.inl ⟨rfl, rfl, .inl rfl⟩)
  · next r => exact .inr (.inl ⟨rfl, rfl, .inr ⟨r, rfl⟩⟩)
  · next hroot hdot hhere =>
    refine .inr (.inr ⟨rfl, rfl, ?_, hdot, fun r => hhere r⟩)
    intro hhead
    obtain ⟨r, rfl⟩ := List.head?_eq_some_iff.1 hhead
    exact hroot r rfl

/-- A path that is cut next to a slash, or right behind its front, begins as before. -/
theorem front_of_cut {t cs : List Char} (hstart : t <+: cs) (hkeep : frontLength cs ≤ t.length)
    (hcut : t.length = frontLength cs ∨ ∃ u, cs = t ++ '/' :: u) : front t = front cs := by
  rcases front_cases cs with ⟨hfront, hlen, r, rfl⟩ | ⟨hfront, hlen, hcs⟩ |
    ⟨hfront, hlen, hroot, hdot, hhere⟩
  · obtain ⟨c, t, rfl⟩ :=
      List.exists_cons_of_length_pos (Nat.lt_of_lt_of_le Nat.one_pos (hlen ▸ hkeep))
    obtain ⟨rfl, -⟩ := List.cons_prefix_cons.1 hstart
    rfl
  · obtain ⟨c, t, rfl⟩ :=
      List.exists_cons_of_length_pos (Nat.lt_of_lt_of_le Nat.one_pos (hlen ▸ hkeep))
    rw [hfront]
    rcases hcs with rfl | ⟨r, rfl⟩
    · obtain ⟨rfl, ht⟩ := List.cons_prefix_cons.1 hstart
      obtain rfl := List.prefix_nil.1 ht
      rfl
    · obtain ⟨rfl, ht⟩ := List.cons_prefix_cons.1 hstart
      cases t with
      | nil => rfl
      | cons d t =>
        obtain ⟨rfl, -⟩ := List.cons_prefix_cons.1 ht
        rfl
  · rw [hfront]
    rcases hcut with hcut | ⟨u, rfl⟩
    · rw [List.length_eq_zero_iff.1 (hcut.trans hlen)]
      rfl
    · rcases front_cases t with ⟨-, -, r, rfl⟩ | ⟨-, -, rfl | ⟨r, rfl⟩⟩ | ⟨ht, -⟩
      · exact absurd rfl hroot
      · exact absurd rfl (hhere u)
      · exact absurd rfl (hhere (r ++ '/' :: u))
      · exact ht

/-! ## Cutting the end off

Texts are read from their end here, so they stand reversed. -/

theorem inner_dropTrailing (keep : Nat) (r : List Char) :
    inner (dropTrailing keep r).reverse = inner r.reverse := by
  induction r with
  | nil => rfl
  | cons c r ih =>
    rw [dropTrailing]
    split
    · rfl
    split
    · next hc => rw [ih, hc, List.reverse_cons, inner_slash]
    split
    · next hdot =>
      obtain ⟨rfl, hslash⟩ := hdot
      obtain ⟨r, rfl⟩ := List.head?_eq_some_iff.1 hslash
      have htext : ('.' :: '/' :: r).reverse = r.reverse ++ '/' :: ['.'] := by simp
      have hdot : inner ['.'] = [] := rfl
      rw [ih, htext, inner_append, hdot, List.append_nil, List.reverse_cons, inner_slash]
    · rfl

theorem dropTrailing_suffix (keep : Nat) (r : List Char) : dropTrailing keep r <:+ r := by
  induction r with
  | nil => exact List.suffix_rfl
  | cons c r ih =>
    have hlater : dropTrailing keep r <:+ c :: r := ih.trans (List.suffix_cons c r)
    rw [dropTrailing]
    split
    · exact List.suffix_rfl
    split
    · exact hlater
    split
    · exact hlater
    · exact List.suffix_rfl

theorem length_dropTrailing {keep : Nat} {r : List Char} (h : keep ≤ r.length) :
    keep ≤ (dropTrailing keep r).length := by
  induction r with
  | nil => exact h
  | cons c r ih =>
    rw [dropTrailing]
    split
    · exact h
    next hlong =>
    have hr : keep ≤ r.length := by
      rw [List.length_cons] at hlong
      omega
    split
    · exact ih hr
    split
    · exact ih hr
    · exact h

/-- What is left is cut next to a slash, or it is the front alone. -/
theorem dropTrailing_cut (keep : Nat) (r : List Char) :
    (dropTrailing keep r = r ∧ r.head? ≠ some '/') ∨ (dropTrailing keep r).length ≤ keep ∨
      ∃ u, r = u ++ '/' :: dropTrailing keep r := by
  induction r with
  | nil => exact .inl ⟨rfl, by simp⟩
  | cons c r ih =>
    rw [dropTrailing]
    split
    · next hshort => exact .inr (.inl hshort)
    split
    · next hc =>
      rcases ih with ⟨ih, -⟩ | ih | ⟨u, hu⟩
      · exact .inr (.inr ⟨[], by rw [ih, hc, List.nil_append]⟩)
      · exact .inr (.inl ih)
      · exact .inr (.inr ⟨c :: u, congrArg (c :: ·) hu⟩)
    next hc =>
    split
    · next hdot =>
      rcases ih with ⟨-, ih⟩ | ih | ⟨u, hu⟩
      · exact absurd hdot.2 ih
      · exact .inr (.inl ih)
      · exact .inr (.inr ⟨c :: u, congrArg (c :: ·) hu⟩)
    · exact .inl ⟨rfl, by simpa using hc⟩

/-- Behind the front, what is left ends in a piece that makes a component. -/
theorem dropTrailing_end {keep : Nat} {r : List Char} (h : keep < (dropTrailing keep r).length) :
    (dropTrailing keep r).head? ≠ some '/' ∧ ∀ s, dropTrailing keep r ≠ '.' :: '/' :: s := by
  induction r with
  | nil => exact ⟨by simp [dropTrailing], by simp [dropTrailing]⟩
  | cons c r ih =>
    rw [dropTrailing] at h ⊢
    split
    · next hshort =>
      rw [if_pos hshort] at h
      omega
    next hlong =>
    rw [if_neg hlong] at h
    split
    · next hc =>
      rw [if_pos hc] at h
      exact ih h
    next hc =>
    rw [if_neg hc] at h
    split
    · next hdot =>
      rw [if_pos hdot] at h
      exact ih h
    · next hdot =>
      refine ⟨by simpa using hc, fun s hs => hdot ?_⟩
      obtain ⟨rfl, rfl⟩ := List.cons.inj hs
      exact ⟨rfl, rfl⟩

/-- Dropping a piece stops at a slash or at the front. -/
theorem dropPiece_cut {keep : Nat} {r : List Char} (h : keep ≤ r.length) :
    ∃ piece, r = piece ++ dropPiece keep r ∧ '/' ∉ piece ∧ keep ≤ (dropPiece keep r).length ∧
      ((dropPiece keep r).length = keep ∨ ∃ s, dropPiece keep r = '/' :: s) := by
  induction r with
  | nil => exact ⟨[], rfl, by simp, h, .inl (Nat.le_zero.1 h).symm⟩
  | cons c r ih =>
    rw [dropPiece]
    split
    · next hshort => exact ⟨[], rfl, by simp, h, .inl (Nat.le_antisymm hshort h)⟩
    next hlong =>
    split
    · next hc => exact ⟨[], rfl, by simp, h, .inr ⟨r, by rw [hc]⟩⟩
    · next hc =>
      have hr : keep ≤ r.length := by
        rw [List.length_cons] at hlong
        omega
      obtain ⟨piece, hpiece, hslash, hstop⟩ := ih hr
      refine ⟨c :: piece, congrArg (c :: ·) hpiece, ?_, hstop⟩
      simpa [hslash] using Ne.symm hc

/-! ## Going up -/

/-- The text that going up from a path leaves, last character first. -/
def above (cs : List Char) : List Char :=
  dropTrailing (frontLength cs)
    (dropPiece (frontLength cs) (dropTrailing (frontLength cs) cs.reverse))

theorem frontLength_le (cs : List Char) : frontLength cs ≤ cs.reverse.length := by
  rw [List.length_reverse]
  rcases front_cases cs with ⟨-, hlen, r, rfl⟩ | ⟨-, hlen, rfl | ⟨r, rfl⟩⟩ | ⟨-, hlen, -⟩
  all_goals rw [hlen]; simp

/-- A path with a piece that makes a component is longer than its front. -/
theorem frontLength_lt {cs : List Char} (h : inner cs ≠ []) :
    frontLength cs < (dropTrailing (frontLength cs) cs.reverse).length := by
  have hsame := inner_dropTrailing (frontLength cs) cs.reverse
  have hsuffix := dropTrailing_suffix (frontLength cs) cs.reverse
  generalize dropTrailing (frontLength cs) cs.reverse = r at hsame hsuffix ⊢
  rw [List.reverse_reverse] at hsame
  have hstart : r.reverse <+: cs := by rwa [← List.reverse_suffix, List.reverse_reverse]
  by_contra hshort
  refine h (hsame.symm.trans ?_)
  cases r with
  | nil => rfl
  | cons c r =>
    have hone : frontLength cs = 1 ∧ r = [] := by
      rw [List.length_cons] at hshort
      rcases front_cases cs with ⟨-, hlen, -⟩ | ⟨-, hlen, -⟩ | ⟨-, hlen, -⟩
      all_goals exact ⟨by omega, List.length_eq_zero_iff.1 (by omega)⟩
    obtain ⟨hlen, rfl⟩ := hone
    rcases front_cases cs with ⟨-, -, r, rfl⟩ | ⟨-, -, rfl | ⟨r, rfl⟩⟩ | ⟨-, hzero, -⟩
    · rw [(List.cons_prefix_cons.1 hstart).1]
      rfl
    · rw [(List.cons_prefix_cons.1 hstart).1]
      rfl
    · rw [(List.cons_prefix_cons.1 hstart).1]
      rfl
    · omega

/-- The last piece begins behind a slash, or it is the whole path. -/
theorem dropPiece_stop {cs r : List Char} (hstart : r.reverse <+: cs)
    (hlong : frontLength cs < r.length) :
    ∃ piece, '/' ∉ piece ∧ r = piece ++ dropPiece (frontLength cs) r ∧
      (dropPiece (frontLength cs) r = [] ∨ ∃ s, dropPiece (frontLength cs) r = '/' :: s) := by
  obtain ⟨piece, hpiece, hslash, -, hstop⟩ := dropPiece_cut (Nat.le_of_lt hlong)
  refine ⟨piece, hslash, hpiece, ?_⟩
  generalize dropPiece (frontLength cs) r = d at hpiece hstop ⊢
  subst hpiece
  rw [List.reverse_append] at hstart
  rcases hstop with hstop | hstop
  swap
  · exact .inr hstop
  rcases front_cases cs with ⟨-, hlen, u, rfl⟩ | ⟨-, hlen, hcs⟩ | ⟨-, hlen, -⟩
  · obtain ⟨c, rfl⟩ := List.length_eq_one_iff.1 (hstop.trans hlen)
    rw [(List.cons_prefix_cons.1 hstart).1]
    exact .inr ⟨[], rfl⟩
  · obtain ⟨c, rfl⟩ := List.length_eq_one_iff.1 (hstop.trans hlen)
    have hne : piece.reverse ≠ [] := by
      rintro hnil
      rw [List.reverse_eq_nil_iff.1 hnil, hlen] at hlong
      exact Nat.lt_irrefl 1 hlong
    rcases hcs with rfl | ⟨u, rfl⟩
    · exact absurd (List.prefix_nil.1 (List.cons_prefix_cons.1 hstart).2) hne
    · obtain ⟨d, s, hd⟩ := List.exists_cons_of_ne_nil hne
      have hnext : piece.reverse <+: '/' :: u := (List.cons_prefix_cons.1 hstart).2
      rw [hd] at hnext
      refine absurd ?_ hslash
      rw [← List.mem_reverse, hd, (List.cons_prefix_cons.1 hnext).1]
      exact List.mem_cons_self
  · exact .inl (List.length_eq_zero_iff.1 (hstop.trans hlen))

/-- The last piece that makes a component is dropped. -/
theorem inner_above {cs : List Char} (h : inner cs ≠ []) :
    ∃ x, inner cs = inner (above cs).reverse ++ [x] := by
  rw [above, inner_dropTrailing]
  have hlong := frontLength_lt h
  have hsame := inner_dropTrailing (frontLength cs) cs.reverse
  have hstart : (dropTrailing (frontLength cs) cs.reverse).reverse <+: cs := by
    rw [← List.reverse_suffix, List.reverse_reverse]
    exact dropTrailing_suffix _ _
  have hend := dropTrailing_end hlong
  have hcut := dropTrailing_cut (frontLength cs) cs.reverse
  generalize dropTrailing (frontLength cs) cs.reverse = r at hlong hsame hstart hend hcut ⊢
  obtain ⟨piece, hslash, hpiece, hstop⟩ := dropPiece_stop hstart hlong
  generalize dropPiece (frontLength cs) r = d at hpiece hstop ⊢
  have hparts : inner cs = inner d.reverse ++ (component? piece.reverse).toList := by
    rw [List.reverse_reverse] at hsame
    rw [← hsame, hpiece, List.reverse_append, ← inner_of_not_mem (by rwa [List.mem_reverse])]
    rcases hstop with rfl | ⟨s, rfl⟩
    · rfl
    · rw [List.reverse_cons, inner_slash, List.append_assoc, List.singleton_append, inner_append]
  have hmakes : component? piece.reverse ≠ none := by
    rw [Ne, component?_eq_none, List.reverse_eq_nil_iff]
    rintro (rfl | hdot)
    · rcases hstop with rfl | ⟨s, rfl⟩
      · exact absurd hlong (by simp [hpiece])
      · exact hend.1 (by simp [hpiece])
    · have hdot : piece = ['.'] := by simpa using congrArg List.reverse hdot
      subst hdot
      rcases hstop with rfl | ⟨s, rfl⟩
      · -- a dot alone is the front of the path and no piece of it
        have hfront : frontLength cs = 1 := by
          rcases front_cases cs with ⟨-, hlen, -⟩ | ⟨-, hlen, -⟩ | ⟨-, hlen, -, hdot, hhere⟩
          · exact hlen
          · exact hlen
          · rcases hcut with ⟨hcut, -⟩ | hcut | ⟨u, hcut⟩
            · exact absurd (by simpa [hpiece] using congrArg List.reverse hcut.symm) hdot
            · omega
            · have htext : cs = '.' :: '/' :: u.reverse := by
                simpa [hpiece] using congrArg List.reverse hcut
              exact absurd htext (hhere _)
        rw [hfront, hpiece] at hlong
        exact Nat.lt_irrefl 1 hlong
      · exact hend.2 s hpiece
  obtain ⟨x, hx⟩ := Option.ne_none_iff_exists'.1 hmakes
  exact ⟨x, by rw [hparts, hx]; rfl⟩

/-- The path above begins as the path does. -/
theorem front_above (cs : List Char) : front (above cs).reverse = front cs := by
  have hkeep := length_dropTrailing (frontLength_le cs)
  obtain ⟨v, hv⟩ := dropTrailing_suffix (frontLength cs) cs.reverse
  rw [above]
  generalize dropTrailing (frontLength cs) cs.reverse = r at hkeep hv ⊢
  obtain ⟨piece, hpiece, -, hlong, hstop⟩ := dropPiece_cut hkeep
  generalize dropPiece (frontLength cs) r = d at hpiece hlong hstop ⊢
  have hsuffix := dropTrailing_suffix (frontLength cs) d
  have htext (u : List Char) (hu : d = u ++ '/' :: dropTrailing (frontLength cs) d) :
      cs = (dropTrailing (frontLength cs) d).reverse ++ '/' :: (v ++ piece ++ u).reverse := by
    have hreverse : cs.reverse = v ++ piece ++ u ++ '/' :: dropTrailing (frontLength cs) d := by
      rw [← hv, hpiece, List.append_assoc, List.append_assoc, ← hu]
    simpa using congrArg List.reverse hreverse
  refine front_of_cut ?_ ?_ ?_
  · rw [← List.reverse_suffix, List.reverse_reverse, ← hv, hpiece]
    exact (hsuffix.trans (List.suffix_append piece d)).trans (List.suffix_append v _)
  · rw [List.length_reverse]
    exact length_dropTrailing hlong
  · rw [List.length_reverse]
    have hshort (h : (dropTrailing (frontLength cs) d).length ≤ frontLength cs) :
        (dropTrailing (frontLength cs) d).length = frontLength cs :=
      Nat.le_antisymm h (length_dropTrailing hlong)
    rcases dropTrailing_cut (frontLength cs) d with ⟨hsame, hhead⟩ | h | ⟨u, hu⟩
    · rcases hstop with hstop | ⟨s, rfl⟩
      · exact .inl (hshort (Nat.le_of_eq (by rw [hsame, hstop])))
      · exact absurd rfl hhead
    · exact .inl (hshort h)
    · exact .inr ⟨_, htext u hu⟩

/-- A path ends in a piece, or it has a front alone. -/
theorem components_cases (cs : List Char) :
    (inner cs ≠ [] ∧ ∃ x, (components cs).getLast? = some x ∧ x ≠ .root ∧ x ≠ .here) ∨
      (inner cs = [] ∧ components cs = front cs) := by
  by_cases h : inner cs = []
  · exact .inr ⟨h, by rw [components_eq, h, List.append_nil]⟩
  · refine .inl ⟨h, (inner cs).getLast h, ?_, not_front_of_mem_inner (List.getLast_mem h)⟩
    rw [components_eq, List.getLast?_append_of_ne_nil _ h, List.getLast?_eq_some_getLast h]

theorem parent?_eq_none {path : String} :
    parent? path = none ↔
      components path.toList = [] ∨ components path.toList = [.root] := by
  unfold parent?
  dsimp only
  rcases components_cases path.toList with ⟨-, x, hlast, hroot, hhere⟩ | ⟨-, hfront⟩
  · have hne : components path.toList ≠ [] ∧ components path.toList ≠ [.root] := by
      constructor
      · rintro h
        rw [h] at hlast
        cases hlast
      · rintro h
        rw [h] at hlast
        exact hroot (Option.some.inj hlast).symm
    rw [hlast]
    cases x with
    | root => exact absurd rfl hroot
    | here => exact absurd rfl hhere
    | up => simp [hne]
    | name s => simp [hne]
  · rw [hfront]
    rcases front_cases path.toList with ⟨h, -⟩ | ⟨h, -⟩ | ⟨h, -⟩
    all_goals rw [h]; simp

/-- Going up drops the last component. -/
theorem components_parent? {path p : String} (h : parent? path = some p) :
    components p.toList = (components path.toList).dropLast := by
  unfold parent? at h
  dsimp only at h
  rcases components_cases path.toList with ⟨hinner, x, hlast, hroot, hhere⟩ | ⟨-, hfront⟩
  · have hp : p.toList = (above path.toList).reverse := by
      rw [hlast] at h
      cases x with
      | root => exact absurd rfl hroot
      | here => exact absurd rfl hhere
      | up => rw [← Option.some.inj h, String.toList_ofList]; rfl
      | name s => rw [← Option.some.inj h, String.toList_ofList]; rfl
    obtain ⟨x, hx⟩ := inner_above hinner
    rw [hp, components_eq, components_eq, front_above, hx, ← List.append_assoc,
      List.dropLast_concat]
  · rw [hfront] at h ⊢
    rcases front_cases path.toList with ⟨hcs, -⟩ | ⟨hcs, -⟩ | ⟨hcs, -⟩
    · rw [hcs] at h
      cases h
    · rw [hcs] at h ⊢
      rw [← Option.some.inj h]
      rfl
    · rw [hcs] at h
      cases h

/-! ## All paths above -/

/-- Absolute paths are those whose first component is the root. -/
theorem head?_components {cs : List Char} :
    (components cs).head? = some .root ↔ cs.head? = some '/' := by
  rw [components_eq]
  rcases front_cases cs with ⟨h, -, r, rfl⟩ | ⟨h, -, hcs⟩ | ⟨h, -, hroot, -⟩
  · simp [h]
  · rw [h]
    rcases hcs with rfl | ⟨r, rfl⟩
    all_goals simp
  · rw [h, List.nil_append]
    refine iff_of_false (fun hhead => ?_) hroot
    exact (not_front_of_mem_inner (List.mem_of_mem_head? hhead)).1 rfl

theorem length_filterMap_cons (piece : List Char) (ps : List (List Char)) :
    ((piece :: ps).filterMap component?).length ≤
      min 1 piece.length + (ps.filterMap component?).length := by
  cases piece with
  | nil => simp [component?]
  | cons c piece =>
    rw [List.filterMap_cons, List.length_cons]
    split
    · omega
    · rw [List.length_cons]
      omega

theorem length_filterMap_cutSlashes (piece cs : List Char) :
    ((cutSlashes piece cs).filterMap component?).length ≤ min 1 piece.length + cs.length := by
  induction cs generalizing piece with
  | nil =>
    have hlast := length_filterMap_cons piece.reverse []
    rwa [List.length_reverse] at hlast
  | cons c cs ih =>
    rw [cutSlashes, List.length_cons]
    split
    · have hpiece := length_filterMap_cons piece.reverse (cutSlashes [] cs)
      have hrest := ih []
      rw [List.length_reverse] at hpiece
      rw [List.length_nil] at hrest
      omega
    · have hrest := ih (c :: piece)
      rw [List.length_cons] at hrest
      omega

theorem length_inner_le (cs : List Char) : (inner cs).length ≤ cs.length := by
  have := length_filterMap_cutSlashes [] cs
  rwa [List.length_nil, Nat.min_zero, Nat.zero_add] at this

theorem length_components_le (cs : List Char) : (components cs).length ≤ cs.length := by
  rw [components_eq, List.length_append]
  rcases front_cases cs with ⟨h, -, r, rfl⟩ | ⟨h, -, rfl | ⟨r, rfl⟩⟩ | ⟨h, -⟩
  · have hinner : inner ('/' :: r) = inner r := inner_append [] r
    have := length_inner_le r
    simp only [h, hinner, List.length_cons, List.length_nil]
    omega
  · exact Nat.le_refl 1
  · have hinner : inner ('.' :: '/' :: r) = inner r := inner_append ['.'] r
    have := length_inner_le r
    simp only [h, hinner, List.length_cons, List.length_nil]
    omega
  · rw [h, List.length_nil, Nat.zero_add]
    exact length_inner_le cs

/-- A path with one above it has one component more, and both are absolute or neither. -/
theorem components_concat {path p : String} (h : parent? path = some p) :
    ∃ last, components path.toList = components p.toList ++ [last] ∧
      ((components path.toList).head? = some .root ↔
        (components p.toList).head? = some .root) := by
  have hsome : ¬(components path.toList = [] ∨ components path.toList = [.root]) := by
    rw [← parent?_eq_none, h]
    simp
  rw [not_or] at hsome
  rw [components_parent? h]
  generalize components path.toList = cs at hsome ⊢
  obtain ⟨above, last, rfl⟩ := (List.eq_nil_or_concat cs).resolve_left hsome.1
  rw [List.concat_eq_append] at hsome ⊢
  rw [List.dropLast_concat]
  refine ⟨last, rfl, ?_⟩
  cases above with
  | nil => simpa using hsome.2
  | cons c above => exact Iff.rfl

/-- With nothing above it, a path is the only beginning of itself that counts. -/
theorem eq_iff_of_top {cs q : List Component} (h : cs = [] ∨ cs = [.root]) :
    cs = q ↔ q <+: cs ∧ (q = [] → ¬cs.head? = some .root) := by
  rcases h with rfl | rfl
  · simp [eq_comm]
  · constructor
    · rintro rfl
      exact ⟨List.prefix_rfl, fun hnil => absurd hnil (List.cons_ne_nil _ _)⟩
    · rintro ⟨hq, hne⟩
      cases q with
      | nil => exact absurd rfl (hne rfl)
      | cons c q =>
        obtain ⟨rfl, hrest⟩ := List.cons_prefix_cons.1 hq
        rw [List.prefix_nil.1 hrest]

/-- The components of the paths above a path are the beginnings of its own.  An absolute path ends
at its root. -/
theorem mem_ancestors {path : String} {n : Nat} (h : (components path.toList).length < n)
    (q : List Component) :
    (∃ a ∈ ancestors path n, components a.toList = q) ↔
      q <+: components path.toList ∧ (q = [] → path.toList.head? ≠ some '/') := by
  simp only [Ne, ← head?_components]
  induction n generalizing path with
  | zero => exact absurd h (Nat.not_lt_zero _)
  | succ n ih =>
    rw [ancestors, List.exists_mem_cons_iff]
    cases hparent : parent? path with
    | none =>
      simp only [List.not_mem_nil, false_and, exists_false, or_false]
      exact eq_iff_of_top (parent?_eq_none.1 hparent)
    | some p =>
      obtain ⟨last, hlast, hhead⟩ := components_concat hparent
      have hlength : (components p.toList).length < n := by
        rw [hlast, List.length_append, List.length_singleton] at h
        omega
      rw [ih hlength, hhead, hlast, List.prefix_concat_iff]
      constructor
      · rintro (rfl | ⟨hq, hne⟩)
        · exact ⟨.inl rfl, fun hnil => absurd hnil (by simp)⟩
        · exact ⟨.inr hq, hne⟩
      · rintro ⟨rfl | hq, hne⟩
        · exact .inl rfl
        · exact .inr ⟨hq, hne⟩

end ShellGuard.Path
