import Mathlib
import ShellGuard.Proofs.Pattern.Ways
import ShellGuard.Proofs.Text.Occurrences

/-!
# The matches in a text

Searching for all matches and replacing them go through a text in the same steps.  So there is one
way to lay the text out, as matches and as characters outside of them, that both agree on
(`itemsFrom`), and a question about two replacements becomes one about the matches
(`replace_eq_iff`).  Matches come in the order of their places, and a text put behind another one
leaves the matches there alone unless one of them runs into it (`itemsFrom_append`).

What a single match takes is decided by the order in which ways are tried.  Where a pattern ends
with a greedy repetition and nothing is asked of what follows, the first way that is tried succeeds,
and the match reaches as far as the repetition can (`Exhausts`).
-/

namespace ShellGuard

/-! ## Runs of characters -/

namespace CharSet

theorem outside_head {s : CharSet} {c : Char} {r : List Char} (h : s.contains c = false) :
    ∀ d ∈ (c :: r).head?, s.contains d = false := by
  intro d hd
  rw [List.head?_cons, Option.mem_some_iff] at hd
  rw [← hd, h]

/-- A run of characters of a set that reaches up to a character outside of it is the only one. -/
theorem run_unique {s : CharSet} {t u r r' : List Char} (h : t ++ r = u ++ r')
    (ht : ∀ c ∈ t, s.contains c = true) (hu : ∀ c ∈ u, s.contains c = true)
    (hr : ∀ c ∈ r.head?, s.contains c = false) (hr' : ∀ c ∈ r'.head?, s.contains c = false) :
    t = u ∧ r = r' := by
  have hstop {t r : List Char} (ht : ∀ c ∈ t, s.contains c = true)
      (hr : ∀ c ∈ r.head?, s.contains c = false) : (t ++ r).takeWhile s.contains = t := by
    rw [List.takeWhile_append_of_pos ht]
    cases r with
    | nil => exact List.append_nil t
    | cons c r => rw [List.takeWhile_cons_of_neg (by simp [hr c rfl]), List.append_nil]
  have hsame : t = u := by rw [← hstop ht hr, h, hstop hu hr']
  subst hsame
  exact ⟨rfl, List.append_cancel_left h⟩

end CharSet

/-- What a text begins with, it begins with before a part that starts with another character. -/
theorem exists_rest_of_append {t r cs tail : List Char} (h : t ++ r = cs ++ tail)
    (htail : ∀ c ∈ tail.head?, c ∉ t) : ∃ r', cs = t ++ r' := by
  rcases List.append_eq_append_iff.1 h with ⟨a, rfl, -⟩ | ⟨a, ha, htaila⟩
  · exact ⟨a, rfl⟩
  · cases a with
    | nil => exact ⟨[], by rw [ha, List.append_nil, List.append_nil]⟩
    | cons c a =>
      refine absurd ?_ (htail c (by simp [htaila]))
      rw [ha]
      exact List.mem_append_right _ List.mem_cons_self

namespace Pattern

variable {p : Pattern} {size offset skip : Nat} {before : Option Char} {cs : List Char}

/-! ## Matches and what is between them -/

/-- A text laid out as matches and as characters outside of them, in the steps that replacing
takes. -/
def itemsFrom (p : Pattern) (size offset : Nat) (before : Option Char) (skip : Nat) :
    List Char → List (Char ⊕ Match)
  | [] => if skip = 0 then (p.matchAt size ⟨offset, before, []⟩).toList.map .inr else []
  | c :: cs =>
    match skip with
    | n + 1 => itemsFrom p size (offset + 1) (some c) n cs
    | 0 =>
      match p.matchAt size ⟨offset, before, c :: cs⟩ with
      | none => .inl c :: itemsFrom p size (offset + 1) (some c) 0 cs
      | some m =>
        if m.stop.offset ≤ offset then
          .inr m :: .inl c :: itemsFrom p size (offset + 1) (some c) 0 cs
        else .inr m :: itemsFrom p size (offset + 1) (some c) (m.stop.offset - offset - 1) cs

theorem matchesFrom_eq_items :
    p.matchesFrom size offset before skip cs =
      (p.itemsFrom size offset before skip cs).filterMap Sum.getRight? := by
  induction cs generalizing offset before skip with
  | nil =>
    rw [matchesFrom, itemsFrom]
    split
    · cases p.matchAt size ⟨offset, before, []⟩ <;> rfl
    · rfl
  | cons c cs ih =>
    cases skip with
    | succ n => exact ih
    | zero =>
      rw [matchesFrom, itemsFrom]
      cases p.matchAt size ⟨offset, before, c :: cs⟩ with
      | none => exact ih
      | some m =>
        dsimp only
        split
        · next hempty =>
          rw [show m.stop.offset - offset - 1 = 0 by omega, ih]
          rfl
        · rw [ih]
          rfl

theorem replaceFrom_eq_items (f : Match → List Char) :
    p.replaceFrom f size offset before skip cs =
      (p.itemsFrom size offset before skip cs).flatMap (Sum.elim (fun c => [c]) f) := by
  induction cs generalizing offset before skip with
  | nil =>
    rw [replaceFrom, itemsFrom]
    split
    · cases p.matchAt size ⟨offset, before, []⟩ with
      | none => rfl
      | some m => exact (List.append_nil (f m)).symm
    · rfl
  | cons c cs ih =>
    cases skip with
    | succ n => exact ih
    | zero =>
      rw [replaceFrom, itemsFrom]
      cases p.matchAt size ⟨offset, before, c :: cs⟩ with
      | none => exact congrArg (c :: ·) ih
      | some m =>
        dsimp only
        split
        · exact congrArg (f m ++ c :: ·) ih
        · exact congrArg (f m ++ ·) ih

theorem length_items_le {f g : Match → List Char} {items : List (Char ⊕ Match)}
    (h : ∀ m ∈ items.filterMap Sum.getRight?, (f m).length ≤ (g m).length) :
    (items.flatMap (Sum.elim (fun c => [c]) f)).length ≤
      (items.flatMap (Sum.elim (fun c => [c]) g)).length := by
  induction items with
  | nil => exact Nat.le_refl _
  | cons item items ih =>
    rw [List.flatMap_cons, List.flatMap_cons, List.length_append, List.length_append]
    cases item with
    | inl c => exact Nat.add_le_add_left (ih h) 1
    | inr m =>
      obtain ⟨hm, hitems⟩ := List.forall_mem_cons.1 h
      exact Nat.add_le_add hm (ih hitems)

/-- Two replacements, one of them nowhere longer than the other, give the same text only if they
agree on every match. -/
theorem items_inj {f g : Match → List Char} {items : List (Char ⊕ Match)}
    (hle : ∀ m ∈ items.filterMap Sum.getRight?, (f m).length ≤ (g m).length)
    (h : items.flatMap (Sum.elim (fun c => [c]) f) = items.flatMap (Sum.elim (fun c => [c]) g)) :
    ∀ m ∈ items.filterMap Sum.getRight?, f m = g m := by
  induction items with
  | nil => simp
  | cons item items ih =>
    rw [List.flatMap_cons, List.flatMap_cons] at h
    cases item with
    | inl c => exact ih hle (List.append_cancel_left h)
    | inr m =>
      obtain ⟨hm, hitems⟩ := List.forall_mem_cons.1 hle
      simp only [Sum.elim_inr] at h
      have hrest := length_items_le hitems
      have hlength := congrArg List.length h
      rw [List.length_append, List.length_append] at hlength
      obtain ⟨hfirst, hothers⟩ := List.append_inj h (by omega)
      exact List.forall_mem_cons.2 ⟨hfirst, ih hitems hothers⟩

theorem replace_eq_iff {f g : Match → List Char}
    (hle : ∀ m ∈ p.allMatches cs, (f m).length ≤ (g m).length) :
    p.replace f cs = p.replace g cs ↔ ∀ m ∈ p.allMatches cs, f m = g m := by
  rw [allMatches, matchesFrom_eq_items] at hle ⊢
  rw [replace, replace, replaceFrom_eq_items, replaceFrom_eq_items]
  refine ⟨items_inj hle, fun h => List.flatMap_congr fun item hitem => ?_⟩
  cases item with
  | inl c => rfl
  | inr m => exact h m (List.mem_filterMap.2 ⟨.inr m, hitem, rfl⟩)

/-! ## The order of matches -/

theorem mem_matchesFrom {m : Match} (h : m ∈ p.matchesFrom size offset before skip cs) :
    ∃ place : Place, offset ≤ place.offset ∧ place.rest.length ≤ cs.length ∧
      p.matchAt size place = some m := by
  induction cs generalizing offset before skip with
  | nil =>
    rw [matchesFrom] at h
    split at h
    · exact ⟨_, Nat.le_refl _, Nat.le_refl _, Option.mem_toList.1 h⟩
    · cases h
  | cons c cs ih =>
    have hlater {skip : Nat} (h : m ∈ p.matchesFrom size (offset + 1) (some c) skip cs) :
        ∃ place : Place, offset ≤ place.offset ∧ place.rest.length ≤ (c :: cs).length ∧
          p.matchAt size place = some m := by
      obtain ⟨place, hoffset, hrest, hm⟩ := ih h
      exact ⟨place, Nat.le_of_succ_le hoffset, Nat.le_succ_of_le hrest, hm⟩
    cases skip with
    | succ n => exact hlater h
    | zero =>
      rw [matchesFrom] at h
      split at h
      · exact hlater h
      · next m' hm' =>
        rcases List.mem_cons.1 h with rfl | h
        · exact ⟨_, Nat.le_refl _, Nat.le_refl _, hm'⟩
        · exact hlater h

theorem matchAt_start {place : Place} {m : Match} (h : p.matchAt size place = some m) :
    m.start = place := by
  obtain ⟨w, -, rfl⟩ := matchAt_eq_some h
  rfl

theorem matchesFrom_ordered :
    (p.matchesFrom size offset before skip cs).Pairwise (·.start.offset < ·.start.offset) := by
  induction cs generalizing offset before skip with
  | nil =>
    rw [matchesFrom]
    split
    · cases p.matchAt size ⟨offset, before, []⟩ with
      | none => exact .nil
      | some m => exact List.pairwise_singleton _ m
    · exact .nil
  | cons c cs ih =>
    cases skip with
    | succ n => exact ih
    | zero =>
      rw [matchesFrom]
      split
      · exact ih
      · next m hm =>
        refine List.pairwise_cons.2 ⟨fun m' hm' => ?_, ih⟩
        obtain ⟨place, hoffset, -, hplace⟩ := mem_matchesFrom hm'
        rw [matchAt_start hm, matchAt_start hplace]
        exact hoffset

/-- Cutting ordered matches at a place keeps all of them, in their order. -/
theorem filter_before_append {ms : List Match} (h : ms.Pairwise (·.start.offset < ·.start.offset))
    (k : Nat) :
    ms.filter (·.start.offset < k) ++ ms.filter (k ≤ ·.start.offset) = ms := by
  induction ms with
  | nil => rfl
  | cons m ms ih =>
    obtain ⟨hm, hms⟩ := List.pairwise_cons.1 h
    by_cases hk : m.start.offset < k
    · rw [List.filter_cons_of_pos (by simpa using hk),
        List.filter_cons_of_neg (by simpa using hk), List.cons_append, ih hms]
    · have hnone : ms.filter (·.start.offset < k) = [] := by
        refine List.filter_eq_nil_iff.2 fun m' hm' => ?_
        have := hm m' hm'
        simp only [decide_eq_true_eq]
        omega
      have hall : ms.filter (k ≤ ·.start.offset) = ms := by
        rw [← ih hms, hnone, List.nil_append, List.filter_filter]
        simp
      rw [List.filter_cons_of_neg (by simpa using hk),
        List.filter_cons_of_pos (by simpa using hk), hnone, hall, List.nil_append]

theorem matchAt_stop_le {place : Place} {m : Match} (h : p.matchAt size place = some m) :
    m.stop.offset ≤ place.offset + place.rest.length := by
  obtain ⟨w, hw, rfl⟩ := matchAt_eq_some h
  obtain ⟨t, ht⟩ := hw.ahead
  have hoffset : w.place.offset = place.offset + t.length := ht.offset
  have hlength : place.rest.length = t.length + w.place.rest.length := ht.length
  show w.place.offset ≤ place.offset + place.rest.length
  omega

/-! ## Texts behind a text -/

/-- A text that can stand behind another one.  All that `view` keeps of the matches stays the same;
only one that reaches the end may go on, and then for `more` characters. -/
structure Follows {α : Type} (p : Pattern) (view : Match → α) (more : Nat) (tail : List Char) :
    Prop where
  advances : ∀ {size place m}, place.rest.length ≤ size → p.matchAt size place = some m →
    place.offset < m.stop.offset
  found : ∀ {size size' offset before cs m}, cs ≠ [] → cs.length ≤ size →
    (cs ++ tail).length ≤ size' → p.matchAt size' ⟨offset, before, cs ++ tail⟩ = some m →
    (p.matchAt size ⟨offset, before, cs⟩).isSome = true
  kept : ∀ {size size' offset before cs m}, cs.length ≤ size → (cs ++ tail).length ≤ size' →
    p.matchAt size ⟨offset, before, cs⟩ = some m →
    ∃ m', p.matchAt size' ⟨offset, before, cs ++ tail⟩ = some m' ∧ view m' = view m ∧
      (m'.stop.offset = m.stop.offset ∨
        m.stop.offset = offset + cs.length ∧ m'.stop.offset = m.stop.offset + more)

variable {α : Type} {view : Match → α} {more : Nat} {tail : List Char}

theorem Follows.matchAt_nil (h : p.Follows view more tail) :
    p.matchAt size ⟨offset, before, []⟩ = none := by
  cases hm : p.matchAt size ⟨offset, before, []⟩ with
  | none => rfl
  | some m =>
    have hlt := h.advances (Nat.zero_le _) hm
    have hle := matchAt_stop_le hm
    exact absurd hlt (Nat.not_lt.2 hle)

theorem Follows.itemsFrom_nil (h : p.Follows view more tail) :
    p.itemsFrom size offset before skip [] = [] := by
  rw [itemsFrom, h.matchAt_nil]
  split <;> rfl

/-- Nothing is left to match in a text that belongs to the match before. -/
theorem Follows.matchesFrom_length (h : p.Follows view more tail) :
    p.matchesFrom size offset before cs.length cs = [] := by
  induction cs generalizing offset before with
  | nil =>
    rw [matchesFrom, h.matchAt_nil]
    rfl
  | cons c cs ih => exact ih

/-- The text behind is laid out on its own, from its front or from behind what a match has gone on
for. -/
theorem itemsFrom_append (h : p.Follows view more tail) (offset : Nat) (before : Option Char)
    {size' skip skip' : Nat}
    (hsize : cs.length ≤ size) (hsize' : (cs ++ tail).length ≤ size') (hskip : skip ≤ cs.length)
    (hskip' : skip' = skip ∨ skip = cs.length ∧ skip' = skip + more) :
    ∃ rest, (rest = 0 ∨ rest = more) ∧
      (p.itemsFrom size' offset before skip' (cs ++ tail)).map (Sum.map id view) =
        (p.itemsFrom size offset before skip cs).map (Sum.map id view) ++
          (p.itemsFrom size' (offset + cs.length) (cs.getLast?.or before) rest tail).map
            (Sum.map id view) := by
  induction cs generalizing offset before skip skip' with
  | nil =>
    have hzero : skip = 0 := Nat.le_zero.1 hskip
    refine ⟨skip', by omega, ?_⟩
    rw [h.itemsFrom_nil]
    rfl
  | cons c cs ih =>
    have hoffset : offset + (c :: cs).length = offset + 1 + cs.length := by
      rw [List.length_cons]
      omega
    have htail {n n' : Nat} := @ih (offset + 1) (some c) n n' (Nat.le_of_succ_le hsize)
      (Nat.le_of_succ_le hsize')
    rw [Text.getLast?_cons_or, hoffset]
    rw [List.length_cons] at hskip hskip'
    cases skip with
    | succ n =>
      obtain ⟨n', rfl⟩ : ∃ n', skip' = n' + 1 := ⟨skip' - 1, by omega⟩
      exact htail (by omega) (by omega)
    | zero =>
      obtain rfl : skip' = 0 := by omega
      rw [List.cons_append, itemsFrom, itemsFrom]
      cases hm : p.matchAt size ⟨offset, before, c :: cs⟩ with
      | none =>
        have hm' : p.matchAt size' ⟨offset, before, c :: (cs ++ tail)⟩ = none := by
          refine Option.eq_none_iff_forall_ne_some.2 fun m hm' => ?_
          have hsome := h.found (List.cons_ne_nil c cs) hsize hsize' hm'
          rw [hm] at hsome
          cases hsome
        obtain ⟨rest, hrest, hitems⟩ := htail (Nat.zero_le _) (.inl rfl)
        refine ⟨rest, hrest, ?_⟩
        rw [hm']
        exact congrArg (.inl c :: ·) hitems
      | some m =>
        obtain ⟨m', hm', hview, hstop⟩ := h.kept hsize hsize' hm
        have hadvances : offset < m.stop.offset := h.advances hsize hm
        have hle : m.stop.offset ≤ offset + (cs.length + 1) := matchAt_stop_le hm
        rw [List.length_cons] at hstop
        have hrelated : m'.stop.offset - offset - 1 = m.stop.offset - offset - 1 ∨
            m.stop.offset - offset - 1 = cs.length ∧
              m'.stop.offset - offset - 1 = m.stop.offset - offset - 1 + more := by
          omega
        obtain ⟨rest, hrest, hitems⟩ := htail (by omega) hrelated
        refine ⟨rest, hrest, ?_⟩
        rw [show p.matchAt size' ⟨offset, before, c :: (cs ++ tail)⟩ = some m' from hm']
        dsimp only
        rw [if_neg (by omega), if_neg (by omega), List.map_cons, List.map_cons, hitems,
          Sum.map_inr, Sum.map_inr, hview, List.cons_append]

/-- Matches in a text and in one behind it are those in both together. -/
theorem allMatches_append (h : p.Follows view more tail) (cs : List Char) :
    ∃ rest, (rest = 0 ∨ rest = more) ∧
      (p.allMatches (cs ++ tail)).map view = (p.allMatches cs).map view ++
        (p.matchesFrom (cs ++ tail).length cs.length cs.getLast? rest tail).map view := by
  have hright (items : List (Char ⊕ Match)) : (items.filterMap Sum.getRight?).map view =
      (items.map (Sum.map id view)).filterMap Sum.getRight? := by
    rw [List.map_filterMap, List.filterMap_map]
    exact List.filterMap_congr fun item _ => by cases item <;> rfl
  obtain ⟨rest, hrest, hitems⟩ := itemsFrom_append h 0 none (Nat.le_refl _)
    (Nat.le_refl _) (Nat.zero_le _) (.inl rfl)
  refine ⟨rest, hrest, ?_⟩
  rw [Nat.zero_add, Option.or_none] at hitems
  rw [allMatches, allMatches, matchesFrom_eq_items, matchesFrom_eq_items, matchesFrom_eq_items,
    hright, hright, hright, hitems, List.filterMap_append]

/-- Replacing by what is kept of the matches, in a text and in one behind it. -/
theorem replace_append (h : p.Follows view 0 tail) (f : α → List Char) (cs : List Char) :
    p.replace (f ∘ view) (cs ++ tail) = p.replace (f ∘ view) cs ++
      p.replaceFrom (f ∘ view) (cs ++ tail).length cs.length cs.getLast? 0 tail := by
  have hview (items : List (Char ⊕ Match)) : items.flatMap (Sum.elim (fun c => [c]) (f ∘ view)) =
      (items.map (Sum.map id view)).flatMap (Sum.elim (fun c => [c]) f) := by
    rw [List.flatMap_map]
    exact List.flatMap_congr fun item _ => by cases item <;> rfl
  obtain ⟨rest, hrest, hitems⟩ := itemsFrom_append h 0 none (Nat.le_refl _)
    (Nat.le_refl _) (Nat.zero_le _) (.inl rfl)
  obtain rfl : rest = 0 := by omega
  rw [Nat.zero_add, Option.or_none] at hitems
  rw [replace, replace, replaceFrom_eq_items, replaceFrom_eq_items, replaceFrom_eq_items, hview,
    hview, hview, hitems, List.flatMap_append]

/-! ## Greedy ends -/

/-- A place before no character of a set. -/
def StopsAt (s : CharSet) (place : Place) : Prop :=
  ∀ c ∈ place.rest.head?, s.contains c = false

/-- Where nothing is asked of what follows, the pattern reads on as long as there are characters of
the set. -/
def Exhausts (p : Pattern) (s : CharSet) : Prop :=
  ∀ (size : Nat) (w : Way) (after : Way → Option Match), w.place.rest.length ≤ size →
    (∀ v, (after v).isSome = true) → ∀ m, p.run size w after = some m →
      ∃ w', p.Goes w w' ∧ StopsAt s w'.place ∧ after w' = some m

theorem upTo_greedy_chars (s : CharSet) (size : Nat) {fuel : Nat} {w : Way}
    {after : Way → Option Match} (hfuel : w.place.rest.length ≤ fuel)
    (hafter : ∀ v, (after v).isSome = true) :
    ∃ n w', Iterates (chars s).Goes n w w' ∧ StopsAt s w'.place ∧
      Stretch.upTo ((chars s).run size) true fuel none w after = after w' := by
  induction fuel generalizing w with
  | zero =>
    have hrest : w.place.rest = [] := List.length_eq_zero_iff.1 (Nat.le_zero.1 hfuel)
    exact ⟨0, w, rfl, by simp [StopsAt, hrest], rfl⟩
  | succ fuel ih =>
    cases hrest : w.place.rest with
    | nil => exact ⟨0, w, rfl, by simp [StopsAt, hrest], by simp [Stretch.upTo, run, hrest]⟩
    | cons c cs =>
      by_cases hc : s.contains c = true
      · let v : Way := { w with place := w.place.advance c cs }
        have hv : (chars s).Goes w v := ⟨c, hc, Place.advance_ahead hrest, rfl⟩
        have hvfuel : v.place.rest.length ≤ fuel := by
          rw [hrest] at hfuel
          exact Nat.le_of_succ_le_succ hfuel
        obtain ⟨n, w', hn, hstop, hrun⟩ := ih hvfuel
        have hon : ¬v.place.offset ≤ w.place.offset := Nat.not_succ_le_self _
        obtain ⟨m, hm⟩ := Option.isSome_iff_exists.1 (hafter w')
        refine ⟨n + 1, w', ⟨v, hv, hn⟩, hstop, ?_⟩
        have hfirst : (chars s).run size w (fun w' =>
            if w'.place.offset ≤ w.place.offset then after w'
            else Stretch.upTo ((chars s).run size) true fuel none w' after) = some m := by
          rw [run, hrest]
          dsimp only
          rw [if_pos hc, if_neg hon, hrun, hm]
        rw [Stretch.upTo, if_neg (by simp), hm]
        dsimp only
        rw [if_pos rfl, Option.map_none, hfirst]
        rfl
      · have hstop : StopsAt s w.place := by
          rw [StopsAt, hrest]
          exact CharSet.outside_head (Bool.eq_false_iff.2 hc)
        exact ⟨0, w, rfl, hstop, by simp [Stretch.upTo, run, hrest, hc]⟩

theorem exhausts_repeat (s : CharSet) (min : Nat) :
    (Pattern.repeat (chars s) min none true).Exhausts s := by
  intro size w after hsize hafter m h
  obtain ⟨v, hv, hrest⟩ := times_sound (fun _ _ _ h => run_sound size (chars s) h) h
  obtain ⟨t, ht⟩ := iterates_ahead hv
  have hfuel : v.place.rest.length ≤ size := by
    have := ht.length
    omega
  obtain ⟨n, w', hn, hstop, hrun⟩ := upTo_greedy_chars s size hfuel hafter
  rw [Option.map_none, hrun] at hrest
  exact ⟨w', ⟨min + n, Nat.le_add_right _ _, by simp, hv.add hn⟩, hstop, hrest⟩

theorem Exhausts.group {s : CharSet} (h : p.Exhausts s) (index : Nat) :
    (group index p).Exhausts s := by
  intro size w after hsize hafter m hm
  obtain ⟨v, hv, hstop, hdone⟩ := h size w _ hsize (fun v => hafter (v.remember index w)) m hm
  exact ⟨_, ⟨v, hv, rfl⟩, hstop, hdone⟩

theorem Exhausts.seq {q : Pattern} {s : CharSet} (h : q.Exhausts s) (p : Pattern) :
    (seq p q).Exhausts s := by
  intro size w after hsize hafter m hm
  obtain ⟨v, hv, hrest⟩ := run_sound size p hm
  obtain ⟨t, ht⟩ := hv.ahead
  have hlength := ht.length
  obtain ⟨w', hw', hstop, hdone⟩ := h size v after (by omega) hafter m hrest
  exact ⟨w', ⟨v, hv, hw'⟩, hstop, hdone⟩

theorem Exhausts.matchAt {s : CharSet} (h : p.Exhausts s) {place : Place} {m : Match}
    (hsize : place.rest.length ≤ size) (hm : p.matchAt size place = some m) :
    ∃ w, p.Goes ⟨place, []⟩ w ∧ StopsAt s w.place ∧ m = ⟨place, w.place, w.groups⟩ := by
  obtain ⟨w, hw, hstop, hdone⟩ := h size ⟨place, []⟩ _ hsize (fun _ => rfl) m hm
  exact ⟨w, hw, hstop, (Option.some.inj hdone).symm⟩

end Pattern

end ShellGuard
