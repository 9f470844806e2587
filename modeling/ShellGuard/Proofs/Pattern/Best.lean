import Mathlib
import ShellGuard.Proofs.Pattern.Ways

/-!
# The way that is tried first

A pattern that can go several ways tries them in an order, and a search takes the first that
succeeds.  `Best` says that a way is the first one: whatever comes after the pattern succeeds with
it if it succeeds there at all.  A greedy repetition goes on as long as its part can, so its first
way ends where the part leads nowhere or where no more repetitions are allowed.
-/

namespace ShellGuard.Pattern

/-- The first way of a pattern from `w` on is the one to `w'`. -/
def Best (size : Nat) (p : Pattern) (w w' : Way) : Prop :=
  ∀ (α : Type) (after : Way → Option α) (r : α), after w' = some r → p.run size w after = some r

section Best

variable {size : Nat} {p q : Pattern} {w v w' : Way}

theorem Best.seq (h : p.Best size w v) (h' : q.Best size v w') : (seq p q).Best size w w' :=
  fun α _ _ hr => h α _ _ (h' α _ _ hr)

theorem Best.group (h : p.Best size w v) (index : Nat) :
    (group index p).Best size w (v.remember index w) :=
  fun α _ _ hr => h α _ _ hr

theorem best_literal {cs : List Char} (h : w.Reads cs w') : (literal cs).Best size w w' := by
  intro α after r hr
  have hway : { w with place := w'.place } = w' := by
    rw [← h.groups]
  rw [run, Place.read?_eq_some.2 h.place, Option.bind_some, hway]
  exact hr

theorem best_chars {s : CharSet} {c : Char} (hc : s.contains c = true) (h : w.Reads [c] w') :
    (chars s).Best size w w' := by
  intro α after r hr
  have hrest : w.place.rest = c :: w'.place.rest := h.place.rest
  have hplace : w.place.advance c w'.place.rest = w'.place :=
    (Place.advance_ahead hrest).unique h.place
  have hway : { w with place := w.place.advance c w'.place.rest } = w' := by
    rw [hplace, ← h.groups]
  rw [run, hrest]
  dsimp only
  rw [if_pos hc, hway]
  exact hr

/-- What a pattern that leads nowhere is followed by does not matter. -/
theorem run_eq_none (h : ∀ v, ¬p.Goes w v) {α : Type} (after : Way → Option α) :
    p.run size w after = none := by
  by_contra hsome
  obtain ⟨r, hr⟩ := Option.ne_none_iff_exists'.1 hsome
  obtain ⟨v, hv, -⟩ := run_sound size p hr
  exact h v hv

/-- One repetition, tried first, that reads something. -/
def Strides (size : Nat) (p : Pattern) (w w' : Way) : Prop :=
  p.Best size w w' ∧ w.place.offset < w'.place.offset

theorem iterates_offset {n : Nat} (h : Iterates (p.Strides size) n w w') :
    w.place.offset + n ≤ w'.place.offset := by
  induction n generalizing w with
  | zero =>
    obtain rfl : w' = w := h
    exact Nat.le_refl _
  | succ n ih =>
    obtain ⟨v, hv, hmore⟩ := h
    have hstep := hv.2
    have hlater := ih hmore
    omega

theorem times_best {n : Nat} (h : Iterates (p.Strides size) n w w') {α : Type}
    {after : Way → Option α} {r : α} (hr : after w' = some r) :
    Stretch.times (p.run size) n w after = some r := by
  induction n generalizing w with
  | zero =>
    obtain rfl : w' = w := h
    exact hr
  | succ n ih =>
    obtain ⟨v, hv, hmore⟩ := h
    exact hv.1 α _ _ (ih hmore)

theorem upTo_best {n fuel : Nat} {left : Option Nat} (h : Iterates (p.Strides size) n w w')
    (hfuel : n ≤ fuel) (hleft : ∀ m ∈ left, n ≤ m)
    (hend : left = some n ∨ ∀ v, ¬p.Goes w' v) {α : Type} {after : Way → Option α} {r : α}
    (hr : after w' = some r) : Stretch.upTo (p.run size) true fuel left w after = some r := by
  induction n generalizing w fuel left with
  | zero =>
    obtain rfl : w' = w := h
    cases fuel with
    | zero => exact hr
    | succ fuel =>
      rw [Stretch.upTo]
      by_cases hzero : left = some 0
      · rw [if_pos hzero]
        exact hr
      · rw [if_neg hzero]
        dsimp only
        rw [if_pos rfl, run_eq_none (hend.resolve_left hzero)]
        exact hr
  | succ n ih =>
    obtain ⟨v, hv, hmore⟩ := h
    obtain ⟨fuel, rfl⟩ : ∃ k, fuel = k + 1 := ⟨fuel - 1, by omega⟩
    have hzero : left ≠ some 0 := by
      intro hzero
      have := hleft 0 hzero
      omega
    have hleft' : ∀ m ∈ left.map (· - 1), n ≤ m := by
      intro m hm
      obtain ⟨k, hk, rfl⟩ := Option.map_eq_some_iff.1 hm
      have := hleft k hk
      omega
    have hend' : left.map (· - 1) = some n ∨ ∀ v, ¬p.Goes w' v := by
      refine hend.imp (fun hn => ?_) id
      rw [hn]
      rfl
    have honward : Stretch.upTo (p.run size) true fuel (left.map (· - 1)) v after = some r :=
      ih hmore (by omega) hleft' hend'
    rw [Stretch.upTo, if_neg hzero]
    dsimp only
    rw [if_pos rfl, hv.1 α _ r (by rw [if_neg (by have := hv.2; omega)]; exact honward)]
    rfl

/-- The first way of a greedy repetition goes on as long as it can. -/
theorem best_repeat {min n : Nat} {max : Option Nat} (h : Iterates (p.Strides size) (min + n) w w')
    (hsize : n ≤ size) (hmax : ∀ m ∈ max, n ≤ m - min)
    (hend : max.map (· - min) = some n ∨ ∀ v, ¬p.Goes w' v) :
    (Pattern.repeat p min max true).Best size w w' := by
  intro α after r hr
  obtain ⟨v, hv, hmore⟩ := h.split
  refine times_best hv (upTo_best hmore hsize (fun m hm => ?_) hend hr)
  obtain ⟨k, hk, rfl⟩ := Option.map_eq_some_iff.1 hm
  exact hmax k hk

/-- The match of a text is that of the first way from its front. -/
theorem find_best {cs : List Char} (h : p.Best cs.length ⟨.front cs, []⟩ w) :
    p.find cs = some ⟨.front cs, w.place, w.groups⟩ := by
  have hmatch : p.matchAt cs.length (.front cs) = some ⟨.front cs, w.place, w.groups⟩ :=
    h Match _ _ rfl
  cases cs with
  | nil => exact hmatch
  | cons c cs =>
    rw [find, findFrom, show (⟨0, none, c :: cs⟩ : Place) = .front (c :: cs) from rfl, hmatch]

end Best

/-! ## Texts that are read first -/

/-- Wherever a text stands before `rest`, the pattern first leads over it and remembers nothing. -/
def Prefers (p : Pattern) (t rest : List Char) : Prop :=
  ∀ (size : Nat) (w : Way), w.place.rest = t ++ rest → w.place.rest.length ≤ size →
    ∃ w', w.Reads t w' ∧ p.Best size w w'

theorem prefers_literal (cs rest : List Char) : (literal cs).Prefers cs rest := by
  intro size w hw _
  obtain ⟨v, hv, -⟩ := Way.exists_reads hw
  exact ⟨v, hv, best_literal hv⟩

theorem prefers_chars {s : CharSet} {c : Char} (hc : s.contains c = true) (rest : List Char) :
    (chars s).Prefers [c] rest := by
  intro size w hw _
  obtain ⟨v, hv, -⟩ := Way.exists_reads hw
  exact ⟨v, hv, best_chars hc hv⟩

theorem Prefers.seq {p q : Pattern} {s t rest : List Char} (h : p.Prefers s (t ++ rest))
    (h' : q.Prefers t rest) : (seq p q).Prefers (s ++ t) rest := by
  intro size w hw hsize
  rw [List.append_assoc] at hw
  obtain ⟨v, hs, hv⟩ := h size w hw hsize
  have hrest : v.place.rest = t ++ rest := List.append_cancel_left (hs.place.rest.symm.trans hw)
  have hlength := hs.place.length
  obtain ⟨x, ht, hx⟩ := h' size v hrest (by omega)
  exact ⟨x, hs.trans ht, hv.seq hx⟩

theorem iterates_prefers {p : Pattern} {size : Nat} {ts : List (List Char)} {rest : List Char}
    (hts : ∀ t ∈ ts, t ≠ [] ∧ ∀ rest, p.Prefers t rest) {w : Way}
    (hw : w.place.rest = ts.flatten ++ rest) (hsize : w.place.rest.length ≤ size) :
    ∃ w', w.Reads ts.flatten w' ∧ w'.place.rest = rest ∧
      Iterates (p.Strides size) ts.length w w' := by
  induction ts generalizing w with
  | nil => exact ⟨w, .refl w, hw, rfl⟩
  | cons t ts ih =>
    obtain ⟨⟨hne, ht⟩, hmore⟩ := List.forall_mem_cons.1 hts
    rw [List.flatten_cons, List.append_assoc] at hw
    obtain ⟨v, hv, hbest⟩ := ht _ size w hw hsize
    have hrest : v.place.rest = ts.flatten ++ rest :=
      List.append_cancel_left (hv.place.rest.symm.trans hw)
    have hlength := hv.place.length
    have hoffset := hv.place.offset
    have hpos := List.length_pos_iff.2 hne
    obtain ⟨w', hread, hlast, hruns⟩ := ih hmore hrest (by omega)
    exact ⟨w', hv.trans hread, hlast, v, ⟨hbest, by omega⟩, hruns⟩

/-- Repetitions of a part that reads something: the repetition ends where no more of them are
allowed or where the part does not lead on. -/
theorem prefers_repeat {p : Pattern} {min : Nat} {max : Option Nat} {ts : List (List Char)}
    {rest : List Char} (hts : ∀ t ∈ ts, t ≠ [] ∧ ∀ rest, p.Prefers t rest)
    (hmin : min ≤ ts.length) (hmax : ∀ m ∈ max, ts.length ≤ m)
    (hend : max = some ts.length ∨ ∀ w v : Way, w.place.rest = rest → ¬p.Goes w v) :
    (Pattern.repeat p min max true).Prefers ts.flatten rest := by
  intro size w hw hsize
  obtain ⟨w', hread, hrest, hruns⟩ := iterates_prefers hts hw hsize
  obtain ⟨n, hn⟩ := Nat.exists_eq_add_of_le hmin
  have hlength := hread.place.length
  have hoffset := hread.place.offset
  have hshort := iterates_offset hruns
  rw [hn] at hruns
  refine ⟨w', hread, best_repeat hruns (by omega) (fun m hm => ?_) ?_⟩
  · have := hmax m hm
    omega
  · refine hend.imp (fun hfull => ?_) fun hstuck v => hstuck w' v hrest
    rw [hfull, Option.map_some, hn, Nat.add_sub_cancel_left]

/-- One character of a set, where no more of them are allowed or where none follows. -/
theorem prefers_repeat_one {s : CharSet} {c : Char} {min : Nat} {max : Option Nat}
    {rest : List Char} (hc : s.contains c = true) (hmin : min ≤ 1) (hmax : ∀ m ∈ max, 1 ≤ m)
    (hend : max = some 1 ∨ ∀ d ∈ rest.head?, s.contains d = false) :
    (Pattern.repeat (chars s) min max true).Prefers [c] rest := by
  have hone : ∀ t ∈ [[c]], t ≠ [] ∧ ∀ rest, (chars s).Prefers t rest :=
    List.forall_mem_singleton.2 ⟨List.cons_ne_nil c [], prefers_chars hc⟩
  refine prefers_repeat hone hmin hmax (hend.imp id fun hnone w v hw hgoes => ?_)
  obtain ⟨d, hd, hread⟩ := hgoes
  rw [← hw, hread.place.rest] at hnone
  have hnot := hnone d rfl
  rw [hd] at hnot
  cases hnot

end ShellGuard.Pattern
