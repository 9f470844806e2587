import Mathlib
import ShellGuard.Pattern.Match

/-!
# Ways through a pattern

`Pattern.run` tries the ways a pattern can match one after the other and hands each of them to what
comes next.  Which ways there are can be said without that order: `Pattern.Goes` relates two ways
when a pattern leads from the one to the other, and it has one clause for each kind of pattern.

The search is right about them in both directions.  What it hands on is a way through the pattern
(`run_sound`), and if some way leads to a place where what comes next succeeds, whatever was
remembered on the way, then the search succeeds (`run_complete`).  The second half is where the fuel
of a repetition and the rule that an empty repetition is the last one have to be accounted for: a way
with empty repetitions in it is as good as the way without them.

For a whole text this says that a pattern is found if and only if it leads somewhere from some place
of the text (`find_isSome_iff`).  `Pattern.Spells` and `Pattern.Takes` turn that into questions about
texts alone, the first to show that nothing is found and the second to show that something is.
-/

namespace ShellGuard

/-! ## Places of a text -/

namespace Place

/-- `q` is the place behind the text `t` that comes next at `p`. -/
structure Ahead (p : Place) (t : List Char) (q : Place) : Prop where
  rest : p.rest = t ++ q.rest
  offset : q.offset = p.offset + t.length
  before : q.before = t.getLast?.or p.before

theorem Ahead.refl (p : Place) : p.Ahead [] p :=
  ⟨rfl, rfl, rfl⟩

theorem Ahead.eq {p q : Place} (h : p.Ahead [] q) : q = p := by
  obtain ⟨hrest, hoffset, hbefore⟩ := h
  cases p
  cases q
  simp_all

theorem Ahead.trans {p q r : Place} {t u : List Char} (h : p.Ahead t q) (h' : q.Ahead u r) :
    p.Ahead (t ++ u) r where
  rest := by rw [h.rest, h'.rest, List.append_assoc]
  offset := by rw [h'.offset, h.offset, List.length_append, Nat.add_assoc]
  before := by
    rw [h'.before, h.before, List.getLast?_append, Option.or_assoc]

theorem Ahead.length {p q : Place} {t : List Char} (h : p.Ahead t q) :
    p.rest.length = t.length + q.rest.length := by
  rw [h.rest, List.length_append]

/-- From a place one gets to one place only by a text. -/
theorem Ahead.unique {p q r : Place} {t : List Char} (h : p.Ahead t q) (h' : p.Ahead t r) :
    q = r := by
  have hrest : q.rest = r.rest := List.append_cancel_left (h.rest.symm.trans h'.rest)
  have hoffset : q.offset = r.offset := h.offset.trans h'.offset.symm
  have hbefore : q.before = r.before := h.before.trans h'.before.symm
  cases q
  cases r
  simp_all

theorem exists_ahead {p : Place} {t rest : List Char} (h : p.rest = t ++ rest) :
    ∃ q, p.Ahead t q ∧ q.rest = rest :=
  ⟨⟨p.offset + t.length, t.getLast?.or p.before, rest⟩, ⟨h, rfl, rfl⟩, rfl⟩

/-- A place behind two texts is reached by way of the one behind the first. -/
theorem Ahead.split {p r : Place} {t u : List Char} (h : p.Ahead (t ++ u) r) :
    ∃ q, p.Ahead t q ∧ q.Ahead u r := by
  have hrest := h.rest
  rw [List.append_assoc] at hrest
  obtain ⟨q, hq, hqrest⟩ := exists_ahead hrest
  obtain ⟨s, hs, -⟩ := exists_ahead hqrest
  obtain rfl : r = s := h.unique (hq.trans hs)
  exact ⟨q, hq, hs⟩

theorem advance_ahead {p : Place} {c : Char} {cs : List Char} (h : p.rest = c :: cs) :
    p.Ahead [c] (p.advance c cs) :=
  ⟨h, rfl, rfl⟩

theorem read?_eq_some {p q : Place} {cs : List Char} : p.read? cs = some q ↔ p.Ahead cs q := by
  induction cs generalizing p with
  | nil =>
    rw [read?]
    constructor
    · intro h
      rw [← Option.some.inj h]
      exact .refl _
    · intro h
      rw [h.eq]
  | cons c cs ih =>
    rw [read?]
    constructor
    · intro h
      split at h
      · cases h
      · next d ds hrest =>
        split at h
        · next hcd =>
          subst hcd
          exact (advance_ahead hrest).trans (ih.1 h)
        · cases h
    · intro h
      have hrest : p.rest = c :: (cs ++ q.rest) := h.rest
      obtain ⟨r, hr, -⟩ := exists_ahead (p := p.advance c (cs ++ q.rest)) (t := cs) rfl
      have hsame : q = r := h.unique ((advance_ahead hrest).trans hr)
      subst hsame
      rw [hrest]
      dsimp only
      rw [if_pos rfl]
      exact ih.2 hr

theorem Ahead.textTo {p q : Place} {t : List Char} (h : p.Ahead t q) : p.textTo q = t := by
  rw [Place.textTo, h.offset, Nat.add_sub_cancel_left, h.rest, List.take_left]

end Place

/-- `w'` is `w` with the text `t` read, and nothing remembered. -/
structure Way.Reads (w : Way) (t : List Char) (w' : Way) : Prop where
  place : w.place.Ahead t w'.place
  groups : w'.groups = w.groups

theorem Way.Reads.refl (w : Way) : w.Reads [] w :=
  ⟨.refl _, rfl⟩

theorem Way.Reads.eq {w w' : Way} (h : w.Reads [] w') : w' = w := by
  obtain ⟨hplace, hgroups⟩ := h
  have hsame := hplace.eq
  cases w
  cases w'
  simp_all

theorem Way.Reads.trans {u v w : Way} {s t : List Char} (h : u.Reads s v) (h' : v.Reads t w) :
    u.Reads (s ++ t) w :=
  ⟨h.place.trans h'.place, h'.groups.trans h.groups⟩

theorem Way.Reads.split {u w : Way} {s t : List Char} (h : u.Reads (s ++ t) w) :
    ∃ v, u.Reads s v ∧ v.Reads t w := by
  obtain ⟨q, hq, hw⟩ := h.place.split
  exact ⟨⟨q, u.groups⟩, ⟨hq, rfl⟩, hw, h.groups⟩

theorem Way.exists_reads {w : Way} {t rest : List Char} (h : w.place.rest = t ++ rest) :
    ∃ v, w.Reads t v ∧ v.place.rest = rest := by
  obtain ⟨q, hq, hrest⟩ := Place.exists_ahead h
  exact ⟨⟨q, w.groups⟩, ⟨hq, rfl⟩, hrest⟩

/-! ## Ways -/

section Iterates

variable {α : Type} {R : α → α → Prop}

/-- A relation, followed a number of times. -/
def Iterates (R : α → α → Prop) : Nat → α → α → Prop
  | 0, w, w' => w' = w
  | n + 1, w, w' => ∃ v, R w v ∧ Iterates R n v w'

theorem Iterates.add {m n : Nat} {u v w : α} (h : Iterates R m u v) (h' : Iterates R n v w) :
    Iterates R (m + n) u w := by
  induction m generalizing u with
  | zero =>
    cases h
    rwa [Nat.zero_add]
  | succ m ih =>
    obtain ⟨x, hx, hrest⟩ := h
    rw [Nat.succ_add]
    exact ⟨x, hx, ih hrest⟩

theorem Iterates.split {m n : Nat} {u w : α} (h : Iterates R (m + n) u w) :
    ∃ v, Iterates R m u v ∧ Iterates R n v w := by
  induction m generalizing u with
  | zero =>
    rw [Nat.zero_add] at h
    exact ⟨u, rfl, h⟩
  | succ m ih =>
    rw [Nat.succ_add] at h
    obtain ⟨x, hx, hrest⟩ := h
    obtain ⟨v, hv, hw⟩ := ih hrest
    exact ⟨v, ⟨x, hx, hv⟩, hw⟩

end Iterates

namespace Pattern

/-- A pattern leads from a way to another one. -/
def Goes : Pattern → Way → Way → Prop
  | empty, w, w' => w' = w
  | literal cs, w, w' => w.Reads cs w'
  | chars s, w, w' => ∃ c, s.contains c = true ∧ w.Reads [c] w'
  | look a, w, w' => a.holds w.place = true ∧ w' = w
  | group index p, w, w' => ∃ v, p.Goes w v ∧ w' = v.remember index w
  | seq p q, w, w' => ∃ v, p.Goes w v ∧ q.Goes v w'
  | alt p q, w, w' => p.Goes w w' ∨ q.Goes w w'
  | .repeat p min max _, w, w' =>
    ∃ n, min ≤ n ∧ (∀ m ∈ max, n ≤ min + (m - min)) ∧ Iterates p.Goes n w w'

/-- The texts a pattern is made for, its conditions on places left out. -/
def Spells : Pattern → List Char → Prop
  | empty, t => t = []
  | literal cs, t => t = cs
  | chars s, t => ∃ c, s.contains c = true ∧ t = [c]
  | look _, t => t = []
  | group _ p, t => p.Spells t
  | seq p q, t => ∃ u v, p.Spells u ∧ q.Spells v ∧ t = u ++ v
  | alt p q, t => p.Spells t ∨ q.Spells t
  | .repeat p min _ _, t =>
    ∃ ts : List (List Char), min ≤ ts.length ∧ (∀ u ∈ ts, p.Spells u) ∧ t = ts.flatten

theorem iterates_spells {R : Way → Way → Prop} {S : List Char → Prop}
    (hR : ∀ w w', R w w' → ∃ t, S t ∧ w.place.Ahead t w'.place) {n : Nat} {w w' : Way}
    (h : Iterates R n w w') :
    ∃ ts : List (List Char), ts.length = n ∧ (∀ u ∈ ts, S u) ∧
      w.place.Ahead ts.flatten w'.place := by
  induction n generalizing w with
  | zero =>
    cases h
    exact ⟨[], rfl, by simp, .refl _⟩
  | succ n ih =>
    obtain ⟨v, hv, hrest⟩ := h
    obtain ⟨t, hS, ht⟩ := hR w v hv
    obtain ⟨ts, hlength, hall, hts⟩ := ih hrest
    exact ⟨t :: ts, by rw [List.length_cons, hlength], List.forall_mem_cons.2 ⟨hS, hall⟩,
      ht.trans hts⟩

/-- A pattern leads over one of its texts. -/
theorem Goes.spells {p : Pattern} {w w' : Way} (h : p.Goes w w') :
    ∃ t, p.Spells t ∧ w.place.Ahead t w'.place := by
  induction p generalizing w w' with
  | empty =>
    cases h
    exact ⟨[], rfl, .refl _⟩
  | literal cs => exact ⟨cs, rfl, h.place⟩
  | chars s =>
    obtain ⟨c, hc, hread⟩ := h
    exact ⟨[c], ⟨c, hc, rfl⟩, hread.place⟩
  | look a =>
    obtain ⟨-, rfl⟩ := h
    exact ⟨[], rfl, .refl _⟩
  | group index p ih =>
    obtain ⟨v, hv, rfl⟩ := h
    obtain ⟨t, hpt, ht⟩ := ih hv
    exact ⟨t, hpt, ht⟩
  | seq p q ihp ihq =>
    obtain ⟨v, hv, hw⟩ := h
    obtain ⟨t, hpt, ht⟩ := ihp hv
    obtain ⟨u, hqu, hu⟩ := ihq hw
    exact ⟨t ++ u, ⟨t, u, hpt, hqu, rfl⟩, ht.trans hu⟩
  | alt p q ihp ihq =>
    rcases h with h | h
    · obtain ⟨t, hpt, ht⟩ := ihp h
      exact ⟨t, .inl hpt, ht⟩
    · obtain ⟨t, hqt, ht⟩ := ihq h
      exact ⟨t, .inr hqt, ht⟩
  | «repeat» p min max greedy ih =>
    obtain ⟨n, hmin, -, hn⟩ := h
    obtain ⟨ts, rfl, hall, hts⟩ := iterates_spells (fun _ _ => ih) hn
    exact ⟨ts.flatten, ⟨ts, hmin, hall, rfl⟩, hts⟩

/-- A pattern never leads backwards. -/
theorem Goes.ahead {p : Pattern} {w w' : Way} (h : p.Goes w w') :
    ∃ t, w.place.Ahead t w'.place := by
  obtain ⟨t, -, ht⟩ := h.spells
  exact ⟨t, ht⟩

theorem iterates_ahead {p : Pattern} {n : Nat} {w w' : Way} (h : Iterates p.Goes n w w') :
    ∃ t, w.place.Ahead t w'.place := by
  obtain ⟨ts, -, -, hts⟩ := iterates_spells (fun _ _ => Goes.spells) h
  exact ⟨ts.flatten, hts⟩

/-- A pattern without groups. -/
def remembersNothing : Pattern → Bool
  | group _ _ => false
  | seq p q => p.remembersNothing && q.remembersNothing
  | alt p q => p.remembersNothing && q.remembersNothing
  | .repeat p _ _ _ => p.remembersNothing
  | _ => true

theorem iterates_groups {R : Way → Way → Prop} (hR : ∀ w w', R w w' → w'.groups = w.groups)
    {n : Nat} {w w' : Way} (h : Iterates R n w w') : w'.groups = w.groups := by
  induction n generalizing w with
  | zero =>
    cases h
    rfl
  | succ n ih =>
    obtain ⟨v, hv, hrest⟩ := h
    exact (ih hrest).trans (hR w v hv)

theorem Goes.groups {p : Pattern} {w w' : Way} (h : p.Goes w w')
    (hp : p.remembersNothing = true) : w'.groups = w.groups := by
  induction p generalizing w w' with
  | empty =>
    cases h
    rfl
  | literal cs => exact Way.Reads.groups h
  | chars s =>
    obtain ⟨c, -, hread⟩ := h
    exact hread.groups
  | look a =>
    obtain ⟨-, rfl⟩ := h
    rfl
  | group index p ih => cases hp
  | seq p q ihp ihq =>
    obtain ⟨hp, hq⟩ := Bool.and_eq_true_iff.1 hp
    obtain ⟨v, hv, hw⟩ := h
    exact (ihq hw hq).trans (ihp hv hp)
  | alt p q ihp ihq =>
    obtain ⟨hp, hq⟩ := Bool.and_eq_true_iff.1 hp
    rcases h with h | h
    · exact ihp h hp
    · exact ihq h hq
  | «repeat» p min max greedy ih =>
    obtain ⟨n, -, -, hn⟩ := h
    exact iterates_groups (fun _ _ hstep => ih hstep hp) hn

/-! ## What the search hands on -/

theorem orElse_cases {α : Type} {x y : Option α} {r : α} (h : (x <|> y) = some r) :
    x = some r ∨ y = some r := by
  cases x with
  | none => exact .inr h
  | some a => exact .inl h

section Sound

variable {α : Type} {s : Stretch α} {R : Way → Way → Prop}
  (hs : ∀ w after r, s w after = some r → ∃ w', R w w' ∧ after w' = some r)
include hs

theorem times_sound {n : Nat} {w : Way} {after : Way → Option α} {r : α}
    (h : s.times n w after = some r) : ∃ w', Iterates R n w w' ∧ after w' = some r := by
  induction n generalizing w with
  | zero => exact ⟨w, rfl, h⟩
  | succ n ih =>
    obtain ⟨v, hv, hrest⟩ := hs w _ r h
    obtain ⟨w', hw', hafter⟩ := ih hrest
    exact ⟨w', ⟨v, hv, hw'⟩, hafter⟩

theorem upTo_sound {greedy : Bool} {fuel : Nat} {left : Option Nat} {w : Way}
    {after : Way → Option α} {r : α} (h : s.upTo greedy fuel left w after = some r) :
    ∃ n w', (∀ m ∈ left, n ≤ m) ∧ Iterates R n w w' ∧ after w' = some r := by
  induction fuel generalizing left w with
  | zero => exact ⟨0, w, fun _ _ => Nat.zero_le _, rfl, h⟩
  | succ fuel ih =>
    rw [Stretch.upTo] at h
    by_cases hleft : left = some 0
    · rw [if_pos hleft] at h
      exact ⟨0, w, fun _ _ => Nat.zero_le _, rfl, h⟩
    rw [if_neg hleft] at h
    have hstop (h : after w = some r) :
        ∃ n w', (∀ m ∈ left, n ≤ m) ∧ Iterates R n w w' ∧ after w' = some r :=
      ⟨0, w, fun _ _ => Nat.zero_le _, rfl, h⟩
    -- one repetition, then either the end or what the induction gives for one repetition less
    have honward (h : s w (fun w' => if w'.place.offset ≤ w.place.offset then after w'
        else s.upTo greedy fuel (left.map (· - 1)) w' after) = some r) :
        ∃ n w', (∀ m ∈ left, n ≤ m) ∧ Iterates R n w w' ∧ after w' = some r := by
      obtain ⟨v, hv, hrest⟩ := hs w _ r h
      have hpos : ∀ m ∈ left, 1 ≤ m := by
        intro m hm
        have hne : m ≠ 0 := fun h0 => hleft (h0 ▸ hm)
        omega
      split at hrest
      · exact ⟨1, v, hpos, ⟨v, hv, rfl⟩, hrest⟩
      · obtain ⟨n, w', hn, hw', hafter⟩ := ih hrest
        refine ⟨n + 1, w', fun m hm => ?_, ⟨v, hv, hw'⟩, hafter⟩
        have hless := hn (m - 1) (Option.mem_map_of_mem (· - 1) hm)
        have hm1 := hpos m hm
        omega
    cases greedy with
    | true =>
      rcases orElse_cases h with h | h
      · exact honward h
      · exact hstop h
    | false =>
      rcases orElse_cases h with h | h
      · exact hstop h
      · exact honward h

end Sound

theorem run_sound {α : Type} (size : Nat) (p : Pattern) {w : Way} {after : Way → Option α} {r : α}
    (h : p.run size w after = some r) : ∃ w', p.Goes w w' ∧ after w' = some r := by
  induction p generalizing w after r with
  | empty => exact ⟨w, rfl, h⟩
  | literal cs =>
    obtain ⟨q, hq, hafter⟩ := Option.bind_eq_some_iff.1 h
    exact ⟨{ w with place := q }, ⟨Place.read?_eq_some.1 hq, rfl⟩, hafter⟩
  | chars s =>
    rw [run] at h
    split at h
    · cases h
    · next c cs hrest =>
      split at h
      · next hc =>
        exact ⟨{ w with place := w.place.advance c cs },
          ⟨c, hc, Place.advance_ahead hrest, rfl⟩, h⟩
      · cases h
  | look a =>
    rw [run] at h
    split at h
    · next ha => exact ⟨w, ⟨ha, rfl⟩, h⟩
    · cases h
  | group index p ih =>
    obtain ⟨v, hv, hafter⟩ := ih h
    exact ⟨_, ⟨v, hv, rfl⟩, hafter⟩
  | seq p q ihp ihq =>
    obtain ⟨v, hv, hrest⟩ := ihp h
    obtain ⟨w', hw', hafter⟩ := ihq hrest
    exact ⟨w', ⟨v, hv, hw'⟩, hafter⟩
  | alt p q ihp ihq =>
    rcases orElse_cases h with h | h
    · obtain ⟨w', hw', hafter⟩ := ihp h
      exact ⟨w', .inl hw', hafter⟩
    · obtain ⟨w', hw', hafter⟩ := ihq h
      exact ⟨w', .inr hw', hafter⟩
  | «repeat» p min max greedy ih =>
    obtain ⟨v, hv, hrest⟩ := times_sound (fun _ _ _ h => ih h) h
    obtain ⟨n, w', hn, hw', hafter⟩ := upTo_sound (fun _ _ _ h => ih h) hrest
    refine ⟨w', ⟨min + n, Nat.le_add_right _ _, fun m hm => ?_, hv.add hw'⟩, hafter⟩
    exact Nat.add_le_add_left (hn _ (Option.mem_map_of_mem (· - min) hm)) min

/-! ## What the search does not miss -/

/-- What comes next succeeds at a place, whatever has been remembered. -/
def Accepts {α : Type} (after : Way → Option α) (q : Place) : Prop :=
  ∀ w : Way, w.place = q → (after w).isSome = true

theorem isSome_orElse {α : Type} {x y : Option α} (h : x.isSome = true ∨ y.isSome = true) :
    (x <|> y).isSome = true := by
  cases x with
  | some a => rfl
  | none => exact h.resolve_left (by simp)

section Complete

variable {α : Type} {s : Stretch α} {R : Way → Way → Prop} {size : Nat}
  (hahead : ∀ w w', R w w' → ∃ t, w.place.Ahead t w'.place)
  (hs : ∀ w w' after, R w w' → w.place.rest.length ≤ size → Accepts after w'.place →
    Accepts (s · after) w.place)
include hahead hs

theorem times_complete {n : Nat} {w w' : Way} {after : Way → Option α} (h : Iterates R n w w')
    (hsize : w.place.rest.length ≤ size) (hafter : Accepts after w'.place) :
    Accepts (s.times n · after) w.place := by
  induction n generalizing w with
  | zero =>
    cases h
    exact hafter
  | succ n ih =>
    obtain ⟨v, hv, hrest⟩ := h
    obtain ⟨t, ht⟩ := hahead w v hv
    have hvsize : v.place.rest.length ≤ size := by
      have := ht.length
      omega
    exact hs w v _ hv hsize (ih hrest hvsize)

/-- The bound is left open above: a way with fewer repetitions is allowed wherever one with more
is, which is what dropping an empty repetition takes. -/
theorem upTo_complete {greedy : Bool} {n fuel : Nat} {left : Option Nat} {w w' : Way}
    {after : Way → Option α} (h : Iterates R n w w') (hn : ∀ m ∈ left, n ≤ m)
    (hfuel : w.place.rest.length ≤ fuel) (hsize : w.place.rest.length ≤ size)
    (hafter : Accepts after w'.place) : Accepts (s.upTo greedy fuel left · after) w.place := by
  induction n generalizing w fuel left with
  | zero =>
    cases h
    intro v hv
    cases fuel with
    | zero => exact hafter v hv
    | succ fuel =>
      have hstop := hafter v hv
      dsimp only
      rw [Stretch.upTo]
      split
      · exact hstop
      · split
        · exact isSome_orElse (.inr hstop)
        · exact isSome_orElse (.inl hstop)
  | succ n ih =>
    obtain ⟨x, hx, hrest⟩ := h
    obtain ⟨t, ht⟩ := hahead w x hx
    have hlength := ht.length
    have hoffset := ht.offset
    by_cases hempty : t = []
    · -- an empty repetition is left out
      subst hempty
      have hplace : x.place = w.place := ht.eq
      rw [← hplace] at hfuel hsize ⊢
      exact ih hrest (fun m hm => Nat.le_of_succ_le (hn m hm)) hfuel hsize
    · have htpos : 0 < t.length := List.length_pos_iff.2 hempty
      intro v hv
      cases fuel with
      | zero => omega
      | succ fuel =>
        have hleft : left ≠ some 0 := by
          intro h0
          have := hn 0 h0
          omega
        have honward : (s v fun w' => if w'.place.offset ≤ v.place.offset then after w'
            else s.upTo greedy fuel (left.map (· - 1)) w' after).isSome = true := by
          refine hs w x (fun w' => if w'.place.offset ≤ v.place.offset then after w'
            else s.upTo greedy fuel (left.map (· - 1)) w' after) hx hsize ?_ v hv
          intro y hy
          have hgoes : ¬y.place.offset ≤ v.place.offset := by
            rw [hy, hv]
            omega
          dsimp only
          rw [if_neg hgoes]
          refine ih hrest ?_ (by omega) (by omega) y hy
          intro m hm
          obtain ⟨k, hk, rfl⟩ := Option.map_eq_some_iff.1 hm
          have := hn k hk
          omega
        dsimp only
        rw [Stretch.upTo, if_neg hleft]
        dsimp only
        split
        · exact isSome_orElse (.inl honward)
        · exact isSome_orElse (.inr honward)

end Complete

theorem run_complete {α : Type} {size : Nat} {p : Pattern} {w w' : Way} {after : Way → Option α}
    (h : p.Goes w w') (hsize : w.place.rest.length ≤ size) (hafter : Accepts after w'.place) :
    Accepts (p.run size · after) w.place := by
  induction p generalizing w w' after with
  | empty =>
    cases h
    exact hafter
  | literal cs =>
    intro v hv
    have hread : v.place.read? cs = some w'.place := by
      rw [hv]
      exact Place.read?_eq_some.2 h.place
    dsimp only
    rw [run, hread]
    exact hafter _ rfl
  | chars s =>
    obtain ⟨c, hc, hread⟩ := h
    intro v hv
    have hrest : v.place.rest = c :: w'.place.rest := by
      rw [hv]
      exact hread.place.rest
    have hplace : v.place.advance c w'.place.rest = w'.place := by
      refine (Place.advance_ahead hrest).unique ?_
      rw [hv]
      exact hread.place
    dsimp only
    rw [run, hrest]
    dsimp only
    rw [if_pos hc]
    exact hafter _ hplace
  | look a =>
    obtain ⟨ha, rfl⟩ := h
    intro v hv
    dsimp only
    rw [run, hv, if_pos ha]
    exact hafter v hv
  | group index p ih =>
    obtain ⟨x, hx, rfl⟩ := h
    intro v hv
    refine ih hx hsize ?_ v hv
    intro y hy
    exact hafter _ hy
  | seq p q ihp ihq =>
    obtain ⟨x, hx, hw'⟩ := h
    obtain ⟨t, ht⟩ := hx.ahead
    have hlength := ht.length
    exact ihp hx hsize (ihq hw' (by omega) hafter)
  | alt p q ihp ihq =>
    intro v hv
    rcases h with h | h
    · exact isSome_orElse (.inl (ihp h hsize hafter v hv))
    · exact isSome_orElse (.inr (ihq h hsize hafter v hv))
  | «repeat» p min max greedy ih =>
    obtain ⟨n, hmin, hmax, hn⟩ := h
    obtain ⟨k, rfl⟩ := Nat.exists_eq_add_of_le hmin
    obtain ⟨x, hx, hw'⟩ := hn.split
    obtain ⟨t, ht⟩ := iterates_ahead hx
    have hlength := ht.length
    refine times_complete (fun _ _ => Goes.ahead) (fun w w' after h => ih h) hx hsize ?_
    refine upTo_complete (fun _ _ => Goes.ahead) (fun w w' after h => ih h) hw' ?_ (by omega)
      (by omega) hafter
    intro m hm
    obtain ⟨j, hj, rfl⟩ := Option.map_eq_some_iff.1 hm
    have := hmax j hj
    omega

/-! ## Searching a text -/

theorem matchAt_eq_some {size : Nat} {p : Pattern} {place : Place} {m : Match}
    (h : p.matchAt size place = some m) :
    ∃ w, p.Goes ⟨place, []⟩ w ∧ m = ⟨place, w.place, w.groups⟩ := by
  obtain ⟨w, hw, hm⟩ := run_sound size p h
  exact ⟨w, hw, (Option.some.inj hm).symm⟩

theorem matchAt_isSome {size : Nat} {p : Pattern} {place : Place} {w : Way}
    (h : p.Goes ⟨place, []⟩ w) (hsize : place.rest.length ≤ size) :
    (p.matchAt size place).isSome = true := by
  have hdone : Accepts (fun w => some (⟨place, w.place, w.groups⟩ : Match)) w.place :=
    fun _ _ => rfl
  exact run_complete h hsize hdone ⟨place, []⟩ rfl

/-- The place in a text behind its beginning `done`. -/
def placeBehind (done rest : List Char) : Place :=
  ⟨done.length, done.getLast?, rest⟩

theorem findFrom_eq_none_iff {size : Nat} {p : Pattern} {done cs : List Char} :
    p.findFrom size done.length done.getLast? cs = none ↔
      ∀ d r, cs = d ++ r → p.matchAt size (placeBehind (done ++ d) r) = none := by
  induction cs generalizing done with
  | nil =>
    rw [findFrom]
    constructor
    · intro h d r hsplit
      obtain ⟨rfl, rfl⟩ := List.append_eq_nil_iff.1 hsplit.symm
      rw [List.append_nil]
      exact h
    · intro h
      have hhere := h [] [] rfl
      rwa [List.append_nil] at hhere
  | cons c cs ih =>
    have hnext : done.length + 1 = (done ++ [c]).length ∧ some c = (done ++ [c]).getLast? := by
      simp
    rw [findFrom, hnext.1, hnext.2]
    constructor
    · intro h d r hsplit
      split at h
      · cases h
      · next hhere =>
        cases d with
        | nil =>
          rw [List.append_nil, ← show c :: cs = r from hsplit]
          exact hhere
        | cons e d =>
          obtain ⟨rfl, hrest⟩ := List.cons.inj hsplit
          rw [List.append_cons]
          exact ih.1 h d r hrest
    · intro h
      have hhere := h [] (c :: cs) rfl
      rw [List.append_nil] at hhere
      rw [show (⟨done.length, done.getLast?, c :: cs⟩ : Place) = placeBehind done (c :: cs) from rfl,
        hhere]
      refine ih.2 fun d r hsplit => ?_
      rw [List.append_assoc]
      exact h (c :: d) r (by rw [hsplit]; rfl)

/-- A pattern is found in a text if and only if it leads somewhere from some place in it. -/
theorem find_isSome_iff {p : Pattern} {cs : List Char} :
    (p.find cs).isSome = true ↔ ∃ d r w, cs = d ++ r ∧ p.Goes ⟨placeBehind d r, []⟩ w := by
  have hfind : p.find cs = p.findFrom cs.length ([] : List Char).length [].getLast? cs := rfl
  rw [Option.isSome_iff_ne_none, hfind]
  constructor
  · intro h
    by_contra hnowhere
    refine h (findFrom_eq_none_iff.2 fun d r hsplit => ?_)
    by_contra hmatch
    obtain ⟨m, hm⟩ := Option.ne_none_iff_exists'.1 hmatch
    obtain ⟨w, hw, -⟩ := matchAt_eq_some hm
    exact hnowhere ⟨d, r, w, hsplit, hw⟩
  · rintro ⟨d, r, w, hsplit, hw⟩ hnone
    have hhere := findFrom_eq_none_iff.1 hnone d r hsplit
    have hsize : (placeBehind d r).rest.length ≤ cs.length := by
      rw [hsplit, List.length_append]
      exact Nat.le_add_left _ _
    have hsome := matchAt_isSome hw hsize
    rw [show d = [] ++ d from rfl, hhere] at hsome
    cases hsome

/-- A pattern that leads somewhere from the front of a text is found there. -/
theorem find_front {p : Pattern} {cs : List Char} {w : Way} (h : p.Goes ⟨.front cs, []⟩ w) :
    ∃ v, p.Goes ⟨.front cs, []⟩ v ∧ p.find cs = some ⟨.front cs, v.place, v.groups⟩ := by
  have hsome : (p.matchAt cs.length (.front cs)).isSome = true :=
    matchAt_isSome h (Nat.le_refl _)
  obtain ⟨m, hm⟩ := Option.isSome_iff_exists.1 hsome
  obtain ⟨v, hv, rfl⟩ := matchAt_eq_some hm
  refine ⟨v, hv, ?_⟩
  cases cs with
  | nil => exact hm
  | cons c cs =>
    rw [find, findFrom]
    rw [show (⟨0, none, c :: cs⟩ : Place) = .front (c :: cs) from rfl, hm]

/-- A pattern is not found in a text that holds none of its texts. -/
theorem find_eq_none {p : Pattern} {cs : List Char} (h : ∀ t, p.Spells t → ¬t <:+: cs) :
    p.find cs = none := by
  by_contra hfound
  obtain ⟨d, r, w, rfl, hw⟩ := find_isSome_iff.1 (Option.isSome_iff_ne_none.2 hfound)
  obtain ⟨t, hspells, ht⟩ := hw.spells
  have hrest : r = t ++ w.place.rest := ht.rest
  exact h t hspells ⟨d, w.place.rest, by rw [hrest, List.append_assoc]⟩

theorem matchesFrom_of_findFrom {size offset : Nat} {p : Pattern} {before : Option Char}
    {cs : List Char} (h : p.findFrom size offset before cs = none) :
    p.matchesFrom size offset before 0 cs = [] := by
  induction cs generalizing offset before with
  | nil =>
    rw [findFrom] at h
    rw [matchesFrom, if_pos rfl, h]
    rfl
  | cons c cs ih =>
    rw [findFrom] at h
    split at h
    · cases h
    · next hhere =>
      rw [matchesFrom, hhere]
      exact ih h

theorem allMatches_eq_nil {p : Pattern} {cs : List Char} (h : p.find cs = none) :
    p.allMatches cs = [] :=
  matchesFrom_of_findFrom h

/-! ## Repeated characters -/

theorem iterates_chars {s : CharSet} {n : Nat} {w w' : Way} :
    Iterates (chars s).Goes n w w' ↔
      ∃ t, t.length = n ∧ (∀ c ∈ t, s.contains c = true) ∧ w.Reads t w' := by
  induction n generalizing w with
  | zero =>
    constructor
    · intro h
      rw [show w' = w from h]
      exact ⟨[], rfl, by simp, .refl w⟩
    · rintro ⟨t, ht, -, hread⟩
      rw [List.length_eq_zero_iff] at ht
      subst ht
      exact hread.eq
  | succ n ih =>
    constructor
    · rintro ⟨v, ⟨c, hc, hv⟩, hrest⟩
      obtain ⟨t, ht, hall, hread⟩ := ih.1 hrest
      exact ⟨c :: t, by rw [List.length_cons, ht], List.forall_mem_cons.2 ⟨hc, hall⟩,
        hv.trans hread⟩
    · rintro ⟨t, ht, hall, hread⟩
      obtain ⟨c, u, rfl⟩ := List.exists_cons_of_length_eq_add_one ht
      obtain ⟨hc, hu⟩ := List.forall_mem_cons.1 hall
      obtain ⟨v, hv, hlast⟩ := Way.Reads.split (s := [c]) hread
      exact ⟨v, ⟨c, hc, hv⟩, ih.2 ⟨u, Nat.succ.inj ht, hu, hlast⟩⟩

theorem goes_repeat_chars {s : CharSet} {min : Nat} {max : Option Nat} {greedy : Bool}
    {w w' : Way} :
    (Pattern.repeat (chars s) min max greedy).Goes w w' ↔
      ∃ t, min ≤ t.length ∧ (∀ m ∈ max, t.length ≤ min + (m - min)) ∧
        (∀ c ∈ t, s.contains c = true) ∧ w.Reads t w' := by
  constructor
  · rintro ⟨n, hmin, hmax, hn⟩
    obtain ⟨t, rfl, hall, hread⟩ := iterates_chars.1 hn
    exact ⟨t, hmin, hmax, hall, hread⟩
  · rintro ⟨t, hmin, hmax, hall, hread⟩
    exact ⟨t.length, hmin, hmax, iterates_chars.2 ⟨t, rfl, hall, hread⟩⟩

theorem spells_repeat_chars {s : CharSet} {min : Nat} {max : Option Nat} {greedy : Bool}
    {t : List Char} (h : (Pattern.repeat (chars s) min max greedy).Spells t) :
    min ≤ t.length ∧ ∀ c ∈ t, s.contains c = true := by
  obtain ⟨ts, hlength, hall, rfl⟩ := h
  have hone : ∀ u ∈ ts, u.length = 1 := by
    intro u hu
    obtain ⟨c, -, rfl⟩ := hall u hu
    rfl
  constructor
  · have hsum : ts.flatten.length = ts.length := by
      rw [List.length_flatten, List.map_congr_left hone, List.map_const', List.sum_replicate_nat,
        Nat.mul_one]
    omega
  · intro c hc
    obtain ⟨u, hu, hcu⟩ := List.mem_flatten.1 hc
    obtain ⟨d, hd, rfl⟩ := hall u hu
    rwa [List.mem_singleton.1 hcu]

theorem spells_some1_chars {s : CharSet} {t : List Char} (h : (some1 (chars s)).Spells t) :
    ∃ c u, s.contains c = true ∧ t = c :: u := by
  obtain ⟨hlength, hall⟩ := spells_repeat_chars h
  obtain ⟨c, u, rfl⟩ := List.exists_cons_of_length_pos hlength
  exact ⟨c, u, hall c List.mem_cons_self, rfl⟩

/-! ## Texts that lead through a pattern -/

/-- Wherever a text stands before `rest`, the pattern leads over it. -/
def Takes (p : Pattern) (t rest : List Char) : Prop :=
  ∀ w : Way, w.place.rest = t ++ rest → ∃ w', p.Goes w w' ∧ w.place.Ahead t w'.place

theorem takes_literal (cs rest : List Char) : (literal cs).Takes cs rest := by
  intro w hw
  obtain ⟨v, hv, -⟩ := Way.exists_reads hw
  exact ⟨v, hv, hv.place⟩

theorem takes_repeat_chars {s : CharSet} {min : Nat} {max : Option Nat} {greedy : Bool}
    {t rest : List Char} (hmin : min ≤ t.length) (hmax : ∀ m ∈ max, t.length ≤ min + (m - min))
    (hall : ∀ c ∈ t, s.contains c = true) :
    (Pattern.repeat (chars s) min max greedy).Takes t rest := by
  intro w hw
  obtain ⟨v, hv, -⟩ := Way.exists_reads hw
  exact ⟨v, goes_repeat_chars.2 ⟨t, hmin, hmax, hall, hv⟩, hv.place⟩

theorem takes_repeat_one {s : CharSet} {min : Nat} {max : Option Nat} {greedy : Bool} {c : Char}
    {rest : List Char} (hmin : min ≤ 1) (hmax : ∀ m ∈ max, 1 ≤ m) (hc : s.contains c = true) :
    (Pattern.repeat (chars s) min max greedy).Takes [c] rest := by
  refine takes_repeat_chars hmin (fun m hm => ?_) (List.forall_mem_singleton.2 hc)
  have hm1 := hmax m hm
  rw [List.length_singleton]
  omega

theorem takes_opt_nil (p : Pattern) (rest : List Char) : (opt p).Takes [] rest :=
  fun w _ => ⟨w, ⟨0, Nat.le_refl 0, fun _ _ => Nat.zero_le _, rfl⟩, .refl _⟩

theorem Takes.group {p : Pattern} {t rest : List Char} (h : p.Takes t rest) (index : Nat) :
    (group index p).Takes t rest := by
  intro w hw
  obtain ⟨v, hv, ht⟩ := h w hw
  exact ⟨_, ⟨v, hv, rfl⟩, ht⟩

theorem Takes.alt_left {p : Pattern} {t rest : List Char} (h : p.Takes t rest) (q : Pattern) :
    (alt p q).Takes t rest := by
  intro w hw
  obtain ⟨v, hv, ht⟩ := h w hw
  exact ⟨v, .inl hv, ht⟩

theorem Takes.seq {p q : Pattern} {s t rest : List Char} (h : p.Takes s (t ++ rest))
    (h' : q.Takes t rest) : (seq p q).Takes (s ++ t) rest := by
  intro w hw
  rw [List.append_assoc] at hw
  obtain ⟨v, hv, hs⟩ := h w hw
  have hrest : v.place.rest = t ++ rest := List.append_cancel_left (hs.rest.symm.trans hw)
  obtain ⟨x, hx, ht⟩ := h' v hrest
  exact ⟨x, ⟨v, hv, hx⟩, hs.trans ht⟩

end Pattern

end ShellGuard
