import Mathlib
import ShellGuard.Pattern.Reach
import ShellGuard.Proofs.Pattern.Ways

/-!
# Following all places at once

There are two ways to look for a pattern.  A search tries one way through it after the other and
gives the best match; where it only matters whether there is one, all places of the text are
followed at once, as the bits of a number.  The two agree on every pattern and every text
(`isMatch_eq_isSome_find`).

What the second one follows is which offsets of the text a pattern leads between (`Pattern.Links`),
whatever is remembered on the way.  A part that goes a fixed distance asks a question of each place
and shifts the bits (`jump_testBit`).  A repetition is a search by rounds.  Each round starts only
from the places found in the round before, which is enough, since all others have been explored
(`Moves.Frontier`), and it is over when a round finds nothing new, so there are at most as many
rounds as places (`Moves.missing`).
-/

namespace ShellGuard

open Pattern (placeBehind)

namespace Place

/-! ## The places of a text -/

/-- The place of a text at an offset. -/
def inText (cs : List Char) (i : Nat) : Place :=
  placeBehind (cs.take i) (cs.drop i)

theorem inText_offset {cs : List Char} {i : Nat} (h : i ≤ cs.length) :
    (inText cs i).offset = i := by
  show (cs.take i).length = i
  rw [List.length_take, Nat.min_eq_left h]

theorem inText_inj {cs : List Char} {i j : Nat} (hi : i ≤ cs.length) (hj : j ≤ cs.length)
    (h : inText cs i = inText cs j) : i = j := by
  rw [← inText_offset hi, h, inText_offset hj]

theorem inText_append (d r : List Char) : inText (d ++ r) d.length = placeBehind d r := by
  rw [inText, List.take_left, List.drop_left]

theorem inText_ahead {cs : List Char} {i k : Nat} (h : i + k ≤ cs.length) :
    (inText cs i).Ahead ((cs.drop i).take k) (inText cs (i + k)) where
  rest := by
    show cs.drop i = (cs.drop i).take k ++ cs.drop (i + k)
    rw [← List.drop_drop, List.take_append_drop]
  offset := by
    rw [inText_offset h, inText_offset (by omega), List.length_take, List.length_drop]
    omega
  before := by
    show (cs.take (i + k)).getLast? = _
    rw [List.take_add, List.getLast?_append]
    rfl

/-- Behind a text that comes next there is the place that many characters further. -/
theorem Ahead.inText {cs t : List Char} {i : Nat} {q : Place} (hi : i ≤ cs.length)
    (h : (inText cs i).Ahead t q) :
    t <+: cs.drop i ∧ i + t.length ≤ cs.length ∧ q = Place.inText cs (i + t.length) := by
  have hrest : cs.drop i = t ++ q.rest := h.rest
  have hlength := congrArg List.length hrest
  rw [List.length_drop, List.length_append] at hlength
  have hbound : i + t.length ≤ cs.length := by omega
  have hahead := inText_ahead hbound
  rw [hrest, List.take_left] at hahead
  exact ⟨⟨q.rest, hrest.symm⟩, hbound, h.unique hahead⟩

theorem ahead_inText_iff {cs t : List Char} {i j : Nat} (hi : i ≤ cs.length) :
    j ≤ cs.length ∧ (inText cs i).Ahead t (inText cs j) ↔ t <+: cs.drop i ∧ j = i + t.length := by
  constructor
  · rintro ⟨hj, h⟩
    obtain ⟨hstart, hbound, hplace⟩ := h.inText hi
    exact ⟨hstart, inText_inj hj hbound hplace⟩
  · rintro ⟨⟨r, hr⟩, rfl⟩
    have hlength := congrArg List.length hr
    rw [List.length_drop, List.length_append] at hlength
    have hbound : i + t.length ≤ cs.length := by omega
    have hahead := inText_ahead hbound
    rw [← hr, List.take_left] at hahead
    exact ⟨hbound, hahead⟩

/-! ## Places as bits -/

theorem testBit_add_two_pow {word k : Nat} (h : word < 2 ^ k) (i : Nat) :
    (word + 2 ^ k).testBit i = (word.testBit i || decide (k = i)) := by
  have hor := Nat.two_pow_add_eq_or_of_lt h 1
  rw [Nat.mul_one] at hor
  rw [Nat.add_comm, hor, Nat.testBit_or, Nat.testBit_two_pow, Bool.or_comm]

/-- A bit more for the next place, if it is one of those looked for. -/
theorem testBit_mark {found word start offset i : Nat} (holds : Bool) (hstart : start ≤ offset)
    (h : word < 2 ^ (offset - start)) :
    (found ||| (if holds then word + 2 ^ (offset - start) else word) <<< start).testBit i = true ↔
      (found ||| word <<< start).testBit i = true ∨ i = offset ∧ holds = true := by
  cases holds with
  | false => simp
  | true =>
    simp only [if_true, Nat.testBit_or, Nat.testBit_shiftLeft, testBit_add_two_pow h, ge_iff_le,
      Bool.or_eq_true, Bool.and_eq_true, decide_eq_true_eq, and_true]
    constructor
    · rintro (hfound | ⟨hi, hbit | hplace⟩)
      · exact .inl (.inl hfound)
      · exact .inl (.inr ⟨hi, hbit⟩)
      · exact .inr (by omega)
    · rintro ((hfound | ⟨hi, hbit⟩) | rfl)
      · exact .inl hfound
      · exact .inr ⟨hi, .inl hbit⟩
      · exact .inr ⟨hstart, .inr rfl⟩

theorem mark_lt {word k : Nat} (holds : Bool) (h : word < 2 ^ k) :
    (if holds then word + 2 ^ k else word) < 2 ^ (k + 1) := by
  rw [Nat.pow_succ]
  split <;> omega

theorem exists_split_cons {P : List Char → List Char → Prop} {done cs : List Char} {c : Char} :
    (∃ d r, c :: cs = d ++ r ∧ P (done ++ d) r) ↔
      P done (c :: cs) ∨ ∃ d r, cs = d ++ r ∧ P (done ++ [c] ++ d) r := by
  constructor
  · rintro ⟨d, r, hsplit, h⟩
    cases d with
    | nil =>
      obtain rfl : c :: cs = r := hsplit
      rw [List.append_nil] at h
      exact .inl h
    | cons e d =>
      obtain ⟨rfl, rfl⟩ := List.cons.inj hsplit
      rw [List.append_cons] at h
      exact .inr ⟨d, r, rfl, h⟩
  · rintro (h | ⟨d, r, rfl, h⟩)
    · exact ⟨[], c :: cs, rfl, by rwa [List.append_nil]⟩
    · exact ⟨c :: d, r, rfl, by rwa [List.append_cons]⟩

theorem gather_testBit {holds : Place → Bool} {done cs : List Char} {start word bit found i : Nat}
    (hstart : start ≤ done.length) (hbit : bit = 2 ^ (done.length - start)) (hword : word < bit) :
    (gather holds done.getLast? done.length start word bit found cs).testBit i = true ↔
      (found ||| word <<< start).testBit i = true ∨
        ∃ d r, cs = d ++ r ∧ i = (done ++ d).length ∧ holds (placeBehind (done ++ d) r) = true := by
  induction cs generalizing done start word bit found with
  | nil =>
    subst hbit
    rw [gather, testBit_mark _ hstart hword]
    refine or_congr_right ⟨fun h => ⟨[], [], rfl, by rwa [List.append_nil]⟩, ?_⟩
    rintro ⟨d, r, hsplit, h⟩
    obtain ⟨rfl, rfl⟩ := List.append_eq_nil_iff.1 hsplit.symm
    rwa [List.append_nil] at h
  | cons c cs ih =>
    subst hbit
    have hlength : done.length + 1 = (done ++ [c]).length := by simp
    have hlast : some c = (done ++ [c]).getLast? := by simp
    rw [exists_split_cons (P := fun d r => i = d.length ∧ holds (placeBehind d r) = true),
      ← or_assoc, ← testBit_mark _ hstart hword, gather]
    split
    · -- the word is full, and the next one starts at the next place
      rw [hlength, hlast, ih (Nat.le_refl _) (by simp) Nat.one_pos, Nat.zero_shiftLeft, Nat.or_zero]
      exact Iff.rfl
    · have hbit : 2 ^ (done.length - start + 1) = 2 ^ ((done ++ [c]).length - start) := by
        rw [← hlength, Nat.succ_sub hstart]
      have hword' := mark_lt (holds (placeBehind done (c :: cs))) hword
      rw [hlength, hlast, Nat.mul_comm, ← Nat.pow_succ]
      exact ih (by omega) hbit hword'

/-- The offsets of the places where a condition holds are the bits of a number. -/
theorem offsets_testBit {holds : Place → Bool} {cs : List Char} {i : Nat} :
    (offsets holds cs).testBit i = true ↔ i ≤ cs.length ∧ holds (inText cs i) = true := by
  have hbit : 1 = 2 ^ (([] : List Char).length - 0) := rfl
  have hgather : (offsets holds cs).testBit i = true ↔ (0 ||| 0 <<< 0).testBit i = true ∨
      ∃ d r, cs = d ++ r ∧ i = ([] ++ d).length ∧ holds (placeBehind ([] ++ d) r) = true :=
    gather_testBit (Nat.zero_le _) hbit Nat.one_pos
  rw [hgather]
  constructor
  · rintro (hzero | ⟨d, r, rfl, rfl, hholds⟩)
    · simp at hzero
    · rw [List.nil_append, inText_append, List.length_append]
      exact ⟨Nat.le_add_right _ _, hholds⟩
  · rintro ⟨hi, hholds⟩
    refine .inr ⟨cs.take i, cs.drop i, (List.take_append_drop i cs).symm, ?_, hholds⟩
    rw [List.nil_append, List.length_take, Nat.min_eq_left hi]

end Place

/-! ## Steps -/

namespace Moves

/-- All bits stand for offsets in a text of this length. -/
def Within (length places : Nat) : Prop :=
  ∀ i, places.testBit i = true → i ≤ length

/-- While a search goes on, only the places found last may lead to places that are not found. -/
structure Frontier (length : Nat) (T : Nat → Nat → Prop) (latest found : Nat) : Prop where
  within : Within length found
  among : ∀ i, latest.testBit i = true → found.testBit i = true
  explored : ∀ i j, found.testBit i = true → latest.testBit i = false → T i j →
    found.testBit j = true

/-- The number of places that are not found. -/
def missing (length found : Nat) : Nat :=
  ((Finset.range (length + 1)).filter fun i => found.testBit i = false).card

theorem testBit_added (next found i : Nat) :
    (next ^^^ (next &&& found)).testBit i = (next.testBit i && !found.testBit i) := by
  rw [Nat.testBit_xor, Nat.testBit_and]
  cases next.testBit i <;> cases found.testBit i <;> rfl

theorem missing_lt {length found added : Nat} (hnew : added ≠ 0)
    (hadded : ∀ i, added.testBit i = true → i ≤ length ∧ found.testBit i = false) :
    missing length (found ||| added) < missing length found := by
  obtain ⟨i, hi⟩ := Nat.exists_testBit_of_ne_zero hnew
  obtain ⟨hlength, hfound⟩ := hadded i hi
  refine Finset.card_lt_card ((Finset.ssubset_iff_of_subset ?_).2 ⟨i, ?_, ?_⟩)
  · refine Finset.monotone_filter_right _ fun j _ hj => ?_
    rw [Nat.testBit_or, Bool.or_eq_false_iff] at hj
    exact hj.1
  · exact Finset.mem_filter.2 ⟨Finset.mem_range.2 (by omega), hfound⟩
  · intro hmem
    have hmissed := (Finset.mem_filter.1 hmem).2
    rw [Nat.testBit_or, hi, Bool.or_true] at hmissed
    cases hmissed

theorem found_of_missing {length found i : Nat} (h : missing length found = 0) (hi : i ≤ length) :
    found.testBit i = true := by
  by_contra hnot
  have hmem : i ∈ (Finset.range (length + 1)).filter fun i => found.testBit i = false :=
    Finset.mem_filter.2 ⟨Finset.mem_range.2 (by omega), Bool.eq_false_iff.2 hnot⟩
  rw [Finset.card_eq_zero.1 h] at hmem
  cases hmem

/-- What is led to from a place that was found is found too, or led to from one of those found last
in as many steps or fewer. -/
theorem Frontier.reached {length latest found : Nat} {T : Nat → Nat → Prop}
    (f : Frontier length T latest found) {n i j : Nat} (hi : found.testBit i = true)
    (h : Iterates T n i j) :
    found.testBit j = true ∨ ∃ k m, latest.testBit k = true ∧ m ≤ n ∧ Iterates T m k j := by
  induction n generalizing i with
  | zero =>
    obtain rfl : j = i := h
    exact .inl hi
  | succ n ih =>
    cases hlatest : latest.testBit i with
    | true => exact .inr ⟨i, n + 1, hlatest, Nat.le_refl _, h⟩
    | false =>
      obtain ⟨x, hix, hxj⟩ := h
      rcases ih (f.explored i x hi hlatest hix) hxj with hj | ⟨k, m, hk, hm, hkj⟩
      · exact .inl hj
      · exact .inr ⟨k, m, hk, Nat.le_succ_of_le hm, hkj⟩

theorem iterates_le {length : Nat} {T : Nat → Nat → Prop} (hT : ∀ i j, T i j → j ≤ length)
    {n i j : Nat} (hi : i ≤ length) (h : Iterates T n i j) : j ≤ length := by
  induction n generalizing i with
  | zero =>
    obtain rfl : j = i := h
    exact hi
  | succ n ih =>
    obtain ⟨x, hix, hxj⟩ := h
    exact ih (hT i x hix) hxj

theorem upTo_keeps {step : Nat → Nat} {fuel : Nat} {left : Option Nat} {latest found i : Nat}
    (h : found.testBit i = true) : (upTo step fuel left latest found).testBit i = true := by
  induction fuel generalizing left latest found with
  | zero => exact h
  | succ fuel ih =>
    rw [upTo]
    split
    · exact h
    · dsimp only
      split
      · exact h
      · refine ih ?_
        rw [Nat.testBit_or, h, Bool.true_or]

section Step

variable {length : Nat} {step : Nat → Nat} {T : Nat → Nat → Prop}
  (hstep : ∀ places j, Within length places →
    ((step places).testBit j = true ↔ ∃ i, places.testBit i = true ∧ T i j))

include hstep

/-- A step and then some more. -/
theorem exists_iterates_succ {places : Nat} (h : Within length places) (n j : Nat) :
    (∃ i, places.testBit i = true ∧ Iterates T (n + 1) i j) ↔
      ∃ i, (step places).testBit i = true ∧ Iterates T n i j := by
  constructor
  · rintro ⟨i, hi, k, hik, hkj⟩
    exact ⟨k, (hstep places k h).2 ⟨i, hi, hik⟩, hkj⟩
  · rintro ⟨k, hk, hkj⟩
    obtain ⟨i, hi, hik⟩ := (hstep places k h).1 hk
    exact ⟨i, hi, k, hik, hkj⟩

theorem exists_iterates_fixed {places : Nat} (h : Within length places)
    (hfix : step places = places) (n j : Nat) :
    (∃ i, places.testBit i = true ∧ Iterates T n i j) ↔ places.testBit j = true := by
  induction n with
  | zero => exact ⟨fun ⟨i, hi, hij⟩ => hij ▸ hi, fun hj => ⟨j, hj, rfl⟩⟩
  | succ n ih => rw [exists_iterates_succ hstep h, hfix, ih]

variable (hT : ∀ i j, T i j → j ≤ length)

include hT

theorem within_step {places : Nat} (h : Within length places) : Within length (step places) := by
  intro j hj
  obtain ⟨i, -, hij⟩ := (hstep places j h).1 hj
  exact hT i j hij

theorem exactly_testBit {places : Nat} (h : Within length places) (n j : Nat) :
    (exactly step n places).testBit j = true ↔
      ∃ i, places.testBit i = true ∧ Iterates T n i j := by
  induction n generalizing places with
  | zero => exact ⟨fun hj => ⟨j, hj, rfl⟩, fun ⟨i, hi, hij⟩ => hij ▸ hi⟩
  | succ n ih =>
    rw [exists_iterates_succ hstep h, exactly]
    split
    · next hstop =>
      rcases hstop with hfix | hzero
      · rw [hfix, exists_iterates_fixed hstep h hfix]
      · simp [hzero]
    · exact ih (within_step hstep hT h)

/-- One more step of a search moves its frontier. -/
theorem Frontier.advance {latest found : Nat} (f : Frontier length T latest found) :
    let added := step latest ^^^ (step latest &&& found)
    Frontier length T added (found ||| added) := by
  intro added
  have hlatest : Within length latest := fun i hi => f.within i (f.among i hi)
  have hadded (i : Nat) : added.testBit i = ((step latest).testBit i && !found.testBit i) :=
    testBit_added _ _ i
  constructor
  case within =>
    intro i hi
    rw [Nat.testBit_or, hadded, Bool.or_eq_true, Bool.and_eq_true] at hi
    rcases hi with hi | hi
    · exact f.within i hi
    · exact within_step hstep hT hlatest i hi.1
  case among =>
    intro i hi
    rw [Nat.testBit_or, hi, Bool.or_true]
  case explored =>
    intro i j hi hnew hij
    rw [Nat.testBit_or, hnew, Bool.or_false] at hi
    rw [Nat.testBit_or]
    cases hi' : latest.testBit i with
    | false => rw [f.explored i j hi hi' hij, Bool.true_or]
    | true =>
      rw [hadded, (hstep latest j hlatest).2 ⟨i, hi', hij⟩]
      cases found.testBit j <;> rfl

theorem upTo_sound {fuel : Nat} {left : Option Nat} {latest found j : Nat}
    (f : Frontier length T latest found)
    (h : (upTo step fuel left latest found).testBit j = true) :
    found.testBit j = true ∨ ∃ i n, latest.testBit i = true ∧ (∀ m ∈ left, n ≤ m) ∧
      Iterates T n i j := by
  induction fuel generalizing left latest found with
  | zero => exact .inl h
  | succ fuel ih =>
    have hlatest : Within length latest := fun i hi => f.within i (f.among i hi)
    rw [upTo] at h
    split at h
    · exact .inl h
    · next hleft =>
      dsimp only at h
      split at h
      · exact .inl h
      · -- what the step added is one step away from the places found last
        have hone (k : Nat) (hk : (step latest ^^^ (step latest &&& found)).testBit k = true) :
            ∃ i, latest.testBit i = true ∧ T i k := by
          rw [testBit_added, Bool.and_eq_true] at hk
          exact (hstep latest k hlatest).1 hk.1
        have hpos : ∀ m ∈ left, 1 ≤ m := by
          intro m hm
          have hne : m ≠ 0 := fun h0 => hleft (h0 ▸ hm)
          omega
        rcases ih (f.advance hstep hT) h with hfound | ⟨k, n, hk, hn, hkj⟩
        · rw [Nat.testBit_or, Bool.or_eq_true] at hfound
          rcases hfound with hfound | hadded
          · exact .inl hfound
          · obtain ⟨i, hi, hij⟩ := hone j hadded
            exact .inr ⟨i, 1, hi, hpos, j, hij, rfl⟩
        · obtain ⟨i, hi, hik⟩ := hone k hk
          refine .inr ⟨i, n + 1, hi, fun m hm => ?_, k, hik, hkj⟩
          have hless := hn (m - 1) (Option.mem_map_of_mem (· - 1) hm)
          have hm1 := hpos m hm
          omega

/-- Two inductions: the outer one goes with the search, the inner one over the steps that are left,
for a place found before leads back to one of those found last. -/
theorem upTo_complete {fuel : Nat} {left : Option Nat} {latest found i j n : Nat}
    (f : Frontier length T latest found) (hfuel : missing length found ≤ fuel)
    (hi : latest.testBit i = true) (hn : ∀ m ∈ left, n ≤ m) (h : Iterates T n i j) :
    (upTo step fuel left latest found).testBit j = true := by
  induction fuel generalizing left latest found i n with
  | zero =>
    have hj : j ≤ length := iterates_le hT (f.within i (f.among i hi)) h
    exact found_of_missing (Nat.le_zero.1 hfuel) hj
  | succ fuel ih =>
    have hlatest : Within length latest := fun i hi => f.within i (f.among i hi)
    induction n using Nat.strong_induction_on generalizing i with
    | _ n inner =>
      cases n with
      | zero =>
        obtain rfl : j = i := h
        exact upTo_keeps (f.among j hi)
      | succ n =>
        obtain ⟨x, hix, hxj⟩ := h
        have hx : (step latest).testBit x = true := (hstep latest x hlatest).2 ⟨i, hi, hix⟩
        have hleft : left ≠ some 0 := by
          intro h0
          have := hn 0 h0
          omega
        -- a place that was found before leads to nothing new, or back to those found last
        have hback (hxfound : found.testBit x = true) :
            (upTo step (fuel + 1) left latest found).testBit j = true := by
          rcases f.reached hxfound hxj with hj | ⟨k, m, hk, hm, hkj⟩
          · exact upTo_keeps hj
          · exact inner m (by omega) hk (fun l hl => by have := hn l hl; omega) hkj
        cases hxfound : found.testBit x with
        | true => exact hback hxfound
        | false =>
          have hadded : (step latest ^^^ (step latest &&& found)).testBit x = true := by
            rw [testBit_added, hx, hxfound]
            rfl
          have hnew : step latest ^^^ (step latest &&& found) ≠ 0 := by
            intro hzero
            rw [hzero, Nat.zero_testBit] at hadded
            cases hadded
          have hless := missing_lt hnew fun k hk => by
            rw [testBit_added, Bool.and_eq_true, Bool.not_eq_true'] at hk
            exact ⟨within_step hstep hT hlatest k hk.1, hk.2⟩
          rw [upTo, if_neg hleft]
          dsimp only
          rw [if_neg hnew]
          refine ih (f.advance hstep hT) (by omega) hadded ?_ hxj
          intro m hm
          obtain ⟨l, hl, rfl⟩ := Option.map_eq_some_iff.1 hm
          have := hn l hl
          omega

/-- A search from some places finds all that can be reached from them in the steps it may take. -/
theorem upTo_testBit {places : Nat} (h : Within length places) (left : Option Nat) (j : Nat) :
    (upTo step (length + 1) left places places).testBit j = true ↔
      ∃ i n, places.testBit i = true ∧ (∀ m ∈ left, n ≤ m) ∧ Iterates T n i j := by
  have hstart : Frontier length T places places :=
    ⟨h, fun _ hi => hi, fun _ _ hi hnew _ => by rw [hi] at hnew; cases hnew⟩
  have hfuel : missing length places ≤ length + 1 := by
    have hcard := Finset.card_filter_le (Finset.range (length + 1))
      fun i => places.testBit i = false
    rwa [Finset.card_range] at hcard
  constructor
  · intro hj
    rcases upTo_sound hstep hT hstart hj with hj | hreached
    · exact ⟨j, 0, hj, fun _ _ => Nat.zero_le _, rfl⟩
    · exact hreached
  · rintro ⟨i, n, hi, hn, hij⟩
    exact upTo_complete hstep hT hstart hfuel hi hn hij

end Step

end Moves

/-! ## Patterns -/

namespace Pattern

theorem iterates_regroup {R : Way → Way → Prop}
    (hR : ∀ w w' v, R w w' → v.place = w.place → ∃ v', R v v' ∧ v'.place = w'.place) {n : Nat}
    {w w' v : Way} (h : Iterates R n w w') (hv : v.place = w.place) :
    ∃ v', Iterates R n v v' ∧ v'.place = w'.place := by
  induction n generalizing w v with
  | zero =>
    obtain rfl : w' = w := h
    exact ⟨v, rfl, hv⟩
  | succ n ih =>
    obtain ⟨x, hx, hxw⟩ := h
    obtain ⟨y, hy, hplace⟩ := hR w x v hx hv
    obtain ⟨z, hz, hend⟩ := ih hxw hplace
    exact ⟨z, ⟨y, hy, hz⟩, hend⟩

/-- A pattern leads to the same places from all ways to a place, whatever they remember. -/
theorem Goes.regroup {p : Pattern} {w w' v : Way} (h : p.Goes w w') (hv : v.place = w.place) :
    ∃ v', p.Goes v v' ∧ v'.place = w'.place := by
  induction p generalizing w w' v with
  | empty =>
    obtain rfl : w' = w := h
    exact ⟨v, rfl, hv⟩
  | literal cs =>
    have hread : w.Reads cs w' := h
    exact ⟨⟨w'.place, v.groups⟩, ⟨hv ▸ hread.place, rfl⟩, rfl⟩
  | chars s =>
    obtain ⟨c, hc, hread⟩ := h
    exact ⟨⟨w'.place, v.groups⟩, ⟨c, hc, hv ▸ hread.place, rfl⟩, rfl⟩
  | look a =>
    obtain ⟨ha, rfl⟩ := h
    exact ⟨v, ⟨hv ▸ ha, rfl⟩, hv⟩
  | group index p ih =>
    obtain ⟨x, hx, rfl⟩ := h
    obtain ⟨y, hy, hplace⟩ := ih hx hv
    exact ⟨y.remember index v, ⟨y, hy, rfl⟩, hplace⟩
  | seq p q ihp ihq =>
    obtain ⟨x, hx, hxw⟩ := h
    obtain ⟨y, hy, hplace⟩ := ihp hx hv
    obtain ⟨z, hz, hend⟩ := ihq hxw hplace
    exact ⟨z, ⟨y, hy, hz⟩, hend⟩
  | alt p q ihp ihq =>
    rcases h with h | h
    · obtain ⟨y, hy, hplace⟩ := ihp h hv
      exact ⟨y, .inl hy, hplace⟩
    · obtain ⟨y, hy, hplace⟩ := ihq h hv
      exact ⟨y, .inr hy, hplace⟩
  | «repeat» p min max greedy ih =>
    obtain ⟨n, hmin, hmax, hn⟩ := h
    obtain ⟨v', hv', hplace⟩ := iterates_regroup (fun _ _ _ => ih) hn hv
    exact ⟨v', ⟨n, hmin, hmax, hv'⟩, hplace⟩

/-- The offsets in a text that a pattern leads between. -/
def Links (cs : List Char) (p : Pattern) (i j : Nat) : Prop :=
  i ≤ cs.length ∧ j ≤ cs.length ∧
    ∃ w w', p.Goes w w' ∧ w.place = .inText cs i ∧ w'.place = .inText cs j

variable {cs : List Char} {i j : Nat}

/-- A way through a pattern from a place of a text ends at one. -/
theorem Links.of_goes {p : Pattern} {w w' : Way} (hi : i ≤ cs.length)
    (hw : w.place = .inText cs i) (h : p.Goes w w') :
    ∃ j, p.Links cs i j ∧ w'.place = .inText cs j := by
  obtain ⟨t, ht⟩ := h.ahead
  rw [hw] at ht
  obtain ⟨-, hbound, hplace⟩ := ht.inText hi
  exact ⟨_, ⟨hi, hbound, w, w', h, hw, hplace⟩, hplace⟩

theorem links_seq {p q : Pattern} :
    (seq p q).Links cs i j ↔ ∃ k, p.Links cs i k ∧ q.Links cs k j := by
  constructor
  · rintro ⟨hi, hj, w, w', ⟨v, hp, hq⟩, hw, hw'⟩
    obtain ⟨k, hik, hv⟩ := Links.of_goes hi hw hp
    exact ⟨k, hik, hik.2.1, hj, v, w', hq, hv, hw'⟩
  · rintro ⟨k, ⟨hi, -, w, v, hp, hw, hv⟩, -, hj, x, x', hq, hx, hx'⟩
    obtain ⟨y, hy, hplace⟩ := hq.regroup (hv.trans hx.symm)
    exact ⟨hi, hj, w, y, ⟨v, hp, hy⟩, hw, hplace.trans hx'⟩

theorem iterates_links {p : Pattern} {n : Nat} (hi : i ≤ cs.length) :
    Iterates (p.Links cs) n i j ↔ j ≤ cs.length ∧
      ∃ w w', Iterates p.Goes n w w' ∧ w.place = .inText cs i ∧ w'.place = .inText cs j := by
  induction n generalizing i with
  | zero =>
    constructor
    · intro h
      obtain rfl : j = i := h
      exact ⟨hi, ⟨.inText cs j, []⟩, _, rfl, rfl, rfl⟩
    · rintro ⟨hj, w, w', h, hw, hw'⟩
      obtain rfl : w' = w := h
      exact Place.inText_inj hj hi (hw'.symm.trans hw)
  | succ n ih =>
    constructor
    · rintro ⟨k, ⟨-, hk, w, v, hp, hw, hv⟩, hkj⟩
      obtain ⟨hj, x, x', hrest, hx, hx'⟩ := (ih hk).1 hkj
      obtain ⟨y, hy, hplace⟩ :=
        iterates_regroup (fun _ _ _ => Goes.regroup) hrest (hv.trans hx.symm)
      exact ⟨hj, w, y, ⟨v, hp, hy⟩, hw, hplace.trans hx'⟩
    · rintro ⟨hj, w, w', ⟨v, hp, hrest⟩, hw, hw'⟩
      obtain ⟨k, hik, hv⟩ := Links.of_goes hi hw hp
      exact ⟨k, hik, (ih hik.2.1).2 ⟨hj, v, w', hrest, hv, hw'⟩⟩

theorem links_repeat {p : Pattern} {min : Nat} {max : Option Nat} {greedy : Bool}
    (hi : i ≤ cs.length) :
    (Pattern.repeat p min max greedy).Links cs i j ↔
      ∃ n, min ≤ n ∧ (∀ m ∈ max, n ≤ min + (m - min)) ∧ Iterates (p.Links cs) n i j := by
  constructor
  · rintro ⟨-, hj, w, w', ⟨n, hmin, hmax, hn⟩, hw, hw'⟩
    exact ⟨n, hmin, hmax, (iterates_links hi).2 ⟨hj, w, w', hn, hw, hw'⟩⟩
  · rintro ⟨n, hmin, hmax, hn⟩
    obtain ⟨hj, w, w', hgoes, hw, hw'⟩ := (iterates_links hi).1 hn
    exact ⟨hi, hj, w, w', ⟨n, hmin, hmax, hgoes⟩, hw, hw'⟩

/-- A part of a pattern that goes a fixed distance from the places where a condition holds. -/
theorem jump_testBit {p : Pattern} {holds : Place → Bool} {distance places : Nat}
    (h : ∀ i ≤ cs.length, p.Links cs i j ↔ holds (.inText cs i) = true ∧ j = i + distance) :
    ((places &&& Place.offsets holds cs) <<< distance).testBit j = true ↔
      ∃ i, places.testBit i = true ∧ p.Links cs i j := by
  rw [Nat.testBit_shiftLeft, Nat.testBit_and]
  simp only [ge_iff_le, Bool.and_eq_true, decide_eq_true_eq, Place.offsets_testBit]
  constructor
  · rintro ⟨hdistance, hplace, hi, hholds⟩
    exact ⟨j - distance, hplace, (h _ hi).2 ⟨hholds, by omega⟩⟩
  · rintro ⟨i, hplace, hlinks⟩
    obtain ⟨hholds, rfl⟩ := (h i hlinks.1).1 hlinks
    rw [Nat.add_sub_cancel]
    exact ⟨Nat.le_add_left _ _, hplace, hlinks.1, hholds⟩

/-- A pattern that asks for a condition and reads nothing. -/
theorem links_stay {p : Pattern} (holds : Place → Bool)
    (h : ∀ w w', p.Goes w w' ↔ holds w.place = true ∧ w' = w) (hi : i ≤ cs.length) :
    p.Links cs i j ↔ holds (.inText cs i) = true ∧ j = i + 0 := by
  constructor
  · rintro ⟨-, hj, w, w', hgoes, hw, hw'⟩
    obtain ⟨hholds, rfl⟩ := (h w w').1 hgoes
    exact ⟨hw ▸ hholds, Place.inText_inj hj hi (hw'.symm.trans hw)⟩
  · rintro ⟨hholds, rfl⟩
    exact ⟨hi, hi, ⟨_, []⟩, ⟨_, []⟩, (h _ _).2 ⟨hholds, rfl⟩, rfl, rfl⟩

theorem links_literal {text : List Char} (hi : i ≤ cs.length) :
    (literal text).Links cs i j ↔ text <+: cs.drop i ∧ j = i + text.length := by
  rw [← Place.ahead_inText_iff hi]
  constructor
  · rintro ⟨-, hj, w, w', hread, hw, hw'⟩
    have hread : w.Reads text w' := hread
    exact ⟨hj, hw ▸ hw' ▸ hread.place⟩
  · rintro ⟨hj, h⟩
    exact ⟨hi, hj, ⟨_, []⟩, ⟨_, []⟩, ⟨h, rfl⟩, rfl, rfl⟩

theorem links_chars {s : CharSet} (hi : i ≤ cs.length) :
    (chars s).Links cs i j ↔ (cs.drop i).head?.any s.contains = true ∧ j = i + 1 := by
  have hchar : (chars s).Links cs i j ↔ ∃ c, s.contains c = true ∧ (literal [c]).Links cs i j := by
    constructor
    · rintro ⟨hi, hj, w, w', ⟨c, hc, hread⟩, hplaces⟩
      exact ⟨c, hc, hi, hj, w, w', hread, hplaces⟩
    · rintro ⟨c, hc, hi, hj, w, w', hread, hplaces⟩
      exact ⟨hi, hj, w, w', ⟨c, hc, hread⟩, hplaces⟩
  simp only [hchar, links_literal hi, List.length_singleton, Option.any_eq_true]
  constructor
  · rintro ⟨c, hc, ⟨r, hr⟩, rfl⟩
    exact ⟨⟨c, by rw [← hr]; rfl, hc⟩, rfl⟩
  · rintro ⟨⟨c, hhead, hc⟩, rfl⟩
    obtain ⟨r, hr⟩ := List.head?_eq_some_iff.1 hhead
    exact ⟨c, hc, ⟨r, hr.symm⟩, rfl⟩

theorem links_alt {p q : Pattern} :
    (alt p q).Links cs i j ↔ p.Links cs i j ∨ q.Links cs i j := by
  constructor
  · rintro ⟨hi, hj, w, w', h | h, hplaces⟩
    · exact .inl ⟨hi, hj, w, w', h, hplaces⟩
    · exact .inr ⟨hi, hj, w, w', h, hplaces⟩
  · rintro (⟨hi, hj, w, w', h, hplaces⟩ | ⟨hi, hj, w, w', h, hplaces⟩)
    · exact ⟨hi, hj, w, w', .inl h, hplaces⟩
    · exact ⟨hi, hj, w, w', .inr h, hplaces⟩

theorem links_group {index : Nat} {p : Pattern} :
    (group index p).Links cs i j ↔ p.Links cs i j := by
  constructor
  · rintro ⟨hi, hj, w, _, ⟨v, h, rfl⟩, hw, hv⟩
    exact ⟨hi, hj, w, v, h, hw, hv⟩
  · rintro ⟨hi, hj, w, v, h, hw, hv⟩
    exact ⟨hi, hj, w, v.remember index w, ⟨v, h, rfl⟩, hw, hv⟩

/-- The places that a pattern's moves reach are those it leads to. -/
theorem reach_testBit (p : Pattern) {places : Nat} (h : Moves.Within cs.length places) (j : Nat) :
    ((p.moves cs).reach cs.length places).testBit j = true ↔
      ∃ i, places.testBit i = true ∧ p.Links cs i j := by
  induction p generalizing places j with
  | empty =>
    refine jump_testBit fun i hi => links_stay (fun _ => true) (fun w w' => ?_) hi
    exact ⟨fun hsame => ⟨rfl, hsame⟩, And.right⟩
  | literal text =>
    refine jump_testBit fun i hi => ?_
    rw [links_literal hi, ← List.isPrefixOf_iff_prefix]
    rfl
  | chars s => exact jump_testBit fun i hi => links_chars hi
  | look a => exact jump_testBit fun i hi => links_stay a.holds (fun w w' => Iff.rfl) hi
  | group index p ih =>
    simp only [links_group]
    exact ih h j
  | seq p q ihp ihq =>
    have hmiddle : (∃ i, places.testBit i = true ∧ (seq p q).Links cs i j) ↔
        ∃ k, ((p.moves cs).reach cs.length places).testBit k = true ∧ q.Links cs k j := by
      simp only [links_seq, ihp h]
      constructor
      · rintro ⟨i, hi, k, hik, hkj⟩
        exact ⟨k, ⟨i, hi, hik⟩, hkj⟩
      · rintro ⟨k, ⟨i, hi, hik⟩, hkj⟩
        exact ⟨i, hi, k, hik, hkj⟩
    have hwithin : Moves.Within cs.length ((p.moves cs).reach cs.length places) := by
      intro k hk
      obtain ⟨i, -, hik⟩ := (ihp h k).1 hk
      exact hik.2.1
    rw [hmiddle, moves, Moves.reach]
    split
    · next hzero => simp [hzero]
    · exact ihq hwithin j
  | alt p q ihp ihq =>
    simp only [moves, Moves.reach, Nat.testBit_or, Bool.or_eq_true, ihp h, ihq h, links_alt,
      and_or_left, exists_or]
  | «repeat» p min max greedy ih =>
    have hlinks : ∀ i k, p.Links cs i k → k ≤ cs.length := fun _ _ h => h.2.1
    have hstep := fun places k (h : Moves.Within cs.length places) => ih h k
    have hbegun := Moves.exactly_testBit hstep hlinks h min
    have hwithin : Moves.Within cs.length
        (Moves.exactly ((p.moves cs).reach cs.length) min places) := by
      intro k hk
      obtain ⟨i, hi, hik⟩ := (hbegun k).1 hk
      exact Moves.iterates_le hlinks (h i hi) hik
    have hsplit : (∃ i, places.testBit i = true ∧ (Pattern.repeat p min max greedy).Links cs i j) ↔
        ∃ k n, (Moves.exactly ((p.moves cs).reach cs.length) min places).testBit k = true ∧
          (∀ m ∈ max.map (· - min), n ≤ m) ∧ Iterates (p.Links cs) n k j := by
      constructor
      · rintro ⟨i, hi, hij⟩
        obtain ⟨n, hmin, hmax, hn⟩ := (links_repeat (h i hi)).1 hij
        obtain ⟨rest, rfl⟩ := Nat.exists_eq_add_of_le hmin
        obtain ⟨k, hik, hkj⟩ := hn.split
        refine ⟨k, rest, (hbegun k).2 ⟨i, hi, hik⟩, fun m hm => ?_, hkj⟩
        obtain ⟨l, hl, rfl⟩ := Option.map_eq_some_iff.1 hm
        have := hmax l hl
        omega
      · rintro ⟨k, n, hk, hn, hkj⟩
        obtain ⟨i, hi, hik⟩ := (hbegun k).1 hk
        refine ⟨i, hi, (links_repeat (h i hi)).2 ⟨min + n, Nat.le_add_right _ _, fun m hm => ?_,
          hik.add hkj⟩⟩
        exact Nat.add_le_add_left (hn _ (Option.mem_map_of_mem (· - min) hm)) min
    rw [hsplit, moves, Moves.reach]
    split
    · next hzero => simp [hzero]
    · exact Moves.upTo_testBit hstep hlinks hwithin (max.map (· - min)) j

theorem find_isSome_iff_links {p : Pattern} :
    (p.find cs).isSome = true ↔ ∃ i j, p.Links cs i j := by
  rw [find_isSome_iff]
  constructor
  · rintro ⟨d, r, w, rfl, hw⟩
    rw [← Place.inText_append] at hw
    have hi : d.length ≤ (d ++ r).length := by simp
    obtain ⟨j, hij, -⟩ := Links.of_goes hi rfl hw
    exact ⟨_, j, hij⟩
  · rintro ⟨i, j, hi, -, w, w', h, hw, -⟩
    obtain ⟨v, hv, -⟩ := h.regroup (v := ⟨.inText cs i, []⟩) hw.symm
    exact ⟨cs.take i, cs.drop i, v, (List.take_append_drop i cs).symm, hv⟩

/-- A pattern matches somewhere in a text exactly if a search finds a match in it. -/
theorem isMatch_eq_isSome_find (p : Pattern) (s : String) :
    p.isMatch s = (p.find s.toList).isSome := by
  have hwithin : Moves.Within s.toList.length (Place.offsets (fun _ => true) s.toList) :=
    fun i hi => (Place.offsets_testBit.1 hi).1
  rw [Bool.eq_iff_iff, find_isSome_iff_links, isMatch, bne_iff_ne]
  constructor
  · intro h
    obtain ⟨j, hj⟩ := Nat.exists_testBit_of_ne_zero h
    obtain ⟨i, -, hij⟩ := (reach_testBit p hwithin j).1 hj
    exact ⟨i, j, hij⟩
  · rintro ⟨i, j, hij⟩ hzero
    have hstart : (Place.offsets (fun _ => true) s.toList).testBit i = true :=
      Place.offsets_testBit.2 ⟨hij.1, rfl⟩
    have hj := (reach_testBit p hwithin j).2 ⟨i, hstart, hij⟩
    rw [hzero, Nat.zero_testBit] at hj
    cases hj

end Pattern

end ShellGuard
