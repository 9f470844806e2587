import Mathlib
import ShellGuard.Proofs.Obfuscation.Level
import ShellGuard.Proofs.Risk.Aggregation

/-!
# What all hits together say

Hits are taken into account from left to right, and one comparison decides about two things at once:
which confidence is kept, and whose candidate.  It is strict, so among hits that are equally sure
the first one stays.  `Tells` describes the outcome without that loop: the names in order, the
highest level, and the candidate of the first hit that is surer than all before it and at least as
sure as all behind it.  One hit more keeps the description true, provided that it is sure at all;
the first hit has to beat the confidence zero that the loop starts from.
-/

namespace ShellGuard

namespace Obfuscation

/-- Of all hits `best` is the surest, and the first of those that are. -/
def FirstSurest (best : Hit) (hs : List Hit) : Prop :=
  ∃ before behind, hs = before ++ best :: behind ∧
    (∀ h ∈ before, h.detection.confidence < best.detection.confidence) ∧
    ∀ h ∈ behind, h.detection.confidence ≤ best.detection.confidence

namespace FirstSurest

variable {best h : Hit} {hs : List Hit}

theorem le (hbest : FirstSurest best hs) (hmem : h ∈ hs) :
    h.detection.confidence ≤ best.detection.confidence := by
  obtain ⟨before, behind, rfl, hbefore, hbehind⟩ := hbest
  rcases List.mem_append.1 hmem with hmem | hmem
  · exact Nat.le_of_lt (hbefore h hmem)
  · rcases List.mem_cons.1 hmem with rfl | hmem
    · exact Nat.le_refl _
    · exact hbehind h hmem

/-- A hit that is no surer comes too late. -/
theorem stays (hbest : FirstSurest best hs)
    (hle : h.detection.confidence ≤ best.detection.confidence) : FirstSurest best (hs ++ [h]) := by
  obtain ⟨before, behind, rfl, hbefore, hbehind⟩ := hbest
  refine ⟨before, behind ++ [h], by simp, hbefore, fun k hk => ?_⟩
  rcases List.mem_append.1 hk with hk | hk
  · exact hbehind k hk
  · rw [List.mem_singleton.1 hk]
    exact hle

/-- A surer hit takes over. -/
theorem next (hall : ∀ k ∈ hs, k.detection.confidence < h.detection.confidence) :
    FirstSurest h (hs ++ [h]) :=
  ⟨hs, [], rfl, hall, by simp⟩

end FirstSurest

/-- What some hits, each of which counts, say about a command. -/
structure Tells (command : String) (hs : List Hit) (o : Obfuscation) : Prop where
  techniques : o.techniques = hs.map (·.technique.name)
  level : o.riskLevel = .highest (hs.map Hit.level)
  none : hs = [] → o.confidence = 0 ∧ o.deobfuscated = command
  best : hs ≠ [] → ∃ best, FirstSurest best hs ∧ o.confidence = best.detection.confidence ∧
    o.deobfuscated = String.ofList best.detection.candidate

namespace Tells

variable {command : String} {hs : List Hit} {o : Obfuscation}

theorem start (command : String) : Tells command [] (clean command) where
  techniques := rfl
  level := rfl
  none := fun _ => ⟨rfl, rfl⟩
  best := fun h => absurd rfl h

/-- One hit more. -/
theorem add (ht : Tells command hs o) {h : Hit} (hsure : 0 < h.detection.confidence) :
    Tells command (hs ++ [h]) (o.add h) where
  techniques := by
    rw [List.map_append, ← ht.techniques]
    rfl
  level := by
    have hadd : (o.add h).riskLevel = o.riskLevel.join h.level := rfl
    rw [List.map_append, RiskLevel.highest_append, ← ht.level, hadd, List.map_singleton,
      RiskLevel.highest_singleton]
  none := by simp
  best := by
    intro _
    have hconfidence : (o.add h).confidence =
        if o.confidence < h.detection.confidence then h.detection.confidence
        else o.confidence := rfl
    have hcandidate : (o.add h).deobfuscated =
        if o.confidence < h.detection.confidence then String.ofList h.detection.candidate
        else o.deobfuscated := rfl
    rw [hconfidence, hcandidate]
    by_cases hnil : hs = []
    · -- the first hit is compared with the confidence of nothing
      have hzero : o.confidence < h.detection.confidence := by
        rw [(ht.none hnil).1]
        exact hsure
      rw [if_pos hzero, if_pos hzero]
      exact ⟨h, .next (by simp [hnil]), rfl, rfl⟩
    · obtain ⟨best, hbest, hkept, hcandidate⟩ := ht.best hnil
      rw [hkept]
      by_cases hsurer : best.detection.confidence < h.detection.confidence
      · rw [if_pos hsurer, if_pos hsurer]
        exact ⟨h, .next fun k hk => Nat.lt_of_le_of_lt (hbest.le hk) hsurer, rfl, rfl⟩
      · rw [if_neg hsurer, if_neg hsurer]
        exact ⟨best, hbest.stays (Nat.le_of_not_lt hsurer), rfl, hcandidate⟩

/-- Any number of hits more. -/
theorem run (ht : Tells command hs o) {more : List Hit}
    (hsure : ∀ h ∈ more, 0 < h.detection.confidence) :
    Tells command (hs ++ more) (more.foldl Obfuscation.add o) := by
  induction more generalizing hs o with
  | nil =>
    rw [List.append_nil]
    exact ht
  | cons h more ih =>
    obtain ⟨hh, hmore⟩ := List.forall_mem_cons.1 hsure
    rw [List.append_cons]
    exact ih (ht.add hh) hmore

end Tells

/-- The explanation is put in at the end and speaks of the other fields only. -/
theorem ofHits_tells (command : String) (hs : List Hit) :
    Tells command (sure hs) (ofHits command hs) := by
  have hsure : ∀ h ∈ sure hs, 0 < h.detection.confidence := by
    intro h hh
    have hfloor : floor < h.detection.confidence := by simpa using (List.mem_filter.1 hh).2
    exact Nat.zero_lt_of_lt hfloor
  have hfold := (Tells.start command).run hsure
  rw [List.nil_append] at hfold
  unfold ofHits
  dsimp only
  split
  · exact ⟨hfold.techniques, hfold.level, hfold.none, hfold.best⟩
  · exact hfold

theorem ofHits_congr (command : String) {hs hs' : List Hit} (h : sure hs = sure hs') :
    ofHits command hs = ofHits command hs' := by
  unfold sure at h
  simp only [ofHits, h]

/-- A hit that does not count is as good as none. -/
theorem sure_remove {before behind : List Hit} {h : Hit} (hout : h.detection.confidence ≤ floor) :
    sure (before ++ h :: behind) = sure (before ++ behind) := by
  have hunsure : ¬floor < h.detection.confidence := Nat.not_lt.2 hout
  unfold sure
  rw [List.filter_append, List.filter_append, List.filter_cons_of_neg (by simpa using hunsure)]

theorem sure_hits (command : String) : (sure (hits command)).map (·.technique) =
    ShellGuard.techniques.filter fun t =>
      (t.detect command.toList).any (floor < ·.confidence) := by
  unfold hits sure
  generalize ShellGuard.techniques = ts
  induction ts with
  | nil => rfl
  | cons t ts ih =>
    cases hd : t.detect command.toList with
    | none => simpa [List.filterMap_cons, hd] using ih
    | some d =>
      by_cases hsure : floor < d.confidence
      · simpa [List.filterMap_cons, hd, hsure] using ih
      · simpa [List.filterMap_cons, hd, hsure] using ih

/-- A command counts as hidden exactly if some hit is surer than the floor.  The names are those of
the hits that count, in order; the confidence is the highest of theirs, zero if there are none; the
candidate is that of the first hit with this confidence, the command itself if there are none; the
level is the highest of theirs, where a level of the hit's own goes before that of its technique.  A
hit at the floor or below it changes nothing at all.  And the hits of a command come in the order in
which the techniques are registered. -/
theorem ofHits_summary (command : String) (hs : List Hit) :
    let counted := hs.filter (50 < ·.detection.confidence)
    let o := ofHits command hs
    (o.isObfuscated = true ↔ ∃ h ∈ hs, 50 < h.detection.confidence) ∧
    o.techniques = counted.map (·.technique.name) ∧
    (counted = [] → o.confidence = 0 ∧ o.deobfuscated = command ∧ o.riskLevel = .low) ∧
    (∀ h ∈ counted, h.detection.confidence ≤ o.confidence ∧
      h.detection.level.getD h.technique.level ≤ o.riskLevel) ∧
    (counted ≠ [] →
      (∃ before best behind, counted = before ++ best :: behind ∧
        (∀ h ∈ before, h.detection.confidence < best.detection.confidence) ∧
        o.confidence = best.detection.confidence ∧
        o.deobfuscated = String.ofList best.detection.candidate) ∧
      ∃ h ∈ counted, o.riskLevel = h.detection.level.getD h.technique.level) ∧
    (∀ before h behind, hs = before ++ h :: behind → h.detection.confidence ≤ 50 →
      o = ofHits command (before ++ behind)) ∧
    detect command = ofHits command (hits command) ∧
    (detect command).techniques = (ShellGuard.techniques.filter fun t =>
      (t.detect command.toList).any (50 < ·.confidence)).map (·.name) := by
  intro counted o
  have htells : Tells command counted o := ofHits_tells command hs
  refine ⟨?_, htells.techniques, fun hnil => ?_, fun h hh => ⟨?_, ?_⟩, fun hne => ⟨?_, ?_⟩, ?_, rfl,
    ?_⟩
  · have hsome : o.isObfuscated = !counted.isEmpty := ofHits_isObfuscated command hs
    simp [hsome, counted, List.filter_eq_nil_iff]
  · obtain ⟨hconfidence, hcandidate⟩ := htells.none hnil
    refine ⟨hconfidence, hcandidate, ?_⟩
    rw [htells.level, hnil]
    rfl
  · obtain ⟨best, hbest, hconfidence, -⟩ := htells.best (List.ne_nil_of_mem hh)
    rw [hconfidence]
    exact hbest.le hh
  · rw [htells.level]
    exact RiskLevel.le_highest (List.mem_map_of_mem hh)
  · obtain ⟨best, ⟨before, behind, hsplit, hbefore, -⟩, hkept⟩ := htells.best hne
    exact ⟨before, best, behind, hsplit, hbefore, hkept⟩
  · obtain ⟨h, hh, hlevel⟩ := List.mem_map.1 (RiskLevel.highest_mem (List.map_eq_nil_iff.not.2 hne))
    refine ⟨h, hh, ?_⟩
    rw [htells.level, ← hlevel]
    rfl
  · rintro before h behind rfl hout
    exact ofHits_congr command (sure_remove hout)
  · have hnames : (sure (hits command)).map (·.technique.name) =
        ((sure (hits command)).map (·.technique)).map (·.name) := List.map_map.symm
    rw [detect, (ofHits_tells command (hits command)).techniques, hnames, sure_hits]
    rfl

end Obfuscation

end ShellGuard
