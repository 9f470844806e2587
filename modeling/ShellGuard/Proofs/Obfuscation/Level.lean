import Mathlib
import ShellGuard.Obfuscation.Detector

/-!
# The level of a hidden command

Hits are taken into account one after the other.  The level that results is the highest of theirs,
and since no technique gives a hit of low level, a command that counts as hidden is never of low
level.
-/

namespace ShellGuard

/-! ## Levels of single hits -/

namespace Technique

/-- Decoded base64 that goes straight to a shell has a level of its own. -/
theorem detectBase64_level {cs : List Char} {d : Detection} (h : detectBase64 cs = some d) :
    d.level = none ∨ d.level = some .critical := by
  unfold detectBase64 at h
  split at h
  · rw [← Option.some.inj h]
    dsimp only
    split
    · exact .inr rfl
    · exact .inl rfl
  · split at h
    · rw [← Option.some.inj h]
      exact .inl rfl
    · simp at h

theorem detectHex_level {cs : List Char} {d : Detection} (h : detectHex cs = some d) :
    d.level = none := by
  unfold detectHex at h
  split at h
  · rw [← Option.some.inj h]
    rfl
  · obtain ⟨decoded, _, rfl⟩ := Option.map_eq_some_iff.1 h
    rfl

theorem detectUnicode_level {cs : List Char} {d : Detection} (h : detectUnicode cs = some d) :
    d.level = none := by
  unfold detectUnicode at h
  split at h
  · rw [← Option.some.inj h]
    rfl
  · simp at h

theorem detectVariables_level {cs : List Char} {d : Detection} (h : detectVariables cs = some d) :
    d.level = none := by
  unfold detectVariables at h
  dsimp only at h
  split at h
  · rw [← Option.some.inj h]
    rfl
  · simp at h

theorem detectSeparators_level {cs : List Char} {d : Detection} (h : detectSeparators cs = some d) :
    d.level = none := by
  unfold detectSeparators at h
  dsimp only at h
  split at h
  · rw [← Option.some.inj h]
    rfl
  · simp at h

theorem detectSubstitutions_level {cs : List Char} {d : Detection}
    (h : detectSubstitutions cs = some d) : d.level = none := by
  unfold detectSubstitutions at h
  dsimp only at h
  split at h
  · simp at h
  · rw [← Option.some.inj h]
    rfl

theorem detectEval_level {cs : List Char} {d : Detection} (h : detectEval cs = some d) :
    d.level = none := by
  unfold detectEval at h
  split at h
  · rw [← Option.some.inj h]
    rfl
  · split at h
    · rw [← Option.some.inj h]
      rfl
    · simp at h

end Technique

/-- No technique gives a hit of low level. -/
theorem techniques_level_ne_low {t : Technique} (ht : t ∈ techniques) {cs : List Char}
    {d : Detection} (h : t.detect cs = some d) : d.level.getD t.level ≠ .low := by
  simp only [techniques, List.mem_cons, List.not_mem_nil, or_false] at ht
  rcases ht with rfl | rfl | rfl | rfl | rfl | rfl | rfl
  · rcases Technique.detectBase64_level h with hl | hl <;> simp [hl]
  · simp [Technique.detectHex_level h]
  · simp [Technique.detectUnicode_level h]
  · simp [Technique.detectVariables_level h]
  · simp [Technique.detectSeparators_level h]
  · simp [Technique.detectSubstitutions_level h]
  · simp [Technique.detectEval_level h]

namespace Obfuscation

theorem hits_level_ne_low {command : String} {hit : Hit} (h : hit ∈ hits command) :
    hit.level ≠ .low := by
  obtain ⟨t, ht, hdetect⟩ := List.mem_filterMap.1 h
  obtain ⟨d, hd, rfl⟩ := Option.map_eq_some_iff.1 hdetect
  exact techniques_level_ne_low ht hd

/-! ## What some hits together say -/

theorem foldl_add_riskLevel (hs : List Hit) (o : Obfuscation) :
    (hs.foldl add o).riskLevel = (hs.map Hit.level).foldl RiskLevel.join o.riskLevel := by
  induction hs generalizing o with
  | nil => rfl
  | cons h hs ih => exact ih (o.add h)

theorem foldl_add_isObfuscated (hs : List Hit) (o : Obfuscation) :
    (hs.foldl add o).isObfuscated = (o.isObfuscated || !hs.isEmpty) := by
  induction hs generalizing o with
  | nil => simp
  | cons h hs ih =>
    have hadd : (o.add h).isObfuscated = true := rfl
    rw [List.foldl_cons, ih, hadd]
    simp

/-- The hits that count. -/
def sure (hs : List Hit) : List Hit :=
  hs.filter (floor < ·.detection.confidence)

/-- A command counts as hidden when some hit does. -/
theorem ofHits_isObfuscated (command : String) (hs : List Hit) :
    (ofHits command hs).isObfuscated = !(sure hs).isEmpty := by
  have hfold := foldl_add_isObfuscated (sure hs) (clean command)
  rw [show (clean command).isObfuscated = false from rfl, Bool.false_or] at hfold
  unfold ofHits
  dsimp only
  split
  · exact hfold
  · exact hfold

/-- Its level is the highest of theirs. -/
theorem ofHits_riskLevel (command : String) (hs : List Hit) :
    (ofHits command hs).riskLevel = RiskLevel.highest ((sure hs).map Hit.level) := by
  have hfold := foldl_add_riskLevel (sure hs) (clean command)
  unfold ofHits
  dsimp only
  split
  · exact hfold
  · exact hfold

/-- A hidden command is not of low level. -/
theorem detect_riskLevel_ne_low {command : String} (h : (detect command).isObfuscated = true) :
    (detect command).riskLevel ≠ .low := by
  have hne : sure (hits command) ≠ [] := by
    intro hnil
    rw [detect, ofHits_isObfuscated, hnil] at h
    simp at h
  obtain ⟨hit, hhit⟩ := List.exists_mem_of_ne_nil _ hne
  have hle : hit.level ≤ (detect command).riskLevel := by
    rw [detect, ofHits_riskLevel]
    exact RiskLevel.le_highest (List.mem_map_of_mem hhit)
  intro hlow
  rw [hlow] at hle
  exact hits_level_ne_low (List.mem_filter.1 hhit).1 (RiskLevel.eq_low_of_le hle)

end Obfuscation

end ShellGuard
