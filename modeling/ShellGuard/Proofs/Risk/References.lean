import Mathlib
import ShellGuard.Proofs.Risk.Aggregation
import ShellGuard.Proofs.Text.Occurrences

/-!
# References to system directories

A command refers to a directory if the directory's path stands in it between two boundaries
(`Assessment.Refers`).  The search looks at occurrences that do not overlap, so it could pass over
one that does; but what it passes over stands behind a character of the path itself.  A path that
holds no character behind which a path can begin is therefore found wherever it is referred to,
however often it overlaps itself.
-/

namespace ShellGuard

namespace Assessment

/-- A character behind which a path can begin. -/
def Opens (c : Char) : Prop :=
  Text.isBlank c = true ∨ c ∈ ['\'', '"', '=', ':', '(', '<', '>']

/-- A character in front of which a path can end. -/
def Closes (c : Char) : Prop :=
  c = '/' ∨ Text.isBlank c = true ∨ c ∈ ['\'', '"', ';', '|', '&', ')']

/-- A path that cannot begin inside of itself. -/
structure Unbroken (path : String) : Prop where
  ne_empty : path ≠ ""
  not_opens : ∀ c ∈ path.toList, ¬Opens c

/-- A path stands in a command between two boundaries, the ends of the command among them. -/
def Refers (command path : String) : Prop :=
  ∃ u v : String, command = u ++ path ++ v ∧ (∀ c ∈ u.toList.getLast?, Opens c) ∧
    ∀ c ∈ v.toList.head?, Closes c

theorem opensPath_iff {c : Char} : opensPath c = true ↔ Opens c := by
  rw [opensPath, Bool.or_eq_true, List.contains_iff_mem]
  rfl

theorem closesPath_iff {c : Char} : closesPath c = true ↔ Closes c := by
  rw [closesPath, Bool.or_eq_true, Bool.or_eq_true, beq_iff_eq, List.contains_iff_mem, or_assoc]
  rfl

theorem refersTo_iff_mem {command path : String} :
    refersTo command path = true ↔ ∃ o ∈ Text.occurrences command.toList path.toList,
      (∀ c ∈ o.before, Opens c) ∧ ∀ c ∈ o.after.head?, Closes c := by
  simp only [refersTo, List.any_eq_true, Bool.and_eq_true, Option.all_eq_true, opensPath_iff,
    closesPath_iff, Option.mem_def]

theorem refers_of_refersTo {command path : String} (h : refersTo command path = true) :
    Refers command path := by
  obtain ⟨o, ho, hbefore, hafter⟩ := refersTo_iff_mem.1 h
  obtain ⟨u, v, hcommand, rfl⟩ := Text.exists_of_mem_occurrences ho
  refine ⟨String.ofList u, String.ofList v, String.toList_injective ?_, ?_, ?_⟩
  · simp [hcommand]
  · rwa [String.toList_ofList]
  · rwa [String.toList_ofList]

/-- The search misses no reference: one that it passes over would begin behind a character of the
path. -/
theorem Refers.refersTo {command path : String} (h : Refers command path)
    (hpath : Unbroken path) : refersTo command path = true := by
  obtain ⟨u, v, rfl, hbefore, hafter⟩ := h
  have hne : path.toList ≠ [] := fun hnil => hpath.ne_empty (String.toList_eq_nil_iff.1 hnil)
  rw [refersTo_iff_mem, String.toList_append, String.toList_append]
  rcases Text.mem_occurrences_or hne u.toList v.toList with hlisted | ⟨c, hc, hlast⟩
  · exact ⟨_, hlisted, hbefore, hafter⟩
  · exact absurd (hbefore c hlast) (hpath.not_opens c hc)

theorem refersTo_iff {command path : String} (hpath : Unbroken path) :
    refersTo command path = true ↔ Refers command path :=
  ⟨refers_of_refersTo, fun h => h.refersTo hpath⟩

/-- A path that could begin inside of itself, and a reference to it that is passed over. -/
example : refersTo "a=a=a" "a=a" = false ∧ "a=a=a" = "a=" ++ "a=a" ++ "" := by decide

theorem unbroken_iff {path : String} :
    Unbroken path ↔ path ≠ "" ∧ path.toList.all (fun c => !opensPath c) = true := by
  have hall : path.toList.all (fun c => !opensPath c) = true ↔ ∀ c ∈ path.toList, ¬Opens c := by
    simp only [List.all_eq_true, Bool.not_eq_true', ← opensPath_iff, Bool.not_eq_true]
  rw [hall]
  exact ⟨fun h => ⟨h.ne_empty, h.not_opens⟩, fun h => ⟨h.1, h.2⟩⟩

/-- None of the directories looked for by default can be passed over. -/
theorem importantPaths_unbroken : ∀ path ∈ importantPaths, Unbroken path := by
  simp only [unbroken_iff]
  decide

theorem systemPath?_isSome_iff {env : Environment} {command : String} :
    (systemPath? env command).isSome = true ↔
      ∃ path ∈ env.importantPaths, refersTo command path = true :=
  List.find?_isSome

/-- A path in which no path can begin is found in a command exactly if it stands there between two
boundaries: behind the start, a blank or one of the characters `'"=:(<>`, and in front of the end,
`/`, a blank or one of the characters `'";|&)`.  Where all important paths are such, a command
affects the system exactly if one of them stands in it like that. -/
theorem references_found (command : String) :
    (∀ path, Unbroken path → (refersTo command path = true ↔ Refers command path)) ∧
    ∀ (access : Access) (home : Option String) (env : Environment) (findings : List Finding),
      (∀ path ∈ env.importantPaths, Unbroken path) →
        ((assess access home env command findings).affectsSystem = true ↔
          ∃ path ∈ env.importantPaths, Refers command path) := by
  refine ⟨fun path hpath => refersTo_iff hpath, fun access home env findings hpaths => ?_⟩
  rw [assess_affectsSystem, systemPath?_isSome_iff]
  exact exists_congr fun path => and_congr_right fun hpath => refersTo_iff (hpaths path hpath)

/-- A path that overlaps itself, a directory named first inside another path and then behind `>`,
and directories that are named only as parts of other words. -/
theorem references_found_etc :
    let assessed := assess (.listed false [] []) none .unknown
    Unbroken "/a/a" ∧ refersTo "./a/a/a '/a/a'" "/a/a" = true ∧
    (assessed "cp /tmp/etc >/etc/fstab" []).affectsSystem = true ∧
    (assessed "ls ./etcetera /tmp/usrdata" []).affectsSystem = false ∧
    ¬Refers "ls ./etcetera /tmp/usrdata" "/etc" := by
  intro assessed
  have hoverlap : Unbroken "/a/a" := unbroken_iff.2 (by decide)
  have hquoted : Refers "./a/a/a '/a/a'" "/a/a" :=
    ⟨"./a/a/a '", "'", by decide, by simp [Opens], by simp [Closes]⟩
  have hfstab : Refers "cp /tmp/etc >/etc/fstab" "/etc" :=
    ⟨"cp /tmp/etc >", "/fstab", by decide, by simp [Opens], by simp [Closes]⟩
  have hnone : ∀ path ∈ importantPaths,
      refersTo "ls ./etcetera /tmp/usrdata" path = false := by decide
  have hmissing (path : String) (hpath : path ∈ importantPaths) :
      ¬Refers "ls ./etcetera /tmp/usrdata" path := by
    intro hrefers
    have hfound := ((references_found _).1 path (importantPaths_unbroken path hpath)).2 hrefers
    rw [hnone path hpath] at hfound
    cases hfound
  refine ⟨hoverlap, ((references_found _).1 _ hoverlap).2 hquoted, ?_, ?_, ?_⟩
  · exact ((references_found _).2 _ none .unknown [] importantPaths_unbroken).2
      ⟨"/etc", List.mem_cons_self, hfstab⟩
  · refine Bool.eq_false_iff.2 fun haffects => ?_
    obtain ⟨path, hpath, hrefers⟩ :=
      ((references_found _).2 _ none .unknown [] importantPaths_unbroken).1 haffects
    exact hmissing path hpath hrefers
  · exact hmissing "/etc" List.mem_cons_self

end Assessment

end ShellGuard
