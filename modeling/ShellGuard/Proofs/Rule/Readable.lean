import Mathlib
import ShellGuard.Proofs.Pattern.Memory
import ShellGuard.Risk.Assessment
import ShellGuard.Rule.Builtin
import ShellGuard.Rule.Ci

/-!
Every pattern that is part of the program can be read.  A rule is made from a text, and a text that
writes no pattern would leave its rule out without a word; the same text in a check would make the
check find nothing.  Neither happens: the rules are the definitions one by one, and each check has
its pattern.
-/

namespace ShellGuard

/-- Where every element gives something, picking out what is given leaves nothing out. -/
theorem map_eq_map_some_filterMap {α β : Type} {f : α → Option β} {l : List α}
    (h : ∀ a ∈ l, (f a).isSome = true) : l.map f = (l.filterMap f).map some := by
  rw [List.map_filterMap_some_eq_filter_map_isSome, List.filter_eq_self.mpr]
  intro o ho
  obtain ⟨a, ha, rfl⟩ := List.mem_map.mp ho
  exact h a ha

theorem RuleDefinition.compile?_isSome {d : RuleDefinition}
    (h : Pattern.readsModest d.source = true) : d.compile?.isSome = true := by
  rw [compile?, Option.isSome_map]
  exact Pattern.ofText?_isSome_of_readsModest h

/-- Definitions whose texts can be read all become rules. -/
theorem RuleDefinition.map_compile? {ds : List RuleDefinition}
    (h : ∀ d ∈ ds, Pattern.readsModest d.source = true) :
    ds.map compile? = (ds.filterMap compile?).map some :=
  map_eq_map_some_filterMap fun d hd => compile?_isSome (h d hd)

/-- All texts of patterns can be read.  They are looked at one after another; where case does not
count, every letter has the whole table of cases behind it. -/
theorem texts_read :
    (∀ d ∈ Builtin.definitions, Pattern.readsModest d.source = true) ∧
      (∀ d ∈ Ci.jobDefinitions, Pattern.readsModest d.source = true) ∧
      (∀ text ∈ Ci.secretSources, Pattern.readsModest text = true) := by
  simp only [Builtin.definitions, Ci.jobDefinitions, Ci.secretSources, List.forall_mem_cons,
    List.not_mem_nil, false_implies, implies_true, and_true]
  and_intros <;> decide +kernel

/-- Every built-in definition is a built-in rule, in the same order. -/
theorem Builtin.map_compile?_definitions :
    definitions.map RuleDefinition.compile? = rules.map some :=
  RuleDefinition.map_compile? texts_read.1

namespace Ci

/-- Every definition for jobs is a rule for jobs, in the same order. -/
theorem map_compile?_jobDefinitions :
    jobDefinitions.map RuleDefinition.compile? = jobRules.map some :=
  RuleDefinition.map_compile? texts_read.2.1

/-- Every text that looks like a secret is looked for. -/
theorem map_ofText?_secretSources : secretSources.map Pattern.ofText? = secrets.map some :=
  map_eq_map_some_filterMap fun text htext =>
    Pattern.ofText?_isSome_of_readsModest (texts_read.2.2 text htext)

end Ci

/-- Every check that looks for a single pattern has it. -/
theorem checks_have_patterns :
    Ci.printedVariable.isSome = true ∧ Ci.environmentDump.isSome = true ∧
      Requirement.rootVerbs.isSome = true ∧ Requirement.writeVerbs.isSome = true ∧
      Assessment.elevation.isSome = true := by
  and_intros <;> exact Pattern.ofText?_isSome_of_readsModest (by decide +kernel)

end ShellGuard
