import Mathlib
import ShellGuard.Proofs.Toml.DistinctKeys
import ShellGuard.Settings.Document

/-!
# Layers of settings

Settings come from several documents, of which the later ones win key by key.  A document that
cannot be read counts for nothing, so what matters are the documents that can be, one after the
other; their tables have distinct keys, which is all that the laws of merging ask of a table on its
own.
-/

namespace ShellGuard

open Toml

namespace Settings

theorem foldl_addLayer (files : List (Option String)) (document : Entries) :
    files.foldl addLayer document =
      (files.filterMap (·.bind Toml.parse)).foldl merge document := by
  induction files generalizing document with
  | nil => rfl
  | cons file files ih =>
    rw [List.foldl_cons, ih, List.filterMap_cons, addLayer]
    cases file.bind Toml.parse <;> rfl

/-- The settings of some files are those of the documents among them that can be read. -/
theorem ofLayers?_eq (files : List (Option String)) :
    ofLayers? files = ofEntries? (mergeAll (files.filterMap (·.bind Toml.parse))) := by
  rw [ofLayers?, foldl_addLayer, mergeAll]

theorem ofLayers?_unread {file : Option String} (h : file.bind Toml.parse = none)
    (before after : List (Option String)) :
    ofLayers? (before ++ file :: after) = ofLayers? (before ++ after) := by
  rw [ofLayers?_eq, ofLayers?_eq, List.filterMap_append, List.filterMap_append, List.filterMap_cons,
    h]

theorem distinct_of_mem {files : List (Option String)} {l : Entries}
    (h : l ∈ files.filterMap (·.bind Toml.parse)) : Distinct (table l) := by
  obtain ⟨file, -, hfile⟩ := List.mem_filterMap.1 h
  obtain ⟨text, -, htext⟩ := Option.bind_eq_some_iff.1 hfile
  exact parse_distinct htext

end Settings

namespace Toml

theorem distinct_of_mem_entries {entries : Entries} (hnodup : (keys entries).Nodup)
    (h : ∀ e ∈ entries, Distinct e.2) : Distinct (table entries) :=
  distinct_table hnodup fun k v hv => h (k, v) (mem_of_lookup hv)

theorem agree_of_mem_entries {a b : Entries}
    (h : ∀ e ∈ a, ∀ f ∈ b, e.1 = f.1 → Agree e.2 f.2) : Agree (table a) (table b) :=
  agree_table fun k v w hv hw => h (k, v) (mem_of_lookup hv) (k, w) (mem_of_lookup hw) rfl

theorem agree_of_not_table {v w : Toml} (hv : v.isTable = false) (hw : w.isTable = false) :
    Agree v w := by
  intro path x y hx hy
  cases path with
  | nil => rw [← Option.some.inj hx, ← Option.some.inj hy, hv, hw]
  | cons key path =>
    rw [valueAt_of_not_table hv] at hx
    cases hx

theorem layered_pair {a b : Entries} (ha : Distinct (table a)) (hb : Distinct (table b))
    (hab : Agree (table a) (table b)) : Layered [a, b] where
  distinct := by simp [ha, hb]
  agree := by simp [hab, hab.symm, Agree.refl]

/-- Where the leaf of merged layers comes from: the last layer that has one there. -/
theorem Layered.leafAt_eq_some_iff {layers : List Entries} (h : Layered layers) {path : List String}
    {v : Toml} :
    leafAt (mergeAll layers) path = some v ↔
      ∃ before l after, layers = before ++ l :: after ∧ leafAt l path = some v ∧
        ∀ later ∈ after, leafAt later path = none := by
  rw [h.leafAt_mergeAll, List.findSome?_eq_some_iff]
  constructor
  · rintro ⟨after, l, before, hlayers, hleaf, hnone⟩
    refine ⟨before.reverse, l, after.reverse, ?_, hleaf, by simpa using hnone⟩
    simpa using congrArg List.reverse hlayers
  · rintro ⟨before, l, after, rfl, hleaf, hnone⟩
    exact ⟨after.reverse, l, before.reverse, by simp, hleaf, by simpa using hnone⟩

theorem Layered.leafAt_isSome_iff {layers : List Entries} (h : Layered layers)
    {path : List String} :
    (leafAt (mergeAll layers) path).isSome = true ↔
      ∃ l ∈ layers, (leafAt l path).isSome = true := by
  rw [h.leafAt_mergeAll, List.findSome?_isSome_iff]
  simp

/-- Layers merge key by key and the last one wins: the leaves are those of all layers together, each
with its value in the last layer that has it.  How the layers are grouped does not matter, nor does
it that the last one comes again.  For files this means the documents that can be read, whose tables
have distinct keys; the others might as well not be there. -/
theorem layers_last_wins (layers : List Entries) :
    (Layered layers →
      (∀ path, (leafAt (mergeAll layers) path).isSome = true ↔
        ∃ l ∈ layers, (leafAt l path).isSome = true) ∧
      (∀ path v, leafAt (mergeAll layers) path = some v ↔
        ∃ before l after, layers = before ++ l :: after ∧ leafAt l path = some v ∧
          ∀ later ∈ after, leafAt later path = none) ∧
      (∀ before after, layers = before ++ after →
        mergeAll layers = merge (mergeAll before) (mergeAll after)) ∧
      (∀ a ∈ layers, ∀ b ∈ layers, ∀ c ∈ layers, merge (merge a b) c = merge a (merge b c)) ∧
      (∀ l ∈ layers.getLast?, mergeAll (layers ++ [l]) = mergeAll layers)) ∧
    (∀ files : List (Option String),
      (∀ l ∈ files.filterMap (·.bind Toml.parse), Distinct (table l)) ∧
      Settings.ofLayers? files =
        Settings.ofEntries? (mergeAll (files.filterMap (·.bind Toml.parse)))) ∧
    (∀ before file after, file.bind Toml.parse = none →
      Settings.ofLayers? (before ++ file :: after) = Settings.ofLayers? (before ++ after)) := by
  refine ⟨fun h => ⟨fun path => h.leafAt_isSome_iff, fun path v => h.leafAt_eq_some_iff,
      ?_, ?_, ?_⟩,
    fun files => ⟨fun l => Settings.distinct_of_mem, Settings.ofLayers?_eq files⟩,
    fun before file after hfile => Settings.ofLayers?_unread hfile before after⟩
  · rintro before after rfl
    exact h.mergeAll_append
  · intro a ha b hb c hc
    exact merge_assoc (h.distinct a ha) (h.distinct b hb) (h.distinct c hc) (h.agree a ha b hb)
      (h.agree a ha c hc) (h.agree b hb c hc)
  · intro l hl
    obtain ⟨before, rfl⟩ := List.getLast?_eq_some_iff.1 hl
    exact h.mergeAll_repeat

/-- A second document changes one limit inside a section and adds another one beside it, and the
rest of the section stays. -/
theorem layers_last_wins_limits :
    let base : Entries :=
      [("general", table [("color", boolean true), ("limits", table [("lines", integer 10)])])]
    let user : Entries :=
      [("general", table [("limits", table [("words", integer 5), ("lines", integer 20)])])]
    Layered [base, user] ∧
      leafAt (mergeAll [base, user]) ["general", "limits", "lines"] = some (integer 20) ∧
      leafAt (mergeAll [base, user]) ["general", "color"] = some (boolean true) ∧
      mergeAll [base, user, user] = mergeAll [base, user] := by
  intro base user
  have hbase : Distinct (table base) := by
    refine distinct_of_mem_entries (by decide) (List.forall_mem_singleton.2 ?_)
    refine distinct_of_mem_entries (by decide)
      (List.forall_mem_cons.2 ⟨distinct_of_not_table rfl, ?_⟩)
    refine List.forall_mem_singleton.2 (distinct_of_mem_entries (by decide) ?_)
    exact List.forall_mem_singleton.2 (distinct_of_not_table rfl)
  have huser : Distinct (table user) := by
    refine distinct_of_mem_entries (by decide) (List.forall_mem_singleton.2 ?_)
    refine distinct_of_mem_entries (by decide) (List.forall_mem_singleton.2 ?_)
    refine distinct_of_mem_entries (by decide)
      (List.forall_mem_cons.2 ⟨distinct_of_not_table rfl, ?_⟩)
    exact List.forall_mem_singleton.2 (distinct_of_not_table rfl)
  have hlimits : Agree (table [("lines", integer 10)])
      (table [("words", integer 5), ("lines", integer 20)]) :=
    agree_of_mem_entries (by simpa using agree_of_not_table rfl rfl)
  have hagree : Agree (table base) (table user) := by
    have hgeneral : Agree
        (table [("color", boolean true), ("limits", table [("lines", integer 10)])])
        (table [("limits", table [("words", integer 5), ("lines", integer 20)])]) :=
      agree_of_mem_entries (by simp [hlimits])
    exact agree_of_mem_entries (by simp [base, user, hgeneral])
  have h := layered_pair hbase huser hagree
  obtain ⟨-, hwins, -, -, hrepeat⟩ := (layers_last_wins [base, user]).1 h
  refine ⟨h, (hwins _ _).2 ⟨[base], user, [], rfl, ?_, by simp⟩,
    (hwins _ _).2 ⟨[], base, [user], rfl, ?_, ?_⟩, hrepeat user rfl⟩
  · rfl
  · rfl
  · exact List.forall_mem_singleton.2 rfl

end Toml

end ShellGuard
