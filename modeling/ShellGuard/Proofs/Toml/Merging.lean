import Mathlib
import ShellGuard.Toml.Value

/-!
# Merging tables

What a table holds is told by its keys, in their order, and by what each of them leads to
(`entries_ext`); so one law for the keys of a merged table and one for its look-ups decide every
question about merging.

Layers agree if no path leads to a table in one of them and to something else in another one.  Among
layers that agree, merging is associative and the leaves of later layers cover those of earlier
ones.  Where they do not, neither holds: a value that comes between two tables cuts off the earlier
one, unless the later two are merged first.
-/

namespace ShellGuard.Toml

/-! ## Entries -/

/-- The keys of some entries. -/
def keys {α : Type} (entries : List (String × α)) : List String :=
  entries.map (·.1)

theorem lookup_cons_eq {α : Type} (key : String) (value : α) (entries : List (String × α))
    (k : String) :
    ((key, value) :: entries).lookup k = if k = key then some value else entries.lookup k := by
  rw [List.lookup_cons]
  by_cases hk : k = key
  · rw [if_pos hk, beq_iff_eq.2 hk]
  · rw [if_neg hk, beq_eq_false_iff_ne.2 hk]

theorem lookup_put {α : Type} (key : String) (value : α) (entries : List (String × α))
    (k : String) :
    (put key value entries).lookup k = if k = key then some value else entries.lookup k := by
  induction entries with
  | nil => exact lookup_cons_eq key value [] k
  | cons e entries ih =>
    obtain ⟨key', value'⟩ := e
    rw [put]
    split
    · next h =>
      subst h
      rw [lookup_cons_eq, lookup_cons_eq]
      split <;> rfl
    · next h =>
      rw [lookup_cons_eq, lookup_cons_eq, ih]
      by_cases hk : k = key'
      · rw [if_pos hk, if_neg (hk ▸ h), if_pos hk]
      · rw [if_neg hk, if_neg hk]

theorem keys_put {α : Type} (key : String) (value : α) (entries : List (String × α)) :
    keys (put key value entries) =
      keys entries ++ if key ∈ keys entries then [] else [key] := by
  induction entries with
  | nil => rfl
  | cons e entries ih =>
    obtain ⟨key', value'⟩ := e
    rw [put]
    split
    · next h =>
      subst h
      simp [keys]
    · next h =>
      have hmem : key ∈ keys ((key', value') :: entries) ↔ key ∈ keys entries := by
        simp [keys, Ne.symm h]
      simp only [hmem]
      exact congrArg (key' :: ·) ih

theorem nodup_put {α : Type} {entries : List (String × α)} (h : (keys entries).Nodup) (key : String)
    (value : α) : (keys (put key value entries)).Nodup := by
  rw [keys_put]
  split
  · rwa [List.append_nil]
  · next hkey => exact h.append (List.nodup_singleton key) (by simpa using hkey)

theorem lookup_eq_none_iff {α : Type} {entries : List (String × α)} {k : String} :
    entries.lookup k = none ↔ k ∉ keys entries := by
  rw [List.lookup_eq_none_iff]
  simp only [keys, List.mem_map, bne_iff_ne, not_exists, not_and]
  exact forall_congr' fun e => ⟨fun h he => Ne.symm (h he), fun h he => Ne.symm (h he)⟩

/-- Entries are told by their keys and look-ups. -/
theorem entries_ext {α : Type} {a b : List (String × α)} (hkeys : keys a = keys b)
    (hnodup : (keys a).Nodup) (h : ∀ k, a.lookup k = b.lookup k) : a = b := by
  induction a generalizing b with
  | nil => exact (List.map_eq_nil_iff.1 hkeys.symm).symm
  | cons e a ih =>
    cases b with
    | nil => cases hkeys
    | cons f b =>
      obtain ⟨key, value⟩ := e
      obtain ⟨key', value'⟩ := f
      obtain ⟨hkey, hrest⟩ := List.cons.inj hkeys
      dsimp only at hkey
      subst hkey
      obtain ⟨hfresh, hnodup⟩ := List.nodup_cons.1 hnodup
      have hvalue : value = value' := by simpa [lookup_cons_eq] using h key
      have hlater : a = b := by
        refine ih hrest hnodup fun k => ?_
        by_cases hk : k = key
        · subst hk
          have hfresh' : k ∉ keys b := by rwa [keys, ← hrest]
          rw [lookup_eq_none_iff.2 hfresh, lookup_eq_none_iff.2 hfresh']
        · simpa [lookup_cons_eq, hk] using h k
      rw [hvalue, hlater]

/-! ## Merged entries -/

theorem overlay_none (v : Toml) : overlay none v = v := by
  cases v <;> rfl

theorem merge_cons (a : Entries) (key : String) (value : Toml) (b : Entries) :
    merge a ((key, value) :: b) = merge (put key (overlay (a.lookup key) value) a) b := by
  rw [merge]

theorem merge_nil (a : Entries) : merge a [] = a := by
  rw [merge]

theorem lookup_merge {b : Entries} (h : (keys b).Nodup) (a : Entries) (k : String) :
    (merge a b).lookup k = ((b.lookup k).map (overlay (a.lookup k))).or (a.lookup k) := by
  induction b generalizing a with
  | nil => rw [merge_nil]; rfl
  | cons e b ih =>
    obtain ⟨key, value⟩ := e
    obtain ⟨hfresh, hrest⟩ := List.nodup_cons.1 h
    rw [merge_cons, ih hrest, lookup_put, lookup_cons_eq]
    by_cases hk : k = key
    · subst hk
      rw [lookup_eq_none_iff.2 hfresh, if_pos rfl, if_pos rfl]
      rfl
    · rw [if_neg hk, if_neg hk]

theorem keys_merge {b : Entries} (h : (keys b).Nodup) (a : Entries) :
    keys (merge a b) = keys a ++ (keys b).filter (· ∉ keys a) := by
  induction b generalizing a with
  | nil => rw [merge_nil]; simp [keys]
  | cons e b ih =>
    obtain ⟨key, value⟩ := e
    obtain ⟨hfresh, hrest⟩ := List.nodup_cons.1 h
    have hother : ∀ k ∈ keys b, k ≠ key := fun k hk heq => hfresh (heq ▸ hk)
    rw [merge_cons, ih hrest, keys_put, List.append_assoc]
    congr 1
    change _ = (key :: keys b).filter (· ∉ keys a)
    rw [List.filter_cons]
    by_cases hkey : key ∈ keys a
    · simp [hkey]
    · have hsame : (keys b).filter (· ∉ keys a ++ [key]) = (keys b).filter (· ∉ keys a) := by
        refine List.filter_congr fun k hk => ?_
        simp [hother k hk]
      rw [if_neg hkey, hsame, if_pos (by simpa using hkey)]
      rfl

theorem nodup_merge {a b : Entries} (ha : (keys a).Nodup) (hb : (keys b).Nodup) :
    (keys (merge a b)).Nodup := by
  rw [keys_merge hb]
  refine ha.append (hb.filter _) fun k hk hk' => ?_
  simp [hk] at hk'

/-! ## What a path leads to -/

/-- Whether a value is a table. -/
def isTable : Toml → Bool
  | table _ => true
  | _ => false

/-- What a path of keys leads to. -/
def valueAt : (path : List String) → Toml → Option Toml
  | [], v => some v
  | key :: path, table entries => (entries.lookup key).bind (valueAt path)
  | _ :: _, _ => none

/-- A value as a leaf, which a table is not. -/
def leaf? (v : Toml) : Option Toml :=
  if v.isTable then none else some v

/-- The leaf that a path leads to. -/
def leafAt (entries : Entries) (path : List String) : Option Toml :=
  (valueAt path (table entries)).bind leaf?

/-- No table on any path has a key twice. -/
def Distinct (v : Toml) : Prop :=
  ∀ path entries, valueAt path v = some (table entries) → (keys entries).Nodup

/-- No path leads to a table in one value and to something else in the other. -/
def Agree (a b : Toml) : Prop :=
  ∀ path v w, valueAt path a = some v → valueAt path b = some w → v.isTable = w.isTable

theorem Distinct.nodup {entries : Entries} (h : Distinct (table entries)) : (keys entries).Nodup :=
  h [] entries rfl

theorem Distinct.lookup {entries : Entries} {k : String} {v : Toml} (h : Distinct (table entries))
    (hv : entries.lookup k = some v) : Distinct v := by
  intro path inner hinner
  refine h (k :: path) inner ?_
  rw [valueAt, hv]
  exact hinner

theorem distinct_of_not_table {v : Toml} (h : v.isTable = false) : Distinct v := by
  intro path entries hpath
  cases path with
  | nil =>
    rw [valueAt, Option.some.injEq] at hpath
    rw [hpath] at h
    cases h
  | cons key path => cases v <;> simp [valueAt, isTable] at hpath h

theorem distinct_table {entries : Entries} (hnodup : (keys entries).Nodup)
    (h : ∀ k v, entries.lookup k = some v → Distinct v) : Distinct (table entries) := by
  intro path inner hinner
  cases path with
  | nil =>
    obtain rfl := Toml.table.inj (Option.some.inj hinner)
    exact hnodup
  | cons key path =>
    obtain ⟨v, hv, hpath⟩ := Option.bind_eq_some_iff.1 hinner
    exact h key v hv path inner hpath

theorem Agree.symm {a b : Toml} (h : Agree a b) : Agree b a :=
  fun path v w hv hw => (h path w v hw hv).symm

theorem Agree.refl (a : Toml) : Agree a a := by
  intro path v w hv hw
  rw [Option.some.inj (hv.symm.trans hw)]

theorem Agree.lookup {a b : Entries} {k : String} {v w : Toml} (h : Agree (table a) (table b))
    (hv : a.lookup k = some v) (hw : b.lookup k = some w) : Agree v w := by
  intro path x y hx hy
  refine h (k :: path) x y ?_ ?_
  · rw [valueAt, hv]
    exact hx
  · rw [valueAt, hw]
    exact hy

theorem agree_table {a b : Entries}
    (h : ∀ k v w, a.lookup k = some v → b.lookup k = some w → Agree v w) :
    Agree (table a) (table b) := by
  intro path v w hv hw
  cases path with
  | nil => rw [← Option.some.inj hv, ← Option.some.inj hw, isTable, isTable]
  | cons key path =>
    obtain ⟨x, hx, hv⟩ := Option.bind_eq_some_iff.1 hv
    obtain ⟨y, hy, hw⟩ := Option.bind_eq_some_iff.1 hw
    exact h key x y hx hy path v w hv hw

theorem Agree.isTable {a b : Toml} (h : Agree a b) : a.isTable = b.isTable :=
  h [] a b rfl rfl

theorem exists_table {v : Toml} (h : v.isTable = true) : ∃ entries, v = table entries := by
  cases v with
  | table entries => exact ⟨entries, rfl⟩
  | _ => cases h

theorem isTable_eq_of_leaf? {v w : Toml} (h : leaf? v = leaf? w) : v.isTable = w.isTable := by
  unfold leaf? at h
  cases hv : v.isTable <;> cases hw : w.isTable <;> simp [hv, hw] at h ⊢

/-! ## Paths in merged tables -/

theorem overlay_leaf {v : Toml} (h : v.isTable = false) (current : Option Toml) :
    overlay current v = v := by
  cases v with
  | table entries => cases h
  | _ => rw [overlay]; simp

theorem overlay_tables (a b : Entries) :
    overlay (some (table a)) (table b) = table (merge a b) := by
  rw [overlay]

/-- Values that agree are two leaves or two tables. -/
theorem Agree.leaves_or_tables {v w : Toml} (h : Agree v w) :
    (v.isTable = false ∧ w.isTable = false) ∨ ∃ a b, v = table a ∧ w = table b := by
  cases hw : w.isTable with
  | false => exact .inl ⟨h.isTable.trans hw, rfl⟩
  | true =>
    obtain ⟨b, rfl⟩ := exists_table hw
    obtain ⟨a, rfl⟩ := exists_table (h.isTable.trans hw)
    exact .inr ⟨a, b, rfl, rfl⟩

theorem valueAt_of_not_table {v : Toml} (h : v.isTable = false) (key : String)
    (path : List String) : valueAt (key :: path) v = none := by
  cases v with
  | table entries => cases h
  | _ => rfl

/-- A path leads where it leads in the later table, or else where it leads in the earlier one.
Tables themselves are not compared. -/
theorem valueAt_merge {a b : Entries} (hb : Distinct (table b)) (hab : Agree (table a) (table b))
    (path : List String) :
    (valueAt path (table (merge a b))).map leaf? =
      ((valueAt path (table b)).map leaf?).or ((valueAt path (table a)).map leaf?) := by
  induction path generalizing a b with
  | nil => rfl
  | cons key path ih =>
    simp only [valueAt]
    rw [lookup_merge hb.nodup]
    cases hv : b.lookup key with
    | none => rfl
    | some v =>
      simp only [Option.map_some, Option.some_or, Option.bind_some]
      cases hw : a.lookup key with
      | none =>
        rw [overlay_none]
        exact (Option.or_none).symm
      | some w =>
        rcases (hab.lookup hw hv).leaves_or_tables with ⟨hwleaf, hvleaf⟩ | ⟨x, y, rfl, rfl⟩
        · rw [overlay_leaf hvleaf, Option.bind_some]
          cases path with
          | nil => rfl
          | cons key path =>
            rw [valueAt_of_not_table hvleaf, valueAt_of_not_table hwleaf]
            rfl
        · rw [overlay_tables]
          exact ih (hb.lookup hv) (hab.lookup hw hv)

theorem leafAt_merge {a b : Entries} (hb : Distinct (table b)) (hab : Agree (table a) (table b))
    (path : List String) : leafAt (merge a b) path = (leafAt b path).or (leafAt a path) := by
  have hjoin (e : Entries) : leafAt e path = ((valueAt path (table e)).map leaf?).join := by
    rw [leafAt]
    cases valueAt path (table e) <;> rfl
  rw [hjoin, hjoin, hjoin, valueAt_merge hb hab]
  cases hw : valueAt path (table b) with
  | none => rfl
  | some w =>
    cases hv : valueAt path (table a) with
    | none => simp
    | some v =>
      have hsame := hab path v w hv hw
      cases hleaf : w.isTable <;> simp [leaf?, hsame, hleaf]

theorem distinct_merge {a b : Entries} (ha : Distinct (table a)) (hb : Distinct (table b)) :
    Distinct (table (merge a b)) := by
  intro path
  induction path generalizing a b with
  | nil =>
    intro entries h
    obtain rfl := Toml.table.inj (Option.some.inj h)
    exact nodup_merge ha.nodup hb.nodup
  | cons key path ih =>
    intro entries h
    rw [valueAt, lookup_merge hb.nodup] at h
    cases hw : b.lookup key with
    | none =>
      rw [hw] at h
      exact ha (key :: path) entries h
    | some w =>
      rw [hw] at h
      simp only [Option.map_some, Option.some_or, Option.bind_some] at h
      have hdistinct := hb.lookup hw
      cases hleaf : w.isTable with
      | false => exact hdistinct path entries (overlay_leaf hleaf _ ▸ h)
      | true =>
        obtain ⟨y, rfl⟩ := exists_table hleaf
        cases hv : a.lookup key with
        | none => exact hdistinct path entries (by rwa [hv, overlay_none] at h)
        | some v =>
          rw [hv] at h
          cases v with
          | table x => exact ih (ha.lookup hv) hdistinct entries (by rwa [overlay_tables] at h)
          | _ =>
            rw [overlay] at h
            · exact hdistinct path entries h
            · simp

theorem agree_merge {a b c : Entries} (hb : Distinct (table b)) (hab : Agree (table a) (table b))
    (hac : Agree (table a) (table c)) (hbc : Agree (table b) (table c)) :
    Agree (table (merge a b)) (table c) := by
  intro path v w hv hw
  have hsource := valueAt_merge hb hab path
  rw [hv] at hsource
  cases hx : valueAt path (table b) with
  | some x =>
    rw [hx] at hsource
    rw [isTable_eq_of_leaf? (Option.some.inj hsource)]
    exact hbc path x w hx hw
  | none =>
    rw [hx] at hsource
    obtain ⟨x, hx, hleaf⟩ := Option.map_eq_some_iff.1 hsource.symm
    rw [← isTable_eq_of_leaf? hleaf]
    exact hac path x w hx hw

/-! ## Laws of merging -/

theorem sizeOf_lookup_lt {entries inner : Entries} {k : String}
    (h : entries.lookup k = some (table inner)) : sizeOf inner < sizeOf entries := by
  induction entries with
  | nil => cases h
  | cons e entries ih =>
    obtain ⟨key, value⟩ := e
    rw [lookup_cons_eq] at h
    split at h
    · obtain rfl := Option.some.inj h
      simp
      omega
    · have := ih h
      simp
      omega

theorem overlay_assoc {x : Option Toml} {v w : Toml} (hvw : Agree v w)
    (hx : ∀ u ∈ x, Agree u v)
    (h : ∀ a b c, x = some (table a) → v = table b → w = table c →
      merge (merge a b) c = merge a (merge b c)) :
    overlay (some (overlay x v)) w = overlay x (overlay (some v) w) := by
  rcases hvw.leaves_or_tables with ⟨-, hleaf⟩ | ⟨b, c, rfl, rfl⟩
  · rw [overlay_leaf hleaf, overlay_leaf hleaf, overlay_leaf hleaf]
  · rw [overlay_tables]
    cases x with
    | none => rw [overlay_none, overlay_none, overlay_tables]
    | some u =>
      obtain ⟨a, rfl⟩ := exists_table ((hx u rfl).isTable.trans rfl)
      rw [overlay_tables, overlay_tables, overlay_tables, h a b c rfl rfl rfl]

/-- The order of keys does not depend on what is merged first. -/
theorem keys_merge_assoc {b c : Entries} (hb : (keys b).Nodup) (hc : (keys c).Nodup) (a : Entries) :
    keys (merge (merge a b) c) = keys (merge a (merge b c)) := by
  rw [keys_merge hc, keys_merge hb, keys_merge (nodup_merge hb hc), keys_merge hc,
    List.filter_append, List.append_assoc, List.filter_filter]
  congr 2
  refine List.filter_congr fun k _ => ?_
  by_cases hk : k ∈ keys a <;> simp [hk]

theorem merge_assoc {a b c : Entries} (ha : Distinct (table a)) (hb : Distinct (table b))
    (hc : Distinct (table c)) (hab : Agree (table a) (table b)) (hac : Agree (table a) (table c))
    (hbc : Agree (table b) (table c)) : merge (merge a b) c = merge a (merge b c) := by
  -- the tables below a key are smaller, and they agree again
  induction hn : sizeOf c using Nat.strongRecOn generalizing a b c with
  | _ n ih =>
    subst hn
    have hnodup := nodup_merge hb.nodup hc.nodup
    refine entries_ext (keys_merge_assoc hb.nodup hc.nodup a)
      (nodup_merge (nodup_merge ha.nodup hb.nodup) hc.nodup) fun k => ?_
    rw [lookup_merge hc.nodup, lookup_merge hb.nodup, lookup_merge hnodup, lookup_merge hc.nodup]
    cases hw : c.lookup k with
    | none => rfl
    | some w =>
      cases hv : b.lookup k with
      | none => simp [overlay_none]
      | some v =>
        have hassoc := overlay_assoc (x := a.lookup k) (hbc.lookup hv hw)
          (fun u hu => hab.lookup hu hv) ?_
        · simpa using hassoc
        · rintro x y z hx rfl rfl
          exact ih _ (sizeOf_lookup_lt hw) (ha.lookup hx) (hb.lookup hv) (hc.lookup hw)
            (hab.lookup hx hv) (hac.lookup hx hw) (hbc.lookup hv hw) rfl

theorem merge_self {a : Entries} (h : Distinct (table a)) : merge a a = a := by
  induction hn : sizeOf a using Nat.strongRecOn generalizing a with
  | _ n ih =>
    subst hn
    have hkeys : keys (merge a a) = keys a := by
      rw [keys_merge h.nodup, List.filter_eq_nil_iff.2 (by simp), List.append_nil]
    refine entries_ext hkeys (hkeys ▸ h.nodup) fun k => ?_
    rw [lookup_merge h.nodup]
    cases hv : a.lookup k with
    | none => rfl
    | some v =>
      cases hleaf : v.isTable with
      | false => simp [overlay_leaf hleaf]
      | true =>
        obtain ⟨x, rfl⟩ := exists_table hleaf
        simp [overlay_tables, ih _ (sizeOf_lookup_lt hv) (h.lookup hv) rfl]

/-! ## Layers -/

/-- Tables merged one after the other, the later ones over the earlier ones. -/
def mergeAll (layers : List Entries) : Entries :=
  layers.foldl merge []

/-- Tables that can be layers of one another. -/
structure Layered (layers : List Entries) : Prop where
  distinct : ∀ l ∈ layers, Distinct (table l)
  agree : ∀ a ∈ layers, ∀ b ∈ layers, Agree (table a) (table b)

theorem mergeAll_concat (layers : List Entries) (l : Entries) :
    mergeAll (layers ++ [l]) = merge (mergeAll layers) l := by
  rw [mergeAll, List.foldl_append]
  rfl

theorem Layered.mono {layers layers' : List Entries} (h : Layered layers)
    (hsub : layers' ⊆ layers) : Layered layers' where
  distinct l hl := h.distinct l (hsub hl)
  agree a ha b hb := h.agree a (hsub ha) b (hsub hb)

theorem agree_nil (a : Entries) : Agree (table []) (table a) :=
  agree_table (by simp)

theorem distinct_nil : Distinct (table []) :=
  distinct_table List.nodup_nil (by simp)

namespace Layered

theorem distinct_mergeAll {layers : List Entries} (h : Layered layers) :
    Distinct (table (mergeAll layers)) := by
  induction layers using List.reverseRecOn with
  | nil => exact distinct_nil
  | append_singleton layers l ih =>
    rw [mergeAll_concat]
    exact distinct_merge (ih (h.mono (by simp))) (h.distinct l (by simp))

theorem agree_mergeAll {layers : List Entries} {c : Entries} (h : Layered layers)
    (hc : ∀ l ∈ layers, Agree (table l) (table c)) : Agree (table (mergeAll layers)) (table c) := by
  induction layers using List.reverseRecOn generalizing c with
  | nil => exact agree_nil c
  | append_singleton layers l ih =>
    have hbefore : Layered layers := h.mono (by simp)
    rw [mergeAll_concat]
    refine agree_merge (h.distinct l (by simp)) (ih hbefore fun a ha => ?_)
      (ih hbefore fun a ha => hc a (by simp [ha])) (hc l (by simp))
    exact h.agree a (by simp [ha]) l (by simp)

theorem leafAt_mergeAll {layers : List Entries} (h : Layered layers) (path : List String) :
    leafAt (mergeAll layers) path = layers.reverse.findSome? (leafAt · path) := by
  induction layers using List.reverseRecOn with
  | nil =>
    cases path with
    | nil => rfl
    | cons key path => rfl
  | append_singleton layers l ih =>
    have hbefore : Layered layers := h.mono (by simp)
    have hagree : Agree (table (mergeAll layers)) (table l) :=
      hbefore.agree_mergeAll fun a ha => h.agree a (by simp [ha]) l (by simp)
    rw [mergeAll_concat, leafAt_merge (h.distinct l (by simp)) hagree, ih hbefore,
      List.reverse_append, List.reverse_singleton, List.singleton_append, List.findSome?_cons]
    cases leafAt l path <;> rfl

/-- Layers can be merged in groups. -/
theorem mergeAll_append {before after : List Entries} (h : Layered (before ++ after)) :
    mergeAll (before ++ after) = merge (mergeAll before) (mergeAll after) := by
  induction after using List.reverseRecOn with
  | nil => rw [List.append_nil, show mergeAll [] = [] from rfl, merge_nil]
  | append_singleton after l ih =>
    have hfront : Layered (before ++ after) := h.mono (by simp)
    have hbefore : Layered before := h.mono (by simp)
    have hafter : Layered after := h.mono (by simp)
    have hlast (a : Entries) (ha : a ∈ before ++ after) : Agree (table a) (table l) :=
      h.agree a (by rw [← List.append_assoc]; exact List.mem_append_left _ ha) l (by simp)
    have hgroups : Agree (table (mergeAll before)) (table (mergeAll after)) := by
      refine hbefore.agree_mergeAll fun a ha => ?_
      refine (hafter.agree_mergeAll fun b hb => ?_).symm
      exact h.agree b (by simp [hb]) a (by simp [ha])
    rw [← List.append_assoc, mergeAll_concat, ih hfront, mergeAll_concat]
    exact merge_assoc hbefore.distinct_mergeAll hafter.distinct_mergeAll (h.distinct l (by simp))
      hgroups (hbefore.agree_mergeAll fun a ha => hlast a (by simp [ha]))
      (hafter.agree_mergeAll fun a ha => hlast a (by simp [ha]))

/-- Merging the last layer once more changes nothing. -/
theorem mergeAll_repeat {layers : List Entries} {l : Entries} (h : Layered (layers ++ [l])) :
    mergeAll (layers ++ [l] ++ [l]) = mergeAll (layers ++ [l]) := by
  have hdistinct : Distinct (table l) := h.distinct l (by simp)
  have hbefore : Layered layers := h.mono (by simp)
  have hagree : Agree (table (mergeAll layers)) (table l) :=
    hbefore.agree_mergeAll fun a ha => h.agree a (by simp [ha]) l (by simp)
  rw [mergeAll_concat, mergeAll_concat,
    merge_assoc hbefore.distinct_mergeAll hdistinct hdistinct hagree hagree (.refl _),
    merge_self hdistinct]

end Layered

end ShellGuard.Toml
