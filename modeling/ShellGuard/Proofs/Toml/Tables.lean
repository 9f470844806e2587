import Mathlib
import ShellGuard.Toml.Document

/-!
# Documents of plain settings and of one array of tables

The lines of a document are worked into a draft one by one.  Settings of distinct keys end up in the
open table in their order, and headers of one array of tables collect the tables that follow them;
so a document whose lines were laid out from entries has these entries.
-/

namespace ShellGuard.Toml

/-! ## Entries of the open table -/

/-- Finished entries as entries of a table that is being built. -/
def valueNodes (entries : Entries) : Nodes :=
  entries.map fun e => (e.1, .value e.2)

/-- The lines that set entries. -/
def settingLines (entries : Entries) : List Line :=
  entries.map fun e => .setting ⟨[e.1], e.2⟩

@[simp] theorem finishEntries_valueNodes (entries : Entries) :
    finishEntries (valueNodes entries) = entries := by
  induction entries with
  | nil => rfl
  | cons e entries ih => exact congrArg (e :: ·) ih

theorem put_fresh {α : Type} {key : String} {entries : List (String × α)}
    (h : key ∉ entries.map (·.1)) (value : α) :
    put key value entries = entries ++ [(key, value)] := by
  induction entries with
  | nil => rfl
  | cons e entries ih =>
    have hkey : e.1 ≠ key := fun heq => h (by simp [heq])
    have hrest : key ∉ entries.map (·.1) := fun hmem => h (List.mem_cons_of_mem _ hmem)
    rw [put, if_neg hkey, ih hrest, List.cons_append]

theorem lookup_fresh {α : Type} {key : String} {entries : List (String × α)}
    (h : key ∉ entries.map (·.1)) : entries.lookup key = none := by
  rw [List.lookup_eq_none_iff]
  intro e he
  have hne : e.1 ≠ key := fun heq => h (heq ▸ List.mem_map_of_mem he)
  simpa using hne.symm

theorem assign_fresh {key : String} {v : Toml} {nodes : Nodes} (h : key ∉ nodes.map (·.1)) :
    assign ⟨[key], v⟩ nodes = some (nodes ++ [(key, .value v)]) := by
  simp [assign, splitLast, descend, lookup_fresh h, put_fresh h]

/-- Settings of distinct keys, none of which the open table has, are added to it. -/
theorem foldlM_settings (d : Draft) {entries : Entries} (hkeys : (entries.map (·.1)).Nodup)
    (hnew : ∀ key ∈ entries.map (·.1), key ∉ d.current.map (·.1)) :
    (settingLines entries).foldlM Draft.step d =
      some { d with current := d.current ++ valueNodes entries } := by
  induction entries generalizing d with
  | nil => simp [settingLines, valueNodes]
  | cons e entries ih =>
    rw [List.map_cons, List.nodup_cons] at hkeys
    have hstep : d.step (.setting ⟨[e.1], e.2⟩) =
        some { d with current := d.current ++ [(e.1, .value e.2)] } := by
      rw [Draft.step, assign_fresh (hnew e.1 (by simp))]
      rfl
    have hrest : ∀ key ∈ entries.map (·.1),
        key ∉ (d.current ++ [(e.1, Node.value e.2)]).map (·.1) := by
      intro key hkey hmem
      rw [List.map_append, List.mem_append, List.map_singleton, List.mem_singleton] at hmem
      rcases hmem with hmem | rfl
      · exact hnew key (List.mem_cons_of_mem _ hkey) hmem
      · exact hkeys.1 hkey
    have hlater := ih { d with current := d.current ++ [(e.1, .value e.2)] } hkeys.2 hrest
    rw [settingLines, List.map_cons, List.foldlM_cons, hstep]
    simpa [settingLines, valueNodes] using hlater

/-! ## Arrays of tables -/

/-- The lines of a table in the array of tables at `key`. -/
def itemLines (key : String) (entries : Entries) : List Line :=
  .item [key] :: settingLines entries

/-- A document with nothing but the array of tables at `key`, which is not there before it has an
item. -/
def arrayNodes (key : String) (tables : List Entries) : Nodes :=
  if tables.isEmpty then [] else [(key, .tables (tables.map valueNodes))]

theorem settle_item (key : String) (tables : List Entries) (entries : Entries) :
    Draft.settle ⟨arrayNodes key tables, [key], true, valueNodes entries⟩ =
      some (arrayNodes key (tables ++ [entries])) := by
  cases tables with
  | nil => simp [Draft.settle, splitLast, descend, arrayNodes, put]
  | cons t tables => simp [Draft.settle, splitLast, descend, arrayNodes, put]

theorem step_item {d : Draft} {key : String} {tables : List Entries}
    (h : d.settle = some (arrayNodes key tables)) :
    d.step (.item [key]) = some ⟨arrayNodes key tables, [key], true, []⟩ := by
  have hextend : mayExtend key (arrayNodes key tables) = true := by
    cases tables <;> simp [mayExtend, arrayNodes]
  simp [Draft.step, h, splitLast, reach, hextend]

/-- A header and the settings under it add one table to the array. -/
theorem foldlM_item {d : Draft} {key : String} {tables : List Entries} {entries : Entries}
    (h : d.settle = some (arrayNodes key tables)) (hkeys : (entries.map (·.1)).Nodup) :
    ∃ d', (itemLines key entries).foldlM Draft.step d = some d' ∧
      d'.settle = some (arrayNodes key (tables ++ [entries])) := by
  refine ⟨⟨arrayNodes key tables, [key], true, valueNodes entries⟩, ?_, settle_item key tables _⟩
  have hsettings := foldlM_settings ⟨arrayNodes key tables, [key], true, []⟩ hkeys (by simp)
  rw [itemLines, List.foldlM_cons, step_item h]
  exact hsettings

theorem foldlM_items {d : Draft} {key : String} {tables more : List Entries}
    (h : d.settle = some (arrayNodes key tables))
    (hkeys : ∀ entries ∈ more, (entries.map (·.1)).Nodup) :
    ∃ d', (more.flatMap (itemLines key)).foldlM Draft.step d = some d' ∧
      d'.settle = some (arrayNodes key (tables ++ more)) := by
  induction more generalizing d tables with
  | nil => exact ⟨d, rfl, by rwa [List.append_nil]⟩
  | cons entries more ih =>
    obtain ⟨d₁, hfold, hsettle⟩ := foldlM_item h (hkeys entries (by simp))
    obtain ⟨d₂, hfolds, hsettles⟩ := ih hsettle fun e he => hkeys e (List.mem_cons_of_mem _ he)
    refine ⟨d₂, ?_, by simpa using hsettles⟩
    rw [List.flatMap_cons, List.foldlM_append, hfold]
    exact hfolds

/-! ## Values that stand for themselves -/

/-- A value in which no table stands for a date-time. -/
def Resolved (v : Toml) : Prop :=
  resolve? v = some v

theorem resolved_string (s : String) : Resolved (string s) := by
  rw [Resolved, resolve?]
  · simp
  · simp
  · simp

theorem resolved_boolean (b : Bool) : Resolved (boolean b) := by
  rw [Resolved, resolve?]
  · simp
  · simp
  · simp

theorem resolveEntries?_of_resolved {entries : Entries} (h : ∀ e ∈ entries, Resolved e.2) :
    resolveEntries? entries = some entries := by
  induction entries with
  | nil => rfl
  | cons e entries ih =>
    have he : resolve? e.2 = some e.2 := h e (by simp)
    simp [resolveEntries?, he, ih fun f hf => h f (List.mem_cons_of_mem _ hf)]

theorem resolved_array {items : List Toml} (h : ∀ v ∈ items, Resolved v) :
    Resolved (array items) := by
  have hitems : resolveItems? items = some items := by
    induction items with
    | nil => rfl
    | cons v items ih =>
      have hv : resolve? v = some v := h v (by simp)
      simp [resolveItems?, hv, ih fun w hw => h w (List.mem_cons_of_mem _ hw)]
  rw [Resolved, resolve?, hitems]
  rfl

theorem resolved_table {key : String} {v : Toml} {rest : Entries} (hkey : key ≠ momentKey)
    (h : ∀ e ∈ (key, v) :: rest, Resolved e.2) : Resolved (table ((key, v) :: rest)) := by
  have hv : resolve? v = some v := h (key, v) (by simp)
  have hrest := resolveEntries?_of_resolved fun e he => h e (List.mem_cons_of_mem _ he)
  simp [Resolved, resolve?, hkey, hv, hrest]

/-! ## Documents -/

/-- The entries of a document that opens no table. -/
theorem document?_settings {entries : Entries} (hkeys : (entries.map (·.1)).Nodup)
    (hresolved : ∀ e ∈ entries, Resolved e.2) :
    document? (settingLines entries) = some entries := by
  have hfold := foldlM_settings ⟨[], [], false, []⟩ hkeys (by simp)
  rw [document?, hfold]
  simp [Draft.settle, splitLast, resolveEntries?_of_resolved hresolved]

/-- The entries of a document that is one array of tables. -/
theorem document?_items (key : String) {tables : List Entries} (hne : tables ≠ [])
    (hkeys : ∀ entries ∈ tables, (entries.map (·.1)).Nodup)
    (hresolved : ∀ entries ∈ tables, Resolved (table entries)) :
    document? (tables.flatMap (itemLines key)) = some [(key, array (tables.map table))] := by
  have hstart : Draft.settle ⟨[], [], false, []⟩ = some (arrayNodes key []) := rfl
  obtain ⟨d, hfold, hsettle⟩ := foldlM_items hstart hkeys
  have hitems : finishItems (tables.map valueNodes) = tables.map table := by
    clear hne hkeys hresolved hfold hsettle
    induction tables with
    | nil => rfl
    | cons t tables ih => simp [finishItems, ih]
  have hall : ∀ v ∈ tables.map table, Resolved v := by
    intro v hv
    obtain ⟨t, ht, rfl⟩ := List.mem_map.1 hv
    exact hresolved t ht
  have hdocument : arrayNodes key tables = [(key, .tables (tables.map valueNodes))] :=
    if_neg (by simpa using hne)
  have hfinish : finishEntries (arrayNodes key tables) = [(key, array (tables.map table))] := by
    rw [hdocument, finishEntries, Node.finish, hitems]
    rfl
  have hdone : resolveEntries? [(key, array (tables.map table))] =
      some [(key, array (tables.map table))] :=
    resolveEntries?_of_resolved (by simpa using resolved_array hall)
  rw [List.nil_append] at hsettle
  simp [document?, hfold, hsettle, hfinish, hdone]

end ShellGuard.Toml
