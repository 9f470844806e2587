import Mathlib
import ShellGuard.Proofs.Toml.Merging
import ShellGuard.Toml.Reader

/-!
# Documents have distinct keys

Every table of a document that can be read has each of its keys once.  While a document is put
together, tables are only changed by `put`, which keeps keys distinct, at the end of a path that
`descend` walks; so one lemma about `descend` carries the invariant through every line.
-/

namespace ShellGuard.Toml

/-! ## Tables that are being built -/

/-- A node in which no table has a key twice, arrays of tables included. -/
inductive Node.Sound : Node → Prop
  | value {v : Toml} (h : v.Distinct) : Sound (.value v)
  | table {origin : Origin} {entries : Nodes} (nodup : (keys entries).Nodup)
    (inner : ∀ e ∈ entries, Sound e.2) : Sound (.table origin entries)
  | tables {items : List Nodes} (nodup : ∀ entries ∈ items, (keys entries).Nodup)
    (inner : ∀ entries ∈ items, ∀ e ∈ entries, Sound e.2) : Sound (.tables items)

/-- Entries of a sound table. -/
structure SoundNodes (nodes : Nodes) : Prop where
  nodup : (keys nodes).Nodup
  inner : ∀ e ∈ nodes, e.2.Sound

theorem soundNodes_nil : SoundNodes [] :=
  ⟨List.nodup_nil, by simp⟩

theorem mem_put {α : Type} {key : String} {value : α} {entries : List (String × α)}
    {e : String × α} (h : e ∈ put key value entries) : e.2 = value ∨ e ∈ entries := by
  induction entries with
  | nil => exact .inl (by rw [List.mem_singleton.1 h])
  | cons f entries ih =>
    rw [put] at h
    split at h
    · rcases List.mem_cons.1 h with rfl | h
      · exact .inl rfl
      · exact .inr (List.mem_cons_of_mem _ h)
    · rcases List.mem_cons.1 h with rfl | h
      · exact .inr List.mem_cons_self
      · exact (ih h).imp_right (List.mem_cons_of_mem _)

theorem mem_of_lookup {α : Type} {entries : List (String × α)} {key : String} {value : α}
    (h : entries.lookup key = some value) : (key, value) ∈ entries := by
  obtain ⟨l₁, l₂, rfl, -⟩ := List.lookup_eq_some_iff.1 h
  simp

namespace SoundNodes

theorem put {nodes : Nodes} {n : Node} (h : SoundNodes nodes) (hn : n.Sound) (key : String) :
    SoundNodes (put key n nodes) where
  nodup := nodup_put h.nodup key n
  inner e he := by
    rcases mem_put he with hvalue | hmem
    · rwa [hvalue]
    · exact h.inner e hmem

theorem lookup {nodes : Nodes} {key : String} {n : Node} (h : SoundNodes nodes)
    (hn : nodes.lookup key = some n) : n.Sound :=
  h.inner _ (mem_of_lookup hn)

theorem of_table {origin : Origin} {entries : Nodes} (h : (Node.table origin entries).Sound) :
    SoundNodes entries := by
  cases h with
  | table nodup inner => exact ⟨nodup, inner⟩

theorem of_tables {items : List Nodes} (h : (Node.tables items).Sound) :
    ∀ entries ∈ items, SoundNodes entries := by
  cases h with
  | tables nodup inner => exact fun entries he => ⟨nodup entries he, inner entries he⟩

theorem table {entries : Nodes} (h : SoundNodes entries) (origin : Origin) :
    (Node.table origin entries).Sound :=
  .table h.nodup h.inner

end SoundNodes

theorem sound_tables {items : List Nodes} (h : ∀ entries ∈ items, SoundNodes entries) :
    (Node.tables items).Sound :=
  .tables (fun entries he => (h entries he).nodup) fun entries he => (h entries he).inner

/-- A change that keeps tables sound keeps them so at the end of a path. -/
theorem descend_sound {dotted : Bool} {change : Origin → Nodes → Option Nodes}
    (hchange : ∀ origin nodes nodes', SoundNodes nodes → change origin nodes = some nodes' →
      SoundNodes nodes')
    {path : List String} {origin : Origin} {nodes nodes' : Nodes} (hnodes : SoundNodes nodes)
    (h : descend dotted change path origin nodes = some nodes') : SoundNodes nodes' := by
  induction path generalizing origin nodes nodes' with
  | nil => exact hchange origin nodes nodes' hnodes h
  | cons key path ih =>
    rw [descend] at h
    split at h
    · obtain ⟨entries, hentries, hdone⟩ := Option.bind_eq_some_iff.1 h
      obtain rfl := Option.some.inj hdone
      exact hnodes.put ((ih soundNodes_nil hentries).table _) key
    · cases h
    · next origin entries hlookup =>
      obtain ⟨-, -, h⟩ := Option.bind_eq_some_iff.1 h
      obtain ⟨entries', hentries, hdone⟩ := Option.bind_eq_some_iff.1 h
      obtain rfl := Option.some.inj hdone
      exact hnodes.put ((ih (.of_table (hnodes.lookup hlookup)) hentries).table _) key
    · next items hlookup =>
      have hitems := SoundNodes.of_tables (hnodes.lookup hlookup)
      split at h
      · cases h
      · next entries hlast =>
        obtain ⟨entries', hentries, hdone⟩ := Option.bind_eq_some_iff.1 h
        obtain rfl := Option.some.inj hdone
        refine hnodes.put (sound_tables fun item hitem => ?_) key
        rcases List.mem_append.1 hitem with hitem | hitem
        · exact hitems item ((List.dropLast_sublist items).subset hitem)
        · rw [List.mem_singleton.1 hitem]
          exact ih (hitems entries (List.mem_of_getLast? hlast)) hentries

theorem assign_sound {s : Setting} {nodes nodes' : Nodes} (hs : s.value.Distinct)
    (hnodes : SoundNodes nodes) (h : assign s nodes = some nodes') : SoundNodes nodes' := by
  obtain ⟨⟨path, key⟩, -, h⟩ := Option.bind_eq_some_iff.1 h
  refine descend_sound (fun origin entries entries' hentries hadd => ?_) hnodes h
  obtain ⟨-, -, hadd⟩ := Option.bind_eq_some_iff.1 hadd
  obtain ⟨-, -, hadd⟩ := Option.bind_eq_some_iff.1 hadd
  obtain rfl := Option.some.inj hadd
  exact hentries.put (.value hs) key

/-! ## Finished tables -/

theorem finishEntries_eq (nodes : Nodes) :
    finishEntries nodes = nodes.map fun e => (e.1, e.2.finish) := by
  induction nodes with
  | nil => rfl
  | cons e nodes ih =>
    rw [finishEntries, ih]
    rfl

theorem distinct_finishEntries {nodes : Nodes} (h : SoundNodes nodes) :
    Distinct (table (finishEntries nodes)) := by
  intro path
  induction path generalizing nodes with
  | nil =>
    intro entries hentries
    obtain rfl := Toml.table.inj (Option.some.inj hentries)
    have hkeys : keys (finishEntries nodes) = keys nodes := by
      rw [finishEntries_eq, keys, List.map_map]
      rfl
    rw [hkeys]
    exact h.nodup
  | cons key path ih =>
    intro entries hentries
    obtain ⟨v, hv, hpath⟩ := Option.bind_eq_some_iff.1 hentries
    have hmem := mem_of_lookup hv
    rw [finishEntries_eq, List.mem_map] at hmem
    obtain ⟨e, he, heq⟩ := hmem
    obtain ⟨-, rfl⟩ := Prod.mk.inj heq
    have hsound := h.inner e he
    generalize e.2 = n at hsound hpath
    cases hsound with
    | value hdistinct => exact hdistinct path entries hpath
    | table nodup inner => exact ih ⟨nodup, inner⟩ entries hpath
    | tables => exact distinct_of_not_table rfl path entries hpath

/-- What every step keeps, all steps keep. -/
theorem foldlM_keeps {σ α : Type} {step : σ → α → Option σ} {P : σ → Prop} {Q : α → Prop}
    (hstep : ∀ s a s', P s → Q a → step s a = some s' → P s') {as : List α} {s s' : σ}
    (has : ∀ a ∈ as, Q a) (hs : P s) (h : as.foldlM step s = some s') : P s' := by
  induction as generalizing s with
  | nil =>
    obtain rfl := Option.some.inj h
    exact hs
  | cons a as ih =>
    obtain ⟨ha, has⟩ := List.forall_mem_cons.1 has
    obtain ⟨s₁, hfirst, hrest⟩ := Option.bind_eq_some_iff.1 h
    exact ih has (hstep s a s₁ hs ha hfirst) hrest

theorem inlineTable?_distinct {settings : List Setting} {entries : Entries}
    (hsettings : ∀ s ∈ settings, s.value.Distinct) (h : inlineTable? settings = some entries) :
    Distinct (table entries) := by
  obtain ⟨nodes, hnodes, rfl⟩ := Option.map_eq_some_iff.1 h
  refine distinct_finishEntries (foldlM_keeps ?_ hsettings soundNodes_nil hnodes)
  exact fun nodes s nodes' hnodes hs => assign_sound hs hnodes

/-! ## Lines -/

/-- A draft of which all tables are sound. -/
structure Draft.Sound (d : Draft) : Prop where
  root : SoundNodes d.root
  current : SoundNodes d.current

/-- A line that brings in no table with a key twice. -/
def Line.Distinct : Line → Prop
  | .setting s => s.value.Distinct
  | _ => True

theorem Draft.Sound.settle {d : Draft} {nodes : Nodes} (h : d.Sound)
    (hsettle : d.settle = some nodes) : SoundNodes nodes := by
  unfold Draft.settle at hsettle
  split at hsettle
  · obtain rfl := Option.some.inj hsettle
    exact h.current
  · next path key hsplit =>
    refine descend_sound (fun origin entries entries' hentries hplace => ?_) h.root hsettle
    split at hplace
    · split at hplace
      · obtain rfl := Option.some.inj hplace
        exact hentries.put (sound_tables (by simpa using h.current)) key
      · next items hlookup =>
        obtain rfl := Option.some.inj hplace
        refine hentries.put (sound_tables fun item hitem => ?_) key
        rcases List.mem_append.1 hitem with hitem | hitem
        · exact SoundNodes.of_tables (hentries.lookup hlookup) item hitem
        · rw [List.mem_singleton.1 hitem]
          exact h.current
      · cases hplace
    · obtain rfl := Option.some.inj hplace
      exact hentries.put (h.current.table _) key

theorem reach_sound {path : List String} {nodes nodes' : Nodes} (hnodes : SoundNodes nodes)
    (h : reach path nodes = some nodes') : SoundNodes nodes' := by
  induction path generalizing nodes with
  | nil =>
    obtain rfl := Option.some.inj h
    exact hnodes
  | cons key path ih =>
    rw [reach] at h
    split at h
    · obtain rfl := Option.some.inj h
      exact soundNodes_nil
    · cases h
    · next hlookup => exact ih (.of_table (hnodes.lookup hlookup)) h
    · next items hlookup =>
      obtain ⟨entries, hlast, h⟩ := Option.bind_eq_some_iff.1 h
      exact ih (SoundNodes.of_tables (hnodes.lookup hlookup) entries (List.mem_of_getLast? hlast)) h

theorem takeOver_sound {key : String} {nodes nodes' : Nodes} (hnodes : SoundNodes nodes)
    (h : takeOver key nodes = some nodes') : SoundNodes nodes' := by
  unfold takeOver at h
  split at h
  · obtain rfl := Option.some.inj h
    exact soundNodes_nil
  · next hlookup =>
    obtain rfl := Option.some.inj h
    exact .of_table (hnodes.lookup hlookup)
  · cases h

theorem vacate_sound {path : List String} {key : String} {nodes nodes' : Nodes}
    (hnodes : SoundNodes nodes) (h : vacate path key nodes = some nodes') : SoundNodes nodes' := by
  refine descend_sound (fun origin entries entries' hentries herase => ?_) hnodes h
  obtain rfl := Option.some.inj herase
  have hsub : (entries.eraseP (·.1 == key)).Sublist entries := List.eraseP_sublist
  exact ⟨(hsub.map _).nodup hentries.nodup, fun e he => hentries.inner e (hsub.subset he)⟩

/-- One line keeps a draft sound. -/
theorem Draft.Sound.step {d d' : Draft} {line : Line} (h : d.Sound) (hline : line.Distinct)
    (hstep : d.step line = some d') : d'.Sound := by
  cases line with
  | setting s =>
    obtain ⟨current, hassign, rfl⟩ := Option.map_eq_some_iff.1 hstep
    exact ⟨h.root, assign_sound hline h.current hassign⟩
  | table path =>
    obtain ⟨root, hroot, hstep⟩ := Option.bind_eq_some_iff.1 hstep
    obtain ⟨⟨above, key⟩, -, hstep⟩ := Option.bind_eq_some_iff.1 hstep
    obtain ⟨reached, hreach, hstep⟩ := Option.bind_eq_some_iff.1 hstep
    obtain ⟨current, hcurrent, hstep⟩ := Option.bind_eq_some_iff.1 hstep
    obtain ⟨vacated, hvacate, hstep⟩ := Option.bind_eq_some_iff.1 hstep
    obtain rfl := Option.some.inj hstep
    have hsettled := h.settle hroot
    exact ⟨vacate_sound hsettled hvacate, takeOver_sound (reach_sound hsettled hreach) hcurrent⟩
  | item path =>
    obtain ⟨root, hroot, hstep⟩ := Option.bind_eq_some_iff.1 hstep
    obtain ⟨⟨above, key⟩, -, hstep⟩ := Option.bind_eq_some_iff.1 hstep
    obtain ⟨reached, -, hstep⟩ := Option.bind_eq_some_iff.1 hstep
    obtain ⟨-, -, hstep⟩ := Option.bind_eq_some_iff.1 hstep
    obtain rfl := Option.some.inj hstep
    exact ⟨h.settle hroot, soundNodes_nil⟩

/-! ## Date-times written as tables -/

theorem resolveEntries?_cons {key : String} {v : Toml} {rest resolved : Entries}
    (h : resolveEntries? ((key, v) :: rest) = some resolved) :
    ∃ v' rest', resolve? v = some v' ∧ resolveEntries? rest = some rest' ∧
      resolved = (key, v') :: rest' := by
  rw [resolveEntries?] at h
  obtain ⟨v', hv, h⟩ := Option.bind_eq_some_iff.1 h
  obtain ⟨rest', hrest, h⟩ := Option.bind_eq_some_iff.1 h
  exact ⟨v', rest', hv, hrest, (Option.some.inj h).symm⟩

theorem keys_resolveEntries? {entries resolved : Entries}
    (h : resolveEntries? entries = some resolved) : keys resolved = keys entries := by
  induction entries generalizing resolved with
  | nil =>
    rw [resolveEntries?] at h
    obtain rfl := Option.some.inj h
    rfl
  | cons e entries ih =>
    obtain ⟨v', rest', -, hrest, rfl⟩ := resolveEntries?_cons h
    exact congrArg (e.1 :: ·) (ih hrest)

theorem lookup_resolveEntries? {entries resolved : Entries} {key : String} {v' : Toml}
    (h : resolveEntries? entries = some resolved) (hv : resolved.lookup key = some v') :
    ∃ v, entries.lookup key = some v ∧ resolve? v = some v' := by
  induction entries generalizing resolved with
  | nil =>
    rw [resolveEntries?] at h
    obtain rfl := Option.some.inj h
    cases hv
  | cons e entries ih =>
    obtain ⟨w, rest', hw, hrest, rfl⟩ := resolveEntries?_cons h
    obtain ⟨k, u⟩ := e
    rw [lookup_cons_eq] at hv ⊢
    by_cases hk : key = k
    · rw [if_pos hk] at hv ⊢
      exact ⟨u, rfl, hw.trans hv⟩
    · rw [if_neg hk] at hv ⊢
      exact ih hrest hv

/-- A table stays one with all its keys, or it has become something else. -/
theorem resolve?_cases {v v' : Toml} (h : resolve? v = some v') :
    v'.isTable = false ∨ ∃ entries entries', v = table entries ∧ v' = table entries' ∧
      resolveEntries? entries = some entries' := by
  unfold resolve? at h
  split at h
  · obtain rfl := Option.some.inj h
    exact .inr ⟨[], [], rfl, rfl, by rw [resolveEntries?]⟩
  · next key value rest =>
    split at h
    · left
      unfold quotedMoment? at h
      split at h
      · obtain ⟨text, -, rfl⟩ := Option.map_eq_some_iff.1 h
        rfl
      · cases h
    · right
      refine ⟨(key, value) :: rest, ?_⟩
      obtain ⟨w, hw, h⟩ := Option.bind_eq_some_iff.1 h
      obtain ⟨rest', hrest, h⟩ := Option.bind_eq_some_iff.1 h
      refine ⟨(key, w) :: rest', rfl, (Option.some.inj h).symm, ?_⟩
      rw [resolveEntries?, hw, hrest]
      rfl
  · obtain ⟨items, -, rfl⟩ := Option.map_eq_some_iff.1 h
    exact .inl rfl
  · next hempty htable harray =>
    obtain rfl := Option.some.inj h
    left
    cases v with
    | table entries =>
      cases entries with
      | nil => exact absurd rfl hempty
      | cons e rest => exact absurd rfl (htable e.1 e.2 rest)
    | _ => rfl

theorem distinct_resolve? {v v' : Toml} (hv : Distinct v) (h : resolve? v = some v') :
    Distinct v' := by
  intro path
  induction path generalizing v v' with
  | nil =>
    intro inner hinner
    obtain rfl := Option.some.inj hinner
    rcases resolve?_cases h with hleaf | ⟨entries, entries', rfl, hsame, hentries⟩
    · cases hleaf
    · obtain rfl := Toml.table.inj hsame
      rw [keys_resolveEntries? hentries]
      exact hv.nodup
  | cons key path ih =>
    intro inner hinner
    rcases resolve?_cases h with hleaf | ⟨entries, entries', rfl, rfl, hentries⟩
    · rw [valueAt_of_not_table hleaf] at hinner
      cases hinner
    · obtain ⟨w', hw', hpath⟩ := Option.bind_eq_some_iff.1 hinner
      obtain ⟨w, hw, hresolve⟩ := lookup_resolveEntries? hentries hw'
      exact ih (hv.lookup hw) hresolve inner hpath

theorem document?_distinct {lines : List Line} {entries : Entries}
    (hlines : ∀ line ∈ lines, line.Distinct) (h : document? lines = some entries) :
    Distinct (table entries) := by
  obtain ⟨d, hsteps, h⟩ := Option.bind_eq_some_iff.1 h
  obtain ⟨nodes, hsettle, h⟩ := Option.bind_eq_some_iff.1 h
  have hstart : Draft.Sound ⟨[], [], false, []⟩ := ⟨soundNodes_nil, soundNodes_nil⟩
  have hdraft : d.Sound :=
    foldlM_keeps (fun d line d' hd hline => hd.step hline) hlines hstart hsteps
  have hdistinct := distinct_finishEntries (hdraft.settle hsettle)
  refine distinct_table ?_ fun k v' hv' => ?_
  · rw [keys_resolveEntries? h]
    exact hdistinct.nodup
  · obtain ⟨v, hv, hresolve⟩ := lookup_resolveEntries? h hv'
    exact distinct_resolve? (hdistinct.lookup hv) hresolve

/-! ## Reading -/

theorem readSetting_distinct {item : List Char → Option (Toml × List Char)}
    (hitem : ∀ cs v rest, item cs = some (v, rest) → v.Distinct) {cs rest : List Char} {s : Setting}
    (h : readSetting item cs = some (s, rest)) : s.value.Distinct := by
  obtain ⟨⟨path, cs₁⟩, -, h⟩ := Option.bind_eq_some_iff.1 h
  obtain ⟨cs₂, -, h⟩ := Option.bind_eq_some_iff.1 h
  obtain ⟨⟨value, cs₃⟩, hvalue, h⟩ := Option.bind_eq_some_iff.1 h
  obtain ⟨rfl, rfl⟩ := Prod.mk.inj (Option.some.inj h)
  exact hitem _ _ _ hvalue

theorem readSettings_distinct {item : List Char → Option (Toml × List Char)}
    (hitem : ∀ cs v rest, item cs = some (v, rest) → v.Distinct) {fuel : Nat} {cs rest : List Char}
    {settings : List Setting} (h : readSettings item fuel cs = some (settings, rest)) :
    ∀ s ∈ settings, s.value.Distinct := by
  induction fuel generalizing cs settings rest with
  | zero => cases h
  | succ fuel ih =>
    rw [readSettings] at h
    obtain ⟨⟨s, cs₁⟩, hs, h⟩ := Option.bind_eq_some_iff.1 h
    have hfirst := readSetting_distinct hitem hs
    dsimp only at h
    split at h
    · obtain ⟨⟨more, cs₂⟩, hmore, h⟩ := Option.bind_eq_some_iff.1 h
      obtain ⟨rfl, rfl⟩ := Prod.mk.inj (Option.some.inj h)
      exact List.forall_mem_cons.2 ⟨hfirst, ih hmore⟩
    · obtain ⟨rfl, rfl⟩ := Prod.mk.inj (Option.some.inj h)
      exact List.forall_mem_singleton.2 hfirst
    · cases h

theorem scalar?_isTable {cs : List Char} {v : Toml} (h : scalar? cs = some v) :
    v.isTable = false := by
  unfold scalar? at h
  repeat' split at h
  all_goals first | (obtain rfl := Option.some.inj h; rfl) | cases h

theorem distinct_of_leaf {α : Type} {read : Option (α × List Char)} {v : Toml} {rest : List Char}
    (f : α → Toml) (hf : ∀ a, (f a).isTable = false)
    (h : (read.map fun (a, rest) => (f a, rest)) = some (v, rest)) : v.Distinct := by
  obtain ⟨⟨a, _⟩, -, hv⟩ := Option.map_eq_some_iff.1 h
  obtain ⟨rfl, -⟩ := Prod.mk.inj hv
  exact distinct_of_not_table (hf a)

theorem readValue_distinct {size limit : Nat} {cs rest : List Char} {v : Toml}
    (h : readValue size limit cs = some (v, rest)) : v.Distinct := by
  induction limit using Nat.strongRecOn generalizing cs v rest with
  | _ limit ih =>
    unfold readValue at h
    split at h
    · cases h
    · exact distinct_of_leaf array (fun _ => rfl) h
    · cases h
    · next limit cs =>
      split at h
      · obtain ⟨rfl, -⟩ := Prod.mk.inj (Option.some.inj h)
        exact distinct_nil
      · obtain ⟨⟨settings, rest'⟩, hsettings, h⟩ := Option.bind_eq_some_iff.1 h
        obtain ⟨entries, hentries, h⟩ := Option.bind_eq_some_iff.1 h
        obtain ⟨rfl, -⟩ := Prod.mk.inj (Option.some.inj h)
        refine inlineTable?_distinct (readSettings_distinct ?_ hsettings) hentries
        exact fun cs v rest hv => ih limit (Nat.lt_succ_self limit) hv
    · exact distinct_of_leaf (fun s => string (String.ofList s)) (fun _ => rfl) h
    · exact distinct_of_leaf (fun s => string (String.ofList s)) (fun _ => rfl) h
    · obtain ⟨w, hscalar, hv⟩ := Option.map_eq_some_iff.1 h
      obtain ⟨rfl, -⟩ := Prod.mk.inj hv
      exact distinct_of_not_table (scalar?_isTable hscalar)

theorem readLine_distinct {size : Nat} {cs rest : List Char} {line : Option Line}
    (h : readLine size cs = some (line, rest)) : ∀ l ∈ line, l.Distinct := by
  -- comments and line ends read nothing, and headers hold no value
  have hnothing {after : Option (List Char)}
      (h : (after.bind fun rest => some ((none : Option Line), rest)) = some (line, rest)) :
      ∀ l ∈ line, l.Distinct := by
    obtain ⟨_, -, h⟩ := Option.bind_eq_some_iff.1 h
    obtain ⟨rfl, -⟩ := Prod.mk.inj (Option.some.inj h)
    simp
  unfold readLine at h
  split at h
  · exact hnothing h
  · exact hnothing h
  · exact hnothing h
  · obtain ⟨⟨path, cs₁⟩, -, h⟩ := Option.bind_eq_some_iff.1 h
    obtain ⟨_, -, h⟩ := Option.bind_eq_some_iff.1 h
    obtain ⟨_, -, h⟩ := Option.bind_eq_some_iff.1 h
    obtain ⟨_, -, h⟩ := Option.bind_eq_some_iff.1 h
    obtain ⟨rfl, -⟩ := Prod.mk.inj (Option.some.inj h)
    simp [Line.Distinct]
  · obtain ⟨⟨path, cs₁⟩, -, h⟩ := Option.bind_eq_some_iff.1 h
    obtain ⟨_, -, h⟩ := Option.bind_eq_some_iff.1 h
    obtain ⟨_, -, h⟩ := Option.bind_eq_some_iff.1 h
    obtain ⟨rfl, -⟩ := Prod.mk.inj (Option.some.inj h)
    simp [Line.Distinct]
  · obtain ⟨⟨s, cs₁⟩, hs, h⟩ := Option.bind_eq_some_iff.1 h
    obtain ⟨_, -, h⟩ := Option.bind_eq_some_iff.1 h
    obtain ⟨rfl, -⟩ := Prod.mk.inj (Option.some.inj h)
    rintro l hl
    obtain rfl := Option.some.inj hl
    exact readSetting_distinct (fun cs v rest => readValue_distinct) hs

theorem readLines_distinct {size fuel : Nat} {cs : List Char} {lines : List Line}
    (h : readLines size fuel cs = some lines) : ∀ line ∈ lines, line.Distinct := by
  induction fuel generalizing cs lines with
  | zero =>
    obtain rfl := Option.some.inj h
    simp
  | succ fuel ih =>
    rw [readLines] at h
    split at h
    · obtain rfl := Option.some.inj h
      simp
    · obtain ⟨⟨line, after⟩, hline, h⟩ := Option.bind_eq_some_iff.1 h
      obtain ⟨more, hmore, h⟩ := Option.bind_eq_some_iff.1 h
      obtain rfl := Option.some.inj h
      intro l hl
      rcases List.mem_append.1 hl with hl | hl
      · exact readLine_distinct hline l (Option.mem_toList.1 hl)
      · exact ih hmore l hl

/-- No table of a document has a key twice. -/
theorem parse_distinct {text : String} {entries : Entries} (h : parse text = some entries) :
    Distinct (table entries) := by
  obtain ⟨lines, hlines, hdocument⟩ := Option.bind_eq_some_iff.1 h
  exact document?_distinct (readLines_distinct hlines) hdocument

end ShellGuard.Toml
