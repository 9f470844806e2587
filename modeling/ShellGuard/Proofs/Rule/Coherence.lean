import Mathlib
import ShellGuard.Rule.File

/-!
# The store of the user's rules stays coherent

A store keeps each rule beside its compiled form, and no operation compiles the whole list anew.
The invariant `Coherent` says that this never shows: names are distinct and every compiled form is
what compiling its rule would give.  Every way to make a store establishes it, and
`RuleStore.revise` keeps it, so it holds in every store that a run of changes reaches, whether or
not they succeed and whatever the files do meanwhile.

What one successful change does is said by `Change`, on rules alone: one rule is added at the end,
replaced where it stands, or removed.  Later statements about stores go through `revise_ok`,
`revise_of_change` and `edit_outcome` and do not open the store again.
-/

namespace ShellGuard

/-! ## Rules that can be kept -/

namespace CustomRule

/-- What a stored rule must have: a name that is not blank and a pattern that can be read. -/
structure Valid (r : CustomRule) : Prop where
  name : Text.trim r.name ≠ ""
  pattern : r.pattern ≠ ""
  readable : ∃ p, Pattern.ofText? r.pattern = some p

theorem compile_eq_ok_iff {r : CustomRule} {compiled : Rule} :
    r.compile = .ok compiled ↔
      r.Valid ∧ ∃ p, Pattern.ofText? r.pattern = some p ∧ compiled = r.withPattern p := by
  unfold compile
  by_cases hfields : (Text.trim r.name).isEmpty || r.pattern.isEmpty
  · rw [if_pos hfields]
    refine ⟨nofun, fun ⟨hvalid, _⟩ => ?_⟩
    have hname := hvalid.name
    have hpattern := hvalid.pattern
    simp_all
  · rw [if_neg hfields]
    have hboth : Text.trim r.name ≠ "" ∧ r.pattern ≠ "" := by simpa using hfields
    cases hread : Pattern.ofText? r.pattern with
    | none => simp
    | some p =>
      refine ⟨fun h => ⟨⟨hboth.1, hboth.2, p, hread⟩, p, rfl, (Except.ok.inj h).symm⟩, ?_⟩
      rintro ⟨_, q, hq, rfl⟩
      rw [← Option.some.inj hq]

theorem Valid.compile {r : CustomRule} (h : r.Valid) : ∃ compiled, r.compile = .ok compiled := by
  obtain ⟨p, hp⟩ := h.readable
  exact ⟨r.withPattern p, compile_eq_ok_iff.2 ⟨h, p, hp, rfl⟩⟩

theorem valid_of_compile {r : CustomRule} {compiled : Rule} (h : r.compile = .ok compiled) :
    r.Valid :=
  (compile_eq_ok_iff.1 h).1

/-- A rule put in the place of `old`: it takes over the name, and the pattern if it has none. -/
def inheriting (r old : CustomRule) : CustomRule :=
  { r with name := old.name, pattern := if r.pattern.isEmpty then old.pattern else r.pattern }

/-- Whether the pattern of a rule, read anew, matches a command. -/
def hits (r : CustomRule) (command : String) : Bool :=
  (Pattern.ofText? r.pattern).any (·.isMatch command)

/-- What a rule reports about a command it matches. -/
def finding (r : CustomRule) : Finding where
  kind := .custom
  severity := r.level.severity
  position := none
  message := if r.message = "" then "Custom rule '" ++ r.name ++ "' matched" else r.message
  rule := some r.name
  suggestion := if r.suggest = "" then none else some r.suggest
  riskLevel := r.level

/-- A compiled rule matches and reports as its rule does. -/
theorem compiled_check {r : CustomRule} {compiled : Rule} (h : r.compile = .ok compiled)
    (command : String) :
    compiled.fires command = r.hits command ∧
      compiled.check .custom command = if r.hits command then some r.finding else none := by
  obtain ⟨-, p, hp, rfl⟩ := compile_eq_ok_iff.1 h
  have hfires : (r.withPattern p).fires command = r.hits command := by
    rw [hits, hp]
    rfl
  have hfinding : (r.withPattern p).finding .custom = r.finding := by
    by_cases hsuggest : r.suggest = "" <;>
      simp [Rule.finding, withPattern, Finding.hit, Finding.suggest, finding, hsuggest]
  exact ⟨hfires, by rw [Rule.check, hfires, hfinding]⟩

end CustomRule

/-! ## What a change does to the rules -/

/-- `Change e rules rules'` says that `e` turns `rules` into `rules'`: it touches the rule it names
and leaves every other one as it is, where it is. -/
inductive Change : RuleEdit → List CustomRule → List CustomRule → Prop
  | add {rules : List CustomRule} {rule : CustomRule} (valid : rule.Valid)
    (fresh : ∀ r ∈ rules, r.name ≠ rule.name) : Change (.add rule) rules (rules ++ [rule])
  | update {front back : List CustomRule} {old rule : CustomRule}
    (valid : (rule.inheriting old).Valid) :
    Change (.update old.name rule) (front ++ old :: back) (front ++ rule.inheriting old :: back)
  | delete {front back : List CustomRule} {old : CustomRule} :
    Change (.delete old.name) (front ++ old :: back) (front ++ back)
  | setEnabled {front back : List CustomRule} {old : CustomRule} {enabled : Bool} :
    Change (.setEnabled old.name enabled) (front ++ old :: back)
      (front ++ { old with enabled } :: back)

namespace RuleStore

/-! ## Coherent entries -/

/-- Entries with distinct names whose compiled forms are those of their rules. -/
structure Coherent (entries : List RuleEntry) : Prop where
  names : (entries.map (·.rule.name)).Nodup
  compiled : ∀ e ∈ entries, e.rule.compile = .ok e.compiled

theorem any_name {entries : List RuleEntry} {name : String} :
    entries.any (·.rule.name == name) = true ↔ ∃ e ∈ entries, e.rule.name = name := by
  simp

/-- The entries around the one with a name. -/
theorem split_name {entries : List RuleEntry} {name : String}
    (h : ∃ e ∈ entries, e.rule.name = name) :
    ∃ front e back, entries = front ++ e :: back ∧ e.rule.name = name := by
  obtain ⟨e, he, hname⟩ := h
  obtain ⟨front, back, hentries⟩ := List.append_of_mem he
  exact ⟨front, e, back, hentries, hname⟩

section Located

variable {front back : List RuleEntry} {e : RuleEntry} (h : Coherent (front ++ e :: back))
include h

theorem Coherent.others : ∀ f ∈ front ++ back, f.rule.name ≠ e.rule.name := by
  have hnames := h.names
  rw [List.map_append, List.map_cons, List.nodup_middle, List.nodup_cons] at hnames
  intro f hf hname
  refine hnames.1 ?_
  rw [← List.map_append, ← hname]
  exact List.mem_map_of_mem hf

theorem Coherent.find : (front ++ e :: back).find? (·.rule.name == e.rule.name) = some e := by
  refine List.find?_eq_some_iff_append.2 ⟨by simp, front, back, rfl, fun f hf => ?_⟩
  simpa using h.others f (List.mem_append_left back hf)

/-- Changing what has the name of an entry changes that entry alone. -/
theorem Coherent.map_name (x : RuleEntry → RuleEntry) :
    ((front ++ e :: back).map fun f => if f.rule.name = e.rule.name then x f else f) =
      front ++ x e :: back := by
  have hkeep : ∀ part : List RuleEntry, (∀ f ∈ part, f ∈ front ++ back) →
      (part.map fun f => if f.rule.name = e.rule.name then x f else f) = part := by
    intro part hpart
    refine (List.map_congr_left fun f hf => ?_).trans (List.map_id part)
    exact if_neg (h.others f (hpart f hf))
  rw [List.map_append, List.map_cons, if_pos rfl, hkeep front fun f => List.mem_append_left back,
    hkeep back fun f => List.mem_append_right front]

theorem Coherent.filter_name :
    (front ++ e :: back).filter (fun f => f.rule.name ≠ e.rule.name) = front ++ back := by
  have hothers := h.others
  rw [List.filter_append, List.filter_cons_of_neg (by simp), ← List.filter_append,
    List.filter_eq_self]
  intro f hf
  simpa using hothers f hf

/-- An entry may be replaced by a coherent one of the same name. -/
theorem Coherent.replace {f : RuleEntry} (hname : f.rule.name = e.rule.name)
    (hf : f.rule.compile = .ok f.compiled) : Coherent (front ++ f :: back) := by
  constructor
  · have hnames := h.names
    simpa [hname] using hnames
  · intro g hg
    rcases List.mem_append.1 hg with hg | hg
    · exact h.compiled g (List.mem_append_left _ hg)
    rcases List.mem_cons.1 hg with rfl | hg
    · exact hf
    · exact h.compiled g (List.mem_append_right _ (List.mem_cons_of_mem e hg))

theorem Coherent.remove : Coherent (front ++ back) := by
  have hsub : List.Sublist (front ++ back) (front ++ e :: back) :=
    (List.sublist_cons_self e back).append_left front
  exact ⟨h.names.sublist (hsub.map _), fun g hg => h.compiled g (hsub.subset hg)⟩

end Located

theorem Coherent.nil : Coherent [] :=
  ⟨List.nodup_nil, nofun⟩

theorem Coherent.snoc {entries : List RuleEntry} (h : Coherent entries) {e : RuleEntry}
    (hname : ∀ f ∈ entries, f.rule.name ≠ e.rule.name) (he : e.rule.compile = .ok e.compiled) :
    Coherent (entries ++ [e]) := by
  constructor
  · rw [List.map_append, List.map_singleton, List.nodup_append_comm, List.singleton_append,
      List.nodup_cons]
    refine ⟨fun hmem => ?_, h.names⟩
    obtain ⟨f, hf, hfe⟩ := List.mem_map.1 hmem
    exact hname f hf hfe
  · intro f hf
    rcases List.mem_append.1 hf with hf | hf
    · exact h.compiled f hf
    · obtain rfl := List.mem_singleton.1 hf
      exact he

/-! ## Reading a document -/

theorem accept_coherent {entries : List RuleEntry} (h : Coherent entries) (v : Toml) :
    Coherent (accept entries v) := by
  unfold accept
  split
  · exact h
  rename_i rule _
  by_cases hname : entries.any (·.rule.name == rule.name) = true
  · rw [if_pos hname]
    exact h
  rw [if_neg hname]
  split
  · rename_i compiled hcompiled
    refine h.snoc (fun f hf hfname => ?_) hcompiled
    exact hname (any_name.2 ⟨f, hf, hfname⟩)
  · exact h

theorem foldl_accept_coherent {entries : List RuleEntry} (h : Coherent entries) (vs : List Toml) :
    Coherent (vs.foldl accept entries) := by
  induction vs generalizing entries with
  | nil => exact h
  | cons v vs ih => exact ih (accept_coherent h v)

theorem parse_coherent {text : String} {s : RuleStore} (h : parse text = .ok s) :
    Coherent s.entries := by
  unfold parse at h
  split at h
  · cases h
  · obtain rfl := Except.ok.inj h
    exact foldl_accept_coherent .nil _

/-! ## One change -/

/-- An entry that takes the place of a coherent one compiles to what `revise` gives it, whether its
pattern is read anew or the one at hand is used again. -/
theorem compile_inheriting {e : RuleEntry} (he : e.rule.compile = .ok e.compiled)
    (rule : CustomRule) :
    (if (rule.inheriting e.rule).pattern = e.rule.pattern then
      .ok ((rule.inheriting e.rule).withPattern e.compiled.pattern)
    else (rule.inheriting e.rule).compile) = (rule.inheriting e.rule).compile := by
  split
  · rename_i hpattern
    obtain ⟨hvalid, p, hp, hcompiled⟩ := CustomRule.compile_eq_ok_iff.1 he
    have hcurrent : e.compiled.pattern = p := by rw [hcompiled]; rfl
    symm
    rw [CustomRule.compile_eq_ok_iff, hcurrent]
    rw [← hpattern] at hp
    refine ⟨⟨hvalid.name, ?_, p, hp⟩, p, hp, rfl⟩
    rw [hpattern]
    exact hvalid.pattern
  · rfl

theorem revise_update {front back : List RuleEntry} {e : RuleEntry}
    (h : Coherent (front ++ e :: back)) (rule : CustomRule) :
    revise (front ++ e :: back) (.update e.rule.name rule) =
      (rule.inheriting e.rule).compile.map fun compiled =>
        front ++ ⟨rule.inheriting e.rule, compiled⟩ :: back := by
  have he : e.rule.compile = .ok e.compiled := h.compiled e (by simp)
  have hsame := compile_inheriting he rule
  rw [revise, h.find]
  dsimp only
  split
  · next err hrefused =>
    rw [hsame.symm.trans hrefused]
    rfl
  · next compiled hcompiled =>
    rw [hsame.symm.trans hcompiled]
    exact congrArg Except.ok (h.map_name fun _ => ⟨rule.inheriting e.rule, compiled⟩)

theorem revise_delete {front back : List RuleEntry} {e : RuleEntry}
    (h : Coherent (front ++ e :: back)) :
    revise (front ++ e :: back) (.delete e.rule.name) = .ok (front ++ back) := by
  have hfound : (front ++ e :: back).any (·.rule.name == e.rule.name) = true :=
    any_name.2 ⟨e, by simp, rfl⟩
  rw [revise, if_pos hfound, h.filter_name]

theorem revise_setEnabled {front back : List RuleEntry} {e : RuleEntry}
    (h : Coherent (front ++ e :: back)) (enabled : Bool) :
    revise (front ++ e :: back) (.setEnabled e.rule.name enabled) =
      .ok (front ++ { e with rule := { e.rule with enabled } } :: back) := by
  have hfound : (front ++ e :: back).any (·.rule.name == e.rule.name) = true :=
    any_name.2 ⟨e, by simp, rfl⟩
  rw [revise, if_pos hfound, h.map_name fun f => { f with rule := { f.rule with enabled } }]

theorem revise_add {entries : List RuleEntry} {rule : CustomRule} {compiled : Rule}
    (hcompiled : rule.compile = .ok compiled) (hname : ∀ e ∈ entries, e.rule.name ≠ rule.name) :
    revise entries (.add rule) = .ok (entries ++ [⟨rule, compiled⟩]) := by
  have hnew : ¬entries.any (·.rule.name == rule.name) = true := by
    rw [any_name]
    rintro ⟨e, he, hen⟩
    exact hname e he hen
  rw [revise, hcompiled]
  exact if_neg hnew

/-- A change that succeeds keeps the entries coherent and does to the rules what it says. -/
theorem revise_ok {entries entries' : List RuleEntry} {e : RuleEdit} (h : Coherent entries)
    (hrevise : revise entries e = .ok entries') :
    Coherent entries' ∧ Change e (entries.map (·.rule)) (entries'.map (·.rule)) := by
  cases e with
  | add rule =>
    cases hcompiled : rule.compile with
    | error err => simp [revise, hcompiled] at hrevise
    | ok compiled =>
      have hname : ∀ f ∈ entries, f.rule.name ≠ rule.name := by
        intro f hf hfname
        have hfound := any_name.2 ⟨f, hf, hfname⟩
        rw [revise, hcompiled] at hrevise
        simp only [hfound, if_true] at hrevise
        cases hrevise
      rw [revise_add hcompiled hname] at hrevise
      obtain rfl := Except.ok.inj hrevise
      refine ⟨h.snoc hname hcompiled, ?_⟩
      rw [List.map_append, List.map_singleton]
      refine .add (CustomRule.valid_of_compile hcompiled) fun r hr => ?_
      obtain ⟨f, hf, rfl⟩ := List.mem_map.1 hr
      exact hname f hf
  | update name rule =>
    cases hfind : entries.find? (·.rule.name == name) with
    | none => simp [revise, hfind] at hrevise
    | some current =>
      obtain ⟨hname, front, back, rfl, -⟩ := List.find?_eq_some_iff_append.1 hfind
      obtain rfl : current.rule.name = name := by simpa using hname
      rw [revise_update h] at hrevise
      cases hcompiled : (rule.inheriting current.rule).compile with
      | error err => simp [hcompiled, Except.map] at hrevise
      | ok compiled =>
        rw [hcompiled] at hrevise
        obtain rfl := Except.ok.inj hrevise
        refine ⟨h.replace rfl hcompiled, ?_⟩
        simpa using Change.update (CustomRule.valid_of_compile hcompiled)
  | delete name =>
    by_cases hfound : entries.any (·.rule.name == name) = true
    · obtain ⟨front, e, back, rfl, rfl⟩ := split_name (any_name.1 hfound)
      rw [revise_delete h] at hrevise
      obtain rfl := Except.ok.inj hrevise
      refine ⟨h.remove, ?_⟩
      simpa using Change.delete
    · rw [revise, if_neg hfound] at hrevise
      cases hrevise
  | setEnabled name enabled =>
    by_cases hfound : entries.any (·.rule.name == name) = true
    · obtain ⟨front, e, back, rfl, rfl⟩ := split_name (any_name.1 hfound)
      rw [revise_setEnabled h] at hrevise
      obtain rfl := Except.ok.inj hrevise
      refine ⟨h.replace rfl (h.compiled e (by simp)), ?_⟩
      simpa using Change.setEnabled
    · rw [revise, if_neg hfound] at hrevise
      cases hrevise

/-- Every change that `Change` allows succeeds. -/
theorem revise_of_change {entries : List RuleEntry} {e : RuleEdit} {rules : List CustomRule}
    (h : Coherent entries) (hchange : Change e (entries.map (·.rule)) rules) :
    ∃ entries', revise entries e = .ok entries' ∧ entries'.map (·.rule) = rules := by
  generalize hrules : entries.map (·.rule) = before at hchange
  cases hchange with
  | @add _ rule valid fresh =>
    obtain ⟨compiled, hcompiled⟩ := valid.compile
    refine ⟨_, revise_add hcompiled fun f hf => ?_, by simp [hrules]⟩
    refine fresh f.rule ?_
    rw [← hrules]
    exact List.mem_map_of_mem hf
  | @update front back old rule valid =>
    obtain ⟨front, rest, rfl, rfl, hrest⟩ := List.map_eq_append_iff.1 hrules
    obtain ⟨f, back, rfl, rfl, rfl⟩ := List.map_eq_cons_iff.1 hrest
    obtain ⟨compiled, hcompiled⟩ := valid.compile
    exact ⟨_, by rw [revise_update h, hcompiled]; rfl, by simp⟩
  | @delete front back old =>
    obtain ⟨front, rest, rfl, rfl, hrest⟩ := List.map_eq_append_iff.1 hrules
    obtain ⟨f, back, rfl, rfl, rfl⟩ := List.map_eq_cons_iff.1 hrest
    exact ⟨_, revise_delete h, by simp⟩
  | @setEnabled front back old enabled =>
    obtain ⟨front, rest, rfl, rfl, hrest⟩ := List.map_eq_append_iff.1 hrules
    obtain ⟨f, back, rfl, rfl, rfl⟩ := List.map_eq_cons_iff.1 hrest
    exact ⟨_, revise_setEnabled h enabled, by simp⟩

theorem Coherent.list_names {s : RuleStore} (h : Coherent s.entries) :
    (s.list.map (·.name)).Nodup := by
  have hnames := h.names
  rwa [list, List.map_map]

/-! ## Calls and their outcomes

Files are an arbitrary state with arbitrary operations on it, so a write may fail at any call. -/

section Runs

variable {σ : Type} {files : Files (StateM σ)}

/-- What a call can do: refuse the change, fail to write it, or make it. -/
inductive Outcome (files : Files (StateM σ)) (s : RuleStore) (e : RuleEdit) (w : σ) :
    Except RuleError Unit → RuleStore → σ → Prop
  | refused {err : RuleError} (revised : revise s.entries e = .error err) :
    Outcome files s e w (.error err) s w
  | unsaved {entries : List RuleEntry} {path : String} {failure : WriteFailure} {w' : σ}
    (revised : revise s.entries e = .ok entries) (kept : s.path = some path)
    (written : (files.write path (text { s with entries })).run w = (.error failure, w')) :
    Outcome files s e w (.error (.file path)) s w'
  | unkept {entries : List RuleEntry} (revised : revise s.entries e = .ok entries)
    (unkept : s.path = none) : Outcome files s e w (.ok ()) { s with entries } w
  | saved {entries : List RuleEntry} {path : String} {w' : σ}
    (revised : revise s.entries e = .ok entries) (kept : s.path = some path)
    (written : (files.write path (text { s with entries })).run w = (.ok (), w')) :
    Outcome files s e w (.ok ()) { s with entries } w'

/-- A call, run on files in a state. -/
theorem edit_run (files : Files (StateM σ)) (s : RuleStore) (e : RuleEdit) (w : σ) :
    (s.edit files e).run w =
      match revise s.entries e with
      | .error err => ((.error err, s), w)
      | .ok entries =>
        match s.path with
        | none => ((.ok (), { s with entries }), w)
        | some path =>
          match (files.write path (text { s with entries })).run w with
          | (.ok (), w') => ((.ok (), { s with entries }), w')
          | (.error _, w') => ((.error (.file path), s), w') := by
  unfold edit
  cases revise s.entries e with
  | error err => rfl
  | ok entries =>
    cases s.path with
    | none => rfl
    | some path =>
      simp only [save, StateT.run, bind, StateT.bind]
      rcases files.write path (text ⟨some path, entries⟩) w with ⟨result, w'⟩
      cases result <;> rfl

theorem edit_outcome {s s' : RuleStore} {e : RuleEdit} {w w' : σ} {result : Except RuleError Unit}
    (h : (s.edit files e).run w = ((result, s'), w')) : Outcome files s e w result s' w' := by
  rw [edit_run] at h
  split at h
  · rename_i err revised
    cases h
    exact .refused revised
  · rename_i entries revised
    split at h
    · rename_i unkept
      cases h
      exact .unkept revised unkept
    · rename_i path kept
      split at h
      · rename_i written
        cases h
        exact .saved revised kept written
      · rename_i written
        cases h
        exact .unsaved revised kept written

/-- The stores a program can hold: an empty one, one read from a document or loaded from a file, and
what calls make of it. -/
inductive Reachable (files : Files (StateM σ)) : RuleStore → Prop
  | empty : Reachable files {}
  | parsed {text : String} {s : RuleStore} (h : parse text = .ok s) : Reachable files s
  | loaded {path : String} {w w' : σ} {s : RuleStore}
    (h : (load files path).run w = (.ok s, w')) : Reachable files s
  | edited {s s' : RuleStore} {e : RuleEdit} {w w' : σ} {result : Except RuleError Unit}
    (hs : Reachable files s) (h : (s.edit files e).run w = ((result, s'), w')) :
    Reachable files s'

theorem load_coherent {path : String} {w w' : σ} {s : RuleStore}
    (h : (load files path).run w = (.ok s, w')) : Coherent s.entries := by
  simp only [load, StateT.run, bind, StateT.bind] at h
  generalize ensure files path w = made at h
  obtain ⟨_ | _, v⟩ := made
  · cases h
  simp only [bind, StateT.bind] at h
  generalize files.read path v = content at h
  obtain ⟨_ | text, u⟩ := content
  · cases h
  dsimp only at h
  cases hparse : parse text with
  | error err =>
    rw [hparse] at h
    cases h
  | ok store =>
    rw [hparse] at h
    cases h
    show Coherent store.entries
    exact parse_coherent hparse

theorem edit_coherent {s s' : RuleStore} {e : RuleEdit} {w w' : σ}
    {result : Except RuleError Unit} (hs : Coherent s.entries)
    (h : (s.edit files e).run w = ((result, s'), w')) : Coherent s'.entries := by
  cases edit_outcome h with
  | refused | unsaved => exact hs
  | unkept revised | saved revised => exact (revise_ok hs revised).1

theorem Reachable.coherent {s : RuleStore} (h : Reachable files s) : Coherent s.entries := by
  induction h with
  | empty => exact .nil
  | parsed h => exact parse_coherent h
  | loaded h => exact load_coherent h
  | edited _ h ih => exact edit_coherent ih h

/-- In memory, every change that `Change` allows is made. -/
theorem Reachable.changed {s : RuleStore} (h : Reachable files s) (hpath : s.path = none)
    {e : RuleEdit} {rules : List CustomRule} (w : σ) (hchange : Change e s.list rules) :
    ∃ s', Reachable files s' ∧ s'.path = none ∧ s'.list = rules := by
  obtain ⟨entries, hrevise, hrules⟩ := revise_of_change h.coherent hchange
  have hrun : (s.edit files e).run w = ((.ok (), { s with entries }), w) := by
    rw [edit_run, hrevise, hpath]
  exact ⟨{ s with entries }, .edited h hrun, hpath, hrules⟩

/-! ## What a store reports -/

theorem Coherent.test_eq {s : RuleStore} (h : Coherent s.entries) (command : String) :
    s.test command = s.list.filter (·.hits command) := by
  have hfilter : s.entries.filter (·.compiled.fires command) =
      s.entries.filter (·.rule.hits command) :=
    List.filter_congr fun e he => (CustomRule.compiled_check (h.compiled e he) command).1
  rw [test, list, hfilter, List.filter_map]
  rfl

theorem Coherent.check_eq {s : RuleStore} (h : Coherent s.entries) (command : String) :
    s.check command =
      ((s.list.filter (·.hits command)).filter (·.enabled)).map CustomRule.finding := by
  obtain ⟨path, entries⟩ := s
  have hcheck : ∀ e ∈ entries, e.compiled.check .custom command =
      if e.rule.hits command then some e.rule.finding else none :=
    fun e he => (CustomRule.compiled_check (h.compiled e he) command).2
  clear h
  simp only [check, list]
  induction entries with
  | nil => rfl
  | cons e entries ih =>
    have hrest := ih fun f hf => hcheck f (List.mem_cons_of_mem e hf)
    have he := hcheck e (List.mem_cons_self ..)
    cases hon : e.rule.enabled <;> cases hhit : e.rule.hits command <;>
      simp_all

/-- Adds rules one after the other, going on when one is refused. -/
def addAll (files : Files (StateM σ)) (s : RuleStore) (rules : List CustomRule) :
    StateM σ RuleStore :=
  rules.foldlM (fun s r => Prod.snd <$> s.edit files (.add r)) s

/-- Adding the rules of coherent entries makes the entries again. -/
theorem Coherent.addAll_run {front back : List RuleEntry} (h : Coherent (front ++ back)) (w : σ) :
    (addAll files ⟨none, front⟩ (back.map (·.rule))).run w = (⟨none, front ++ back⟩, w) := by
  unfold addAll
  induction back generalizing front with
  | nil =>
    rw [List.append_nil]
    rfl
  | cons e back ih =>
    have hadd : revise front (.add e.rule) = .ok (front ++ [e]) :=
      revise_add (h.compiled e (by simp)) fun f hf =>
        h.others f (List.mem_append_left back hf)
    have hedit : (edit files ⟨none, front⟩ (.add e.rule)).run w =
        ((.ok (), ⟨none, front ++ [e]⟩), w) := by
      rw [edit_run, hadd]
    have hrest : Coherent ((front ++ [e]) ++ back) := by simpa using h
    have hnext := ih hrest
    rw [List.append_assoc, List.singleton_append] at hnext
    rw [List.map_cons, List.foldlM_cons, StateT.run_bind, StateT.run_map, hedit]
    exact hnext

/-- What holds in every store that can be reached. -/
structure Sound (files : Files (StateM σ)) (s : RuleStore) : Prop where
  /-- No two rules have one name. -/
  distinct : (s.list.map (·.name)).Nodup
  /-- Every rule has a name and a pattern that can be read. -/
  valid : ∀ r ∈ s.list, r.Valid
  /-- Every compiled form is what compiling its rule afresh gives. -/
  fresh : ∀ e ∈ s.entries, e.rule.compile = .ok e.compiled
  /-- A store made anew from the list of rules reports the same about every command. -/
  rebuilt : ∀ w, ∃ t, (addAll files {} s.list).run w = (t, w) ∧ t.list = s.list ∧
    ∀ command, t.check command = s.check command ∧ t.test command = s.test command
  /-- The rules that match a command are those whose patterns, read anew, do. -/
  tested : ∀ command, s.test command = s.list.filter (·.hits command)
  /-- Each enabled rule that matches reports once, in the order of the rules. -/
  checked : ∀ command,
    s.check command = ((s.test command).filter (·.enabled)).map CustomRule.finding

/-- However a store was made and changed, with or without success, it is sound: names are distinct,
nothing invalid is kept, and no compiled form is out of date. -/
theorem reachable_sound {s : RuleStore} (h : Reachable files s) : Sound files s := by
  have hcoherent : Coherent s.entries := h.coherent
  refine ⟨hcoherent.list_names, ?_, hcoherent.compiled, fun w => ?_, hcoherent.test_eq,
    fun command => ?_⟩
  · intro r hr
    obtain ⟨e, he, rfl⟩ := List.mem_map.1 hr
    exact CustomRule.valid_of_compile (hcoherent.compiled e he)
  · refine ⟨⟨none, s.entries⟩, ?_, rfl, fun command => ⟨rfl, rfl⟩⟩
    exact Coherent.addAll_run (show Coherent ([] ++ s.entries) from hcoherent) w
  · rw [hcoherent.check_eq, hcoherent.test_eq]

end Runs

/-- Files that cannot be reached at all. -/
def noFiles : Files (StateM Unit) :=
  ⟨fun _ => return false, fun _ => return none, fun _ _ => return .error .file⟩

/-- A rule is added and then given another message and no pattern. -/
theorem reachable_sound_inherited_pattern :
    ∃ s, Reachable noFiles s ∧
      s.list = [{ CustomRule.plain "no-rm" "rm" .high with message := "stop" }] ∧
      Sound noFiles s := by
  have hread : ∃ p, Pattern.ofText? "rm" = some p := Option.isSome_iff_exists.1 (by cbv)
  have hadd : Change (.add (.plain "no-rm" "rm" .high)) [] [.plain "no-rm" "rm" .high] :=
    .add ⟨by decide, by decide, hread⟩ (by simp)
  have hupdate : Change
      (.update "no-rm" { CustomRule.plain "other" "" .high with message := "stop" })
      [.plain "no-rm" "rm" .high]
      [{ CustomRule.plain "no-rm" "rm" .high with message := "stop" }] :=
    @Change.update [] [] (.plain "no-rm" "rm" .high) _ ⟨by decide, by decide, hread⟩
  obtain ⟨s, hs, hpath, hlist⟩ :=
    (Reachable.empty : Reachable noFiles {}).changed rfl () hadd
  rw [← hlist] at hupdate
  obtain ⟨t, ht, -, htlist⟩ := hs.changed hpath () hupdate
  exact ⟨t, ht, htlist, reachable_sound ht⟩

end RuleStore

end ShellGuard
