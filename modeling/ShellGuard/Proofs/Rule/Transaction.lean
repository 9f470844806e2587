import Mathlib
import ShellGuard.Proofs.Rule.Coherence

/-!
# A change to the rules is made whole or not at all

A call on a store either fails and leaves the store as it was, or succeeds and does to the list of
rules what `Change` says, after the file of the store, if it has one, was written with exactly the
new list.  `RuleMap` is what the store is to its users, an insertion-ordered map keyed by name; a
successful call is one operation on that map.
-/

namespace ShellGuard

/-- Rules by their names, the names in the order in which they were first added. -/
structure RuleMap where
  names : List String
  find : String → Option CustomRule

namespace RuleMap

/-- A rule with a name that is new. -/
def insert (m : RuleMap) (r : CustomRule) : RuleMap :=
  ⟨m.names ++ [r.name], Function.update m.find r.name (some r)⟩

/-- Another rule under a name that is there. -/
def replace (m : RuleMap) (r : CustomRule) : RuleMap :=
  ⟨m.names, Function.update m.find r.name (some r)⟩

def erase (m : RuleMap) (name : String) : RuleMap :=
  ⟨m.names.erase name, Function.update m.find name none⟩

/-- A change as an operation on the map. -/
def edit (m : RuleMap) : RuleEdit → RuleMap
  | .add rule => m.insert rule
  | .update name rule => (m.find name).elim m fun old => m.replace (rule.inheriting old)
  | .delete name => m.erase name
  | .setEnabled name enabled => (m.find name).elim m fun old => m.replace { old with enabled }

/-- The map that a list of rules stands for. -/
def ofList (rules : List CustomRule) : RuleMap :=
  ⟨rules.map (·.name), fun name => rules.find? (·.name == name)⟩

theorem ofList_snoc {rules : List CustomRule} {rule : CustomRule}
    (fresh : ∀ r ∈ rules, r.name ≠ rule.name) :
    ofList (rules ++ [rule]) = (ofList rules).insert rule := by
  have hnone : rules.find? (·.name == rule.name) = none := by simpa using fresh
  simp only [ofList, insert, List.map_append, List.map_singleton, mk.injEq, true_and]
  funext name
  rw [List.find?_append, Function.update_apply]
  by_cases hname : name = rule.name
  · subst hname
    simp [hnone]
  · have hother : (rule.name == name) = false := by simpa using Ne.symm hname
    simp [hname, hother]

section Located

variable {front back : List CustomRule} {old : CustomRule}
  (hnames : ((front ++ old :: back).map (·.name)).Nodup)
include hnames

theorem find_located : (ofList (front ++ old :: back)).find old.name = some old ∧
    front.find? (·.name == old.name) = none ∧ back.find? (·.name == old.name) = none := by
  rw [List.map_append, List.map_cons, List.nodup_middle, List.nodup_cons, ← List.map_append]
    at hnames
  have hothers : ∀ r ∈ front ++ back, r.name ≠ old.name := by
    intro r hr hname
    rw [← hname] at hnames
    exact hnames.1 (List.mem_map_of_mem hr)
  have hfront : front.find? (·.name == old.name) = none := by
    simpa using fun r hr => hothers r (List.mem_append_left back hr)
  have hback : back.find? (·.name == old.name) = none := by
    simpa using fun r hr => hothers r (List.mem_append_right front hr)
  exact ⟨by simp [ofList, hfront], hfront, hback⟩

/-- A rule that takes the place of one with its name. -/
theorem ofList_replace {new : CustomRule} (hname : new.name = old.name) :
    ofList (front ++ new :: back) = (ofList (front ++ old :: back)).replace new := by
  obtain ⟨-, hfront, -⟩ := find_located hnames
  simp only [ofList, replace, List.map_append, List.map_cons, hname, mk.injEq, true_and]
  funext name
  rw [Function.update_apply, List.find?_append, List.find?_append]
  by_cases hold : name = old.name
  · subst hold
    simp [hfront, hname]
  · have hother : (old.name == name) = false := by simpa using Ne.symm hold
    simp [hname, hold, hother]

theorem ofList_remove :
    ofList (front ++ back) = (ofList (front ++ old :: back)).erase old.name := by
  obtain ⟨-, hfront, hback⟩ := find_located hnames
  have hfresh : old.name ∉ front.map (·.name) := by
    intro hmem
    obtain ⟨r, hr, hname⟩ := List.mem_map.1 hmem
    have hnone := List.find?_eq_none.1 hfront r hr
    exact hnone (by simpa using hname)
  simp only [ofList, erase, List.map_append, List.map_cons, mk.injEq]
  constructor
  · rw [List.erase_append_right _ hfresh, List.erase_cons_head]
  · funext name
    rw [Function.update_apply, List.find?_append, List.find?_append]
    by_cases hold : name = old.name
    · subst hold
      simp [hfront, hback]
    · have hother : (old.name == name) = false := by simpa using Ne.symm hold
      simp [hold, hother]

end Located

/-- What a change does to a list of rules with distinct names is an operation on the map. -/
theorem ofList_change {e : RuleEdit} {rules rules' : List CustomRule}
    (hnames : (rules.map (·.name)).Nodup) (h : Change e rules rules') :
    ofList rules' = (ofList rules).edit e := by
  cases h with
  | add valid fresh => exact ofList_snoc fresh
  | update valid =>
    rw [edit, (find_located hnames).1]
    exact ofList_replace hnames rfl
  | delete => exact ofList_remove hnames
  | setEnabled =>
    rw [edit, (find_located hnames).1]
    exact ofList_replace hnames rfl

end RuleMap

namespace RuleStore

/-- The store as its users see it. -/
def ruleMap (s : RuleStore) : RuleMap :=
  ⟨s.list.map (·.name), s.get?⟩

variable {σ : Type} {files : Files (StateM σ)}

/-- What a call on a store may do, given what it returned. -/
structure AllOrNothing (files : Files (StateM σ)) (s : RuleStore) (e : RuleEdit) (w : σ)
    (result : Except RuleError Unit) (s' : RuleStore) (w' : σ) : Prop where
  /-- A call that fails leaves the store as it was. -/
  nothing : ∀ err, result = .error err → s' = s
  /-- A call that succeeds makes the change to the list and nothing else. -/
  change : result = .ok () → s'.path = s.path ∧ Change e s.list s'.list
  /-- To the users it is one operation on the map. -/
  refines : result = .ok () → s'.ruleMap = s.ruleMap.edit e
  /-- The file of the store, if it has one, was written with the new list. -/
  written : result = .ok () → ∀ path, s.path = some path →
    (files.write path (header ++ CustomRule.listText s'.list)).run w = (.ok (), w')
  /-- A call fails only if there is no such change or the new list cannot be written. -/
  progress : result = .ok () ↔ ∃ rules, Change e s.list rules ∧ ∀ path, s.path = some path →
    ((files.write path (header ++ CustomRule.listText rules)).run w).1 = .ok ()

/-- The rules after a change are determined: those of the entries that `revise` gives. -/
theorem change_iff {s : RuleStore} (h : Coherent s.entries) {e : RuleEdit}
    {rules : List CustomRule} :
    Change e s.list rules ↔
      ∃ entries, revise s.entries e = .ok entries ∧ entries.map (·.rule) = rules := by
  constructor
  · exact revise_of_change h
  · rintro ⟨entries, hrevise, rfl⟩
    exact (revise_ok h hrevise).2

/-- A change that was worked out and saved, if it had to be. -/
theorem allOrNothing_made {s : RuleStore} {e : RuleEdit} {w w' : σ} {entries : List RuleEntry}
    (h : Coherent s.entries) (revised : revise s.entries e = .ok entries)
    (written : ∀ path, s.path = some path →
      (files.write path (text { s with entries })).run w = (.ok (), w')) :
    AllOrNothing files s e w (.ok ()) { s with entries } w' := by
  have hchange : Change e s.list (entries.map (·.rule)) := (change_iff h).2 ⟨entries, revised, rfl⟩
  refine ⟨nofun, fun _ => ⟨rfl, hchange⟩, fun _ => ?_, fun _ => written, fun _ => ?_, fun _ => rfl⟩
  · exact RuleMap.ofList_change h.list_names hchange
  · refine ⟨_, hchange, fun path hpath => ?_⟩
    exact congrArg Prod.fst (written path hpath)

/-- A call that failed, the new list being impossible or impossible to write. -/
theorem allOrNothing_failed {s : RuleStore} {e : RuleEdit} {w w' : σ} {err : RuleError}
    (h : ∀ rules, Change e s.list rules → ∃ path, s.path = some path ∧
      ((files.write path (header ++ CustomRule.listText rules)).run w).1 ≠ .ok ()) :
    AllOrNothing files s e w (.error err) s w' := by
  refine ⟨fun _ _ => rfl, nofun, nofun, nofun, nofun, ?_⟩
  rintro ⟨rules, hchange, hwritten⟩
  obtain ⟨path, hpath, hfailed⟩ := h rules hchange
  exact absurd (hwritten path hpath) hfailed

/-- Every call on a store that can be reached is made whole or not at all. -/
theorem edit_all_or_nothing {s s' : RuleStore} {e : RuleEdit} {w w' : σ}
    {result : Except RuleError Unit} (hs : Reachable files s)
    (h : (s.edit files e).run w = ((result, s'), w')) :
    AllOrNothing files s e w result s' w' := by
  have hcoherent : Coherent s.entries := hs.coherent
  cases edit_outcome h with
  | refused revised =>
    refine allOrNothing_failed fun rules hchange => ?_
    obtain ⟨entries, hok, -⟩ := (change_iff hcoherent).1 hchange
    rw [revised] at hok
    cases hok
  | unsaved revised kept written =>
    refine allOrNothing_failed fun rules hchange => ⟨_, kept, ?_⟩
    obtain ⟨entries, hok, rfl⟩ := (change_iff hcoherent).1 hchange
    rw [revised] at hok
    cases hok
    intro hwritten
    have hfailed := congrArg Prod.fst written
    cases hwritten.symm.trans hfailed
  | unkept revised unkept =>
    refine allOrNothing_made hcoherent revised fun path hpath => ?_
    rw [unkept] at hpath
    cases hpath
  | saved revised kept written =>
    refine allOrNothing_made hcoherent revised fun path hpath => ?_
    rw [kept] at hpath
    cases hpath
    exact written

/-- An empty file that can be written once. -/
def writtenOnce : Files (StateM (List String)) where
  exists? _ := return true
  read _ := return some ""
  write _ text := fun log =>
    if log.isEmpty then (.ok (), [text]) else (.error .file, log)

/-- A rule is added to a store with a file, and stays when the file cannot be written again. -/
theorem edit_all_or_nothing_delete_unwritten :
    ∃ s log, s.path = some "rules.toml" ∧ s.list = [.plain "no-rm" "rm" .high] ∧
      (edit writtenOnce ⟨some "rules.toml", []⟩ (.add (.plain "no-rm" "rm" .high))).run [] =
        ((.ok (), s), log) ∧
      AllOrNothing writtenOnce ⟨some "rules.toml", []⟩ (.add (.plain "no-rm" "rm" .high)) []
        (.ok ()) s log ∧
      AllOrNothing writtenOnce s (.delete "no-rm") log (.error (.file "rules.toml")) s log := by
  have hload : (load writtenOnce "rules.toml").run [] = (.ok ⟨some "rules.toml", []⟩, []) := by cbv
  have hreachable : Reachable writtenOnce ⟨some "rules.toml", []⟩ := .loaded hload
  have hvalid : (CustomRule.plain "no-rm" "rm" .high).Valid :=
    ⟨by decide, by decide, Option.isSome_iff_exists.1 (by cbv)⟩
  obtain ⟨added, hadded, hlist⟩ := revise_of_change (.nil : Coherent []) (.add hvalid (by simp))
  have hadd : (edit writtenOnce ⟨some "rules.toml", []⟩ (.add (.plain "no-rm" "rm" .high))).run [] =
      ((.ok (), ⟨some "rules.toml", added⟩), [text ⟨some "rules.toml", added⟩]) := by
    rw [edit_run, hadded]
    rfl
  have hreached : Reachable writtenOnce ⟨some "rules.toml", added⟩ := .edited hreachable hadd
  have hchange : Change (.delete "no-rm") (added.map (·.rule)) [] := by
    rw [hlist]
    exact @Change.delete [] [] (.plain "no-rm" "rm" .high)
  obtain ⟨left, hleft, -⟩ := revise_of_change hreached.coherent hchange
  have hdelete : (edit writtenOnce ⟨some "rules.toml", added⟩ (.delete "no-rm")).run
      [text ⟨some "rules.toml", added⟩] =
      ((.error (.file "rules.toml"), ⟨some "rules.toml", added⟩),
        [text ⟨some "rules.toml", added⟩]) := by
    rw [edit_run, hleft]
    rfl
  exact ⟨⟨some "rules.toml", added⟩, _, rfl, hlist, hadd, edit_all_or_nothing hreachable hadd,
    edit_all_or_nothing hreached hdelete⟩

end RuleStore

end ShellGuard
