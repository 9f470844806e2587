import Mathlib
import ShellGuard.Proofs.Rule.Coherence
import ShellGuard.Proofs.Toml.Lines
import ShellGuard.Proofs.Toml.Tables

/-!
# A rules document keeps its store

The document of a store is read back to the same rules.  On the way there, each rule is the entries
of a table, the document is the array of these tables under a header of comments, and the reader
passes over none of them: in a coherent store no rule repeats a name or fails to compile.
-/

namespace ShellGuard

/-! ## One rule -/

namespace CustomRule

/-- The entries of a rule in a rules document. -/
def entries (r : CustomRule) : Toml.Entries :=
  [("name", .string r.name), ("description", .string r.description),
    ("pattern", .string r.pattern), ("risk", .string r.risk), ("message", .string r.message),
    ("suggest", .string r.suggest), ("enabled", .boolean r.enabled),
    ("tags", .array (r.tags.map .string))]

theorem entries_keys (r : CustomRule) : (r.entries.map (·.1)).Nodup := by
  simp [entries]

theorem entries_resolved (r : CustomRule) : Toml.Resolved (.table r.entries) := by
  have htags : Toml.Resolved (.array (r.tags.map .string)) := by
    refine Toml.resolved_array fun v hv => ?_
    obtain ⟨s, -, rfl⟩ := List.mem_map.1 hv
    exact Toml.resolved_string s
  have hall : ∀ e ∈ r.entries, Toml.Resolved e.2 := by
    simp [entries, Toml.resolved_string, Toml.resolved_boolean, htags]
  exact Toml.resolved_table (by decide) hall

theorem textItems?_strings (items : List String) :
    Toml.textItems? (items.map .string) = some items := by
  induction items with
  | nil => rfl
  | cons s items ih => simp [Toml.textItems?, Toml.text?, ih]

/-- A rule is found again among its entries. -/
theorem ofToml?_entries (r : CustomRule) : ofToml? (.table r.entries) = some r := by
  have htags : Toml.texts? (.array (r.tags.map .string)) = some r.tags := textItems?_strings r.tags
  have hrest : ofToml? (.table r.entries) = (Toml.texts? (.array (r.tags.map .string))).bind
      fun tags => some { r with tags } := rfl
  rw [hrest, htags]
  rfl

/-- The lines of a rule open a table and set its entries. -/
theorem reads_text {size : Nat} {r : CustomRule} (hsize : r.tags.length < size)
    (rest : List Char) :
    Toml.Reads size (r.text.toList ++ rest) (Toml.itemLines "rules" r.entries) rest := by
  have hheader : "[[rules]]\n".toList = ("[[" ++ "rules" ++ "]]\n").toList := rfl
  have hlines := (Toml.reads_item size "rules" rfl _).trans <|
    (Toml.reads_entry "name" rfl (Toml.denotes_quote size r.name) _).trans <|
    (Toml.reads_entry "description" rfl (Toml.denotes_quote size r.description) _).trans <|
    (Toml.reads_entry "pattern" rfl (Toml.denotes_quote size r.pattern) _).trans <|
    (Toml.reads_entry "risk" rfl (Toml.denotes_quote size r.risk) _).trans <|
    (Toml.reads_entry "message" rfl (Toml.denotes_quote size r.message) _).trans <|
    (Toml.reads_entry "suggest" rfl (Toml.denotes_quote size r.suggest) _).trans <|
    (Toml.reads_entry "enabled" rfl (Toml.denotes_boolean size r.enabled) _).trans <|
    Toml.reads_entry "tags" rfl (Toml.denotes_texts hsize) rest
  delta text
  simp only [String.toList_append, List.append_assoc]
  rw [hheader]
  exact hlines

/-! ## The rules of a document -/

/-- The lines of the rules of a document that has any. -/
def listLines (rules : List CustomRule) : List Toml.Line :=
  (rules.map entries).flatMap (Toml.itemLines "rules")

@[simp] theorem listLines_cons (r : CustomRule) (rules : List CustomRule) :
    listLines (r :: rules) = Toml.itemLines "rules" r.entries ++ listLines rules := by
  simp [listLines]

/-- The rules after the first, an empty line before each. -/
def furtherText (rules : List CustomRule) : List Char :=
  rules.flatMap fun r => '\n' :: r.text.toList

theorem reads_furtherText {size : Nat} {rules : List CustomRule}
    (hsize : ∀ r ∈ rules, r.tags.length < size) :
    Toml.Reads size (furtherText rules) (listLines rules) [] := by
  induction rules with
  | nil => exact .refl size []
  | cons r rules ih =>
    have hlater := ih fun r' hr' => hsize r' (List.mem_cons_of_mem _ hr')
    have hrule := (reads_text (hsize r (by simp)) _).trans hlater
    rw [listLines_cons, furtherText, List.flatMap_cons, List.cons_append]
    exact (Toml.reads_empty size _).trans hrule

theorem listText_toList (r : CustomRule) (rules : List CustomRule) :
    (listText (r :: rules)).toList = r.text.toList ++ furtherText rules := by
  have hnewline : "\n".toList = ['\n'] := rfl
  rw [listText, if_neg (by simp), List.map_cons, Toml.join_toList, List.flatMap_map, hnewline]
  rfl

theorem reads_listText {size : Nat} {rules : List CustomRule} (hne : rules ≠ [])
    (hsize : ∀ r ∈ rules, r.tags.length < size) :
    Toml.Reads size (listText rules).toList (listLines rules) [] := by
  obtain ⟨r, rules, rfl⟩ := List.exists_cons_of_ne_nil hne
  have hlater := reads_furtherText fun r' hr' => hsize r' (List.mem_cons_of_mem _ hr')
  rw [listText_toList, listLines_cons]
  exact (reads_text (hsize r (by simp)) _).trans hlater

/-! ### The length of a document bounds the arrays in it -/

theorem length_lt_inlineTexts (items : List String) :
    items.length < (Toml.inlineTexts items).toList.length := by
  cases items with
  | nil => decide
  | cons s more =>
    have hmore : more.length ≤ (Toml.furtherTexts more).length := by
      induction more with
      | nil => simp
      | cons t more ih =>
        simp only [Toml.furtherTexts, List.flatMap_cons, List.length_append] at ih ⊢
        have hcomma : ", ".toList.length = 2 := rfl
        simp only [List.length_cons]
        omega
    rw [Toml.inlineTexts_toList]
    simp only [List.length_cons, List.length_append]
    omega

theorem tags_length_lt_text (r : CustomRule) : r.tags.length < r.text.toList.length := by
  have htags := length_lt_inlineTexts r.tags
  delta text Toml.entry
  simp only [String.toList_append, List.length_append]
  omega

theorem tags_length_lt_listText {rules : List CustomRule} {r : CustomRule} (hr : r ∈ rules) :
    r.tags.length < (listText rules).toList.length := by
  have htags := tags_length_lt_text r
  have hfurther : ∀ rules : List CustomRule, r ∈ rules →
      r.text.toList.length ≤ (furtherText rules).length := by
    intro rules hmem
    have hsub : ('\n' :: r.text.toList).Sublist (furtherText rules) :=
      List.sublist_flatten_of_mem (List.mem_map_of_mem hmem)
    have hlength := hsub.length_le
    rw [List.length_cons] at hlength
    omega
  cases rules with
  | nil => simp at hr
  | cons first rules =>
    rw [listText_toList, List.length_append]
    rcases List.mem_cons.1 hr with rfl | hr
    · omega
    · have hlength := hfurther rules hr
      omega

/-! ### Reading the rules back -/

/-- The text of a list of rules is a document with a table for each. -/
theorem reads_document {size : Nat} {rules : List CustomRule}
    (hsize : (listText rules).toList.length ≤ size) :
    ∃ lines, Toml.Reads size (listText rules).toList lines [] ∧
      Toml.document? lines = some [("rules", .array (rules.map fun r => .table r.entries))] := by
  by_cases hne : rules = []
  · subst hne
    have hpos : ([] : List String).length < size := Nat.lt_of_lt_of_le (by decide) hsize
    have hread := Toml.reads_entry "rules" rfl (Toml.denotes_texts hpos) []
    rw [List.append_nil] at hread
    refine ⟨Toml.settingLines [("rules", .array [])], hread, ?_⟩
    exact Toml.document?_settings (by simp) (by simpa using Toml.resolved_array (by simp))
  · have htags : ∀ r ∈ rules, r.tags.length < size := fun r hr =>
      Nat.lt_of_lt_of_le (tags_length_lt_listText hr) hsize
    refine ⟨listLines rules, reads_listText hne htags, ?_⟩
    rw [listLines, Toml.document?_items "rules" (by simpa using hne), List.map_map]
    · rfl
    · intro entries hentries
      obtain ⟨r, -, rfl⟩ := List.mem_map.1 hentries
      exact r.entries_keys
    · intro entries hentries
      obtain ⟨r, -, rfl⟩ := List.mem_map.1 hentries
      exact r.entries_resolved

end CustomRule

/-! ## Stores -/

namespace RuleStore

theorem header_remarks : Toml.isRemarks false header.toList = true := by
  delta header
  rw [String.toList_append]
  iterate 10 rw [String.toList_append]
  iterate 11 refine Toml.isRemarks_append ?_ (Toml.isRemarks_ofList (by decide))
  exact Toml.isRemarks_ofList (by decide)

theorem header_ne_nil : header.toList ≠ [] := by
  delta header
  rw [String.toList_append]
  exact List.append_ne_nil_of_right_ne_nil _ (by decide)

/-- The document of a store, read. -/
theorem parse_document (s : RuleStore) :
    Toml.parse s.text = some [("rules", .array (s.list.map fun r => .table r.entries))] := by
  have htext : s.text.toList = header.toList ++ (CustomRule.listText s.list).toList :=
    String.toList_append
  have hsize : (CustomRule.listText s.list).toList.length ≤ s.text.toList.length := by
    rw [htext, List.length_append]
    omega
  obtain ⟨lines, hreads, hdocument⟩ := CustomRule.reads_document hsize
  have hall := (Toml.reads_remarks s.text.toList.length header_remarks _).trans hreads
  rw [← htext, List.nil_append] at hall
  have hmark : Toml.dropMark s.text.toList = s.text.toList := by
    rw [htext]
    exact Toml.dropMark_remarks header_remarks header_ne_nil _
  rw [Toml.parse, hmark]
  simp [hall.document, hdocument]

theorem accept_entry {front : List RuleEntry} {e : RuleEntry}
    (hname : ∀ f ∈ front, f.rule.name ≠ e.rule.name) (he : e.rule.compile = .ok e.compiled) :
    accept front (.table e.rule.entries) = front ++ [e] := by
  have hnew : ¬front.any (·.rule.name == e.rule.name) = true := by
    rw [any_name]
    rintro ⟨f, hf, hfe⟩
    exact hname f hf hfe
  rw [accept, CustomRule.ofToml?_entries]
  simp only [if_neg hnew, he]

/-- The reader passes over none of the rules of coherent entries. -/
theorem Coherent.foldl_accept {front back : List RuleEntry} (h : Coherent (front ++ back)) :
    (back.map fun e => Toml.table e.rule.entries).foldl accept front = front ++ back := by
  induction back generalizing front with
  | nil => simp
  | cons e back ih =>
    have hnew := accept_entry (fun f hf => h.others f (List.mem_append_left back hf))
      (h.compiled e (by simp))
    have hrest : Coherent ((front ++ [e]) ++ back) := by simpa using h
    rw [List.map_cons, List.foldl_cons, hnew, ih hrest]
    simp

theorem Coherent.parse_text {s : RuleStore} (h : Coherent s.entries) :
    parse s.text = .ok ⟨none, s.entries⟩ := by
  have hentries := Coherent.foldl_accept (show Coherent ([] ++ s.entries) from h)
  have hcandidates : CustomRule.candidates
      [("rules", .array (s.list.map fun r => .table r.entries))] =
        s.entries.map fun e => Toml.table e.rule.entries := by
    simp [CustomRule.candidates, list]
  rw [parse, parse_document]
  simp only [hcandidates, hentries, List.nil_append]

section Reload

variable {σ : Type} {files : Files (StateM σ)}

/-- Whatever made a store, its document is read back to a store with the same rules in the same
order, each field as it was, ready to match as before. -/
theorem reachable_text_parses {s : RuleStore} (h : Reachable files s) :
    ∃ t, parse s.text = .ok t ∧ t.list = s.list ∧ t.entries = s.entries :=
  ⟨⟨none, s.entries⟩, h.coherent.parse_text, rfl, rfl⟩

end Reload

/-- A rule whose texts hold quotes of both kinds, backslashes, line ends, control characters and what
looks like a header. -/
def awkwardRule : CustomRule where
  name := "it's \"so\""
  description := "[[rules]]\nname = 'other'\n"
  pattern := "rm\\."
  risk := " Whatever\t"
  message := "'''\"\"\"\\"
  suggest := "\u007F\r"
  enabled := false
  tags := ["", "a, b", "]\n#"]

/-- A plain rule is added, then everything but its name and its pattern is changed, and another rule
is added. -/
theorem reachable_text_parses_awkward :
    ∃ s, Reachable noFiles s ∧ s.list = [awkwardRule, .plain "last" "rm" .low] ∧
      ∃ t, parse s.text = .ok t ∧ t.list = s.list ∧ t.entries = s.entries := by
  have hread : ∃ p, Pattern.ofText? "rm\\." = some p := Option.isSome_iff_exists.1 (by cbv)
  have hread' : ∃ p, Pattern.ofText? "rm" = some p := Option.isSome_iff_exists.1 (by cbv)
  have hadd : Change (.add (.plain awkwardRule.name "rm\\." .high)) []
      [.plain awkwardRule.name "rm\\." .high] :=
    .add ⟨by decide, by decide, hread⟩ (by simp)
  have hupdate : Change (.update awkwardRule.name { awkwardRule with name := "", pattern := "" })
      [.plain awkwardRule.name "rm\\." .high] [awkwardRule] :=
    @Change.update [] [] (.plain awkwardRule.name "rm\\." .high) _ ⟨by decide, by decide, hread⟩
  have hlast : Change (.add (.plain "last" "rm" .low)) [awkwardRule]
      [awkwardRule, .plain "last" "rm" .low] :=
    .add ⟨by decide, by decide, hread'⟩ (by decide)
  obtain ⟨s₁, hs₁, hpath₁, hlist₁⟩ :=
    (Reachable.empty : Reachable noFiles {}).changed rfl () hadd
  rw [← hlist₁] at hupdate
  obtain ⟨s₂, hs₂, hpath₂, hlist₂⟩ := hs₁.changed hpath₁ () hupdate
  rw [← hlist₂] at hlast
  obtain ⟨s₃, hs₃, -, hlist₃⟩ := hs₂.changed hpath₂ () hlast
  exact ⟨s₃, hs₃, hlist₃, reachable_text_parses hs₃⟩

end RuleStore

end ShellGuard
