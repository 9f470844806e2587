import Mathlib
import ShellGuard.Proofs.Syntax.Readers
import ShellGuard.Proofs.Syntax.Walk

/-!
# Reading at another depth

What is read without complaint does not depend on how many levels are left, as long as they suffice.
`Node.nesting` counts the groups and substitutions that stand inside one another, and a level that
has more levels below it than a tree nests reads that tree as any other level does
(`level_agrees`).  A level that has at least as many levels as the first reads everything the first
read.

Complaints are not compared: the structure of a redirect's target is dropped, so a target that is
too deep for the second level is complained about and leaves no other trace.
-/

namespace ShellGuard

/-! ## How deep a tree nests -/

namespace Node

mutual

/-- How many groups and substitutions with something in them stand inside one another. -/
def nesting : Node → Nat
  | command _ _ _ cs => nestingAll cs
  | pipeline _ cs _ => nestingAll cs
  | subshell _ body _ _ => nestingBody body
  | quoted _ _ _ es => nestingAll es
  | background _ b => b.nesting
  | list _ is _ => nestingAll is
  | both _ l r => max l.nesting r.nesting
  | either _ l r => max l.nesting r.nesting
  | redirect .. => 0
  | parameter .. => 0
  | glob .. => 0

def nestingAll : List Node → Nat
  | [] => 0
  | n :: ns => max n.nesting (nestingAll ns)

def nestingBody : Option Node → Nat
  | none => 0
  | some n => n.nesting + 1

end

theorem nesting_le_nestingAll {n : Node} {ns : List Node} (h : n ∈ ns) :
    n.nesting ≤ nestingAll ns := by
  induction ns with
  | nil => cases h
  | cons m ns ih =>
    rw [nestingAll]
    rcases List.mem_cons.1 h with rfl | h
    · exact Nat.le_max_left _ _
    · exact (ih h).trans (Nat.le_max_right _ _)

theorem nesting_child {n c : Node} (h : c ∈ n.children) : c.nesting ≤ n.nesting := by
  cases n with
  | command | pipeline | quoted | list => exact nesting_le_nestingAll h
  | subshell p body isCommand backtick =>
    obtain rfl : body = some c := by simpa [children] using h
    exact Nat.le_succ _
  | background p b =>
    obtain rfl : c = b := by simpa [children] using h
    exact Nat.le_refl _
  | both p l r | either p l r =>
    have hside : c = l ∨ c = r := by simpa [children] using h
    rcases hside with rfl | rfl
    · exact Nat.le_max_left _ _
    · exact Nat.le_max_right _ _
  | redirect | parameter | glob => cases h

/-- Trees that nest less deep than a bound; without a bound, all trees. -/
def Shallow (bound : Option Nat) (n : Node) : Prop :=
  ∀ b ∈ bound, n.nesting < b

theorem shallow_none {n : Node} : n.Shallow none :=
  fun _ hb => nomatch hb

theorem Shallow.child {bound : Option Nat} {n c : Node} (h : n.Shallow bound)
    (hc : c ∈ n.children) : c.Shallow bound :=
  fun b hb => Nat.lt_of_le_of_lt (nesting_child hc) (h b hb)

/-- Inside a group or substitution the bound is one less. -/
theorem Shallow.body {bound : Option Nat} {p : Position} {body : Option Node}
    {isCommand backtick : Bool} (h : (subshell p body isCommand backtick).Shallow bound) :
    ∀ n ∈ body, n.Shallow (bound.map Nat.pred) := by
  rintro n hn b hb
  obtain rfl : body = some n := hn
  obtain ⟨c, hc, rfl⟩ := Option.map_eq_some_iff.1 hb
  have hlt : n.nesting + 1 < c := h c hc
  show n.nesting < c - 1
  omega

end Node

/-! ## Readers -/

/-- A second reading with the same outcome, complaints apart. -/
structure Parsed.Same {α : Type} (r r' : Parsed α) : Prop where
  value : r'.value = r.value
  rest : r'.rest = r.rest

/-- `l'` reads what `l` reads without complaint, where the tree nests less deep than the bound. -/
def Level.Agrees (bound : Option Nat) (l l' : Level) : Prop :=
  ∀ inGroup ts, (l.list inGroup ts).notes = [] →
    (∀ n ∈ (l.list inGroup ts).value, n.Shallow bound) →
      (l.list inGroup ts).Same (l'.list inGroup ts)

/-- The text that a token adds to a word is the same at every depth. -/
theorem Token.part_text (below below' : Option Level) (t : Token) :
    (t.part below').text = (t.part below).text := by
  unfold Token.part Token.partWith
  split <;> rfl

theorem Redirect.parse_same (below below' : Option Level) (op : Token) (ts : List Token) :
    (parse below op ts).Same (parse below' op ts) := by
  have htexts : ((targetSpan none ts).1.map fun t => (t.part below').text) =
      (targetSpan none ts).1.map fun t => (t.part below).text :=
    List.map_congr_left fun t _ => t.part_text below below'
  have htarget : (readTarget below' ts).value = (readTarget below ts).value := by
    simpa [readTarget, Function.comp_def] using congrArg String.join htexts
  unfold parse
  dsimp only
  split
  · exact ⟨by rw [htarget], rfl⟩
  · exact ⟨rfl, rfl⟩

/-- What has been read of a command stays a part of it. -/
theorem Draft.children_suffix (below : Option Level) (d : Draft) (ts : List Token) :
    d.children <:+ (read below d ts).value.children := by
  fun_induction read below d ts with
  | case1 => exact List.suffix_refl _
  | case2 d t rest _ part more ih => exact (List.suffix_append _ _).trans ih
  | case3 d t rest _ _ r more ih => exact (List.suffix_cons _ _).trans ih
  | case4 d t rest _ _ _ ih => exact ih
  | case5 d t rest _ _ _ _ ih => exact ih
  | case6 => exact List.suffix_refl _

theorem listNode_shallow {bound : Option Nat} {start : Position} {items : List Node}
    {separators : List Separator}
    (h : ∀ n ∈ listNode start items separators, n.Shallow bound) :
    ∀ n ∈ items, n.Shallow bound := by
  match items with
  | [] => exact fun n hn => nomatch hn
  | [item] =>
    intro n hn
    rw [List.mem_singleton.1 hn]
    exact h item rfl
  | _ :: _ :: _ => exact fun n hn => (h _ rfl).child hn

section Readers

variable {bound : Option Nat} {below below' : Option Level}
  (hb : ∀ l ∈ below, ∃ l' ∈ below', l.Agrees (bound.map Nat.pred) l')

include hb

/-! ### Words -/

theorem substitution_agrees {body : String} {inner position : Position} {backtick : Bool}
    (hnotes : (substitution below body inner position backtick).2 = [])
    (hshallow : (substitution below body inner position backtick).1.Shallow bound) :
    (substitution below' body inner position backtick).1 =
      (substitution below body inner position backtick).1 := by
  obtain ⟨l, ts, rfl, hts, hsilent⟩ := substitution_silent hnotes
  obtain ⟨l', rfl, hagrees⟩ := hb l rfl
  rw [substitution_ok l hts] at hshallow
  rw [substitution_ok l hts, substitution_ok l' hts,
    (hagrees false ts hsilent hshallow.body).value]

theorem partWith_agrees {t : Token} {inside inside' : List Node × List Finding}
    (hin : inside.2 = [] → (∀ n ∈ inside.1, n.Shallow bound) → inside'.1 = inside.1)
    (hnotes : (t.partWith below inside).notes = [])
    (hshallow : ∀ n ∈ (t.partWith below inside).node, n.Shallow bound) :
    (t.partWith below' inside').node = (t.partWith below inside).node := by
  unfold Token.partWith at hnotes hshallow ⊢
  cases hk : t.kind with
  | quoted style =>
    cases style with
    | double =>
      simp only [hk] at hnotes hshallow ⊢
      have hall : ∀ n ∈ inside.1, n.Shallow bound := fun n hn => (hshallow _ rfl).child hn
      rw [hin hnotes hall]
    | single | ansiC => rfl
  | substitution | backtick =>
    simp only [hk] at hnotes hshallow ⊢
    rw [substitution_agrees hb hnotes (hshallow _ rfl)]
  | _ => rfl

theorem expansions_agrees {p : Position} {cs : List Char}
    (hnotes : (expansions below p cs).2 = [])
    (hshallow : ∀ n ∈ (expansions below p cs).1, n.Shallow bound) :
    (expansions below' p cs).1 = (expansions below p cs).1 := by
  fun_induction expansions below p cs with
  | case1 => rw [expansions_nil]
  | case2 => rw [expansions_lone_backslash]
  | case3 p d after ih =>
    rw [expansions_escape]
    exact ih hnotes hshallow
  | case4 p c rest hc hd e he ih =>
    rw [expansions_unclosed below' hd he]
    exact ih hnotes hshallow
  | case5 p c rest hc hd lx hlx inside part after ihin ihafter =>
    obtain ⟨hpart, hafter⟩ := List.append_eq_nil_iff.1 hnotes
    have hin : inside.2 = [] → (∀ n ∈ inside.1, n.Shallow bound) →
        (if lx.kind = .quoted .double then
          expansions below' (p.shift 1) lx.value else ([], [])).1 = inside.1 := by
      by_cases hk : lx.kind = .quoted .double
      · simpa only [inside, dif_pos hk, if_pos hk] using ihin hk
      · simp only [inside, dif_neg hk, if_neg hk, implies_true]
    have hnode := partWith_agrees hb hin hpart fun n hn =>
      hshallow n (List.mem_append_left _ (by simpa using hn))
    have hrest := ihafter hafter fun n hn => hshallow n (List.mem_append_right _ hn)
    rw [expansions_expansion below' hd hlx]
    simp only [hnode, hrest]
    rfl
  | case6 p c rest hc hd ih =>
    rw [expansions_plain below' hc hd]
    exact ih hnotes hshallow

theorem part_agrees {t : Token} (hnotes : (t.part below).notes = [])
    (hshallow : ∀ n ∈ (t.part below).node, n.Shallow bound) :
    (t.part below').node = (t.part below).node := by
  refine partWith_agrees hb ?_ hnotes hshallow
  split
  · exact expansions_agrees hb
  · exact fun _ _ => rfl

/-! ### Simple commands -/

omit hb in
theorem Draft.addPart_eq (d : Draft) (t : Token)
    (h : (t.part below').node = (t.part below).node) :
    d.addPart t (t.part below') = d.addPart t (t.part below) := by
  simp only [Draft.addPart, h, t.part_text below below']

theorem draft_agrees {d : Draft} {ts : List Token} (hnotes : (Draft.read below d ts).notes = [])
    (hshallow : ∀ n ∈ (Draft.read below d ts).value.children, n.Shallow bound) :
    (Draft.read below d ts).Same (Draft.read below' d ts) := by
  fun_induction Draft.read below d ts with
  | case1 d =>
    rw [Draft.read]
    exact ⟨rfl, rfl⟩
  | case2 d t rest hword part more ih =>
    obtain ⟨hpart, hmore⟩ := List.append_eq_nil_iff.1 hnotes
    have hkept := (Draft.children_suffix below (d.addPart t part) rest).subset
    have hnode : (t.part below').node = (t.part below).node := part_agrees hb hpart fun n hn =>
      hshallow n (hkept (List.mem_append_left _ (by simpa using hn)))
    rw [Draft.read_part below' _ hword, Draft.addPart_eq d t hnode]
    exact ⟨(ih hmore hshallow).value, (ih hmore hshallow).rest⟩
  | case3 d t rest _ hredirect r more ih =>
    have hmore := (List.append_eq_nil_iff.1 hnotes).2
    obtain ⟨hvalue, hrest⟩ := Redirect.parse_same below below' t rest
    rw [Draft.read_redirect below' _ hredirect]
    simp only [hvalue, hrest]
    exact ⟨(ih hmore hshallow).value, (ih hmore hshallow).rest⟩
  | case4 d t rest _ _ hparens ih =>
    rw [Draft.read_parens below' _ hparens.1 hparens.2]
    exact ih hnotes hshallow
  | case5 d t rest _ _ _ hunknown ih =>
    rw [Draft.read_unknown below' _ hunknown]
    exact ih hnotes hshallow
  | case6 d t rest hword hredirect hparens hunknown =>
    rw [Draft.read_stop below' _ hword hredirect hparens hunknown]
    exact ⟨rfl, rfl⟩

/-! ### Commands, pipelines, chains and lists -/

theorem group_agrees {p : Position} {ts : List Token} (hnotes : (Group.read below p ts).notes = [])
    (hshallow : (Group.read below p ts).value.Shallow bound) :
    (Group.read below p ts).Same (Group.read below' p ts) := by
  cases below with
  | none => cases hnotes
  | some l =>
    obtain ⟨l', rfl, hagrees⟩ := hb l rfl
    unfold Group.read at hnotes hshallow ⊢
    dsimp only at hnotes hshallow ⊢
    split at hnotes
    · next hclosed =>
      rw [if_pos hclosed] at hshallow ⊢
      obtain ⟨hvalue, hrest⟩ := hagrees true ts hnotes hshallow.body
      rw [hvalue, hrest, if_pos hclosed]
      exact ⟨rfl, rfl⟩
    · simp at hnotes

theorem parseCommand_agrees {ts : List Token} {r : Parsed Node}
    (h : parseCommand below ts = some r) (hnotes : r.notes = [])
    (hshallow : r.value.Shallow bound) :
    ∃ r', parseCommand below' ts = some r' ∧ r.Same r' := by
  unfold parseCommand at h ⊢
  cases ts with
  | nil => cases h
  | cons t rest =>
    dsimp only at h ⊢
    split at h
    · next hparen =>
      obtain rfl := Option.some.inj h
      exact ⟨_, if_pos hparen, group_agrees hb hnotes hshallow⟩
    split at h
    · next hparen hpart =>
      obtain rfl := Option.some.inj h
      have hdraft := draft_agrees hb hnotes fun n hn =>
        hshallow.child (show n ∈ (Draft.node _ _).children from List.mem_reverse.2 hn)
      rw [if_neg hparen, if_pos hpart]
      refine ⟨_, rfl, ?_, hdraft.rest⟩
      rw [hdraft.value]
    · cases h

theorem parsePiped_agrees {inGroup : Bool} {ts : List Token} {r : Parsed Node}
    (h : parsePiped below inGroup ts = some r) (hnotes : r.notes = [])
    (hshallow : r.value.Shallow bound) :
    ∃ r', parsePiped below' inGroup ts = some r' ∧ r.Same r' := by
  unfold parsePiped at h ⊢
  split at h
  · cases h
  · next hend =>
    rw [if_neg hend]
    exact parseCommand_agrees hb h hnotes hshallow

theorem parsePipes_agrees {inGroup : Bool} {ts : List Token}
    (hnotes : (parsePipes below inGroup ts).notes = [])
    (hshallow : ∀ n ∈ (parsePipes below inGroup ts).value.1, n.Shallow bound) :
    (parsePipes below inGroup ts).Same (parsePipes below' inGroup ts) := by
  fun_induction parsePipes below inGroup ts with
  | case1 =>
    rw [parsePipes]
    exact ⟨rfl, rfl⟩
  | case2 => cases hnotes
  | case3 t rest hpipe command hsome more ih =>
    obtain ⟨hcommand, hmore⟩ := List.append_eq_nil_iff.1 hnotes
    obtain ⟨command', hsome', hvalue, hrest⟩ := parsePiped_agrees hb hsome hcommand
      (hshallow _ List.mem_cons_self)
    obtain ⟨hmvalue, hmrest⟩ := ih hmore fun n hn => hshallow n (List.mem_cons_of_mem _ hn)
    rw [parsePipes_pipe hpipe hsome']
    simp only [hvalue, hrest, hmvalue]
    exact ⟨rfl, hmrest⟩
  | case4 t rest hpipe =>
    rw [parsePipes_of_ne hpipe]
    exact ⟨rfl, rfl⟩

theorem parsePipeline_agrees {inGroup : Bool} {ts : List Token} {r : Parsed Node}
    (h : parsePipeline below inGroup ts = some r) (hnotes : r.notes = [])
    (hshallow : r.value.Shallow bound) :
    ∃ r', parsePipeline below' inGroup ts = some r' ∧ r.Same r' := by
  obtain ⟨first, hfirst, rfl⟩ := Option.map_eq_some_iff.1 h
  obtain ⟨hfnotes, hmnotes⟩ := List.append_eq_nil_iff.1 hnotes
  have hmembers : first.value.Shallow bound ∧
      ∀ n ∈ (parsePipes below inGroup first.rest).value.1, n.Shallow bound := by
    dsimp only at hshallow
    split at hshallow
    · next hlone =>
      rw [Bool.and_eq_true, List.isEmpty_iff] at hlone
      exact ⟨hshallow, by simp [hlone.1]⟩
    · exact ⟨hshallow.child List.mem_cons_self,
        fun n hn => hshallow.child (List.mem_cons_of_mem _ hn)⟩
  obtain ⟨first', hfirst', hvalue, hrest⟩ := parseCommand_agrees hb hfirst hfnotes hmembers.1
  obtain ⟨hmvalue, hmrest⟩ := parsePipes_agrees hb hmnotes hmembers.2
  refine ⟨_, by rw [parsePipeline, hfirst', Option.map_some], ?_, ?_⟩
  · simp only [hvalue, hrest, hmvalue]
  · simp only [hrest, hmrest]

omit hb in
/-- The left side of a chain stays a part of it. -/
theorem shallow_left {inGroup : Bool} {left : Node} {ts : List Token}
    (h : (parseChainRest below inGroup left ts).value.Shallow bound) : left.Shallow bound := by
  fun_induction parseChainRest below inGroup left ts with
  | case1 | case2 | case4 => exact h
  | case3 left t rest hop right hsome more ih =>
    refine (ih h).child ?_
    unfold chainNode
    split <;> exact List.mem_cons_self

theorem parseChainRest_agrees {inGroup : Bool} {left : Node} {ts : List Token}
    (hnotes : (parseChainRest below inGroup left ts).notes = [])
    (hshallow : (parseChainRest below inGroup left ts).value.Shallow bound) :
    (parseChainRest below inGroup left ts).Same (parseChainRest below' inGroup left ts) := by
  fun_induction parseChainRest below inGroup left ts with
  | case1 =>
    rw [parseChainRest]
    exact ⟨rfl, rfl⟩
  | case2 => cases hnotes
  | case3 left t rest hop right hsome more ih =>
    obtain ⟨hright, hmore⟩ := List.append_eq_nil_iff.1 hnotes
    have hside : right.value.Shallow bound := by
      refine (shallow_left hshallow).child ?_
      unfold chainNode
      split <;> exact List.mem_cons_of_mem _ List.mem_cons_self
    obtain ⟨right', hsome', hvalue, hrest⟩ := parsePipeline_agrees hb hsome hright hside
    obtain ⟨hmvalue, hmrest⟩ := ih hmore hshallow
    rw [parseChainRest_operator left hop hsome']
    simp only [hvalue, hrest]
    exact ⟨hmvalue, hmrest⟩
  | case4 left t rest hop =>
    rw [parseChainRest_of_ne hop]
    exact ⟨rfl, rfl⟩

theorem parseChain_agrees {inGroup : Bool} {ts : List Token} {r : Parsed Node}
    (h : parseChain below inGroup ts = some r) (hnotes : r.notes = [])
    (hshallow : r.value.Shallow bound) :
    ∃ r', parseChain below' inGroup ts = some r' ∧ r.Same r' := by
  obtain ⟨first, hfirst, rfl⟩ := Option.map_eq_some_iff.1 h
  obtain ⟨hfnotes, hmnotes⟩ := List.append_eq_nil_iff.1 hnotes
  obtain ⟨first', hfirst', hvalue, hrest⟩ :=
    parsePipeline_agrees hb hfirst hfnotes (shallow_left hshallow)
  obtain ⟨hmvalue, hmrest⟩ := parseChainRest_agrees hb hmnotes hshallow
  refine ⟨_, by rw [parseChain, hfirst', Option.map_some], ?_, ?_⟩
  · simp only [hvalue, hrest, hmvalue]
  · simp only [hvalue, hrest, hmrest]

theorem parseItems_agrees {inGroup : Bool} {ts : List Token}
    (hnotes : (parseItems below inGroup ts).notes = [])
    (hshallow : ∀ n ∈ (parseItems below inGroup ts).value.1, n.Shallow bound) :
    (parseItems below inGroup ts).Same (parseItems below' inGroup ts) := by
  fun_induction parseItems below inGroup ts with
  | case1 ts start hend =>
    rw [parseItems_stop hend]
    exact ⟨rfl, rfl⟩
  | case2 => cases hnotes
  | case3 ts start hend item hsome hk more ih | case4 ts start hend item hsome hk more ih =>
    obtain ⟨hinotes, hmnotes⟩ := List.append_eq_nil_iff.1 hnotes
    obtain ⟨item', hsome', hvalue, hrest⟩ := parseChain_agrees hb hsome hinotes
      (hshallow _ List.mem_cons_self)
    obtain ⟨hmvalue, hmrest⟩ := ih hmnotes fun n hn => hshallow n (List.mem_cons_of_mem _ hn)
    rw [parseItems_semicolon hend hsome' (by simp [hrest, hk])]
    simp only [hvalue, hrest, hmvalue]
    exact ⟨rfl, hmrest⟩
  | case5 ts start hend item hsome hk more ih =>
    obtain ⟨hinotes, hmnotes⟩ := List.append_eq_nil_iff.1 hnotes
    obtain ⟨item', hsome', hvalue, hrest⟩ := parseChain_agrees hb hsome hinotes
      ((hshallow _ List.mem_cons_self).child List.mem_cons_self)
    obtain ⟨hmvalue, hmrest⟩ := ih hmnotes fun n hn => hshallow n (List.mem_cons_of_mem _ hn)
    rw [parseItems_ampersand hend hsome' (by rw [hrest, hk])]
    simp only [hvalue, hrest, hmvalue]
    exact ⟨rfl, hmrest⟩
  | case6 ts start hend item hsome hsemicolon hnewline hampersand =>
    have hinotes := (List.append_eq_nil_iff.1 hnotes).1
    obtain ⟨item', hsome', hvalue, hrest⟩ := parseChain_agrees hb hsome hinotes
      (hshallow _ List.mem_cons_self)
    rw [parseItems_final hend hsome' (by rwa [hrest]) (by rwa [hrest]) (by rwa [hrest])]
    exact ⟨by rw [hvalue], hrest⟩

theorem Level.above_agrees : (Level.above below).Agrees bound (Level.above below') := by
  intro inGroup ts hnotes hshallow
  have hitems : ∀ n ∈ (parseItems below inGroup ts).value.1, n.Shallow bound :=
    listNode_shallow hshallow
  obtain ⟨hvalue, hrest⟩ := parseItems_agrees hb hnotes hitems
  refine ⟨?_, hrest⟩
  simp only [Level.above, parseList, hvalue]

end Readers

/-- Nothing is read without complaint only where there is nothing to read. -/
theorem parseItems_empty {below : Option Level} {inGroup : Bool} {ts : List Token}
    (hnotes : (parseItems below inGroup ts).notes = [])
    (hvalue : (parseItems below inGroup ts).value.1 = []) :
    endsList inGroup (Tokens.kind (Tokens.skipFiller ts)) = true := by
  fun_induction parseItems below inGroup ts with
  | case1 ts start hend => exact hend
  | case2 => cases hnotes
  | case3 | case4 | case5 | case6 => cases hvalue

theorem nothing_agrees {below below' : Option Level} {inGroup : Bool} {ts : List Token}
    (hnotes : (parseList below inGroup ts).notes = [])
    (hshallow : ∀ n ∈ (parseList below inGroup ts).value, n.Shallow (some 0)) :
    (parseList below inGroup ts).Same (parseList below' inGroup ts) := by
  have hitems : (parseItems below inGroup ts).value.1 = [] :=
    List.eq_nil_iff_forall_not_mem.2 fun n hn =>
      Nat.not_lt_zero _ (listNode_shallow hshallow n hn 0 rfl)
  have hend := parseItems_empty hnotes hitems
  simp only [parseList, parseItems_stop hend]
  exact ⟨rfl, rfl⟩

/-- A level reads what another level reads without complaint if it has as many levels below it, or
if the tree nests less deep than it has levels. -/
theorem level_agrees {n m : Nat} {bound : Option Nat} (h : n ≤ m ∨ bound = some m) :
    (level n).Agrees bound (level m) := by
  induction m generalizing n bound with
  | zero =>
    rcases h with h | rfl
    · obtain rfl := Nat.le_zero.1 h
      exact fun _ _ _ _ => ⟨rfl, rfl⟩
    · -- No tree nests less than nought deep, so nothing was read.
      intro inGroup ts hnotes hshallow
      cases n <;> exact nothing_agrees hnotes hshallow
  | succ m ih =>
    cases n with
    | zero => exact Level.above_agrees (by simp)
    | succ n =>
      refine Level.above_agrees ?_
      rintro l hl
      obtain rfl := Option.some.inj hl
      -- Both levels go down by one, and so does the bound where there is one.
      refine ⟨level m, rfl, ih ?_⟩
      rcases h with h | rfl
      · exact .inl (Nat.le_of_succ_le_succ h)
      · exact .inr rfl

end ShellGuard
