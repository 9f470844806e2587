import Mathlib
import ShellGuard.Proofs.Syntax.Readers
import ShellGuard.Proofs.Syntax.Walk

/-!
# What holds at every depth of a tree

Groups and substitutions nest, and what may stand in them depends on how deep they are met.  A
property of nodes and depths holds throughout a parsed tree once it holds of the pieces that readers
put together: the parts of words, the redirects and the groups they open.  The nodes that only join
others add nothing of their own.

`Level.above_gives` is the one walk through the readers.  A property of whole trees is proved for what
readers put together (`Builds`) and handed to it; a property of nodes and depths is proved for parts
of words, redirects and groups only (`Pieces`) and handed to `Level.above_upholds`.
-/

namespace ShellGuard

/-! ## Depths -/

namespace Node

/-- How much deeper than a node its children stand. -/
def opening : Node → Nat
  | subshell .. => 1
  | _ => 0

/-- `MetAt d n e m` says that in the tree `n`, itself met at depth `d`, the node `m` is met at depth
`e`. -/
inductive MetAt : Nat → Node → Nat → Node → Prop
  | root (d : Nat) (n : Node) : MetAt d n d n
  | inside {d e : Nat} {n c m : Node} (child : c ∈ n.children)
    (met : MetAt (d + n.opening) c e m) : MetAt d n e m

/-- The nodes that are met are those a walk visits. -/
theorem mem_walk_iff {d : Nat} {n m : Node} : m ∈ n.walk ↔ ∃ e, MetAt d n e m := by
  constructor
  · intro hm
    induction n using children_induction generalizing d with
    | step n ih =>
      rw [walk_eq] at hm
      rcases List.mem_cons.1 hm with rfl | hm
      · exact ⟨d, .root d m⟩
      · obtain ⟨c, hc, hm⟩ := List.mem_flatMap.1 hm
        obtain ⟨e, he⟩ := ih c hc hm
        exact ⟨e, .inside hc he⟩
  · rintro ⟨e, he⟩
    induction he with
    | root d n =>
      rw [walk_eq]
      exact List.mem_cons_self
    | inside child _ ih =>
      rw [walk_eq]
      exact List.mem_cons_of_mem _ (List.mem_flatMap.2 ⟨_, child, ih⟩)

/-- A property that every node has at the depth it is met at, the tree being met at depth `d`. -/
def Throughout (P : Nat → Node → Prop) (d : Nat) (n : Node) : Prop :=
  ∀ e m, MetAt d n e m → P e m

theorem throughout_iff {P : Nat → Node → Prop} {d : Nat} {n : Node} :
    n.Throughout P d ↔ P d n ∧ ∀ c ∈ n.children, c.Throughout P (d + n.opening) := by
  constructor
  · intro h
    exact ⟨h d n (.root d n), fun c hc e m hm => h e m (.inside hc hm)⟩
  · rintro ⟨hroot, hchildren⟩ e m hm
    cases hm with
    | root => exact hroot
    | inside child met => exact hchildren _ child e m met

/-- Nodes that only join others. -/
def joins : Node → Bool
  | command .. | pipeline .. | background .. | list .. | both .. | either .. => true
  | _ => false

end Node

/-! ## Readers -/

/-- A level that reads tokens with `T` as trees with `Q`. -/
def Level.Gives (T : Token → Prop) (Q : Node → Prop) (l : Level) : Prop :=
  ∀ inGroup ts, (∀ t ∈ ts, T t) → ∀ n ∈ (l.list inGroup ts).value, Q n

/-- Trees with `Q` are put together from tokens with `T` and, in groups, trees with `Q'`. -/
structure Builds (T : Token → Prop) (Q Q' : Node → Prop) (below : Option Level) : Prop where
  join : ∀ n : Node, n.joins = true → (∀ c ∈ n.children, Q c) → Q n
  part : ∀ t, T t → ∀ n ∈ (t.part below).node, Q n
  redirect : ∀ t ts, T t → t.kind.isRedirect = true →
    Q (.redirect t.position (Redirect.parse below t ts).value)
  /-- A group has no body where no level is left. -/
  group : ∀ t body, T t → t.kind = .leftParen → (below = none → body = none) →
    (∀ n ∈ body, Q' n) → Q (.subshell t.position body false false)

section Readers

variable {T : Token → Prop} {Q Q' : Node → Prop} {below : Option Level}
  (hbuilds : Builds T Q Q' below) (hbelow : ∀ l ∈ below, l.Gives T Q')

include hbuilds

theorem draft_gives {draft : Draft} {ts : List Token} (h : ∀ t ∈ ts, T t)
    (hdraft : ∀ c ∈ draft.children, Q c) :
    ∀ c ∈ (Draft.read below draft ts).value.children, Q c := by
  fun_induction Draft.read below draft ts with
  | case1 => exact hdraft
  | case2 draft t rest _ part more ih =>
    obtain ⟨ht, hrest⟩ := List.forall_mem_cons.1 h
    refine ih hrest (List.forall_mem_append.2 ⟨fun c hc => ?_, hdraft⟩)
    exact hbuilds.part t ht c (Option.mem_toList.1 hc)
  | case3 draft t rest _ hredirect r more ih =>
    obtain ⟨ht, hrest⟩ := List.forall_mem_cons.1 h
    have hmore := Redirect.parse_rest_suffix below t rest
    exact ih (fun u hu => hrest u (hmore.subset hu))
      (List.forall_mem_cons.2 ⟨hbuilds.redirect t rest ht hredirect, hdraft⟩)
  | case4 draft t rest _ _ _ ih =>
    have hrest := (List.forall_mem_cons.1 h).2
    exact ih (fun u hu => hrest u ((Draft.dropClosing_suffix rest).subset hu)) hdraft
  | case5 draft t rest _ _ _ _ ih => exact ih (List.forall_mem_cons.1 h).2 hdraft
  | case6 => exact hdraft

include hbelow

theorem group_gives {t : Token} {ts : List Token} (ht : T t) (hkind : t.kind = .leftParen)
    (h : ∀ u ∈ ts, T u) : Q (Group.read below t.position ts).value := by
  cases below with
  | none =>
    refine hbuilds.group t none ht hkind (fun _ => rfl) fun n hn => ?_
    cases hn
  | some level =>
    have hbody : Q (.subshell t.position (level.list true ts).value false false) := by
      refine hbuilds.group t _ ht hkind (fun hnone => ?_) (hbelow level rfl true ts h)
      cases hnone
    simp only [Group.read]
    split
    · exact hbody
    · exact hbody

theorem parseCommand_gives {ts : List Token} {r : Parsed Node} (h : ∀ t ∈ ts, T t)
    (hr : parseCommand below ts = some r) : Q r.value := by
  unfold parseCommand at hr
  split at hr
  · cases hr
  · next t rest =>
    obtain ⟨ht, hrest⟩ := List.forall_mem_cons.1 h
    split at hr
    · next hparen =>
      cases hr
      exact group_gives hbuilds hbelow ht hparen hrest
    · split at hr
      · cases hr
        have hparts : ∀ c ∈ (Draft.read below .empty (t :: rest)).value.children, Q c :=
          draft_gives hbuilds h fun c hc => by cases hc
        exact hbuilds.join _ rfl fun c hc => hparts c (List.mem_reverse.1 hc)
      · cases hr

theorem parsePiped_gives {inGroup : Bool} {ts : List Token} {r : Parsed Node}
    (h : ∀ t ∈ ts, T t) (hr : parsePiped below inGroup ts = some r) : Q r.value := by
  unfold parsePiped at hr
  split at hr
  · cases hr
  · exact parseCommand_gives hbuilds hbelow h hr

theorem parsePipes_gives {inGroup : Bool} {ts : List Token} (h : ∀ t ∈ ts, T t) :
    ∀ c ∈ (parsePipes below inGroup ts).value.1, Q c := by
  fun_induction parsePipes below inGroup ts with
  | case1 => simp
  | case2 => simp
  | case3 t rest _ command hcommand more ih =>
    have hrest := (List.forall_mem_cons.1 h).2
    have hfed : ∀ u ∈ Tokens.skipFiller rest, T u :=
      fun u hu => hrest u ((Tokens.skipFiller_suffix rest).subset hu)
    have hmore : ∀ u ∈ command.rest, T u :=
      fun u hu => hfed u ((parsePiped_rest_suffix hcommand).subset hu)
    exact List.forall_mem_cons.2 ⟨parsePiped_gives hbuilds hbelow hfed hcommand, ih hmore⟩
  | case4 => simp

theorem parsePipeline_gives {inGroup : Bool} {ts : List Token} {r : Parsed Node}
    (h : ∀ t ∈ ts, T t) (hr : parsePipeline below inGroup ts = some r) : Q r.value := by
  obtain ⟨first, hfirst, rfl⟩ := Option.map_eq_some_iff.1 hr
  have hcommand := parseCommand_gives hbuilds hbelow h hfirst
  have hmore := (parseCommand_rest_suffix hfirst).1.trans (List.tail_suffix ts)
  have hpipes : ∀ c ∈ (parsePipes below inGroup first.rest).value.1, Q c :=
    parsePipes_gives hbuilds hbelow fun u hu => h u (hmore.subset hu)
  dsimp only
  split
  · exact hcommand
  · exact hbuilds.join _ rfl (List.forall_mem_cons.2 ⟨hcommand, hpipes⟩)

theorem parseChainRest_gives {inGroup : Bool} {left : Node} {ts : List Token}
    (h : ∀ t ∈ ts, T t) (hleft : Q left) : Q (parseChainRest below inGroup left ts).value := by
  fun_induction parseChainRest below inGroup left ts with
  | case1 => exact hleft
  | case2 => exact hleft
  | case3 left t rest _ right hright more ih =>
    have hrest := (List.forall_mem_cons.1 h).2
    have hside : ∀ u ∈ Tokens.skipFiller rest, T u :=
      fun u hu => hrest u ((Tokens.skipFiller_suffix rest).subset hu)
    have hmore := (parsePipeline_rest_suffix hright).1.trans (List.tail_suffix _)
    have hsides : ∀ c ∈ [left, right.value], Q c :=
      List.forall_mem_cons.2 ⟨hleft, List.forall_mem_singleton.2
        (parsePipeline_gives hbuilds hbelow hside hright)⟩
    refine ih (fun u hu => hside u (hmore.subset hu)) ?_
    unfold chainNode
    split
    · exact hbuilds.join _ rfl hsides
    · exact hbuilds.join _ rfl hsides
  | case4 => exact hleft

theorem parseChain_gives {inGroup : Bool} {ts : List Token} {r : Parsed Node}
    (h : ∀ t ∈ ts, T t) (hr : parseChain below inGroup ts = some r) : Q r.value := by
  obtain ⟨first, hfirst, rfl⟩ := Option.map_eq_some_iff.1 hr
  have hmore := (parsePipeline_rest_suffix hfirst).1.trans (List.tail_suffix ts)
  exact parseChainRest_gives hbuilds hbelow (fun u hu => h u (hmore.subset hu))
    (parsePipeline_gives hbuilds hbelow h hfirst)

theorem parseItems_gives {inGroup : Bool} {ts : List Token} (h : ∀ t ∈ ts, T t) :
    ∀ i ∈ (parseItems below inGroup ts).value.1, Q i := by
  have hstart {ts : List Token} (h : ∀ t ∈ ts, T t) : ∀ t ∈ Tokens.skipFiller ts, T t :=
    fun u hu => h u ((Tokens.skipFiller_suffix ts).subset hu)
  have hafter {ts : List Token} {item : Parsed Node} (h : ∀ t ∈ ts, T t)
      (hitem : parseChain below inGroup ts = some item) : ∀ t ∈ item.rest.tail, T t :=
    fun u hu => h u (((List.tail_suffix _).trans
      ((parseChain_rest_suffix hitem).1.trans (List.tail_suffix _))).subset hu)
  fun_induction parseItems below inGroup ts with
  | case1 => simp
  | case2 => simp
  | case3 ts start _ item hitem _ more ih
  | case4 ts start _ item hitem _ more ih =>
    exact List.forall_mem_cons.2
      ⟨parseChain_gives hbuilds hbelow (hstart h) hitem, ih (hafter (hstart h) hitem)⟩
  | case5 ts start _ item hitem _ more ih =>
    have hbody := parseChain_gives hbuilds hbelow (hstart h) hitem
    exact List.forall_mem_cons.2
      ⟨hbuilds.join _ rfl (List.forall_mem_singleton.2 hbody),
        ih (hafter (hstart h) hitem)⟩
  | case6 ts start _ item hitem _ _ _ =>
    exact List.forall_mem_singleton.2 (parseChain_gives hbuilds hbelow (hstart h) hitem)

/-- What is put together at a level from trees of the level below is what the level gives. -/
theorem Level.above_gives : (Level.above below).Gives T Q := by
  intro inGroup ts h n hn
  have hitems : ∀ i ∈ (parseItems below inGroup ts).value.1, Q i :=
    parseItems_gives hbuilds hbelow h
  simp only [Level.above, parseList] at hn
  generalize (parseItems below inGroup ts).value = read at hn hitems
  obtain ⟨items, separators⟩ := read
  cases items with
  | nil => cases hn
  | cons i items =>
    cases items with
    | nil =>
      cases hn
      exact hitems n (List.mem_singleton_self n)
    | cons j items =>
      cases hn
      exact hbuilds.join _ rfl hitems

end Readers

/-! ## Nodes and depths -/

/-- A level met at depth `d` that reads tokens with `T` as trees with `P` throughout. -/
def Level.Upholds (T : Token → Prop) (P : Nat → Node → Prop) (d : Nat) (l : Level) : Prop :=
  ∀ inGroup ts, (∀ t ∈ ts, T t) → ∀ n ∈ (l.list inGroup ts).value, n.Throughout P d

/-- What the pieces of a tree at depth `d` have to satisfy. -/
structure Pieces (T : Token → Prop) (P : Nat → Node → Prop) (d : Nat) (below : Option Level) :
    Prop where
  join : ∀ n : Node, n.joins = true → P d n
  part : ∀ t, T t → ∀ n ∈ (t.part below).node, n.Throughout P d
  redirect : ∀ t r, T t → t.kind.isRedirect = true → P d (.redirect t.position r)
  /-- A group has no body where no level is left. -/
  group : ∀ t body, T t → t.kind = .leftParen → (below = none → body = none) →
    P d (.subshell t.position body false false)

section Pieces

variable {T : Token → Prop} {P : Nat → Node → Prop} {d : Nat} {below : Option Level}
  (hpieces : Pieces T P d below)

include hpieces

theorem Pieces.builds : Builds T (Node.Throughout P d) (Node.Throughout P (d + 1)) below where
  join n hjoins hchildren := by
    have hopening : n.opening = 0 := by
      cases n with
      | subshell => cases hjoins
      | _ => rfl
    refine Node.throughout_iff.2 ⟨hpieces.join n hjoins, ?_⟩
    rw [hopening]
    exact hchildren
  part := hpieces.part
  redirect t ts ht hredirect := by
    refine Node.throughout_iff.2 ⟨hpieces.redirect t _ ht hredirect, fun c hc => ?_⟩
    cases hc
  group t body ht hkind hnone hbody := by
    refine Node.throughout_iff.2 ⟨hpieces.group t body ht hkind hnone, fun c hc => ?_⟩
    exact hbody c (Option.mem_toList.1 hc)

/-- What the pieces of a level satisfy, and the trees of the level below, its trees satisfy. -/
theorem Level.above_upholds (hbelow : ∀ l ∈ below, l.Upholds T P (d + 1)) :
    (Level.above below).Upholds T P d :=
  Level.above_gives hpieces.builds hbelow

end Pieces

end ShellGuard
