import Mathlib
import ShellGuard.Proofs.Syntax.Readers

/-!
# Keeping account of what is read

A reader takes tokens from the front and gives a tree for them.  Many statements compare the two: what
the tree is worth is what the tokens that were taken are worth.  Such an account is a relation between
the tokens given, what was read of them, and the tokens left.

Silence makes accounts simple.  A reader that does not complain never stops before something it does
not understand, so commands follow one another with a single separator between them, and a group is
read up to its closing parenthesis.  An account that can be carried across a separator and around a
group (`Tally`) holds of whole lists once it holds of simple commands (`Level.above_tallies`).
-/

namespace ShellGuard

/-- Tokens between two commands of one list. -/
def TokenKind.isSeparator : TokenKind → Bool
  | pipe | andIf | orIf | semicolon | newline | ampersand => true
  | _ => false

/-- Nodes that hold commands and nothing of their own. -/
def Node.frames : Node → Bool
  | pipeline .. | background .. | list .. | both .. | either .. => true
  | subshell _ _ isCommand _ => !isCommand
  | _ => false

/-- An account `A` of what is read from tokens with `T`, where `worth` says what a tree is worth. -/
structure Tally {α : Type} (T : Token → Prop) (worth : Node → List α)
    (A : List Token → List α → List Token → Prop) (below : Option Level) : Prop where
  frame : ∀ n : Node, n.frames = true → worth n = n.children.flatMap worth
  stay : ∀ ts, A ts [] ts
  filler : ∀ {t ts xs rest}, t.kind.isFiller = true → A ts xs rest → A (t :: ts) xs rest
  across : ∀ {ts xs us ys rest}, A ts xs us → (Tokens.kind us).isSeparator = true →
    A us.tail ys rest → A ts (xs ++ ys) rest
  group : ∀ {t ts xs us}, t.kind = .leftParen → A ts xs us → Tokens.kind us = .rightParen →
    A (t :: ts) xs us.tail
  command : ∀ {t ts}, (∀ u ∈ t :: ts, T u) → (t.kind.isWordLike || t.kind.isRedirect) = true →
    (Draft.read below .empty (t :: ts)).notes = [] →
    A (t :: ts) (worth ((Draft.read below .empty (t :: ts)).value.node t.position))
      (Draft.read below .empty (t :: ts)).rest

theorem Tally.skipFiller {α : Type} {T : Token → Prop} {worth : Node → List α}
    {A : List Token → List α → List Token → Prop} {below : Option Level}
    (htally : Tally T worth A below) {ts rest : List Token} {xs : List α}
    (hread : A (Tokens.skipFiller ts) xs rest) : A ts xs rest := by
  induction ts with
  | nil => exact hread
  | cons t ts ih =>
    by_cases hfiller : t.kind.isFiller = true
    · rw [Tokens.skipFiller_cons hfiller] at hread
      exact htally.filler hfiller (ih hread)
    · rwa [Tokens.skipFiller_eq (by simpa using hfiller)] at hread

/-- A level of whose lists the account holds, if they are read in silence. -/
def Level.Tallies {α : Type} (T : Token → Prop) (worth : Node → List α)
    (A : List Token → List α → List Token → Prop) (l : Level) : Prop :=
  ∀ inGroup ts, (∀ t ∈ ts, T t) → (l.list inGroup ts).notes = [] →
    A ts ((l.list inGroup ts).value.toList.flatMap worth) (l.list inGroup ts).rest

section Readers

variable {α : Type} {T : Token → Prop} {worth : Node → List α}
  {A : List Token → List α → List Token → Prop} {below : Option Level} {inGroup : Bool}
  (htally : Tally T worth A below) (hbelow : ∀ l ∈ below, l.Tallies T worth A)

include htally hbelow

theorem group_tally {t : Token} {ts : List Token} (ht : t.kind = .leftParen)
    (hT : ∀ u ∈ ts, T u) (hnotes : (Group.read below t.position ts).notes = []) :
    A (t :: ts) (worth (Group.read below t.position ts).value)
      (Group.read below t.position ts).rest := by
  cases below with
  | none => cases hnotes
  | some level =>
    unfold Group.read at hnotes ⊢
    dsimp only at hnotes ⊢
    by_cases hclosed : Tokens.kind (level.list true ts).rest = .rightParen
    · rw [if_pos hclosed] at hnotes ⊢
      have hbody := hbelow level rfl true ts hT hnotes
      rw [htally.frame _ rfl]
      exact htally.group ht hbody hclosed
    · rw [if_neg hclosed] at hnotes
      simp at hnotes

theorem parseCommand_tally {ts : List Token} {r : Parsed Node} (hT : ∀ t ∈ ts, T t)
    (h : parseCommand below ts = some r) (hnotes : r.notes = []) : A ts (worth r.value) r.rest := by
  unfold parseCommand at h
  split at h
  · cases h
  · split at h
    · next hparen =>
      cases h
      exact group_tally htally hbelow hparen (List.forall_mem_cons.1 hT).2 hnotes
    · split at h
      · next hpart =>
        cases h
        exact htally.command hT hpart hnotes
      · cases h

/-- The pipes after a command add the commands they feed to what was read before. -/
theorem parsePipes_tally {start ts : List Token} (hT : ∀ t ∈ ts, T t)
    (hnotes : (parsePipes below inGroup ts).notes = []) : ∀ xs, A start xs ts →
      A start (xs ++ (parsePipes below inGroup ts).value.1.flatMap worth)
        (parsePipes below inGroup ts).rest := by
  fun_induction parsePipes below inGroup ts with
  | case1 =>
    intro xs hread
    simpa using hread
  | case2 => cases hnotes
  | case3 t rest hpipe command hcommand more ih =>
    intro xs hread
    obtain ⟨hfirst, hmore⟩ := List.append_eq_nil_iff.1 hnotes
    have hrest := (List.forall_mem_cons.1 hT).2
    have hfed : ∀ u ∈ Tokens.skipFiller rest, T u :=
      fun u hu => hrest u ((Tokens.skipFiller_suffix rest).subset hu)
    have hafter : ∀ u ∈ command.rest, T u :=
      fun u hu => hfed u ((parsePiped_rest_suffix hcommand).subset hu)
    have hread' : A (Tokens.skipFiller rest) (worth command.value) command.rest := by
      unfold parsePiped at hcommand
      split at hcommand
      · cases hcommand
      · exact parseCommand_tally htally hbelow hfed hcommand hfirst
    have hkind : (Tokens.kind (t :: rest)).isSeparator = true := by
      rw [Tokens.kind_cons, hpipe]
      rfl
    have hnext := ih hafter hmore _ (htally.across hread hkind (htally.skipFiller hread'))
    rwa [List.append_assoc] at hnext
  | case4 =>
    intro xs hread
    simpa using hread

theorem parsePipeline_tally {ts : List Token} {r : Parsed Node} (hT : ∀ t ∈ ts, T t)
    (h : parsePipeline below inGroup ts = some r) (hnotes : r.notes = []) :
    A ts (worth r.value) r.rest := by
  obtain ⟨first, hfirst, rfl⟩ := Option.map_eq_some_iff.1 h
  obtain ⟨hfirstNotes, hpipesNotes⟩ := List.append_eq_nil_iff.1 hnotes
  have hafter := (parseCommand_rest_suffix hfirst).1.trans (List.tail_suffix ts)
  have hall := parsePipes_tally htally hbelow (fun u hu => hT u (hafter.subset hu)) hpipesNotes _
    (parseCommand_tally htally hbelow hT hfirst hfirstNotes)
  dsimp only
  split
  · next hlone =>
    rw [Bool.and_eq_true, List.isEmpty_iff] at hlone
    rwa [hlone.1, List.flatMap_nil, List.append_nil] at hall
  · rw [htally.frame _ rfl]
    exact hall

theorem parseChainRest_tally {start : List Token} {left : Node} {ts : List Token}
    (hT : ∀ t ∈ ts, T t) (hnotes : (parseChainRest below inGroup left ts).notes = [])
    (hread : A start (worth left) ts) :
    A start (worth (parseChainRest below inGroup left ts).value)
      (parseChainRest below inGroup left ts).rest := by
  fun_induction parseChainRest below inGroup left ts with
  | case1 => exact hread
  | case2 => cases hnotes
  | case3 left t rest hop right hright more ih =>
    obtain ⟨hrightNotes, hmore⟩ := List.append_eq_nil_iff.1 hnotes
    have hrest := (List.forall_mem_cons.1 hT).2
    have hside : ∀ u ∈ Tokens.skipFiller rest, T u :=
      fun u hu => hrest u ((Tokens.skipFiller_suffix rest).subset hu)
    have hafter := (parsePipeline_rest_suffix hright).1.trans (List.tail_suffix _)
    have hkind : (Tokens.kind (t :: rest)).isSeparator = true := by
      rw [Tokens.kind_cons]
      rcases hop with hop | hop
      · rw [hop]; rfl
      · rw [hop]; rfl
    have hsides : worth (chainNode t.kind left right.value) = worth left ++ worth right.value := by
      unfold chainNode
      split
      · rw [htally.frame _ rfl]
        simp [Node.children]
      · rw [htally.frame _ rfl]
        simp [Node.children]
    refine ih (fun u hu => hside u (hafter.subset hu)) hmore ?_
    rw [hsides]
    exact htally.across hread hkind
      (htally.skipFiller (parsePipeline_tally htally hbelow hside hright hrightNotes))
  | case4 => exact hread

theorem parseChain_tally {ts : List Token} {r : Parsed Node} (hT : ∀ t ∈ ts, T t)
    (h : parseChain below inGroup ts = some r) (hnotes : r.notes = []) :
    A ts (worth r.value) r.rest := by
  obtain ⟨first, hfirst, rfl⟩ := Option.map_eq_some_iff.1 h
  obtain ⟨hfirstNotes, hmoreNotes⟩ := List.append_eq_nil_iff.1 hnotes
  have hafter := (parsePipeline_rest_suffix hfirst).1.trans (List.tail_suffix ts)
  exact parseChainRest_tally htally hbelow (fun u hu => hT u (hafter.subset hu)) hmoreNotes
    (parsePipeline_tally htally hbelow hT hfirst hfirstNotes)

theorem parseItems_tally {ts : List Token} (hT : ∀ t ∈ ts, T t)
    (hnotes : (parseItems below inGroup ts).notes = []) :
    A ts ((parseItems below inGroup ts).value.1.flatMap worth)
      (parseItems below inGroup ts).rest := by
  have hstart {ts : List Token} (hT : ∀ t ∈ ts, T t) : ∀ t ∈ Tokens.skipFiller ts, T t :=
    fun u hu => hT u ((Tokens.skipFiller_suffix ts).subset hu)
  have hafter {ts : List Token} {item : Parsed Node} (hT : ∀ t ∈ ts, T t)
      (hitem : parseChain below inGroup ts = some item) : ∀ t ∈ item.rest.tail, T t :=
    fun u hu => hT u (((List.tail_suffix _).trans
      ((parseChain_rest_suffix hitem).1.trans (List.tail_suffix _))).subset hu)
  fun_induction parseItems below inGroup ts with
  | case1 ts => exact htally.skipFiller (htally.stay _)
  | case2 => cases hnotes
  | case3 ts start _ item hitem hk more ih
  | case4 ts start _ item hitem hk more ih =>
    obtain ⟨hitemNotes, hmore⟩ := List.append_eq_nil_iff.1 hnotes
    have hread := parseChain_tally htally hbelow (hstart hT) hitem hitemNotes
    refine htally.skipFiller (htally.across hread ?_ (ih (hafter (hstart hT) hitem) hmore))
    rw [hk]
    rfl
  | case5 ts start _ item hitem hk more ih =>
    obtain ⟨hitemNotes, hmore⟩ := List.append_eq_nil_iff.1 hnotes
    have hread := parseChain_tally htally hbelow (hstart hT) hitem hitemNotes
    have hbackground : worth (.background item.value.position item.value) = worth item.value := by
      rw [htally.frame _ rfl]
      exact List.flatMap_singleton _ _
    rw [List.flatMap_cons, hbackground]
    refine htally.skipFiller (htally.across hread ?_ (ih (hafter (hstart hT) hitem) hmore))
    rw [hk]
    rfl
  | case6 ts start _ item hitem _ _ _ =>
    have hitemNotes := (List.append_eq_nil_iff.1 hnotes).1
    rw [List.flatMap_singleton]
    exact htally.skipFiller (parseChain_tally htally hbelow (hstart hT) hitem hitemNotes)

/-- An account of simple commands, and of the lists of the level below, is one of the lists of a
level. -/
theorem Level.above_tallies : (Level.above below).Tallies T worth A := by
  intro inGroup ts hT hnotes
  have hitems := parseItems_tally htally hbelow hT hnotes
  have hroot (p : Position) (items : List Node) (separators : List Separator) :
      (listNode p items separators).toList.flatMap worth = items.flatMap worth := by
    unfold listNode
    split
    · rfl
    · rfl
    · rw [Option.toList_some, List.flatMap_singleton, htally.frame _ rfl]
      rfl
  show A ts ((listNode _ _ _).toList.flatMap worth) _
  rw [hroot]
  exact hitems

end Readers

end ShellGuard
