import Mathlib
import ShellGuard.Proofs.Syntax.Script
import ShellGuard.Syntax.Parser

/-!
Reading a printed script gives its tree back.

Each reader stops where the next token cannot continue what it reads, so each lemma below is about
printed tokens with such a token after them.  The main statement follows by induction on how deep
groups may nest, in step with the levels of the reader.
-/

namespace ShellGuard

/-! ## Where readers stop -/

/-- The kinds of token after which a chain has ended. -/
def chainEnds : List TokenKind := [.eof, .rightParen, .semicolon, .ampersand]

/-- The kinds of token after which a pipeline has ended. -/
def pipelineEnds : List TokenKind := .andIf :: .orIf :: chainEnds

/-- The kinds of token after which a command has ended. -/
def commandEnds : List TokenKind := .pipe :: pipelineEnds

theorem mem_chainEnds_of_endsList {inGroup : Bool} {k : TokenKind}
    (h : endsList inGroup k = true) : k ∈ chainEnds := by
  unfold endsList at h
  split at h <;> simp_all [chainEnds]

/-- Nothing that ends a command can be part of one. -/
theorem not_part_of_mem_commandEnds : ∀ k ∈ commandEnds, k.isWordLike = false ∧
    k.isRedirect = false ∧ k ≠ .leftParen ∧ k ≠ .unknown ∧ k.isFiller = false := by
  decide

namespace Tokens

@[simp] theorem kind_cons (t : Token) (ts : List Token) : kind (t :: ts) = t.kind := rfl

theorem skipFiller_eq {ts : List Token} (h : (kind ts).isFiller = false) : skipFiller ts = ts := by
  cases ts with
  | nil => rfl
  | cons t ts => exact List.dropWhile_cons_of_neg (by simpa using h)

theorem skipFiller_cons {t : Token} {ts : List Token} (h : t.kind.isFiller = true) :
    skipFiller (t :: ts) = skipFiller ts :=
  List.dropWhile_cons_of_pos h

end Tokens

theorem Token.kind_of_content {t : Token} {c : Content} (h : t.content = c) : t.kind = c.1 :=
  congrArg Prod.fst h

theorem Token.value_of_content {t : Token} {c : Content} (h : t.content = c) : t.value = c.2 :=
  congrArg Prod.snd h

theorem Written.kind_eq {c : Content} {cs : List Content} {ts : List Token}
    (h : Written (c :: cs) ts) (rest : List Token) : Tokens.kind (ts ++ rest) = c.1 := by
  obtain ⟨t, us, rfl, ht, -⟩ := h.cons
  exact Token.kind_of_content ht

/-! ## Simple commands -/

theorem Token.part_word (below : Option Level) {t : Token} (h : t.kind = .word) :
    t.part below = ⟨t.value, none, []⟩ := by
  simp [part, partWith, h]

namespace Redirect

theorem targetSpan_word {t : Token} {rest : List Token} (ht : t.kind = .word)
    (hrest : (Tokens.kind rest).isWordLike = false) :
    targetSpan none (t :: rest) = ([t], rest) := by
  have hstop : targetSpan (some t.stop) rest = ([], rest) := by
    cases rest with
    | nil => rfl
    | cons u rest =>
      have hu : u.kind.isWordLike = false := hrest
      simp [targetSpan, hu]
  simp [targetSpan, ht, TokenKind.isWordLike, hstop]

theorem readTarget_word (below : Option Level) {t : Token} {rest : List Token}
    (ht : t.kind = .word) (hrest : (Tokens.kind rest).isWordLike = false) :
    readTarget below (t :: rest) = ⟨t.value, [], rest⟩ := by
  simp [readTarget, targetSpan_word ht hrest, Token.part_word below ht]

/-- An arrow and a word are a redirect of the arrow's kind, with its usual descriptor. -/
theorem parse_arrow (below : Option Level) (arrow : Script.Arrow) {op t : Token}
    {rest : List Token} (hop : op.content = arrow.content) (ht : t.kind = .word)
    (hrest : (Tokens.kind rest).isWordLike = false) :
    parse below op (t :: rest) = ⟨arrow.redirect t.value, [], rest⟩ := by
  have hkind := Token.kind_of_content hop
  have hvalue := Token.value_of_content hop
  unfold parse
  simp only [readTarget_word below ht hrest, hkind, hvalue]
  cases arrow <;> rfl

end Redirect

namespace Draft

theorem read_end (below : Option Level) (d : Draft) {rest : List Token}
    (h : Tokens.kind rest ∈ commandEnds) : read below d rest = ⟨d, [], rest⟩ := by
  cases rest with
  | nil => rw [read]
  | cons t rest =>
    obtain ⟨hword, hredirect, hparen, hunknown, -⟩ := not_part_of_mem_commandEnds t.kind h
    rw [read]
    simp [hword, hredirect, hparen, hunknown]

/-- Words that stand apart are added one by one. -/
theorem read_words (below : Option Level) (d : Draft) {ws : List String} {ts : List Token}
    (rest : List Token) (h : Written (ws.map Script.word) ts)
    (hd : d.words = [] ∨ ∀ t ∈ ts.head?, d.lastStop ≠ some t.position.offset) :
    ∃ last, read below d (ts ++ rest) =
      read below ⟨ws.reverse ++ d.words, d.children, last⟩ rest := by
  induction ws generalizing d ts with
  | nil =>
    rw [h.eq_nil]
    exact ⟨d.lastStop, rfl⟩
  | cons w ws ih =>
    obtain ⟨t, us, rfl, ht, hus, hapart⟩ := h.cons
    have hkind : t.kind = .word := Token.kind_of_content ht
    have hvalue : t.value = w := Token.value_of_content ht
    -- The next word does not begin where this one stops, so it will not be glued to it.
    have hnext : ∀ u ∈ us.head?, some t.stop ≠ some u.position.offset := by
      intro u hu
      have hword : u.content ∈ ws.map Script.word := by
        rw [← hus.contents]
        exact List.mem_map_of_mem (List.mem_of_mem_head? hu)
      obtain ⟨v, -, hv⟩ := List.mem_map.1 hword
      intro hstop
      exact hapart u hu hkind (Token.kind_of_content hv.symm) (Option.some.inj hstop)
    have hadd : d.addPart t (t.part below) = ⟨w :: d.words, d.children, some t.stop⟩ := by
      cases hwords : d.words with
      | nil => simp [addPart, Token.part_word below hkind, hvalue, hwords]
      | cons v vs =>
        have hgap : d.lastStop ≠ some t.position.offset :=
          (hd.resolve_left (by simp [hwords])) t rfl
        simp [addPart, Token.part_word below hkind, hvalue, hwords, hgap]
    obtain ⟨last, hlast⟩ := ih ⟨w :: d.words, d.children, some t.stop⟩ hus (.inr hnext)
    refine ⟨last, ?_⟩
    rw [List.cons_append, read]
    simp only [hkind, TokenKind.isWordLike, if_true, hadd, hlast]
    simp [Token.part_word below hkind]

theorem kind_flows_not_wordLike {flows : List Script.Flow} {ts rest : List Token}
    (h : Written (flows.flatMap Script.Flow.print) ts)
    (hrest : (Tokens.kind rest).isWordLike = false) :
    (Tokens.kind (ts ++ rest)).isWordLike = false := by
  cases flows with
  | nil => rwa [h.eq_nil]
  | cons f flows =>
    rw [Written.kind_eq h rest]
    cases f.arrow <;> rfl

/-- Redirects are added one by one. -/
theorem read_flows (below : Option Level) (d : Draft) {flows : List Script.Flow} {ts : List Token}
    {rest : List Token} (h : Written (flows.flatMap Script.Flow.print) ts)
    (hrest : (Tokens.kind rest).isWordLike = false) :
    ∃ d', read below d (ts ++ rest) = read below d' rest ∧ d'.words = d.words ∧
      d'.children.map Node.unplaced =
        (flows.map Script.Flow.tree).reverse ++ d.children.map Node.unplaced := by
  induction flows generalizing d ts with
  | nil =>
    rw [h.eq_nil]
    exact ⟨d, rfl, rfl, rfl⟩
  | cons f flows ih =>
    obtain ⟨op, us, rfl, hop, hus, -⟩ := h.cons
    obtain ⟨t, vs, rfl, ht, hvs, -⟩ := hus.cons
    have hword : t.kind = .word := Token.kind_of_content ht
    have hvalue : t.value = f.target := Token.value_of_content ht
    have hparse := Redirect.parse_arrow below f.arrow hop hword (kind_flows_not_wordLike hvs hrest)
    obtain ⟨d', hread, hwords, hchildren⟩ :=
      ih (d.addRedirect op.position (f.arrow.redirect f.target)) hvs
    refine ⟨d', ?_, hwords, ?_⟩
    · rw [List.cons_append, List.cons_append, read]
      simp only [hparse, hvalue, hread]
      have hkind := Token.kind_of_content hop
      cases harrow : f.arrow <;>
        simp [hkind, harrow, Script.Arrow.content, TokenKind.isWordLike, TokenKind.isRedirect]
    · rw [hchildren]
      simp [addRedirect, Node.unplaced, Script.Flow.tree]

/-- The words and redirects of a simple command make up its tree. -/
theorem read_simple (below : Option Level) {c : Script.Simple} {ts rest : List Token}
    (h : Written c.print ts) (hrest : Tokens.kind rest ∈ commandEnds) :
    ∃ d, read below .empty (ts ++ rest) = ⟨d, [], rest⟩ ∧
      ∀ p, (d.node p).unplaced = .command .start c.name c.args (c.flows.map Script.Flow.tree) := by
  obtain ⟨us, vs, rfl, hus, hvs⟩ := h.append
  obtain ⟨last, hwords⟩ := read_words below .empty (vs ++ rest) hus (.inl rfl)
  obtain ⟨d, hflows, hdwords, hchildren⟩ := read_flows below
    ⟨(c.name :: c.args).reverse ++ [], [], last⟩ hvs (not_part_of_mem_commandEnds _ hrest).1
  refine ⟨d, ?_, ?_⟩
  · rw [List.append_assoc, hwords]
    exact hflows.trans (read_end below d hrest)
  · intro p
    rw [List.append_nil] at hdwords
    simp [node, Node.unplaced, hdwords, hchildren]

end Draft

/-! ## What a level reads -/

/-- Reading gives a tree, up to places, and leaves the rest without a complaint. -/
def Gives (read : Option (Parsed Node)) (tree : Node) (rest : List Token) : Prop :=
  ∃ node, read = some ⟨node, [], rest⟩ ∧ node.unplaced = tree

/-- A level reads a body as printed, whatever ends the list after it. -/
def Level.Reads (l : Level) (lang : Language) (body : lang.Body) : Prop :=
  ∀ inGroup ts rest, Written (lang.print body) ts →
    endsList inGroup (Tokens.kind rest) = true →
      ∃ tree, l.list inGroup (ts ++ rest) = ⟨tree, [], rest⟩ ∧
        tree.map Node.unplaced = lang.tree body

/-- There is a level below that reads whatever a group can hold. -/
def ReadsGroups (below : Option Level) (inner : Language) : Prop :=
  ∀ body : inner.Body, ∃ l, below = some l ∧ l.Reads inner body

/-! ## How printed forms begin -/

/-- The kinds of token a command begins with. -/
def commandStarts : List TokenKind := [.word, .leftParen]

theorem not_end_of_mem_commandStarts : ∀ k ∈ commandStarts, k.isFiller = false ∧
    (∀ inGroup, endsPipeline inGroup k = false) ∧ ∀ inGroup, endsList inGroup k = false := by
  decide

variable {inner : Language}

theorem Script.Atom.kind_mem {a : Atom inner} {ts : List Token} (h : Written a.print ts)
    (rest : List Token) : Tokens.kind (ts ++ rest) ∈ commandStarts := by
  cases a with
  | simple c | group body =>
    rw [Written.kind_eq h rest]
    simp [commandStarts, word]

theorem Script.kind_pipes_mem {more : List (Atom inner)} {ts rest : List Token}
    (h : Written (more.flatMap fun a => (.pipe, "|") :: a.print) ts)
    (hrest : Tokens.kind rest ∈ pipelineEnds) : Tokens.kind (ts ++ rest) ∈ commandEnds := by
  cases more with
  | nil =>
    rw [h.eq_nil]
    exact List.mem_cons_of_mem _ hrest
  | cons a more =>
    rw [Written.kind_eq h rest]
    decide

theorem Script.Pipeline.kind_mem {p : Pipeline inner} {ts : List Token} (h : Written p.print ts)
    (rest : List Token) : Tokens.kind (ts ++ rest) ∈ commandStarts := by
  obtain ⟨us, vs, rfl, hus, -⟩ := h.append
  rw [List.append_assoc]
  exact Atom.kind_mem hus (vs ++ rest)

theorem Script.Chain.kind_mem {c : Chain inner} {ts : List Token} (h : Written c.print ts)
    (rest : List Token) : Tokens.kind (ts ++ rest) ∈ commandStarts := by
  induction c generalizing ts rest with
  | single p => exact Pipeline.kind_mem h rest
  | join left op right ih =>
    obtain ⟨us, vs, rfl, hus, -⟩ := h.append
    rw [List.append_assoc]
    exact ih hus (vs ++ rest)

/-! ## One step of each loop -/

section Readers

variable {below : Option Level}

theorem parsePipes_end (inGroup : Bool) {rest : List Token} (h : Tokens.kind rest ∈ pipelineEnds) :
    parsePipes below inGroup rest = ⟨([], false), [], rest⟩ := by
  cases rest with
  | nil => rw [parsePipes]
  | cons t rest =>
    have hpipe : t.kind ≠ .pipe := by
      intro hpipe
      rw [Tokens.kind_cons, hpipe] at h
      exact absurd h (by decide)
    rw [parsePipes, if_neg hpipe]

theorem parsePipes_pipe {inGroup : Bool} {t : Token} {rest : List Token} {command : Parsed Node}
    (hpipe : t.kind = .pipe)
    (h : parsePiped below inGroup (Tokens.skipFiller rest) = some command) :
    parsePipes below inGroup (t :: rest) =
      let more := parsePipes below inGroup command.rest
      ⟨(command.value :: more.value.1, more.value.2), command.notes ++ more.notes, more.rest⟩ := by
  rw [parsePipes, if_pos hpipe]
  split
  · next hnone => rw [h] at hnone; cases hnone
  · next other hother =>
    rw [h] at hother
    cases hother
    rfl

theorem parseChainRest_end (inGroup : Bool) (left : Node) {rest : List Token}
    (h : Tokens.kind rest ∈ chainEnds) :
    parseChainRest below inGroup left rest = ⟨left, [], rest⟩ := by
  cases rest with
  | nil => rw [parseChainRest]
  | cons t rest =>
    have hop : ¬(t.kind = .andIf ∨ t.kind = .orIf) := by
      rintro (hop | hop) <;> rw [Tokens.kind_cons, hop] at h <;> exact absurd h (by decide)
    rw [parseChainRest, if_neg hop]

theorem parseChainRest_operator {inGroup : Bool} (left : Node) {t : Token} {rest : List Token}
    {right : Parsed Node} (hop : t.kind = .andIf ∨ t.kind = .orIf)
    (h : parsePipeline below inGroup (Tokens.skipFiller rest) = some right) :
    parseChainRest below inGroup left (t :: rest) =
      let more := parseChainRest below inGroup (chainNode t.kind left right.value) right.rest
      ⟨more.value, right.notes ++ more.notes, more.rest⟩ := by
  rw [parseChainRest, if_pos hop]
  split
  · next hnone => rw [h] at hnone; cases hnone
  · next other hother =>
    rw [h] at hother
    cases hother
    rfl

theorem parseItems_end {inGroup : Bool} {rest : List Token}
    (h : endsList inGroup (Tokens.kind rest) = true) :
    parseItems below inGroup rest = ⟨([], []), [], rest⟩ := by
  have hfiller := (not_part_of_mem_commandEnds _ (List.mem_cons_of_mem _ (List.mem_cons_of_mem _
    (List.mem_cons_of_mem _ (mem_chainEnds_of_endsList h))))).2.2.2.2
  rw [parseItems]
  simp [Tokens.skipFiller_eq hfiller, h]

/-! ## Commands and pipelines -/

variable (hbelow : ReadsGroups below inner)
include hbelow

theorem parseCommand_atom {a : Script.Atom inner} {ts rest : List Token}
    (h : Written a.print ts) (hrest : Tokens.kind rest ∈ commandEnds) :
    Gives (parseCommand below (ts ++ rest)) a.tree rest := by
  cases a with
  | simple c =>
    obtain ⟨d, hread, hnode⟩ := Draft.read_simple below h hrest
    obtain ⟨t, us, rfl, ht, -⟩ := h.cons
    have hkind : t.kind = .word := Token.kind_of_content ht
    refine ⟨d.node t.position, ?_, hnode t.position⟩
    rw [List.cons_append] at hread ⊢
    simp [parseCommand, hkind, TokenKind.isWordLike, hread]
  | group body =>
    obtain ⟨l, rfl, hl⟩ := hbelow body
    obtain ⟨opening, us, rfl, hopening, hus, -⟩ := h.cons
    obtain ⟨vs, ws, rfl, hvs, hws⟩ := hus.append
    obtain ⟨closing, none, rfl, hclosing, hnone, -⟩ := hws.cons
    have hopen : opening.kind = .leftParen := Token.kind_of_content hopening
    have hclose : closing.kind = .rightParen := Token.kind_of_content hclosing
    obtain ⟨tree, hlist, htree⟩ := hl true vs (closing :: rest) hvs (by simp [hclose, endsList])
    refine ⟨.subshell opening.position tree false false, ?_, ?_⟩
    · rw [hnone.eq_nil, List.cons_append, List.append_assoc, List.singleton_append]
      simp [parseCommand, hopen, Group.read, hlist, hclose]
    · simp [Node.unplaced, htree, Script.Atom.tree]

theorem parsePiped_atom (inGroup : Bool) {a : Script.Atom inner} {ts rest : List Token}
    (h : Written a.print ts) (hrest : Tokens.kind rest ∈ commandEnds) :
    Gives (parsePiped below inGroup (Tokens.skipFiller (ts ++ rest))) a.tree rest := by
  obtain ⟨hfiller, hstart, -⟩ := not_end_of_mem_commandStarts _ (Script.Atom.kind_mem h rest)
  rw [Tokens.skipFiller_eq hfiller, parsePiped, hstart inGroup]
  exact parseCommand_atom hbelow h hrest

theorem parsePipes_atoms (inGroup : Bool) {more : List (Script.Atom inner)} {ts rest : List Token}
    (h : Written (more.flatMap fun a => (.pipe, "|") :: a.print) ts)
    (hrest : Tokens.kind rest ∈ pipelineEnds) :
    ∃ nodes, parsePipes below inGroup (ts ++ rest) = ⟨(nodes, false), [], rest⟩ ∧
      nodes.map Node.unplaced = more.map Script.Atom.tree := by
  induction more generalizing ts with
  | nil =>
    rw [h.eq_nil]
    exact ⟨[], parsePipes_end inGroup hrest, rfl⟩
  | cons a more ih =>
    obtain ⟨t, us, rfl, ht, hus, -⟩ := h.cons
    obtain ⟨vs, ws, rfl, hvs, hws⟩ := hus.append
    have hpipe : t.kind = .pipe := Token.kind_of_content ht
    obtain ⟨nodes, hnodes, htrees⟩ := ih hws
    obtain ⟨node, hnode, htree⟩ :=
      parsePiped_atom hbelow inGroup hvs (Script.kind_pipes_mem hws hrest)
    refine ⟨node :: nodes, ?_, by simp [htree, htrees]⟩
    rw [List.cons_append, List.append_assoc, parsePipes_pipe hpipe hnode, hnodes]
    rfl

theorem parsePipeline_print (inGroup : Bool) {p : Script.Pipeline inner} {ts rest : List Token}
    (h : Written p.print ts) (hrest : Tokens.kind rest ∈ pipelineEnds) :
    Gives (parsePipeline below inGroup (ts ++ rest)) p.tree rest := by
  obtain ⟨us, vs, rfl, hus, hvs⟩ := h.append
  obtain ⟨node, hnode, htree⟩ := parseCommand_atom hbelow hus (Script.kind_pipes_mem hvs hrest)
  obtain ⟨nodes, hnodes, htrees⟩ := parsePipes_atoms hbelow inGroup hvs hrest
  rw [List.append_assoc]
  simp only [Gives, parsePipeline, hnode, hnodes, Option.map_some]
  refine ⟨_, rfl, ?_⟩
  cases hmore : p.more with
  | nil =>
    have hnil : nodes = [] := by simpa [hmore] using htrees
    simp [hnil, Script.Pipeline.tree, hmore, htree]
  | cons a more =>
    have hne : nodes ≠ [] := by
      rintro rfl
      simp [hmore] at htrees
    simp [hne, Script.Pipeline.tree, hmore, htree, htrees, Node.unplaced]

/-! ## Chains -/

/-- A chain is read up to the operator after it, from where reading goes on with its tree as the left
side. -/
theorem parseChain_prefix (inGroup : Bool) {c : Script.Chain inner} {ts rest : List Token}
    (h : Written c.print ts) (hrest : Tokens.kind rest ∈ pipelineEnds) :
    ∃ left, parseChain below inGroup (ts ++ rest) =
        some (parseChainRest below inGroup left rest) ∧ left.unplaced = c.tree := by
  induction c generalizing ts rest with
  | single p =>
    obtain ⟨node, hnode, htree⟩ := parsePipeline_print hbelow inGroup h hrest
    exact ⟨node, by simp [parseChain, hnode], htree⟩
  | join left op right ih =>
    obtain ⟨us, vs, rfl, hus, hvs⟩ := h.append
    obtain ⟨t, ws, rfl, ht, hws, -⟩ := hvs.cons
    have hkind : t.kind = op.content.1 := Token.kind_of_content ht
    have hop : t.kind = .andIf ∨ t.kind = .orIf := by
      rw [hkind]
      cases op
      · exact .inl rfl
      · exact .inr rfl
    -- The left side is followed by its operator, where a pipeline ends but the chain goes on.
    have hnext : Tokens.kind (t :: (ws ++ rest)) ∈ pipelineEnds := by
      rcases hop with hop | hop <;> simp [hop, pipelineEnds]
    obtain ⟨l, hl, hltree⟩ := ih hus hnext
    obtain ⟨r, hr, hrtree⟩ := parsePipeline_print hbelow inGroup hws hrest
    obtain ⟨hfiller, -⟩ := not_end_of_mem_commandStarts _ (Script.Pipeline.kind_mem hws rest)
    have hright : parsePipeline below inGroup (Tokens.skipFiller (ws ++ rest)) =
        some ⟨r, [], rest⟩ := by rw [Tokens.skipFiller_eq hfiller, hr]
    refine ⟨chainNode t.kind l r, ?_, ?_⟩
    · rw [List.append_assoc, List.cons_append, hl, parseChainRest_operator l hop hright]
      rfl
    · rw [hkind]
      cases op <;>
        simp [chainNode, Script.Connective.content, Node.unplaced, Script.Chain.tree, hltree, hrtree]

theorem parseChain_print (inGroup : Bool) {c : Script.Chain inner} {ts rest : List Token}
    (h : Written c.print ts) (hrest : Tokens.kind rest ∈ chainEnds) :
    Gives (parseChain below inGroup (ts ++ rest)) c.tree rest := by
  obtain ⟨left, hleft, htree⟩ := parseChain_prefix hbelow inGroup h
    (List.mem_cons_of_mem _ (List.mem_cons_of_mem _ hrest))
  exact ⟨left, by rw [hleft, parseChainRest_end inGroup left hrest], htree⟩

/-! ## Lists -/

/-- Where an item can begin, its chain does. -/
theorem parseChain_start (inGroup : Bool) {c : Script.Chain inner} {ts rest : List Token}
    (h : Written c.print ts) (hrest : Tokens.kind rest ∈ chainEnds) :
    endsList inGroup (Tokens.kind (Tokens.skipFiller (ts ++ rest))) = false ∧
      Gives (parseChain below inGroup (Tokens.skipFiller (ts ++ rest))) c.tree rest := by
  obtain ⟨hfiller, -, hstart⟩ := not_end_of_mem_commandStarts _ (Script.Chain.kind_mem h rest)
  rw [Tokens.skipFiller_eq hfiller]
  exact ⟨hstart inGroup, parseChain_print hbelow inGroup h hrest⟩

/-- An item and what separates it from the next one. -/
theorem parseItems_item (inGroup : Bool) {i : Script.Item inner} {us vs : List Token} {t : Token}
    (hus : Written i.chain.print us)
    (ht : t.kind = if i.background then .ampersand else .semicolon) :
    ∃ node, node.unplaced = i.tree ∧
      parseItems below inGroup (us ++ t :: vs) =
        let more := parseItems below inGroup vs
        ⟨(node :: more.value.1, i.separator :: more.value.2), more.notes, more.rest⟩ := by
  have hend : Tokens.kind (t :: vs) ∈ chainEnds := by
    rw [Tokens.kind_cons, ht]
    split <;> decide
  obtain ⟨hstart, node, hnode, htree⟩ := parseChain_start hbelow inGroup hus hend
  rw [parseItems]
  simp only [hstart, Bool.false_eq_true, if_false]
  split
  · next hnone => rw [hnode] at hnone; cases hnone
  · next item hsome =>
    rw [hnode] at hsome
    cases hsome
    cases hback : i.background with
    | true =>
      have hkind : t.kind = .ampersand := by simpa [hback] using ht
      exact ⟨.background node.position node, by simp [Node.unplaced, htree, Script.Item.tree, hback],
        by simp [hkind, Script.Item.separator, hback]⟩
    | false =>
      have hkind : t.kind = .semicolon := by simpa [hback] using ht
      exact ⟨node, by simp [htree, Script.Item.tree, hback],
        by simp [hkind, Script.Item.separator, hback]⟩

/-- A last item that is not in the background. -/
theorem parseItems_last (inGroup : Bool) {c : Script.Chain inner} {ts rest : List Token}
    (h : Written c.print ts) (hrest : endsList inGroup (Tokens.kind rest) = true) :
    ∃ node, node.unplaced = c.tree ∧
      parseItems below inGroup (ts ++ rest) = ⟨([node], []), [], rest⟩ := by
  obtain ⟨hstart, node, hnode, htree⟩ :=
    parseChain_start hbelow inGroup h (mem_chainEnds_of_endsList hrest)
  refine ⟨node, htree, ?_⟩
  rw [parseItems]
  simp only [hstart, Bool.false_eq_true, if_false]
  split
  · next hnone => rw [hnode] at hnone; cases hnone
  · next item hsome =>
    rw [hnode] at hsome
    cases hsome
    dsimp only
    split
    · next hkind => rw [hkind] at hrest; cases hrest
    · next hkind => rw [hkind] at hrest; cases hrest
    · next hkind => rw [hkind] at hrest; cases hrest
    · simp [hrest]

/-- The items come back with the separators between them; one more may follow the last item. -/
theorem parseItems_print (inGroup : Bool) {items : List (Script.Item inner)}
    {ts rest : List Token} (h : Written (Script.printItems items) ts)
    (hrest : endsList inGroup (Tokens.kind rest) = true) :
    ∃ nodes separators, parseItems below inGroup (ts ++ rest) = ⟨(nodes, separators), [], rest⟩ ∧
      nodes.map Node.unplaced = items.map Script.Item.tree ∧
      separators.take (items.length - 1) = items.dropLast.map Script.Item.separator := by
  induction items generalizing ts with
  | nil =>
    rw [h.eq_nil]
    exact ⟨[], [], parseItems_end hrest, rfl, rfl⟩
  | cons i items ih =>
    cases items with
    | nil =>
      obtain ⟨us, vs, rfl, hus, hvs⟩ := h.append
      cases hback : i.background with
      | false =>
        rw [hback] at hvs
        obtain ⟨node, htree, hnode⟩ := parseItems_last hbelow inGroup hus hrest
        rw [hvs.eq_nil, List.append_nil]
        exact ⟨[node], [], hnode, by simp [htree, Script.Item.tree, hback], rfl⟩
      | true =>
        -- The closing `&` is read as a separator with no item after it.
        rw [hback] at hvs
        obtain ⟨t, ws, rfl, ht, hws, -⟩ := hvs.cons
        have hkind : t.kind = if i.background then .ampersand else .semicolon := by
          rw [hback]
          exact Token.kind_of_content ht
        obtain ⟨node, htree, hnode⟩ := parseItems_item hbelow inGroup hus hkind
        rw [hws.eq_nil, List.append_assoc, List.singleton_append, hnode, parseItems_end hrest]
        exact ⟨[node], [i.separator], rfl, by simp [htree], rfl⟩
    | cons j items =>
      obtain ⟨us, vs, rfl, hus, hvs⟩ := h.append
      obtain ⟨t, ws, rfl, ht, hws, -⟩ := hvs.cons
      have hkind : t.kind = if i.background then .ampersand else .semicolon := by
        rw [Token.kind_of_content ht]
        cases i.background <;> rfl
      obtain ⟨node, htree, hnode⟩ := parseItems_item hbelow inGroup hus hkind
      obtain ⟨nodes, separators, hmore, htrees, hseparators⟩ := ih hws
      rw [List.append_assoc, List.cons_append, hnode, hmore]
      refine ⟨node :: nodes, i.separator :: separators, rfl, ?_, ?_⟩
      · rw [List.map_cons, htree, htrees]
        rfl
      · simpa using hseparators

theorem parseList_print (inGroup : Bool) {items : List (Script.Item inner)} {ts rest : List Token}
    (h : Written (Script.printItems items) ts)
    (hrest : endsList inGroup (Tokens.kind rest) = true) :
    ∃ tree, parseList below inGroup (ts ++ rest) = ⟨tree, [], rest⟩ ∧
      tree.map Node.unplaced = Script.itemsTree items := by
  obtain ⟨nodes, separators, hparse, htrees, hseparators⟩ :=
    parseItems_print hbelow inGroup h hrest
  simp only [parseList, hparse]
  refine ⟨_, rfl, ?_⟩
  have hlength : nodes.length = items.length := by simpa using congrArg List.length htrees
  match items, nodes with
  | [], [] => rfl
  | [i], [node] => simpa [listNode, Script.itemsTree] using htrees
  | i :: j :: items, node :: node' :: nodes =>
    rw [← hlength] at hseparators
    simp only [listNode, hseparators]
    simp [Node.unplaced, htrees, Script.itemsTree]

end Readers

/-! ## Levels -/

theorem Level.above_reads {below : Option Level} (hbelow : ReadsGroups below inner)
    (body : inner.above.Body) : (Level.above below).Reads inner.above body := by
  intro inGroup ts rest h hrest
  exact parseList_print hbelow inGroup h hrest

/-- A level reads every script that nests no deeper than there are levels below it. -/
theorem level_reads (n : Nat) (body : (language n).Body) : (level n).Reads (language n) body := by
  induction n with
  | zero => exact Level.above_reads (fun inside => Empty.elim inside) body
  | succ n ih => exact Level.above_reads (fun inside => ⟨level n, rfl, ih inside⟩) body

theorem Tokens.close_eq {ts : List Token} (h : ∀ t ∈ ts, t.kind ≠ .eof) :
    ∃ e : Token, e.kind = .eof ∧ close ts = ts ++ [e] := by
  unfold close
  split
  · next hlast =>
    rw [List.getLast?_eq_none_iff.1 hlast]
    exact ⟨Token.eof .start 0, rfl, rfl⟩
  · next t hlast =>
    rw [if_neg (h t (List.mem_of_getLast? hlast))]
    exact ⟨Token.eof t.position t.stop, rfl, rfl⟩

theorem Tokens.close_concat {ts : List Token} {e : Token} (he : e.kind = .eof) :
    close (ts ++ [e]) = ts ++ [e] := by
  simp only [close, List.getLast?_concat, he, if_true]

/-- Reading inverts printing: the printed form of a tree, wherever its tokens stand, gives the tree
back up to places, without a complaint, and nothing is left but the end of the text. -/
theorem list_inverts_print {tree : Node} {script : (language maxNesting).Body} {ts : List Token}
    (htree : (language maxNesting).tree script = some tree.unplaced)
    (hprint : Written ((language maxNesting).print script) ts) :
    let parsed := (levelAt 0).list false (Tokens.close ts)
    parsed.value.map Node.unplaced = some tree.unplaced ∧ parsed.notes = [] ∧
      parsed.rest.map Token.kind = [.eof] := by
  have hkinds : ∀ t ∈ ts, t.kind ≠ .eof := by
    intro t ht
    have hmem : t.content ∈ (language maxNesting).print script := by
      rw [← hprint.contents]
      exact List.mem_map_of_mem ht
    exact language_neverEnds maxNesting script t.content hmem
  obtain ⟨e, he, hclose⟩ := Tokens.close_eq hkinds
  obtain ⟨value, hlist, hvalue⟩ :=
    level_reads maxNesting script false ts [e] hprint (by simp [he, endsList])
  have hparsed : (levelAt 0).list false (Tokens.close ts) = ⟨value, [], [e]⟩ := by
    rw [hclose]
    exact hlist
  rw [hparsed]
  exact ⟨hvalue.trans htree, rfl, by simp [he]⟩

/-- `a < f | ( b ; c & ) && d >> g & ( ( ) ) ; e x` -/
def Script.sample : (language maxNesting).Body :=
  show List (Item (language 31)) from
    [⟨.join
        (.single ⟨.simple ⟨"a", [], [⟨.input, "f"⟩]⟩,
          [.group (show List (Item (language 30)) from
            [⟨.single ⟨.simple ⟨"b", [], []⟩, []⟩, false⟩,
             ⟨.single ⟨.simple ⟨"c", [], []⟩, []⟩, true⟩])]⟩)
        .both ⟨.simple ⟨"d", [], [⟨.append, "g"⟩]⟩, []⟩, true⟩,
     ⟨.single ⟨.group (show List (Item (language 30)) from
        [⟨.single ⟨.group (show List (Item (language 29)) from []), []⟩, false⟩]), []⟩, false⟩,
     ⟨.single ⟨.simple ⟨"e", ["x"], []⟩, []⟩, false⟩]

def Script.sampleTree : Node :=
  .list .start
    [.background .start (.both .start
      (.pipeline .start
        [.command .start "a" [] [.redirect .start ⟨.input, 0, "f"⟩],
         .subshell .start (some (.list .start
           [.command .start "b" [] [], .background .start (.command .start "c" [] [])]
           [.semicolon])) false false] false)
      (.command .start "d" [] [.redirect .start ⟨.append, 1, "g"⟩])),
     .subshell .start (some (.subshell .start none false false)) false false,
     .command .start "e" ["x"] []]
    [.ampersand, .semicolon]

theorem list_inverts_print_sample :
    let parsed := (levelAt 0).list false
      (Tokens.close (spaced 0 ((language maxNesting).print Script.sample)))
    parsed.value.map Node.unplaced = some Script.sampleTree ∧ parsed.notes = [] := by
  have htree : (language maxNesting).tree Script.sample = some Script.sampleTree.unplaced := rfl
  obtain ⟨hvalue, hnotes, -⟩ := list_inverts_print htree (spaced_written 0 _)
  exact ⟨hvalue, hnotes⟩

end ShellGuard
