import Mathlib
import ShellGuard.Proofs.Syntax.Standalone
import ShellGuard.Syntax.Session

/-!
# Progress of a parser

Whatever tokens a parser is given, it reads them from front to back and stops at the end of the text
at the latest.  The readers share one law: what they leave is what they were given without some
tokens at its front, and the end of the text is not among these (`Passes`).  It holds of the level
below, so of everything a level reads, and it says more than that a level leaves an end of its
tokens: a parser that has come to the end of the text stays there.

A reader that gives a command takes a token at least (`Advances`).  One that gives none does so
because no command can begin with the next token, and whoever asked goes on from there.
-/

namespace ShellGuard

/-- From `ts` on, the tokens up to `rest` are passed, and none of them ends the text. -/
def Passes (ts rest : List Token) : Prop :=
  ∃ passed, ts = passed ++ rest ∧ ∀ t ∈ passed, t.kind ≠ .eof

namespace Passes

theorem refl (ts : List Token) : Passes ts ts :=
  ⟨[], rfl, by simp⟩

theorem trans {ts us vs : List Token} (h : Passes ts us) (h' : Passes us vs) : Passes ts vs := by
  obtain ⟨front, rfl, hfront⟩ := h
  obtain ⟨more, rfl, hmore⟩ := h'
  exact ⟨front ++ more, (List.append_assoc ..).symm, List.forall_mem_append.2 ⟨hfront, hmore⟩⟩

theorem cons {t : Token} {ts rest : List Token} (h : Passes ts rest) (ht : t.kind ≠ .eof) :
    Passes (t :: ts) rest := by
  obtain ⟨passed, rfl, hpassed⟩ := h
  exact ⟨t :: passed, rfl, List.forall_mem_cons.2 ⟨ht, hpassed⟩⟩

theorem suffix {ts rest : List Token} (h : Passes ts rest) : rest <:+ ts := by
  obtain ⟨passed, rfl, -⟩ := h
  exact List.suffix_append passed rest

/-- The end of the text stays ahead. -/
theorem getLast? {ts rest : List Token} {e : Token} (h : Passes ts rest)
    (hlast : ts.getLast? = some e) (he : e.kind = .eof) : rest.getLast? = some e := by
  obtain ⟨passed, rfl, hpassed⟩ := h
  cases rest with
  | nil =>
    rw [List.append_nil] at hlast
    exact absurd he (hpassed e (List.mem_of_getLast? hlast))
  | cons t rest => rwa [List.getLast?_append_of_ne_nil passed (List.cons_ne_nil t rest)] at hlast

theorem tail {ts : List Token} (h : Tokens.kind ts ≠ .eof) : Passes ts ts.tail := by
  cases ts with
  | nil => exact absurd rfl h
  | cons t ts => exact (refl ts).cons h

theorem skipFiller (ts : List Token) : Passes ts (Tokens.skipFiller ts) := by
  refine ⟨ts.takeWhile (·.kind.isFiller), List.takeWhile_append_dropWhile.symm, fun t ht heof => ?_⟩
  have hfiller := List.mem_takeWhile_imp ht
  rw [heof] at hfiller
  cases hfiller

end Passes

/-- From `ts` on, the next token and the tokens up to `rest` are passed. -/
def Advances (ts rest : List Token) : Prop :=
  ∃ t us, ts = t :: us ∧ t.kind ≠ .eof ∧ Passes us rest

theorem Advances.passes {ts rest : List Token} (h : Advances ts rest) : Passes ts rest := by
  obtain ⟨t, us, rfl, ht, hus⟩ := h
  exact hus.cons ht

theorem Advances.trans {ts us vs : List Token} (h : Advances ts us) (h' : Passes us vs) :
    Advances ts vs := by
  obtain ⟨t, ts, rfl, ht, hts⟩ := h
  exact ⟨t, ts, rfl, ht, hts.trans h'⟩

/-- A level that never passes the end of a text. -/
def Level.Passing (l : Level) : Prop :=
  ∀ inGroup ts, Passes ts (l.list inGroup ts).rest

/-! ## Simple commands -/

theorem TokenKind.ne_eof_of_isWordLike {k : TokenKind} (h : k.isWordLike = true) : k ≠ .eof := by
  rintro rfl
  cases h

theorem TokenKind.ne_eof_of_isRedirect {k : TokenKind} (h : k.isRedirect = true) : k ≠ .eof := by
  rintro rfl
  cases h

theorem targetSpan_passes (last : Option Nat) (ts : List Token) :
    Passes ts (Redirect.targetSpan last ts).2 := by
  induction ts generalizing last with
  | nil => exact .refl []
  | cons t ts ih =>
    unfold Redirect.targetSpan
    split
    · next hword => exact (ih (some t.stop)).cons (TokenKind.ne_eof_of_isWordLike hword.1)
    · exact .refl _

section Readers

variable (below : Option Level)

theorem redirect_passes (op : Token) (ts : List Token) :
    Passes ts (Redirect.parse below op ts).rest := by
  unfold Redirect.parse
  dsimp only
  split
  · exact targetSpan_passes none ts
  · exact .refl ts

theorem dropClosing_passes (ts : List Token) : Passes ts (Draft.dropClosing ts) := by
  unfold Draft.dropClosing
  split
  · exact .refl []
  · next t rest =>
    split
    · next hparen => exact (Passes.refl rest).cons (by rw [hparen]; decide)
    · exact .refl _

theorem draft_passes (d : Draft) (ts : List Token) : Passes ts (Draft.read below d ts).rest := by
  fun_induction Draft.read below d ts with
  | case1 => exact .refl []
  | case2 d t rest hword part more ih => exact ih.cons (TokenKind.ne_eof_of_isWordLike hword)
  | case3 d t rest _ hredirect r more ih =>
    exact ((redirect_passes below t rest).trans ih).cons (TokenKind.ne_eof_of_isRedirect hredirect)
  | case4 d t rest _ _ hparens ih =>
    exact ((dropClosing_passes rest).trans ih).cons (by rw [hparens.1]; decide)
  | case5 d t rest _ _ _ hunknown ih => exact ih.cons (by rw [hunknown]; decide)
  | case6 => exact .refl _

/-- A token that can be part of a command is taken. -/
theorem draft_advances (d : Draft) {t : Token} (rest : List Token)
    (h : t.kind.isWordLike = true ∨ t.kind.isRedirect = true) :
    Advances (t :: rest) (Draft.read below d (t :: rest)).rest := by
  rcases h with h | h
  · rw [Draft.read_part below d h]
    exact ⟨t, rest, rfl, TokenKind.ne_eof_of_isWordLike h, draft_passes below _ rest⟩
  · rw [Draft.read_redirect below d h]
    exact ⟨t, rest, rfl, TokenKind.ne_eof_of_isRedirect h,
      (redirect_passes below t rest).trans (draft_passes below _ _)⟩

/-! ## Groups -/

theorem skip_passes (opened : Nat) (ts : List Token) : Passes ts (Group.skip opened ts).2 := by
  induction ts generalizing opened with
  | nil => exact .refl []
  | cons t ts ih =>
    unfold Group.skip
    split
    · exact .refl _
    next heof =>
    split
    · exact (ih _).cons heof
    split
    · split
      · exact (Passes.refl ts).cons heof
      · exact (ih _).cons heof
    · exact (ih _).cons heof

variable {below} (hbelow : ∀ l ∈ below, l.Passing) {inGroup : Bool}

include hbelow

theorem group_passes (p : Position) (ts : List Token) :
    Passes ts (Group.read below p ts).rest := by
  cases below with
  | none => exact skip_passes 0 ts
  | some level =>
    have hbody := hbelow level rfl true ts
    simp only [Group.read]
    split
    · next hparen => exact hbody.trans (.tail (by rw [hparen]; decide))
    · exact hbody

/-! ## Commands, pipelines, chains and lists -/

theorem parseCommand_advances {ts : List Token} {r : Parsed Node}
    (h : parseCommand below ts = some r) : Advances ts r.rest := by
  unfold parseCommand at h
  split at h
  · cases h
  · next t rest =>
    split at h
    · next hparen =>
      cases h
      exact ⟨t, rest, rfl, by rw [hparen]; decide, group_passes hbelow t.position rest⟩
    · split at h
      · next hpart =>
        cases h
        exact draft_advances below .empty rest (Bool.or_eq_true_iff.1 hpart)
      · cases h

theorem parsePipes_passes (ts : List Token) :
    Passes ts (parsePipes below inGroup ts).rest := by
  fun_induction parsePipes below inGroup ts with
  | case1 => exact .refl []
  | case2 t rest hpipe _ after => exact (Passes.skipFiller rest).cons (by rw [hpipe]; decide)
  | case3 t rest hpipe command hcommand more ih =>
    have hfed : Passes (Tokens.skipFiller rest) command.rest := by
      unfold parsePiped at hcommand
      split at hcommand
      · cases hcommand
      · exact (parseCommand_advances hbelow hcommand).passes
    exact (((Passes.skipFiller rest).trans hfed).trans ih).cons (by rw [hpipe]; decide)
  | case4 => exact .refl _

theorem parsePipeline_advances {ts : List Token} {r : Parsed Node}
    (h : parsePipeline below inGroup ts = some r) : Advances ts r.rest := by
  obtain ⟨first, hfirst, rfl⟩ := Option.map_eq_some_iff.1 h
  exact (parseCommand_advances hbelow hfirst).trans (parsePipes_passes hbelow first.rest)

theorem parseChainRest_passes (left : Node) (ts : List Token) :
    Passes ts (parseChainRest below inGroup left ts).rest := by
  have hop {t : Token} (h : t.kind = .andIf ∨ t.kind = .orIf) : t.kind ≠ .eof := by
    rcases h with h | h
    · rw [h]; decide
    · rw [h]; decide
  fun_induction parseChainRest below inGroup left ts with
  | case1 => exact .refl []
  | case2 left t rest hkind _ after => exact (Passes.skipFiller rest).cons (hop hkind)
  | case3 left t rest hkind right hright more ih =>
    have hside := (parsePipeline_advances hbelow hright).passes
    exact (((Passes.skipFiller rest).trans hside).trans ih).cons (hop hkind)
  | case4 => exact .refl _

theorem parseChain_advances {ts : List Token} {r : Parsed Node}
    (h : parseChain below inGroup ts = some r) : Advances ts r.rest := by
  obtain ⟨first, hfirst, rfl⟩ := Option.map_eq_some_iff.1 h
  exact (parsePipeline_advances hbelow hfirst).trans (parseChainRest_passes hbelow _ first.rest)

theorem parseItems_passes (ts : List Token) : Passes ts (parseItems below inGroup ts).rest := by
  have hitem {ts : List Token} {item : Parsed Node}
      (h : parseChain below inGroup (Tokens.skipFiller ts) = some item) : Passes ts item.rest :=
    (Passes.skipFiller ts).trans (parseChain_advances hbelow h).passes
  fun_induction parseItems below inGroup ts with
  | case1 ts => exact .skipFiller ts
  | case2 ts => exact .skipFiller ts
  | case3 ts start _ item h hk more ih
  | case4 ts start _ item h hk more ih
  | case5 ts start _ item h hk more ih =>
    exact ((hitem h).trans (.tail (by rw [hk]; decide))).trans ih
  | case6 ts start _ item h _ _ _ => exact hitem h

theorem Level.above_passing : (Level.above below).Passing :=
  fun _ ts => parseItems_passes hbelow ts

end Readers

theorem level_passing (n : Nat) : (level n).Passing :=
  level_induction (fun _ => Level.above_passing) n

/-- A list that is read in silence is read up to the end of the text. -/
theorem level_silent_rest {n : Nat} {ts : List Token} {e : Token} (hts : ∀ t ∈ ts, t.kind ≠ .eof)
    (he : e.kind = .eof) (hsilent : ((level n).list false (ts ++ [e])).notes = []) :
    ((level n).list false (ts ++ [e])).rest = [e] := by
  obtain ⟨passed, hcut, hpassed⟩ := level_passing n false (ts ++ [e])
  have hend := level_silent_end hsilent
  generalize ((level n).list false (ts ++ [e])).rest = rest at hcut hend
  have hdrop := congrArg (List.dropWhile (·.kind != .eof)) hcut
  rw [List.dropWhile_append_of_pos (by simpa using hts),
    List.dropWhile_append_of_pos (by simpa using hpassed),
    List.dropWhile_cons_of_neg (by simp [he])] at hdrop
  cases rest with
  | nil => cases hdrop
  | cons t rest => rw [hdrop, List.dropWhile_cons_of_neg (by simpa using hend)]

/-- There is a level below only above the limit, and it is the one for the next depth. -/
theorem mem_levelBelow {d : Nat} {l : Level} (h : l ∈ levelBelow d) :
    d < maxNesting ∧ l = levelAt (d + 1) := by
  by_cases hd : d < maxNesting
  · rw [levelBelow, if_pos hd] at h
    exact ⟨hd, (Option.some.inj h).symm⟩
  · rw [levelBelow, if_neg hd] at h
    cases h

theorem levelBelow_passing (d : Nat) : ∀ l ∈ levelBelow d, l.Passing := by
  intro l hl
  obtain ⟨-, rfl⟩ := mem_levelBelow hl
  exact level_passing _

/-! ## Commands and their absence -/

/-- Tokens that can begin a command. -/
def TokenKind.startsCommand (k : TokenKind) : Bool :=
  k == .leftParen || k.isWordLike || k.isRedirect

theorem TokenKind.not_end_of_startsCommand {k : TokenKind} (h : k.startsCommand = true)
    (inGroup : Bool) : k.isFiller = false ∧ ¬endsList inGroup k = true := by
  cases k with
  | newline | unknown | eof | rightParen => cases h
  | _ => exact ⟨rfl, Bool.false_ne_true⟩

theorem parseCommand_eq_none_iff {below : Option Level} {ts : List Token} :
    parseCommand below ts = none ↔ (Tokens.kind ts).startsCommand = false := by
  cases ts with
  | nil => exact ⟨fun _ => rfl, fun _ => rfl⟩
  | cons t rest =>
    have hkind : Tokens.kind (t :: rest) = t.kind := rfl
    rw [hkind, TokenKind.startsCommand, parseCommand]
    by_cases hparen : t.kind = .leftParen
    · simp [hparen]
    · by_cases hpart : (t.kind.isWordLike || t.kind.isRedirect) = true
      · rw [if_neg hparen, if_pos hpart, Bool.or_assoc, hpart, Bool.or_true]
        simp
      · rw [if_neg hparen, if_neg hpart, Bool.or_assoc, Bool.eq_false_iff.2 hpart]
        simpa using hparen

theorem parseChain_eq_none_iff {below : Option Level} {inGroup : Bool} {ts : List Token} :
    parseChain below inGroup ts = none ↔ (Tokens.kind ts).startsCommand = false :=
  Option.map_eq_none_iff.trans (Option.map_eq_none_iff.trans parseCommand_eq_none_iff)

/-- A reader that takes a token at least, or finds that the next one begins no command. -/
structure TakesOrRefuses (read : List Token → Option (Parsed Node)) : Prop where
  taken : ∀ ts r, read ts = some r → Advances ts r.rest
  refused : ∀ ts, read ts = none ↔ (Tokens.kind ts).startsCommand = false

section Refusal

variable {below : Option Level} (hbelow : ∀ l ∈ below, l.Passing) (inGroup : Bool)

include hbelow

theorem parseCommand_takesOrRefuses : TakesOrRefuses (parseCommand below) where
  taken _ _ h := parseCommand_advances hbelow h
  refused _ := parseCommand_eq_none_iff

theorem parsePipeline_takesOrRefuses : TakesOrRefuses (parsePipeline below inGroup) where
  taken _ _ h := parsePipeline_advances hbelow h
  refused _ := Option.map_eq_none_iff.trans parseCommand_eq_none_iff

theorem parseChain_takesOrRefuses : TakesOrRefuses (parseChain below inGroup) where
  taken _ _ h := parseChain_advances hbelow h
  refused _ := parseChain_eq_none_iff

end Refusal

/-- Where a reader refuses, the one that asked goes on from the same token. -/
structure GoesOn (below : Option Level) (inGroup : Bool) : Prop where
  list : ∀ ts, parseChain below inGroup (Tokens.skipFiller ts) = none →
    ((Level.above below).list inGroup ts).rest = Tokens.skipFiller ts
  pipe : ∀ t ts, t.kind = .pipe → parsePiped below inGroup (Tokens.skipFiller ts) = none →
    (parsePipes below inGroup (t :: ts)).rest = Tokens.skipFiller ts
  operator : ∀ left t ts, t.kind = .andIf ∨ t.kind = .orIf →
    parsePipeline below inGroup (Tokens.skipFiller ts) = none →
    (parseChainRest below inGroup left (t :: ts)).rest = Tokens.skipFiller ts

theorem goesOn (below : Option Level) (inGroup : Bool) : GoesOn below inGroup where
  list ts h := by
    show (parseItems below inGroup ts).rest = _
    by_cases hend : endsList inGroup (Tokens.kind (Tokens.skipFiller ts)) = true
    · rw [parseItems_stop hend]
    · rw [parseItems_none hend h]
  pipe t ts hpipe h := by rw [parsePipes_none hpipe h]
  operator left t ts hop h := by rw [parseChainRest_none left hop h]

/-! ## Calls one after the other -/

theorem Tokens.close_getLast? (ts : List Token) :
    ∃ e, (close ts).getLast? = some e ∧ e.kind = .eof := by
  unfold close
  split
  · exact ⟨Token.eof .start 0, rfl, rfl⟩
  · next t hlast =>
    split
    · next heof => exact ⟨t, hlast, heof⟩
    · exact ⟨Token.eof t.position t.stop, List.getLast?_concat, rfl⟩

namespace Parser

/-- One call reads on and adds to the complaints. -/
theorem list_passes (p : Parser) (inGroup : Bool) :
    Passes p.rest (p.list inGroup).2.rest ∧ p.notes <+: (p.list inGroup).2.notes :=
  ⟨level_passing _ inGroup p.rest, List.prefix_append _ _⟩

theorem lists_passes (p : Parser) (calls : List Bool) :
    ∀ q ∈ p :: (p.lists calls).map Prod.snd, Passes p.rest q.rest := by
  induction calls generalizing p with
  | nil => exact List.forall_mem_singleton.2 (.refl p.rest)
  | cons inGroup calls ih =>
    refine List.forall_mem_cons.2 ⟨.refl p.rest, fun q hq => ?_⟩
    exact (p.list_passes inGroup).1.trans (ih (p.list inGroup).2 q hq)

theorem lists_chain (p : Parser) (calls : List Bool) :
    (p :: (p.lists calls).map Prod.snd).IsChain
      (fun p q => Passes p.rest q.rest ∧ p.notes <+: q.notes) := by
  induction calls generalizing p with
  | nil => exact .singleton p
  | cons inGroup calls ih => exact .cons_cons (p.list_passes inGroup) (ih (p.list inGroup).2)

theorem lists_length (p : Parser) (calls : List Bool) :
    (p.lists calls).length = calls.length := by
  induction calls generalizing p with
  | nil => rfl
  | cons inGroup calls ih => exact congrArg (· + 1) (ih (p.list inGroup).2)

/-- A parser of any tokens answers every call, and from call to call it only reads on and only adds
complaints; the end of the text stays ahead of it.  Its readers take a token whenever they give a
command, and where they give none nothing is taken. -/
theorem lists_progress (tokens : List Token) (d : Nat) (calls : List Bool) :
    let start := ofTokens tokens d
    let states := start :: (start.lists calls).map Prod.snd
    (start.lists calls).length = calls.length ∧
      states.IsChain (fun p q => Passes p.rest q.rest ∧ p.notes <+: q.notes) ∧
      (∀ p ∈ states, p.rest <:+ Tokens.close tokens ∧
        ∃ e, p.rest.getLast? = some e ∧ e.kind = .eof) ∧
      ∀ depth inGroup, levelAt depth = .above (levelBelow depth) ∧
        TakesOrRefuses (parseCommand (levelBelow depth)) ∧
        TakesOrRefuses (parsePipeline (levelBelow depth) inGroup) ∧
        TakesOrRefuses (parseChain (levelBelow depth) inGroup) ∧
        GoesOn (levelBelow depth) inGroup := by
  intro start states
  obtain ⟨e, hlast, heof⟩ := Tokens.close_getLast? tokens
  refine ⟨start.lists_length calls, start.lists_chain calls, fun p hp => ?_, fun depth inGroup => ?_⟩
  · have hpassed : Passes (Tokens.close tokens) p.rest := start.lists_passes calls p hp
    exact ⟨hpassed.suffix, e, hpassed.getLast? hlast heof, heof⟩
  · have hbelow := levelBelow_passing depth
    exact ⟨levelAt_eq_above depth, parseCommand_takesOrRefuses hbelow,
      parsePipeline_takesOrRefuses hbelow inGroup, parseChain_takesOrRefuses hbelow inGroup,
      goesOn (levelBelow depth) inGroup⟩

end Parser

end ShellGuard
