import Mathlib
import ShellGuard.Proofs.Syntax.RoundTrip

/-!
# Steps of the readers

The readers that loop carry the proof that they end inside their matches.  Here each of their
branches is an equation whose hypotheses say when it is taken, so that no later proof opens a
reader.
-/

namespace ShellGuard

/-! ## Tokens -/

namespace Cursor

theorem tokens_of_error {cur cur' : Cursor} {e : LexError} (h : cur.next = (.error e, cur')) :
    cur.tokens = .error e := by
  rw [tokens]
  split
  · next hnext => rw [h] at hnext; cases hnext; rfl
  · next hnext => rw [h] at hnext; cases hnext

theorem tokens_of_token {cur cur' : Cursor} {t : Token} (h : cur.next = (.ok t, cur'))
    (ht : t.kind ≠ .eof) : cur.tokens = cur'.tokens.map (t :: ·) := by
  rw [tokens]
  split
  · next hnext => rw [h] at hnext; cases hnext
  · next hnext => rw [h] at hnext; cases hnext; rw [dif_neg ht]

theorem tokens_of_eof {cur cur' : Cursor} {t : Token} (h : cur.next = (.ok t, cur'))
    (ht : t.kind = .eof) : cur.tokens = .ok [t] := by
  rw [tokens]
  split
  · next hnext => rw [h] at hnext; cases hnext
  · next hnext => rw [h] at hnext; cases hnext; rw [dif_pos ht]

/-- What every token has that is read where `I` holds, and `I` then holds again, all tokens have. -/
theorem tokens_forall (I : Cursor → Prop) {R : Token → Prop}
    (hstep : ∀ cur cur' t, I cur → cur.next = (.ok t, cur') → R t ∧ I cur') {cur : Cursor}
    (hcur : I cur) {ts : List Token} (h : cur.tokens = .ok ts) : ∀ t ∈ ts, R t := by
  fun_induction tokens cur generalizing ts with
  | case1 => cases h
  | case2 cur t cur' hnext ht =>
    cases h
    exact List.forall_mem_singleton.2 (hstep cur cur' t hcur hnext).1
  | case3 cur t cur' hnext ht ih =>
    obtain ⟨htoken, hcur'⟩ := hstep cur cur' t hcur hnext
    cases hrest : cur'.tokens with
    | error e =>
      rw [hrest] at h
      cases h
    | ok us =>
      rw [hrest] at h
      cases h
      exact List.forall_mem_cons.2 ⟨htoken, ih hcur' hrest⟩

theorem next_of_tokens {cur : Cursor} {t : Token} {ts : List Token}
    (h : cur.tokens = .ok (t :: ts)) : cur.next.1 = .ok t := by
  rw [tokens] at h
  split at h
  · cases h
  · next u cur' hnext =>
    split at h
    · cases h
      rw [hnext]
    · cases hmore : cur'.tokens with
      | error e => rw [hmore] at h; cases h
      | ok us =>
        rw [hmore] at h
        cases h
        rw [hnext]

end Cursor

section Readers

variable (below : Option Level)

/-! ## Words -/

theorem substitution_ok (l : Level) {body : String} {inner : Position} {ts : List Token}
    (h : tokenizeAt inner body = .ok ts) (position : Position) (backtick : Bool) :
    substitution (some l) body inner position backtick =
      (.subshell position (l.list false ts).value true backtick, (l.list false ts).notes) := by
  simp only [substitution, h]

/-- A substitution is read in silence only where there is a level that reads its body so. -/
theorem substitution_silent {below : Option Level} {body : String} {inner position : Position}
    {backtick : Bool} (h : (substitution below body inner position backtick).2 = []) :
    ∃ l ts, below = some l ∧ tokenizeAt inner body = .ok ts ∧ (l.list false ts).notes = [] := by
  cases below with
  | none => cases h
  | some l =>
    cases hts : tokenizeAt inner body with
    | error e => simp [substitution, hts] at h
    | ok ts =>
      rw [substitution_ok l hts] at h
      exact ⟨l, ts, rfl, rfl, h⟩

theorem expansions_nil (p : Position) : expansions below p [] = ([], []) := by
  rw [expansions]

theorem expansions_lone_backslash (p : Position) : expansions below p ['\\'] = ([], []) := by
  rw [expansions.eq_def]
  rfl

theorem expansions_escape (p : Position) (d : Char) (after : List Char) :
    expansions below p ('\\' :: d :: after) = expansions below (p.after ['\\', d]) after := by
  rw [expansions.eq_def]
  rfl

theorem expansions_plain {p : Position} {c : Char} (hc : c ≠ '\\') (hd : ¬(c = '$' ∨ c = '`'))
    (rest : List Char) : expansions below p (c :: rest) = expansions below (p.advance c) rest := by
  rw [expansions.eq_def]
  simp only [if_neg hc, if_neg hd]

theorem expansions_unclosed {p : Position} {c : Char} {rest : List Char} {e : Unclosed}
    (hd : c = '$' ∨ c = '`') (h : Lexeme.scan c rest = .error e) :
    expansions below p (c :: rest) = expansions below (p.advance c) rest := by
  have hc : c ≠ '\\' := by rcases hd with rfl | rfl <;> decide
  rw [expansions.eq_def]
  simp only [if_neg hc, if_pos hd]
  split
  · rfl
  · next hok => rw [h] at hok; cases hok

theorem expansions_expansion {p : Position} {c : Char} {rest : List Char} {lx : Lexeme}
    (hd : c = '$' ∨ c = '`') (h : Lexeme.scan c rest = .ok lx) :
    expansions below p (c :: rest) =
      let part := (lx.token p).partWith below
        (if lx.kind = .quoted .double then expansions below (p.shift 1) lx.value else ([], []))
      let after := expansions below (p.after lx.text) lx.rest
      (part.node.toList ++ after.1, part.notes ++ after.2) := by
  have hc : c ≠ '\\' := by rcases hd with rfl | rfl <;> decide
  rw [expansions.eq_def]
  simp only [if_neg hc, if_pos hd]
  split
  · next herror => rw [h] at herror; cases herror
  · next hok =>
    rw [h] at hok
    cases hok
    rfl

/-! ## Simple commands -/

theorem TokenKind.isRedirect_of_isWordLike {k : TokenKind} (h : k.isWordLike = true) :
    k.isRedirect = false := by
  revert h
  cases k <;> simp [isWordLike, isRedirect]

namespace Draft

variable {t : Token} {rest : List Token} (d : Draft)

theorem read_part (h : t.kind.isWordLike = true) :
    read below d (t :: rest) =
      let more := read below (d.addPart t (t.part below)) rest
      ⟨more.value, (t.part below).notes ++ more.notes, more.rest⟩ := by
  rw [read, if_pos h]

theorem read_redirect (h : t.kind.isRedirect = true) :
    read below d (t :: rest) =
      let r := Redirect.parse below t rest
      let more := read below (d.addRedirect t.position r.value) r.rest
      ⟨more.value, r.notes ++ more.notes, more.rest⟩ := by
  have hword : ¬t.kind.isWordLike = true := fun hword =>
    Bool.false_ne_true ((TokenKind.isRedirect_of_isWordLike hword).symm.trans h)
  rw [read, if_neg hword, if_pos h]

theorem read_parens (h : t.kind = .leftParen) (hone : d.hasOneWord = true) :
    read below d (t :: rest) = read below d.addParens (dropClosing rest) := by
  rw [read]
  simp [h, hone, TokenKind.isWordLike, TokenKind.isRedirect]

theorem read_unknown (h : t.kind = .unknown) :
    read below d (t :: rest) = read below { d with lastStop := none } rest := by
  rw [read]
  simp [h, TokenKind.isWordLike, TokenKind.isRedirect]

theorem read_stop (hword : ¬t.kind.isWordLike = true) (hredirect : ¬t.kind.isRedirect = true)
    (hparens : ¬(t.kind = .leftParen ∧ d.hasOneWord = true)) (hunknown : ¬t.kind = .unknown) :
    read below d (t :: rest) = ⟨d, [], t :: rest⟩ := by
  rw [read, if_neg hword, if_neg hredirect, if_neg hparens, if_neg hunknown]

end Draft

/-! ## Commands, pipelines, chains and lists -/

theorem parseCommand_word {t : Token} (h : t.kind.isWordLike = true) (rest : List Token) :
    parseCommand below (t :: rest) =
      let draft := Draft.read below .empty (t :: rest)
      some ⟨draft.value.node t.position, draft.notes, draft.rest⟩ := by
  have hparen : t.kind ≠ .leftParen := by
    intro hparen
    rw [hparen] at h
    cases h
  simp only [parseCommand, if_neg hparen, h, Bool.true_or, if_true]

variable {below} {inGroup : Bool}

theorem parsePipes_of_ne {t : Token} (h : t.kind ≠ .pipe) (rest : List Token) :
    parsePipes below inGroup (t :: rest) = ⟨([], false), [], t :: rest⟩ := by
  rw [parsePipes, if_neg h]

theorem parsePipes_none {t : Token} {rest : List Token} (hpipe : t.kind = .pipe)
    (h : parsePiped below inGroup (Tokens.skipFiller rest) = none) :
    parsePipes below inGroup (t :: rest) =
      ⟨([], true), [complaint "Unexpected end of command after pipe"
        (Tokens.position (Tokens.skipFiller rest))], Tokens.skipFiller rest⟩ := by
  rw [parsePipes, if_pos hpipe]
  split
  · rfl
  · next hsome => rw [h] at hsome; cases hsome

theorem parseChainRest_of_ne {t : Token} (h : ¬(t.kind = .andIf ∨ t.kind = .orIf)) (left : Node)
    (rest : List Token) :
    parseChainRest below inGroup left (t :: rest) = ⟨left, [], t :: rest⟩ := by
  rw [parseChainRest, if_neg h]

theorem parseChainRest_none (left : Node) {t : Token} {rest : List Token}
    (hop : t.kind = .andIf ∨ t.kind = .orIf)
    (h : parsePipeline below inGroup (Tokens.skipFiller rest) = none) :
    parseChainRest below inGroup left (t :: rest) =
      ⟨left, [complaint ("Unexpected end of command after " ++ t.value)
        (Tokens.position (Tokens.skipFiller rest))], Tokens.skipFiller rest⟩ := by
  rw [parseChainRest, if_pos hop]
  split
  · rfl
  · next hsome => rw [h] at hsome; cases hsome

theorem parseItems_stop {ts : List Token}
    (h : endsList inGroup (Tokens.kind (Tokens.skipFiller ts)) = true) :
    parseItems below inGroup ts = ⟨([], []), [], Tokens.skipFiller ts⟩ := by
  rw [parseItems]
  exact if_pos h

theorem parseItems_none {ts : List Token}
    (hend : ¬endsList inGroup (Tokens.kind (Tokens.skipFiller ts)) = true)
    (h : parseChain below inGroup (Tokens.skipFiller ts) = none) :
    parseItems below inGroup ts =
      ⟨([], []), [unexpected (Tokens.skipFiller ts)], Tokens.skipFiller ts⟩ := by
  rw [parseItems]
  simp only [if_neg hend]
  split
  · rfl
  · next hsome => rw [h] at hsome; cases hsome

section Item

variable {ts : List Token} {item : Parsed Node}
  (hend : ¬endsList inGroup (Tokens.kind (Tokens.skipFiller ts)) = true)
  (h : parseChain below inGroup (Tokens.skipFiller ts) = some item)

include hend h

theorem parseItems_semicolon
    (hk : Tokens.kind item.rest = .semicolon ∨ Tokens.kind item.rest = .newline) :
    parseItems below inGroup ts =
      let more := parseItems below inGroup item.rest.tail
      ⟨(item.value :: more.value.1, .semicolon :: more.value.2), item.notes ++ more.notes,
        more.rest⟩ := by
  rw [parseItems]
  simp only [if_neg hend]
  split
  · next hnone => rw [h] at hnone; cases hnone
  · next other hother =>
    rw [h] at hother
    cases hother
    rcases hk with hk | hk <;> simp only [hk]

theorem parseItems_ampersand (hk : Tokens.kind item.rest = .ampersand) :
    parseItems below inGroup ts =
      let more := parseItems below inGroup item.rest.tail
      ⟨(.background item.value.position item.value :: more.value.1, .ampersand :: more.value.2),
        item.notes ++ more.notes, more.rest⟩ := by
  rw [parseItems]
  simp only [if_neg hend]
  split
  · next hnone => rw [h] at hnone; cases hnone
  · next other hother =>
    rw [h] at hother
    cases hother
    simp only [hk]

theorem parseItems_final (hsemicolon : Tokens.kind item.rest ≠ .semicolon)
    (hnewline : Tokens.kind item.rest ≠ .newline)
    (hampersand : Tokens.kind item.rest ≠ .ampersand) :
    parseItems below inGroup ts =
      ⟨([item.value], []),
        item.notes ++
          if endsList inGroup (Tokens.kind item.rest) then [] else [unexpected item.rest],
        item.rest⟩ := by
  rw [parseItems]
  simp only [if_neg hend]
  split
  · next hnone => rw [h] at hnone; cases hnone
  · next other hother =>
    rw [h] at hother
    cases hother
    split
    · next hk => exact absurd hk hsemicolon
    · next hk => exact absurd hk hnewline
    · next hk => exact absurd hk hampersand
    · rfl

end Item

/-- Where there is nothing to complain about, a list is read up to its end. -/
theorem parseItems_silent {ts : List Token} (h : (parseItems below inGroup ts).notes = []) :
    endsList inGroup (Tokens.kind (parseItems below inGroup ts).rest) = true := by
  fun_induction parseItems below inGroup ts with
  | case1 ts start hend => exact hend
  | case2 => cases h
  | case3 ts start hend item hsome hk more ih
  | case4 ts start hend item hsome hk more ih
  | case5 ts start hend item hsome hk more ih => exact ih (List.append_eq_nil_iff.1 h).2
  | case6 ts start hend item hsome _ _ _ =>
    have hlast := (List.append_eq_nil_iff.1 h).2
    by_contra hgoes
    rw [if_neg hgoes] at hlast
    cases hlast

end Readers

/-! ## Whole commands -/

/-- What passes from the level below to the level above holds of every level. -/
theorem level_induction {P : Level → Prop}
    (step : ∀ below : Option Level, (∀ l ∈ below, P l) → P (.above below)) (n : Nat) :
    P (level n) := by
  induction n with
  | zero => exact step none (by simp)
  | succ n ih =>
    refine step (some (level n)) fun l hl => ?_
    rw [← Option.some.inj hl]
    exact ih

theorem eq_eof_of_endsList {k : TokenKind} (h : endsList false k = true) : k = .eof := by
  cases k with
  | eof => rfl
  | _ => cases h

theorem level_silent_end {n : Nat} {ts : List Token} (h : ((level n).list false ts).notes = []) :
    Tokens.kind ((level n).list false ts).rest = .eof := by
  cases n with
  | zero => exact eq_eof_of_endsList (parseItems_silent h)
  | succ n => exact eq_eof_of_endsList (parseItems_silent h)

theorem parse_of_tokens {s : String} {ts : List Token} (h : tokenize s = .ok ts) :
    parse s =
      let parsed := (level maxNesting).list false ts
      match parsed.value with
      | some root => .ok ⟨root, parsed.notes⟩
      | none => .error (.noCommands parsed.notes) := by
  rw [parse, parseAt, ← tokenize, h]
  rfl

theorem tokens_of_parse {s : String} {p : Parse} (h : parse s = .ok p) :
    ∃ ts, tokenize s = .ok ts ∧ ((level maxNesting).list false ts).value = some p.root ∧
      ((level maxNesting).list false ts).notes = p.notes := by
  cases hts : tokenize s with
  | error e =>
    rw [parse, parseAt, ← tokenize, hts] at h
    cases h
  | ok ts =>
    rw [parse_of_tokens hts] at h
    dsimp only at h
    split at h
    · next root hroot =>
      cases h
      exact ⟨ts, rfl, hroot, rfl⟩
    · cases h

theorem exists_of_parse_any {s : String} {f : Parse → Bool}
    (h : (parse s).toOption.any f = true) : ∃ p, parse s = .ok p ∧ f p = true := by
  cases hp : parse s with
  | error e => rw [hp] at h; cases h
  | ok p =>
    rw [hp] at h
    exact ⟨p, rfl, h⟩

end ShellGuard
