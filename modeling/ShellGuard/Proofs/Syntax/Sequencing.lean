import Mathlib
import ShellGuard.Proofs.Syntax.Shape
import ShellGuard.Rule.Git

/-!
# One command after another

Two scripts with a line end between them are read as the items of the first followed by the items
of the second, if each is read in silence on its own.

The first script ends with the end of the text when it stands alone and with a line end when it does
not.  A line end is passed over where a reader waits for a command: after an operator, after a pipe,
at the start of an item, inside parentheses.  At all of these the end of the text would have been
complained about, so a reader that is silent either stops before the fork or at it, with the same
result on both sides (`Tokens.Forks`).
-/

namespace ShellGuard

/-! ## Where two texts part -/

namespace Tokens

/-- Two stretches of tokens that agree up to a place where one ends and the other has a line end
and goes on with `after`. -/
inductive Forks (after : List Token) : List Token → List Token → Prop
  | here {e n : Token} (he : e.kind = .eof) (hn : n.kind = .newline) :
    Forks after [e] (n :: after)
  | token {t : Token} {xs ys : List Token} (ht : t.kind ≠ .eof) (h : Forks after xs ys) :
    Forks after (t :: xs) (t :: ys)

variable {after xs ys : List Token}

theorem forks_append {ts : List Token} {e n : Token} (h : ∀ t ∈ ts, t.kind ≠ .eof)
    (he : e.kind = .eof) (hn : n.kind = .newline) :
    Forks after (ts ++ [e]) (ts ++ n :: after) := by
  induction ts with
  | nil => exact .here he hn
  | cons t ts ih =>
    obtain ⟨ht, hts⟩ := List.forall_mem_cons.1 h
    exact .token ht (ih hts)

namespace Forks

/-- Before the fork the same token comes next. -/
theorem current_eq (h : Forks after xs ys) (hne : kind xs ≠ .eof) : current ys = current xs := by
  cases h with
  | here he hn => exact absurd he hne
  | token => rfl

theorem kind_eq (h : Forks after xs ys) (hne : kind xs ≠ .eof) : kind ys = kind xs :=
  congrArg Token.kind (h.current_eq hne)

theorem tail (h : Forks after xs ys) (hne : kind xs ≠ .eof) : Forks after xs.tail ys.tail := by
  cases h with
  | here he hn => exact absurd he hne
  | token ht h => exact h

theorem at_end (h : Forks after xs ys) (hend : kind xs = .eof) :
    ∃ n : Token, n.kind = .newline ∧ ys = n :: after := by
  cases h with
  | here he hn => exact ⟨_, hn, rfl⟩
  | token ht h => exact absurd hend ht

theorem skipFiller (h : Forks after xs ys) (hne : kind (skipFiller xs) ≠ .eof) :
    Forks after (skipFiller xs) (skipFiller ys) := by
  induction h with
  | here he hn =>
    rw [skipFiller_eq (by simp [he, TokenKind.isFiller])] at hne
    exact absurd he hne
  | @token t xs ys ht h ih =>
    by_cases hfiller : t.kind.isFiller = true
    · rw [skipFiller_cons hfiller] at hne ⊢
      rw [skipFiller_cons hfiller]
      exact ih hne
    · rw [skipFiller_eq (by simpa using hfiller), skipFiller_eq (by simpa using hfiller)]
      exact .token ht h

/-- Where nothing but fillers is left, the other side comes to what follows the line end. -/
theorem skipFiller_end (h : Forks after xs ys) (hend : kind (Tokens.skipFiller xs) = .eof) :
    Tokens.skipFiller ys = Tokens.skipFiller after := by
  induction h with
  | here he hn => exact skipFiller_cons (by simp [hn, TokenKind.isFiller])
  | @token t xs ys ht h ih =>
    by_cases hfiller : t.kind.isFiller = true
    · rw [skipFiller_cons hfiller] at hend ⊢
      exact ih hend
    · rw [skipFiller_eq (by simpa using hfiller)] at hend
      exact absurd hend ht

end Forks

end Tokens

/-- Results with the same value and complaints that leave tokens up to the same fork. -/
structure Parsed.Forks {α : Type} (after : List Token) (r r' : Parsed α) : Prop where
  value : r'.value = r.value
  notes : r'.notes = r.notes
  rest : Tokens.Forks after r.rest r'.rest

/-- A level that closes its groups before the fork. -/
def Level.Forks (after : List Token) (l : Level) : Prop :=
  ∀ xs ys, Tokens.Forks after xs ys → (l.list true xs).notes = [] →
    Tokens.kind (l.list true xs).rest = .rightParen →
    (l.list true xs).Forks after (l.list true ys)

/-- What reading a list gives on the two sides of a fork.  It ends before the fork and gives the
same on both, or it ends at the fork and the other side goes on with the items of `more`. -/
inductive ListForks (after : List Token) (more r r' : Parsed (List Node × List Separator)) : Prop
  | closed (hne : Tokens.kind r.rest ≠ .eof) (h : r.Forks after r')
  | goesOn (hend : Tokens.kind r.rest = .eof) (hitems : r'.value.1 = r.value.1 ++ more.value.1)
    (hnotes : r'.notes = more.notes)

theorem ListForks.cons {after : List Token} {more r r' : Parsed (List Node × List Separator)}
    {notes : List Finding} (h : ListForks after more r r') (hnotes : notes = []) (i : Node)
    (s : Separator) :
    ListForks after more ⟨(i :: r.value.1, s :: r.value.2), notes ++ r.notes, r.rest⟩
      ⟨(i :: r'.value.1, s :: r'.value.2), notes ++ r'.notes, r'.rest⟩ := by
  subst hnotes
  cases h with
  | closed hne h => exact .closed hne ⟨by simp only [h.value], h.notes, h.rest⟩
  | goesOn hend hitems hmore => exact .goesOn hend (congrArg (i :: ·) hitems) hmore

section Readers

variable {after xs ys : List Token}

/-! ## Simple commands -/

theorem targetSpan_forks (h : Tokens.Forks after xs ys) (last : Option Nat) :
    (Redirect.targetSpan last ys).1 = (Redirect.targetSpan last xs).1 ∧
      Tokens.Forks after (Redirect.targetSpan last xs).2 (Redirect.targetSpan last ys).2 := by
  induction h generalizing last with
  | here he hn => simpa [Redirect.targetSpan, he, hn, TokenKind.isWordLike] using .here he hn
  | @token t xs ys ht h ih =>
    simp only [Redirect.targetSpan]
    split
    · obtain ⟨hspan, hrest⟩ := ih (some t.stop)
      exact ⟨congrArg (t :: ·) hspan, hrest⟩
    · exact ⟨rfl, .token ht h⟩

theorem redirect_forks (below : Option Level) (op : Token) (h : Tokens.Forks after xs ys) :
    (Redirect.parse below op xs).Forks after (Redirect.parse below op ys) := by
  obtain ⟨hspan, hrest⟩ := targetSpan_forks h none
  unfold Redirect.parse
  dsimp only
  split
  · exact ⟨by simp only [Redirect.readTarget, hspan], by simp only [Redirect.readTarget, hspan],
      hrest⟩
  · exact ⟨rfl, rfl, h⟩

theorem dropClosing_forks (h : Tokens.Forks after xs ys) :
    Tokens.Forks after (Draft.dropClosing xs) (Draft.dropClosing ys) := by
  cases h with
  | here he hn => simpa [Draft.dropClosing, he, hn] using .here he hn
  | token ht h =>
    simp only [Draft.dropClosing]
    split
    · exact h
    · exact .token ht h

theorem draft_forks (below : Option Level) (d : Draft) (h : Tokens.Forks after xs ys) :
    (Draft.read below d xs).Forks after (Draft.read below d ys) := by
  revert ys
  fun_induction Draft.read below d xs with
  | case1 =>
    intro ys h
    cases h
  | case2 d t rest hword part more =>
    rename_i ih
    intro ys h
    cases h with
    | here he hn => simp [he, TokenKind.isWordLike] at hword
    | token ht h =>
      obtain ⟨hvalue, hnotes, hrest⟩ := ih h
      rw [Draft.read_part below d hword]
      exact ⟨hvalue, congrArg (part.notes ++ ·) hnotes, hrest⟩
  | case3 d t rest hword hredirect r more =>
    rename_i ih
    intro ys h
    cases h with
    | here he hn => simp [he, TokenKind.isRedirect] at hredirect
    | token ht h =>
      obtain ⟨htarget, htargetNotes, htargetRest⟩ := redirect_forks below t h
      obtain ⟨hvalue, hnotes, hrest⟩ := ih htargetRest
      rw [Draft.read_redirect below d hredirect]
      simp only [htarget, htargetNotes]
      exact ⟨hvalue, congrArg (r.notes ++ ·) hnotes, hrest⟩
  | case4 d t rest hword hredirect hparens ih =>
    intro ys h
    cases h with
    | here he hn => simp [he] at hparens
    | token ht h =>
      rw [Draft.read_parens below d hparens.1 hparens.2]
      exact ih (dropClosing_forks h)
  | case5 d t rest hword hredirect hparens hunknown ih =>
    intro ys h
    cases h with
    | here he hn => simp [he] at hunknown
    | token ht h =>
      rw [Draft.read_unknown below d hunknown]
      exact ih h
  | case6 d t rest hword hredirect hparens hunknown =>
    intro ys h
    cases h with
    | here he hn =>
      rw [Draft.read_stop below d (by simp [hn, TokenKind.isWordLike])
        (by simp [hn, TokenKind.isRedirect]) (by simp [hn]) (by simp [hn])]
      exact ⟨rfl, rfl, .here he hn⟩
    | token ht h =>
      rw [Draft.read_stop below d hword hredirect hparens hunknown]
      exact ⟨rfl, rfl, .token ht h⟩

/-! ## Commands, pipelines and chains -/

variable {below : Option Level}

theorem parseCommand_kind_ne {ts : List Token} {r : Parsed Node}
    (h : parseCommand below ts = some r) : Tokens.kind ts ≠ .eof := by
  cases ts with
  | nil => cases h
  | cons t ts =>
    intro heof
    have hkind : t.kind = .eof := heof
    simp [parseCommand, hkind, TokenKind.isWordLike, TokenKind.isRedirect] at h

variable (hb : ∀ l ∈ below, l.Forks after)

include hb

theorem group_forks (p : Position) (h : Tokens.Forks after xs ys)
    (hsilent : (Group.read below p xs).notes = []) :
    (Group.read below p xs).Forks after (Group.read below p ys) := by
  cases below with
  | none => cases hsilent
  | some l =>
    simp only [Group.read] at hsilent ⊢
    by_cases hclosed : Tokens.kind (l.list true xs).rest = .rightParen
    · rw [if_pos hclosed] at hsilent
      obtain ⟨hvalue, hnotes, hrest⟩ := hb l rfl xs ys h hsilent hclosed
      have hne : Tokens.kind (l.list true xs).rest ≠ .eof := by simp [hclosed]
      rw [if_pos hclosed, if_pos ((hrest.kind_eq hne).trans hclosed)]
      exact ⟨by rw [hvalue], hnotes, hrest.tail hne⟩
    · rw [if_neg hclosed] at hsilent
      simp at hsilent

theorem parseCommand_forks {r : Parsed Node} (h : Tokens.Forks after xs ys)
    (hr : parseCommand below xs = some r) (hsilent : r.notes = []) :
    ∃ r', parseCommand below ys = some r' ∧ r.Forks after r' := by
  cases h with
  | here he hn => simp [parseCommand, he, TokenKind.isWordLike, TokenKind.isRedirect] at hr
  | @token t xs ys ht h =>
    simp only [parseCommand] at hr ⊢
    split at hr
    · next hparen =>
      cases hr
      rw [if_pos hparen]
      exact ⟨_, rfl, group_forks hb t.position h hsilent⟩
    · next hparen =>
      rw [if_neg hparen]
      split at hr
      · next hpart =>
        cases hr
        rw [if_pos hpart]
        obtain ⟨hvalue, hnotes, hrest⟩ := draft_forks below .empty (.token ht h)
        exact ⟨_, rfl, by rw [hvalue], hnotes, hrest⟩
      · cases hr

theorem parsePiped_forks {inGroup : Bool} {r : Parsed Node} (h : Tokens.Forks after xs ys)
    (hr : parsePiped below inGroup (Tokens.skipFiller xs) = some r) (hsilent : r.notes = []) :
    ∃ r', parsePiped below inGroup (Tokens.skipFiller ys) = some r' ∧ r.Forks after r' := by
  unfold parsePiped at hr ⊢
  split at hr
  · cases hr
  · next hgoes =>
    -- at the end of the text there would be no command to feed
    have hne : Tokens.kind (Tokens.skipFiller xs) ≠ .eof := by
      intro hend
      simp [hend, endsPipeline] at hgoes
    have hfed := h.skipFiller hne
    rw [hfed.kind_eq hne, if_neg hgoes]
    exact parseCommand_forks hb hfed hr hsilent

theorem parsePipes_forks {inGroup : Bool} (h : Tokens.Forks after xs ys)
    (hsilent : (parsePipes below inGroup xs).notes = []) :
    (parsePipes below inGroup xs).Forks after (parsePipes below inGroup ys) := by
  revert ys
  fun_induction parsePipes below inGroup xs with
  | case1 =>
    intro ys h
    cases h
  | case2 => cases hsilent
  | case3 t rest hpipe command hcommand more ih =>
    intro ys h
    cases h with
    | here he hn => simp [he] at hpipe
    | token ht h =>
      obtain ⟨hfirst, hmore⟩ := List.append_eq_nil_iff.1 hsilent
      obtain ⟨command', hcommand', hvalue, hnotes, hrest⟩ := parsePiped_forks hb h hcommand hfirst
      obtain ⟨hmoreValue, hmoreNotes, hmoreRest⟩ := ih hmore hrest
      rw [parsePipes_pipe hpipe hcommand']
      exact ⟨by simp only [hvalue, hmoreValue, more], by simp only [hnotes, hmoreNotes, more],
        hmoreRest⟩
  | case4 t rest hpipe =>
    intro ys h
    cases h with
    | here he hn =>
      rw [parsePipes_of_ne (by simp [hn])]
      exact ⟨rfl, rfl, .here he hn⟩
    | token ht h =>
      rw [parsePipes_of_ne hpipe]
      exact ⟨rfl, rfl, .token ht h⟩

theorem parsePipeline_forks {inGroup : Bool} {r : Parsed Node} (h : Tokens.Forks after xs ys)
    (hr : parsePipeline below inGroup xs = some r) (hsilent : r.notes = []) :
    ∃ r', parsePipeline below inGroup ys = some r' ∧ r.Forks after r' := by
  obtain ⟨first, hfirst, rfl⟩ := Option.map_eq_some_iff.1 hr
  obtain ⟨hfirstSilent, hmoreSilent⟩ := List.append_eq_nil_iff.1 hsilent
  obtain ⟨first', hfirst', hvalue, hnotes, hrest⟩ := parseCommand_forks hb h hfirst hfirstSilent
  obtain ⟨hmoreValue, hmoreNotes, hmoreRest⟩ := parsePipes_forks hb hrest hmoreSilent
  have hposition : Tokens.position ys = Tokens.position xs :=
    congrArg Token.position (h.current_eq (parseCommand_kind_ne hfirst))
  refine ⟨_, Option.map_eq_some_iff.2 ⟨first', hfirst', rfl⟩, ?_, ?_, hmoreRest⟩
  · simp only [hvalue, hmoreValue, hposition]
  · simp only [hnotes, hmoreNotes]

theorem parseChainRest_forks {inGroup : Bool} {left : Node} (h : Tokens.Forks after xs ys)
    (hsilent : (parseChainRest below inGroup left xs).notes = []) :
    (parseChainRest below inGroup left xs).Forks after (parseChainRest below inGroup left ys) := by
  revert ys
  fun_induction parseChainRest below inGroup left xs with
  | case1 =>
    intro ys h
    cases h
  | case2 => cases hsilent
  | case3 left t rest hop right hright more ih =>
    intro ys h
    cases h with
    | here he hn => simp [he] at hop
    | token ht h =>
      obtain ⟨first, hfirst, -⟩ := Option.map_eq_some_iff.1 hright
      obtain ⟨hrightSilent, hmore⟩ := List.append_eq_nil_iff.1 hsilent
      obtain ⟨right', hright', hvalue, hnotes, hrest⟩ := parsePipeline_forks hb
        (h.skipFiller (parseCommand_kind_ne hfirst)) hright hrightSilent
      obtain ⟨hmoreValue, hmoreNotes, hmoreRest⟩ := ih hmore hrest
      rw [parseChainRest_operator left hop hright']
      simp only [hvalue, hnotes]
      exact ⟨hmoreValue, congrArg (right.notes ++ ·) hmoreNotes, hmoreRest⟩
  | case4 left t rest hop =>
    intro ys h
    cases h with
    | here he hn =>
      rw [parseChainRest_of_ne (by simp [hn])]
      exact ⟨rfl, rfl, .here he hn⟩
    | token ht h =>
      rw [parseChainRest_of_ne hop]
      exact ⟨rfl, rfl, .token ht h⟩

theorem parseChain_forks {inGroup : Bool} {r : Parsed Node} (h : Tokens.Forks after xs ys)
    (hr : parseChain below inGroup xs = some r) (hsilent : r.notes = []) :
    ∃ r', parseChain below inGroup ys = some r' ∧ r.Forks after r' := by
  obtain ⟨first, hfirst, rfl⟩ := Option.map_eq_some_iff.1 hr
  obtain ⟨hfirstSilent, hmoreSilent⟩ := List.append_eq_nil_iff.1 hsilent
  obtain ⟨first', hfirst', hvalue, hnotes, hrest⟩ := parsePipeline_forks hb h hfirst hfirstSilent
  obtain ⟨hmoreValue, hmoreNotes, hmoreRest⟩ := parseChainRest_forks hb hrest hmoreSilent
  refine ⟨_, Option.map_eq_some_iff.2 ⟨first', hfirst', rfl⟩, ?_⟩
  rw [hvalue]
  exact ⟨hmoreValue, congrArg₂ (· ++ ·) hnotes hmoreNotes, hmoreRest⟩

/-! ## Lists -/

omit hb in
theorem parseItems_congr {inGroup : Bool} (h : Tokens.skipFiller xs = Tokens.skipFiller ys) :
    parseItems below inGroup xs = parseItems below inGroup ys := by
  rw [parseItems, h]
  rw [parseItems]

/-- An item that starts before the fork is read alike on both sides. -/
theorem item_forks {inGroup : Bool} {item : Parsed Node} (h : Tokens.Forks after xs ys)
    (hend : ¬endsList inGroup (Tokens.kind (Tokens.skipFiller xs)) = true)
    (hitem : parseChain below inGroup (Tokens.skipFiller xs) = some item)
    (hsilent : item.notes = []) :
    ¬endsList inGroup (Tokens.kind (Tokens.skipFiller ys)) = true ∧
      ∃ item', parseChain below inGroup (Tokens.skipFiller ys) = some item' ∧
        item.Forks after item' := by
  have hne : Tokens.kind (Tokens.skipFiller xs) ≠ .eof := by
    intro heof
    simp [heof, endsList] at hend
  have hstart := h.skipFiller hne
  rw [hstart.kind_eq hne]
  exact ⟨hend, parseChain_forks hb hstart hitem hsilent⟩

theorem parseItems_forks {inGroup : Bool} (h : Tokens.Forks after xs ys)
    (hsilent : (parseItems below inGroup xs).notes = []) :
    ListForks after (parseItems below inGroup after) (parseItems below inGroup xs)
      (parseItems below inGroup ys) := by
  revert ys
  fun_induction parseItems below inGroup xs with
  | case1 xs start hend =>
    intro ys h
    by_cases hne : Tokens.kind start = .eof
    -- only fillers are left: the line end is one more
    · rw [parseItems_congr (h.skipFiller_end hne)]
      exact .goesOn hne rfl rfl
    · have hstart := h.skipFiller hne
      have hstop : endsList inGroup (Tokens.kind (Tokens.skipFiller ys)) = true := by
        rwa [hstart.kind_eq hne]
      rw [parseItems_stop hstop]
      exact .closed hne ⟨rfl, rfl, hstart⟩
  | case2 => cases hsilent
  | case3 xs start hend item hitem hk more
  | case4 xs start hend item hitem hk more =>
    rename_i ih
    intro ys h
    obtain ⟨hitemSilent, hmoreSilent⟩ := List.append_eq_nil_iff.1 hsilent
    obtain ⟨hend', item', hitem', hvalue, hnotes, hrest⟩ := item_forks hb h hend hitem hitemSilent
    have hne : Tokens.kind item.rest ≠ .eof := by simp [hk]
    rw [parseItems_semicolon hend' hitem' (by simp [hrest.kind_eq hne, hk]), hvalue, hnotes]
    exact (ih hmoreSilent (hrest.tail hne)).cons hitemSilent _ _
  | case5 xs start hend item hitem hk more =>
    rename_i ih
    intro ys h
    obtain ⟨hitemSilent, hmoreSilent⟩ := List.append_eq_nil_iff.1 hsilent
    obtain ⟨hend', item', hitem', hvalue, hnotes, hrest⟩ := item_forks hb h hend hitem hitemSilent
    have hne : Tokens.kind item.rest ≠ .eof := by simp [hk]
    rw [parseItems_ampersand hend' hitem' (by rw [hrest.kind_eq hne, hk]), hvalue, hnotes]
    exact (ih hmoreSilent (hrest.tail hne)).cons hitemSilent _ _
  | case6 xs start hend item hitem hsemicolon hnewline hampersand =>
    intro ys h
    obtain ⟨hitemSilent, hlast⟩ := List.append_eq_nil_iff.1 hsilent
    obtain ⟨hend', item', hitem', hvalue, hnotes, hrest⟩ := item_forks hb h hend hitem hitemSilent
    by_cases hne : Tokens.kind item.rest = .eof
    -- the last item before the fork: on the other side the line end is its separator
    · obtain ⟨n, hn, hnext⟩ := hrest.at_end hne
      rw [parseItems_semicolon hend' hitem' (.inr (by rw [hnext]; exact hn)), hvalue, hnotes,
        hnext, hitemSilent]
      exact .goesOn hne rfl rfl
    · have hkind := hrest.kind_eq hne
      have hends : endsList inGroup (Tokens.kind item.rest) = true := by
        by_contra hgoes
        rw [if_neg hgoes] at hlast
        cases hlast
      rw [parseItems_final hend' hitem' (by rwa [hkind]) (by rwa [hkind]) (by rwa [hkind]),
        hvalue, hnotes, hkind, if_pos hends, if_pos hends]
      exact .closed hne ⟨rfl, rfl, hrest⟩

/-- A script read in silence up to the end of the text is read up to the line end that stands in its
place, and what follows the line end is read as if it stood alone. -/
theorem parseItems_newline (h : Tokens.Forks after xs ys)
    (hsilent : (parseItems below false xs).notes = []) :
    (parseItems below false ys).value.1 =
        (parseItems below false xs).value.1 ++ (parseItems below false after).value.1 ∧
      (parseItems below false ys).notes = (parseItems below false after).notes := by
  cases parseItems_forks hb h hsilent with
  | closed hne h => exact absurd (eq_eof_of_endsList (parseItems_silent hsilent)) hne
  | goesOn hend hitems hnotes => exact ⟨hitems, hnotes⟩

theorem Level.above_forks : (Level.above below).Forks after := by
  intro xs ys h hsilent hclosed
  have hposition : Tokens.position ys = Tokens.position xs := by
    cases h with
    | @here e n he hn =>
      have hstop : parseItems below true [e] = ⟨([], []), [], [e]⟩ :=
        parseItems_end (by simp [he, endsList])
      have hrest : Tokens.kind (parseItems below true [e]).rest = .rightParen := hclosed
      rw [hstop, Tokens.kind_cons, he] at hrest
      cases hrest
    | token => rfl
  cases parseItems_forks hb h hsilent with
  | closed hne h =>
    exact ⟨by simp only [Level.above, parseList, h.value, hposition], h.notes, h.rest⟩
  | goesOn hend hitems hnotes => exact absurd (hend.symm.trans hclosed) (by simp)

end Readers

/-! ## Trees in sequence -/

namespace Node

/-- The items of a list; any other tree counts as one item. -/
def items : Node → List Node
  | list _ items _ => items
  | n => [n]

theorem items_eq_singleton {n : Node} (h : n.kind ≠ .list) : n.items = [n] := by
  cases n with
  | list => exact absurd rfl h
  | _ => rfl

theorem commands_items (n : Node) : n.items.flatMap commands = n.commands := by
  cases n with
  | list p is separators =>
    have hkind : (list p is separators).kind ≠ .command := by simp [kind]
    exact (commands_eq_flatMap hkind).symm
  | _ => exact List.flatMap_singleton _ _

theorem length_pos_of_listNode {start : Position} {items : List Node}
    {separators : List Separator} {n : Node} (h : listNode start items separators = some n) :
    0 < items.length := by
  cases items with
  | nil => cases h
  | cons i rest => simp

theorem Sequence.listNode_items {start : Position} {items : List Node}
    {separators : List Separator} {n : Node} (h : Sequence items separators)
    (hn : listNode start items separators = some n) : n.items = items := by
  cases items with
  | nil => cases hn
  | cons i rest =>
    cases rest with
    | nil =>
      cases hn
      exact items_eq_singleton (h.flat n (List.mem_singleton_self n))
    | cons j rest =>
      cases hn
      rfl

theorem Sequence.listNode_several {start : Position} {items : List Node}
    {separators : List Separator} (h : Sequence items separators) (hseveral : 2 ≤ items.length) :
    listNode start items separators =
      some (.list start items (items.dropLast.map separatorAfter)) := by
  rw [← h.take_eq]
  unfold listNode
  split
  · simp at hseveral
  · simp at hseveral
  · rfl

end Node

/-- Of a tree the rules about `git` see the commands, in their order. -/
theorem Git.check_append {root a b : Node} (h : root.commands = a.commands ++ b.commands)
    (branches : List String) (ctx : GitContext) (s t u : String) :
    check branches s (some root) ctx =
      check branches t (some a) ctx ++ check branches u (some b) ctx := by
  simp only [check, invocations, h, List.filter_append, List.filterMap_append,
    List.flatMap_append]

theorem Tokens.close_append {ts us : List Token} (h : us ≠ []) :
    close (ts ++ us) = ts ++ close us := by
  unfold close
  rw [List.getLast?_append_of_ne_nil ts h]
  obtain ⟨t, ht⟩ := Option.ne_none_iff_exists'.1 (mt List.getLast?_eq_none_iff.1 h)
  simp only [ht]
  split
  · rfl
  · rw [List.append_assoc]

theorem level_eq_above (after : List Token) (n : Nat) :
    ∃ below, (∀ l ∈ below, l.Forks after) ∧ level n = .above below := by
  refine level_induction (P := fun l => ∃ below, (∀ m ∈ below, m.Forks after) ∧ l = .above below)
    (fun below hbelow => ⟨below, fun l hl => ?_, rfl⟩) n
  obtain ⟨lower, hlower, rfl⟩ := hbelow l hl
  exact Level.above_forks hlower

/-- No tokens make no tree. -/
theorem Level.above_list_close {below : Option Level} {ts : List Token} {n : Node}
    (h : ((Level.above below).list false (Tokens.close ts)).value = some n) : ts ≠ [] := by
  rintro rfl
  have hstop : parseItems below false (Tokens.close []) = ⟨([], []), [], Tokens.close []⟩ :=
    parseItems_end rfl
  simp only [Level.above, parseList, hstop, listNode] at h
  cases h

theorem Level.above_list_newline {below : Option Level} {ts us : List Token} {n : Token}
    {a b : Node} (hbelow : ∀ l ∈ below, l.Forks (Tokens.close us))
    (hts : ∀ t ∈ ts, t.kind ≠ .eof) (hn : n.kind = .newline)
    (ha : ((Level.above below).list false (Tokens.close ts)).value = some a)
    (haSilent : ((Level.above below).list false (Tokens.close ts)).notes = [])
    (hb : ((Level.above below).list false (Tokens.close us)).value = some b) :
    let parsed := (Level.above below).list false (Tokens.close (ts ++ n :: us))
    parsed.value = some (.list (Tokens.position ts) (a.items ++ b.items)
      ((a.items ++ b.items).dropLast.map Node.separatorAfter)) ∧
    parsed.notes = ((Level.above below).list false (Tokens.close us)).notes := by
  have hclose : Tokens.close (ts ++ n :: us) = ts ++ n :: Tokens.close us := by
    rw [List.append_cons, Tokens.close_append (above_list_close hb), List.append_assoc]
    rfl
  have hposition : Tokens.position (ts ++ n :: Tokens.close us) = Tokens.position ts := by
    obtain ⟨t, front, rfl⟩ := List.exists_cons_of_ne_nil (above_list_close ha)
    rfl
  obtain ⟨e, he, hend⟩ := Tokens.close_eq hts
  rw [hend] at ha haSilent
  obtain ⟨hitems, hnotes⟩ := parseItems_newline hbelow (Tokens.forks_append hts he hn) haSilent
  have hseveral : 2 ≤ (parseItems below false (ts ++ n :: Tokens.close us)).value.1.length := by
    have hfirst := Node.length_pos_of_listNode ha
    have hsecond := Node.length_pos_of_listNode hb
    rw [hitems, List.length_append]
    omega
  rw [hclose]
  refine ⟨?_, hnotes⟩
  simp only [above, parseList]
  rw [parseItems_sequence.listNode_several hseveral, hitems, hposition,
    ← parseItems_sequence.listNode_items ha, ← parseItems_sequence.listNode_items hb]

/-- Two scripts that are read in silence make, with a line end between them, one list: the items of
the first and then those of the second, each with the separator that fits it.  So the commands of
the whole are those of the parts in order, and so is what the rules about `git` find. -/
theorem list_newline {depth : Nat} {ts us : List Token} {n : Token} {a b : Node}
    (hts : ∀ t ∈ ts, t.kind ≠ .eof) (hn : n.kind = .newline)
    (ha : ((levelAt depth).list false (Tokens.close ts)).value = some a)
    (haSilent : ((levelAt depth).list false (Tokens.close ts)).notes = [])
    (hb : ((levelAt depth).list false (Tokens.close us)).value = some b)
    (hbSilent : ((levelAt depth).list false (Tokens.close us)).notes = []) :
    let parsed := (levelAt depth).list false (Tokens.close (ts ++ n :: us))
    let items := a.items ++ b.items
    let root := Node.list (Tokens.position ts) items (items.dropLast.map Node.separatorAfter)
    parsed.value = some root ∧ parsed.notes = [] ∧
      root.commands = a.commands ++ b.commands ∧
      ∀ branches ctx s t u, Git.check branches s (some root) ctx =
        Git.check branches t (some a) ctx ++ Git.check branches u (some b) ctx := by
  intro parsed items root
  obtain ⟨below, hbelow, hlevel⟩ := level_eq_above (Tokens.close us) (maxNesting - depth)
  have hcommands : root.commands = a.commands ++ b.commands := by
    have hkind : root.kind ≠ .command := by simp [root, Node.kind]
    rw [Node.commands_eq_flatMap hkind, ← a.commands_items, ← b.commands_items]
    exact List.flatMap_append
  simp only [parsed, levelAt, hlevel] at ha haSilent hb hbSilent ⊢
  obtain ⟨hvalue, hnotes⟩ := Level.above_list_newline hbelow hts hn ha haSilent hb
  exact ⟨hvalue, hnotes.trans hbSilent, hcommands, Git.check_append hcommands⟩

/-- `git push -f &&`, a line end, `( a ; b ) &` and then, on a line of its own, `git reset ; c |`, a
line end, `d`. -/
theorem list_newline_background :
    let ts := spaced 0 [(.word, "git"), (.word, "push"), (.word, "-f"), (.andIf, "&&"),
      (.newline, "\n"), (.leftParen, "("), (.word, "a"), (.semicolon, ";"), (.word, "b"),
      (.rightParen, ")"), (.ampersand, "&")]
    let us := spaced 0 [(.word, "git"), (.word, "reset"), (.semicolon, ";"), (.word, "c"),
      (.pipe, "|"), (.newline, "\n"), (.word, "d")]
    let parsed := (levelAt 0).list false (Tokens.close (ts ++ ⟨.newline, "\n", .start, 0⟩ :: us))
    ∃ a b root,
      ((levelAt 0).list false (Tokens.close ts)).value = some a ∧
      ((levelAt 0).list false (Tokens.close us)).value = some b ∧
      parsed.value = some root ∧ parsed.notes = [] ∧
      root.items = a.items ++ b.items ∧ root.commands = a.commands ++ b.commands ∧
      ∀ branches ctx s t u, Git.check branches s (some root) ctx =
        Git.check branches t (some a) ctx ++ Git.check branches u (some b) ctx := by
  intro ts us parsed
  have haSome : ((levelAt 0).list false (Tokens.close ts)).value.isSome = true := by cbv
  have hbSome : ((levelAt 0).list false (Tokens.close us)).value.isSome = true := by cbv
  obtain ⟨a, ha⟩ := Option.isSome_iff_exists.1 haSome
  obtain ⟨b, hb⟩ := Option.isSome_iff_exists.1 hbSome
  have hts : ∀ t ∈ ts, t.kind ≠ .eof := by decide
  have hn : (⟨.newline, "\n", .start, 0⟩ : Token).kind = .newline := rfl
  obtain ⟨hvalue, hnotes, hcommands, hgit⟩ := list_newline hts hn ha (by cbv) hb (by cbv)
  exact ⟨a, b, _, ha, hb, hvalue, hnotes, rfl, hcommands, hgit⟩

end ShellGuard
