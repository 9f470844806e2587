import Mathlib
import ShellGuard.Proofs.Syntax.Extending

/-!
# Texts that are never closed

The one thing that keeps a text from being cut into tokens is a closer that never comes: that of a
quoted text or of a substitution.  Wherever the text breaks off inside of it, some characters more
close it, and they change nothing about the tokens in front of it.

A reader that looks for a closer is a machine, and what has to be shown of it is that from every
state it can reach some text leads to the closer: past a character that a backslash protects, out of
a quote and out of every parenthesis.
-/

namespace ShellGuard

open String (utf8Len)

namespace Lexeme

/-! ## Closing what is open -/

section Machine

variable {σ : Type} {step : σ → Char → Option σ}

/-- Some text leads a machine to a closer, and ends there. -/
def Closable (step : σ → Char → Option σ) (s : σ) : Prop :=
  ∃ closers taken, untilClosed step s closers = some (taken, [])

theorem Closable.now {s : σ} {c : Char} (h : step s c = none) : Closable step s :=
  ⟨[c], [], by rw [untilClosed, h]⟩

theorem Closable.onward {s s' : σ} {c : Char} (h : step s c = some s') (hs' : Closable step s') :
    Closable step s := by
  obtain ⟨closers, taken, hclosed⟩ := hs'
  refine ⟨c :: closers, c :: taken, ?_⟩
  rw [untilClosed, h]
  simp only [hclosed]
  rfl

/-- A machine that finds no closer has gone over the whole text. -/
theorem foldlM_of_untilClosed_eq_none {s : σ} {cs : List Char} (h : untilClosed step s cs = none) :
    ∃ s', cs.foldlM step s = some s' := by
  induction cs generalizing s with
  | nil => exact ⟨s, rfl⟩
  | cons c cs ih =>
    rw [untilClosed] at h
    cases hstep : step s c with
    | none =>
      rw [hstep] at h
      cases h
    | some t =>
      rw [hstep] at h
      obtain ⟨s', hfold⟩ := ih (Option.map_eq_none_iff.1 h)
      refine ⟨s', ?_⟩
      rw [List.foldlM_cons, hstep]
      exact hfold

/-- What is not closed can be closed if the state that is reached can. -/
theorem untilClosed_completes {s : σ} {cs : List Char} (h : untilClosed step s cs = none)
    (hclosable : ∀ s', cs.foldlM step s = some s' → Closable step s') :
    ∃ closers taken, untilClosed step s (cs ++ closers) = some (taken, []) := by
  obtain ⟨s', hfold⟩ := foldlM_of_untilClosed_eq_none h
  obtain ⟨closers, taken, hclosed⟩ := hclosable s' hfold
  refine ⟨closers, cs ++ taken, ?_⟩
  rw [untilClosed_of_foldlM hfold, hclosed]
  rfl

end Machine

theorem quoteStep_closable {close : Char} (hclose : close ≠ '\\') (escapes shielded : Bool) :
    Closable (quoteStep close escapes) shielded := by
  have hbare : Closable (quoteStep close escapes) false :=
    .now (c := close) (by simp [quoteStep, hclose])
  cases shielded with
  | false => exact hbare
  | true => exact hbare.onward (c := close) rfl

theorem quoted_completes {close : Char} (hclose : close ≠ '\\') {escapes : Bool} {body : List Char}
    (h : delimited close escapes body = none) (kind : TokenKind) (opener : List Char) :
    ∃ closers lx, quoted kind opener close escapes (body ++ closers) = .ok lx ∧ lx.rest = [] := by
  obtain ⟨closers, taken, hclosed⟩ :=
    untilClosed_completes h fun s' _ => quoteStep_closable hclose escapes s'
  refine ⟨closers, between kind opener close (taken, []), ?_, rfl⟩
  rw [quoted, delimited, hclosed]

/-- Only quotes that can be left again are entered inside a substitution. -/
def Nest.Proper (n : Nest) : Prop :=
  ∀ q ∈ n.quote, isQuote q = true

theorem Nest.step_quote {n n' : Nest} {c : Char} (h : n.step c = some n') :
    n'.quote = n.quote ∨ n'.quote = none ∨ (n'.quote = some c ∧ isQuote c = true) := by
  unfold Nest.step at h
  repeat' split at h
  all_goals cases h
  all_goals simp_all

theorem Nest.Proper.step {n n' : Nest} {c : Char} (h : n.Proper) (hstep : n.step c = some n') :
    n'.Proper := by
  intro q hq
  rcases Nest.step_quote hstep with hquote | hquote | ⟨hquote, hc⟩
  · exact h q (hquote ▸ hq)
  · rw [hquote] at hq
    cases hq
  · rw [hquote] at hq
    rwa [← Option.some.inj hq]

theorem Nest.Proper.run {n n' : Nest} {cs : List Char} (h : n.Proper)
    (hrun : cs.foldlM Nest.step n = some n') : n'.Proper := by
  induction cs generalizing n with
  | nil =>
    cases hrun
    exact h
  | cons c cs ih =>
    rw [List.foldlM_cons] at hrun
    obtain ⟨mid, hstep, hmore⟩ := Option.bind_eq_some_iff.1 hrun
    exact ih (h.step hstep) hmore

/-- Out of every parenthesis. -/
theorem Nest.closable_depth (depth : Nat) : Closable Nest.step ⟨depth, none, false⟩ := by
  induction depth with
  | zero => exact .now (c := ')') rfl
  | succ depth ih => exact ih.onward (c := ')') rfl

theorem Nest.closable_quote {depth : Nat} {quote : Option Char}
    (h : ∀ q ∈ quote, isQuote q = true) : Closable Nest.step ⟨depth, quote, false⟩ := by
  cases quote with
  | none => exact closable_depth depth
  | some q =>
    have hq : q ≠ '\\' := by
      rintro rfl
      cases h '\\' rfl
    exact (closable_depth depth).onward (c := q) (by simp [Nest.step, hq])

theorem Nest.closable {n : Nest} (h : n.Proper) : Closable Nest.step n := by
  obtain ⟨depth, quote, shielded⟩ := n
  cases shielded with
  | false => exact closable_quote h
  | true => exact (closable_quote h).onward (c := ')') rfl

theorem substitution_completes {body : List Char} (h : balanced body = none) :
    ∃ closers lx, substitution (body ++ closers) = .ok lx ∧ lx.rest = [] := by
  have hproper : Nest.Proper ⟨0, none, false⟩ := fun q hq => by cases hq
  obtain ⟨closers, taken, hclosed⟩ :=
    untilClosed_completes h fun s' hrun => Nest.closable (hproper.run hrun)
  refine ⟨closers, between .substitution ['$', '('] ')' (taken, []), ?_, rfl⟩
  rw [substitution, balanced, hclosed]

end Lexeme

/-! ## Why reading fails -/

open Lexeme in
/-- A closer that never comes, by what opens and what follows that. -/
inductive Unclosed.Opens : Unclosed → List Char → List Char → Prop
  | double {body : List Char} (h : delimited '"' true body = none) : Opens (.quote '"') ['"'] body
  | single {body : List Char} (h : delimited '\'' false body = none) :
    Opens (.quote '\'') ['\''] body
  | backtick {body : List Char} (h : delimited '`' true body = none) :
    Opens (.quote '`') ['`'] body
  | ansiC {body : List Char} (h : delimited '\'' true body = none) :
    Opens (.quote '\'') ['$', '\''] body
  | translated {body : List Char} (h : delimited '"' true body = none) :
    Opens (.quote '"') ['$', '"'] body
  | substitution {body : List Char} (h : balanced body = none) : Opens .substitution ['$', '('] body

namespace Lexeme

theorem quoted_error {kind : TokenKind} {opener : List Char} {close : Char} {escapes : Bool}
    {cs : List Char} {cause : Unclosed} (h : quoted kind opener close escapes cs = .error cause) :
    cause = .quote close ∧ delimited close escapes cs = none := by
  unfold quoted at h
  cases hsplit : delimited close escapes cs with
  | none =>
    rw [hsplit] at h
    exact ⟨(Except.error.inj h).symm, rfl⟩
  | some split =>
    rw [hsplit] at h
    cases h

theorem substitution_error {cs : List Char} {cause : Unclosed}
    (h : substitution cs = .error cause) : cause = .substitution ∧ balanced cs = none := by
  unfold substitution at h
  cases hsplit : balanced cs with
  | none =>
    rw [hsplit] at h
    exact ⟨(Except.error.inj h).symm, rfl⟩
  | some split =>
    rw [hsplit] at h
    cases h

theorem dollar_error {cs : List Char} {cause : Unclosed} (h : dollar cs = .error cause) :
    ∃ opener body, '$' :: cs = opener ++ body ∧ cause.Opens opener body := by
  cases cs with
  | nil => cases h
  | cons c cs =>
    rw [dollar] at h
    by_cases hbrace : c = '{'
    · rw [if_pos hbrace] at h
      cases h
    rw [if_neg hbrace] at h
    by_cases hparen : c = '('
    · rw [if_pos hparen] at h
      obtain ⟨rfl, hnone⟩ := substitution_error h
      exact ⟨_, cs, by rw [hparen]; rfl, .substitution hnone⟩
    rw [if_neg hparen] at h
    by_cases hansi : c = '\''
    · rw [if_pos hansi] at h
      obtain ⟨rfl, hnone⟩ := quoted_error h
      exact ⟨_, cs, by rw [hansi]; rfl, .ansiC hnone⟩
    rw [if_neg hansi] at h
    by_cases hdouble : c = '"'
    · rw [if_pos hdouble] at h
      obtain ⟨rfl, hnone⟩ := quoted_error h
      exact ⟨_, cs, by rw [hdouble]; rfl, .translated hnone⟩
    rw [if_neg hdouble] at h
    repeat' split at h
    all_goals cases h

/-- The characters with which something begins that needs a closer. -/
def openers : List Char :=
  ['"', '\'', '`', '$']

theorem scan_ok {c : Char} (hc : c ∉ openers) (cs : List Char) : ∃ lx, scan c cs = .ok lx := by
  simp only [openers, List.mem_cons, List.not_mem_nil, or_false, not_or] at hc
  unfold scan
  simp only [hc, if_false]
  repeat' split
  all_goals exact ⟨_, rfl⟩

/-- Reading fails only where something is opened that is never closed. -/
theorem scan_error {c : Char} {cs : List Char} {cause : Unclosed} (h : scan c cs = .error cause) :
    ∃ opener body, c :: cs = opener ++ body ∧ cause.Opens opener body := by
  by_cases hc : c ∈ openers
  · simp only [openers, List.mem_cons, List.not_mem_nil, or_false] at hc
    rcases hc with rfl | rfl | rfl | rfl
    · obtain ⟨rfl, hnone⟩ := quoted_error h
      exact ⟨_, cs, rfl, .double hnone⟩
    · obtain ⟨rfl, hnone⟩ := quoted_error h
      exact ⟨_, cs, rfl, .single hnone⟩
    · obtain ⟨rfl, hnone⟩ := quoted_error h
      exact ⟨_, cs, rfl, .backtick hnone⟩
    · exact dollar_error h
  · obtain ⟨lx, hlx⟩ := scan_ok hc cs
    rw [hlx] at h
    cases h

/-- Whatever is never closed can be. -/
theorem scan_completes {c : Char} {cs : List Char} {cause : Unclosed}
    (h : scan c cs = .error cause) :
    ∃ closers lx, scan c (cs ++ closers) = .ok lx ∧ lx.rest = [] := by
  obtain ⟨opener, body, hcs, hopens⟩ := scan_error h
  cases hopens
  all_goals obtain ⟨rfl, rfl⟩ := List.cons.inj hcs
  case double hnone | single hnone | backtick hnone | ansiC hnone | translated hnone =>
    exact quoted_completes (by decide) hnone _ _
  case substitution hnone => exact substitution_completes hnone

end Lexeme

namespace Cursor

open LexAnswer (place)

/-! ## Asking on -/

/-- Asking for a token ends the text or takes some of it. -/
theorem next_takes (cur : Cursor) :
    (∃ p, cur.next.1 = .ok (Token.eof p p.offset)) ∨
      ∃ taken, taken ≠ [] ∧ cur.rest = taken ++ cur.next.2.rest ∧
        cur.next.2.position = cur.position.after taken := by
  have houtcome := next_outcome cur
  generalize cur.next = r at houtcome
  cases houtcome with
  | ended => exact .inl ⟨_, rfl⟩
  | @unclosed blank cs c cause cut scan =>
    refine .inr ⟨blank ++ c :: cs, by simp, ?_, ?_⟩
    · rw [append_of_gap cut, List.append_nil]
    · rw [Position.after_append]
  | @token blank cs c lx cut scan =>
    refine .inr ⟨blank ++ lx.text, by simp [Lexeme.scan_text scan], ?_, ?_⟩
    · rw [append_of_gap cut, List.append_assoc, Lexeme.scan_append scan]
    · rw [Position.after_append]

theorem past_nil (p : Position) (n : Nat) : (Cursor.mk [] p).past n = ⟨[], p⟩ := by
  induction n with
  | zero => rfl
  | succ n ih => exact ih

theorem past_add (cur : Cursor) (m n : Nat) : cur.past (m + n) = (cur.past m).past n := by
  induction m generalizing cur with
  | zero => rw [Nat.zero_add]; rfl
  | succ m ih =>
    rw [Nat.succ_add]
    exact ih cur.next.2

/-! ## Where reading fails -/

section Failure

variable {cur : Cursor} {e : LexError} (h : cur.next.1 = .error e)

include h

/-- What a cursor that fails has in front of it, and where it is then. -/
theorem next_error :
    ∃ blank c cs, gap false cur.rest = (blank, c :: cs) ∧ Lexeme.scan c cs = .error e.cause ∧
      e.position = cur.position.after blank ∧
      cur.next.2 = ⟨[], (cur.position.after blank).after (c :: cs)⟩ := by
  have houtcome := next_outcome cur
  generalize cur.next = r at houtcome h
  cases houtcome with
  | ended => cases h
  | token => cases h
  | @unclosed blank cs c cause cut scan =>
    cases h
    exact ⟨blank, c, cs, cut, scan, rfl, rfl⟩

theorem rest_ne_nil_of_error : cur.rest ≠ [] := by
  intro hempty
  obtain ⟨blank, c, cs, cut, -⟩ := next_error h
  rw [hempty] at cut
  cases cut

/-- The gap in front of what is never closed is the same whatever follows. -/
theorem gap_more_of_error :
    ∃ blank c cs, Lexeme.scan c cs = .error e.cause ∧ e.position = cur.position.after blank ∧
      ∀ u, gap false (cur.more u).rest = (blank, c :: (cs ++ u)) := by
  obtain ⟨blank, c, cs, cut, scan, hposition, -⟩ := next_error h
  have hlonger : c :: cs ≠ ['\\'] := by
    intro hone
    obtain ⟨rfl, rfl⟩ := List.cons.inj hone
    cases scan
  exact ⟨blank, c, cs, scan, hposition, gap_more_of_eq cut (List.cons_ne_nil c cs) hlonger⟩

/-- What a reader finds behind the gap stands where the complaint says, whatever follows. -/
theorem place_more (u : List Char) : place (cur.more u).next.1 = e.position := by
  obtain ⟨blank, c, cs, -, hposition, hgap⟩ := gap_more_of_error h
  have cut := hgap u
  rw [hposition]
  have houtcome := next_outcome (cur.more u)
  generalize (cur.more u).next = r at houtcome
  cases houtcome with
  | ended cut' =>
    cases cut.symm.trans cut'
  | unclosed cut' =>
    cases cut.symm.trans cut'
    rfl
  | token cut' =>
    cases cut.symm.trans cut'
    rfl

theorem le_offset_more {u : List Char} {us : List Token} (hus : (cur.more u).tokens = .ok us) :
    ∀ t ∈ us, e.position.offset ≤ t.position.offset := by
  have htiles := tokens_tiles hus
  cases us with
  | nil => exact fun t ht => by cases ht
  | cons first us =>
    have hfirst : first.position = e.position := by
      rw [← place_more h u, next_of_tokens hus]
      rfl
    have hordered := List.pairwise_cons.1 htiles.ordered
    have hbounds := htiles.bounds first List.mem_cons_self
    intro t ht
    rw [← hfirst]
    rcases List.mem_cons.1 ht with rfl | ht
    · exact Nat.le_refl _
    · have hstop := hordered.1 t ht
      omega

/-- Some text more closes what was left open and ends there. -/
theorem tokens_completed : ∃ u us, (cur.more u).tokens = .ok us := by
  obtain ⟨blank, c, cs, hscan, -, hgap⟩ := gap_more_of_error h
  obtain ⟨u, lx, hclosed, hrest⟩ := Lexeme.scan_completes hscan
  have hnext : (cur.more u).next = (.ok (lx.token (cur.position.after blank)),
      ⟨[], (cur.position.after blank).after lx.text⟩) := by
    unfold next
    simp only [hgap, hclosed, hrest]
    rfl
  have htokens := tokens_of_token hnext (Lexeme.scan_wellSpelled hclosed).kind_ne
  rw [tokens_nil] at htokens
  exact ⟨u, _, htokens⟩

end Failure

theorem ofText_append (s u : String) (p : Position) :
    ofText (s ++ u) p = (ofText s p).more u.toList := by
  rw [ofText, String.toList_append]
  rfl

/-- A cursor with nothing left stands at the end of its text. -/
theorem Tracks.eq_of_rest {cur : Cursor} {text : List Char} (h : cur.Tracks [] text)
    (hrest : cur.rest = []) : cur = ⟨[], Position.reached text⟩ := by
  obtain ⟨before, htext, hposition⟩ := h
  rw [hrest, List.append_nil] at htext
  obtain ⟨rest, position⟩ := cur
  cases hrest
  rw [htext]
  exact congrArg (Cursor.mk []) hposition

end Cursor

/-- A text that breaks off behind the tokens `ts`, inside of something that is never closed. -/
structure BreaksOff (s : String) (e : LexError) (ts : List Token) : Prop where
  /-- The tokens are read one after the other, -/
  read : ∀ i t, ts[i]? = some t → (Cursor.ofText s .start).answer i = .ok t
  /-- and then reading fails. -/
  fails : (Cursor.ofText s .start).answer ts.length = .error e
  /-- The complaint stands at the first character of what opens. -/
  opener : ∃ before opener body, s.toList = before ++ (opener ++ body) ∧
    e.position = Position.reached before ∧ e.cause.Opens opener body
  /-- Some text more makes it a text that can be cut into tokens. -/
  completed : ∃ u us, tokenize (s ++ u) = .ok us
  /-- Whatever does so changes nothing before the complaint. -/
  unchanged : ∀ u us, tokenize (s ++ u) = .ok us →
    us.filter (fun t => t.position.offset < e.position.offset) = ts
  /-- Once reading has failed the text is at its end, -/
  ended : ∀ n, ts.length < n →
    (Cursor.ofText s .start).past n = ⟨[], Position.reached s.toList⟩
  /-- where only its end is left to be read. -/
  later : ∀ n, ts.length < n → (Cursor.ofText s .start).answer n =
    .ok (Token.eof (Position.reached s.toList) s.utf8ByteSize)

section BreaksOff

variable {s : String} {e : LexError} {ts : List Token} {last : Cursor}
  (hreads : Cursor.Reads (.ofText s .start) ts last) (herror : last.next.1 = .error e)

include hreads herror

theorem Cursor.Reads.opener :
    ∃ before opener body, s.toList = before ++ (opener ++ body) ∧
      e.position = Position.reached before ∧ e.cause.Opens opener body := by
  have htracks := (Cursor.tracks_ofText [] s).past ts.length
  rw [show Position.reached [] = .start from rfl, hreads.past] at htracks
  obtain ⟨blank, c, cs, cut, hscan, hposition, -⟩ := Cursor.next_error herror
  obtain ⟨before, htext, hbefore⟩ := htracks.pass cut
  obtain ⟨opener, body, hcs, hopens⟩ := Lexeme.scan_error hscan
  exact ⟨before, opener, body, by rw [htext, hcs], hposition.trans hbefore, hopens⟩

/-- With more text, the tokens that were read are followed by what is read where reading failed. -/
theorem Cursor.Reads.tokenize_append (u : String) :
    tokenize (s ++ u) = (last.more u.toList).tokens.map (ts ++ ·) := by
  rw [tokenize, tokenizeAt, Cursor.ofText_append]
  exact (hreads.more (Cursor.rest_ne_nil_of_error herror) u.toList).tokens

theorem Cursor.Reads.completed : ∃ u us, tokenize (s ++ u) = .ok us := by
  obtain ⟨u, us, hus⟩ := Cursor.tokens_completed herror
  refine ⟨String.ofList u, ts ++ us, ?_⟩
  rw [hreads.tokenize_append herror, String.toList_ofList, hus]
  rfl

theorem Cursor.Reads.unchanged {u : String} {us : List Token} (hus : tokenize (s ++ u) = .ok us) :
    us.filter (fun t => t.position.offset < e.position.offset) = ts := by
  have hplace := Cursor.offset_le_place last
  rw [herror] at hplace
  change last.position.offset ≤ e.position.offset at hplace
  rw [hreads.tokenize_append herror] at hus
  cases hmore : (last.more u.toList).tokens with
  | error e' =>
    rw [hmore] at hus
    cases hus
  | ok more =>
    rw [hmore] at hus
    cases hus
    have hts : ts.filter (fun t => t.position.offset < e.position.offset) = ts := by
      refine List.filter_eq_self.2 fun t ht => decide_eq_true ?_
      have hbefore := hreads.offset_lt.2 t ht
      omega
    have hbehind : more.filter (fun t => t.position.offset < e.position.offset) = [] := by
      refine List.filter_eq_nil_iff.2 fun t ht => ?_
      have hoffset := Cursor.le_offset_more herror hmore t ht
      simpa using hoffset
    rw [List.filter_append, hts, hbehind, List.append_nil]

theorem Cursor.Reads.ended {n : Nat} (hn : ts.length < n) :
    (Cursor.ofText s .start).past n = ⟨[], Position.reached s.toList⟩ := by
  obtain ⟨k, rfl⟩ := Nat.exists_eq_add_of_le hn
  refine ((Cursor.tracks_ofText [] s).past _).eq_of_rest ?_
  obtain ⟨blank, c, cs, -, -, -, hnext⟩ := Cursor.next_error herror
  rw [show Position.reached [] = .start from rfl, Cursor.past_add, Cursor.past_succ, hreads.past,
    hnext, Cursor.past_nil]

theorem Cursor.Reads.breaksOff : BreaksOff s e ts where
  read i t := hreads.answer
  fails := by rw [Cursor.answer, hreads.past, herror]
  opener := hreads.opener herror
  completed := hreads.completed herror
  unchanged u us := hreads.unchanged herror
  ended n := hreads.ended herror
  later n hn := by
    rw [Cursor.answer, hreads.ended herror hn, utf8ByteSize_eq_utf8Len]
    rfl

end BreaksOff

/-- Cutting a text into tokens fails only for a closer that never comes.  And no reader is stuck:
asked for a token it tells the end of the text or takes some of it. -/
theorem tokenize_fails_unclosed (s : String) :
    (∀ e, tokenize s = .error e → ∃ ts, BreaksOff s e ts) ∧
      ∀ cur : Cursor, (∃ p, cur.next.1 = .ok (Token.eof p p.offset)) ∨
        ∃ taken, cur.rest = taken ++ cur.next.2.rest ∧
          cur.next.2.position.offset = cur.position.offset + utf8Len taken ∧ 0 < utf8Len taken := by
  constructor
  · intro e h
    obtain ⟨ts, last, hreads, herror⟩ := Cursor.Reads.of_error h
    exact ⟨ts, hreads.breaksOff herror⟩
  · intro cur
    rcases cur.next_takes with hended | ⟨taken, hne, hrest, hposition⟩
    · exact .inl hended
    · refine .inr ⟨taken, hrest, ?_, ?_⟩
      · rw [hposition, Position.after_offset]
      · exact Nat.pos_of_ne_zero fun hzero => hne (String.utf8Len_eq_zero.1 hzero)

/-- A text that breaks off behind a backslash, between quotes, in a parenthesis of a
substitution. -/
theorem tokenize_fails_unclosed_nested :
    tokenize "ls; echo $(a (b \"c\\" = .error ⟨.substitution, ⟨1, 10, 9⟩⟩ ∧
      BreaksOff "ls; echo $(a (b \"c\\" ⟨.substitution, ⟨1, 10, 9⟩⟩
        [⟨.word, "ls", ⟨1, 1, 0⟩, 2⟩, ⟨.semicolon, ";", ⟨1, 3, 2⟩, 3⟩,
          ⟨.word, "echo", ⟨1, 5, 4⟩, 8⟩] := by
  have herror : tokenize "ls; echo $(a (b \"c\\" = .error ⟨.substitution, ⟨1, 10, 9⟩⟩ := by
    decide +kernel
  have hclosed : tokenize ("ls; echo $(a (b \"c\\" ++ "d\"))") = .ok [⟨.word, "ls", ⟨1, 1, 0⟩, 2⟩,
      ⟨.semicolon, ";", ⟨1, 3, 2⟩, 3⟩, ⟨.word, "echo", ⟨1, 5, 4⟩, 8⟩,
      ⟨.substitution, "a (b \"c\\d\")", ⟨1, 10, 9⟩, 23⟩, ⟨.eof, "", ⟨1, 24, 23⟩, 23⟩] := by
    decide +kernel
  obtain ⟨ts, h⟩ := (tokenize_fails_unclosed _).1 _ herror
  have hts := h.unchanged _ _ hclosed
  refine ⟨herror, ?_⟩
  rw [← hts] at h
  exact h

end ShellGuard
