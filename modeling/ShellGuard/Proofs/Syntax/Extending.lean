import Mathlib
import ShellGuard.Proofs.Syntax.Places
import ShellGuard.Proofs.Syntax.PlainWords

/-!
# Text that follows

Tokens are read as far as they go, so more text at the end of a text can only change the last token:
every token with something left behind it is read in the same way whatever else follows.  A closed
text is the same even at the end.

`Cursor.Reads` relates a cursor to the one that has read some tokens more; it is what `next` does
again and again, and everything about whole runs is an induction on it.
-/

namespace ShellGuard

namespace Lexeme

/-- The same token with more text behind it. -/
def more (lx : Lexeme) (u : List Char) : Lexeme :=
  { lx with rest := lx.rest ++ u }

theorem bar_more {cs : List Char} (h : (bar cs).rest ≠ []) (u : List Char) :
    bar (cs ++ u) = (bar cs).more u := by
  cases cs with
  | nil => exact absurd rfl h
  | cons c cs =>
    by_cases hbar : c = '|'
    · subst hbar; rfl
    · simp [bar, hbar, whole, more]

theorem ampersand_more {cs : List Char} (h : (ampersand cs).rest ≠ []) (u : List Char) :
    ampersand (cs ++ u) = (ampersand cs).more u := by
  cases cs with
  | nil => exact absurd rfl h
  | cons c cs =>
    by_cases hand : c = '&'
    · subst hand; rfl
    by_cases hout : c = '>'
    · subst hout
      cases cs with
      | nil => exact absurd rfl h
      | cons d cs =>
        by_cases htwo : d = '>'
        · subst htwo; rfl
        · simp [ampersand, htwo, whole, more]
    · simp [ampersand, hand, hout, whole, more]

theorem lessThan_more {cs : List Char} (h : (lessThan cs).rest ≠ []) (u : List Char) :
    lessThan (cs ++ u) = (lessThan cs).more u := by
  cases cs with
  | nil => exact absurd rfl h
  | cons c cs =>
    by_cases hin : c = '<'
    · subst hin
      cases cs with
      | nil => exact absurd rfl h
      | cons d cs =>
        by_cases htwo : d = '<'
        · subst htwo; rfl
        by_cases hdash : d = '-'
        · subst hdash; rfl
        · simp [lessThan, htwo, hdash, whole, more]
    · simp [lessThan, hin, whole, more]

theorem takeWhile_more (p : Char → Bool) {cs : List Char} (h : cs.dropWhile p ≠ [])
    (u : List Char) :
    (cs ++ u).takeWhile p = cs.takeWhile p ∧ (cs ++ u).dropWhile p = cs.dropWhile p ++ u := by
  induction cs with
  | nil => exact absurd rfl h
  | cons c cs ih =>
    cases hc : p c with
    | false => simp [hc]
    | true =>
      obtain ⟨htake, hdrop⟩ := ih (by simpa [hc] using h)
      simp [hc, htake, hdrop]

theorem greaterThan_more {fd cs : List Char} (h : (greaterThan fd cs).rest ≠ []) (u : List Char) :
    greaterThan fd (cs ++ u) = (greaterThan fd cs).more u := by
  cases cs with
  | nil => exact absurd rfl h
  | cons c cs =>
    by_cases htwo : c = '>'
    · subst htwo; rfl
    by_cases hand : c = '&'
    · subst hand
      obtain ⟨htake, hdrop⟩ := takeWhile_more isDescriptorChar h u
      simp [greaterThan, htake, hdrop, whole, more]
    by_cases hbar : c = '|'
    · subst hbar; rfl
    · simp [greaterThan, htwo, hand, hbar, whole, more]

theorem braced_more {depth : Nat} {cs : List Char} (h : (braced depth cs).2 ≠ []) (u : List Char) :
    braced depth (cs ++ u) = ((braced depth cs).1, (braced depth cs).2 ++ u) := by
  induction cs generalizing depth with
  | nil => exact absurd rfl h
  | cons c cs ih =>
    rw [List.cons_append]
    unfold braced at h ⊢
    by_cases hopen : c = '{'
    · rw [if_pos hopen] at h
      rw [if_pos hopen, if_pos hopen, ih h]
      rfl
    rw [if_neg hopen] at h
    rw [if_neg hopen, if_neg hopen]
    by_cases hclose : c = '}'
    · rw [if_pos hclose] at h
      rw [if_pos hclose, if_pos hclose]
      by_cases hlast : depth ≤ 1
      · rw [if_pos hlast, if_pos hlast]
      · rw [if_neg hlast] at h
        rw [if_neg hlast, if_neg hlast, ih h]
        rfl
    · rw [if_neg hclose] at h
      rw [if_neg hclose, if_neg hclose, ih h]
      rfl

theorem word_more {state : WordState} {cs : List Char} (h : (word state cs).2 ≠ [])
    (u : List Char) : word state (cs ++ u) = ((word state cs).1, (word state cs).2 ++ u) := by
  induction cs generalizing state with
  | nil => exact absurd rfl h
  | cons c cs ih =>
    rw [List.cons_append]
    unfold word at h ⊢
    by_cases hshielded : state = .shielded
    · rw [if_pos hshielded] at h
      rw [if_pos hshielded, if_pos hshielded, ih h]
      rfl
    rw [if_neg hshielded] at h
    rw [if_neg hshielded, if_neg hshielded]
    by_cases htaken : isWordChar c = true ∨ (c = '#' ∧ state = .begun)
    · rw [if_pos htaken] at h
      rw [if_pos htaken, if_pos htaken, ih h]
      rfl
    rw [if_neg htaken] at h
    rw [if_neg htaken, if_neg htaken]
    by_cases hescape : c = '\\'
    · rw [if_pos hescape] at h
      rw [if_pos hescape, if_pos hescape, ih h]
      rfl
    · rw [if_neg hescape, if_neg hescape, List.cons_append]

theorem quoted_more {kind : TokenKind} {opener : List Char} {close : Char} {escapes : Bool}
    {cs : List Char} {lx : Lexeme} (h : quoted kind opener close escapes cs = .ok lx)
    (u : List Char) : quoted kind opener close escapes (cs ++ u) = .ok (lx.more u) := by
  unfold quoted at h ⊢
  cases hsplit : delimited close escapes cs with
  | none => rw [hsplit] at h; cases h
  | some split =>
    rw [hsplit] at h
    rw [delimited, untilClosed_append_right hsplit, ← Except.ok.inj h]
    rfl

theorem substitution_more {cs : List Char} {lx : Lexeme} (h : substitution cs = .ok lx)
    (u : List Char) : substitution (cs ++ u) = .ok (lx.more u) := by
  unfold substitution at h ⊢
  cases hsplit : balanced cs with
  | none => rw [hsplit] at h; cases h
  | some split =>
    rw [hsplit] at h
    rw [balanced, untilClosed_append_right hsplit, ← Except.ok.inj h]
    rfl

theorem dollar_more {cs : List Char} {lx : Lexeme} (h : dollar cs = .ok lx) (hrest : lx.rest ≠ [])
    (u : List Char) : dollar (cs ++ u) = .ok (lx.more u) := by
  cases cs with
  | nil =>
    cases h
    exact absurd rfl hrest
  | cons c cs =>
    rw [List.cons_append]
    rw [dollar] at h ⊢
    by_cases hbrace : c = '{'
    · rw [if_pos hbrace] at h
      cases h
      rw [if_pos hbrace, ← List.cons_append, braced_more hrest]
      rfl
    rw [if_neg hbrace] at h
    rw [if_neg hbrace]
    by_cases hparen : c = '('
    · rw [if_pos hparen] at h
      rw [if_pos hparen, substitution_more h]
    rw [if_neg hparen] at h
    rw [if_neg hparen]
    by_cases hansi : c = '\''
    · rw [if_pos hansi] at h
      rw [if_pos hansi, quoted_more h]
    rw [if_neg hansi] at h
    rw [if_neg hansi]
    by_cases hdouble : c = '"'
    · rw [if_pos hdouble] at h
      rw [if_pos hdouble, quoted_more h]
    rw [if_neg hdouble] at h
    rw [if_neg hdouble]
    by_cases hname : (c.isAlpha || c == '_') = true
    · rw [if_pos hname] at h
      cases h
      obtain ⟨htake, hdrop⟩ := takeWhile_more isNameChar hrest u
      rw [if_pos hname, htake, hdrop]
      rfl
    rw [if_neg hname] at h
    rw [if_neg hname]
    by_cases hspecial : (c.isDigit || isSpecialParameter c) = true
    · rw [if_pos hspecial] at h
      cases h
      rw [if_pos hspecial]
      rfl
    · rw [if_neg hspecial] at h
      cases h
      rw [if_neg hspecial]
      rfl

theorem wordOrUnknown_rest_eq_nil {c : Char} {cs : List Char} (h : (word .fresh (c :: cs)).2 = []) :
    (wordOrUnknown c cs).rest = [] := by
  have hcut := word_append .fresh (c :: cs)
  rw [h, List.append_nil] at hcut
  unfold wordOrUnknown
  dsimp only
  rw [hcut, List.isEmpty_cons, if_neg (by decide)]
  exact h

theorem wordOrUnknown_more {c : Char} {cs : List Char} (h : (wordOrUnknown c cs).rest ≠ [])
    (u : List Char) : wordOrUnknown c (cs ++ u) = (wordOrUnknown c cs).more u := by
  have hmore := word_more (fun hempty => h (wordOrUnknown_rest_eq_nil hempty)) u
  rw [List.cons_append] at hmore
  unfold wordOrUnknown
  rw [hmore]
  dsimp only
  split <;> rfl

/-- A word takes digits along, to the end of the text if nothing else follows. -/
theorem word_digits {state : WordState} {cs : List Char} (h : cs.dropWhile Char.isDigit = []) :
    (word state cs).2 = [] := by
  induction cs generalizing state with
  | nil => rfl
  | cons c cs ih =>
    have hall := List.dropWhile_eq_nil_iff.1 h
    have hcs : cs.dropWhile Char.isDigit = [] :=
      List.dropWhile_eq_nil_iff.2 fun d hd => hall d (List.mem_cons_of_mem c hd)
    have hc : isWordChar c = true := by
      simp [isWordChar, Char.isAlphanum, hall c List.mem_cons_self]
    unfold word
    by_cases hshielded : state = .shielded
    · rw [if_pos hshielded]
      exact ih hcs
    · rw [if_neg hshielded, if_pos (.inl hc)]
      exact ih hcs

/-- What digits start, by the character behind them. -/
theorem numberOrWord_eq {c d : Char} {cs left : List Char}
    (h : (c :: cs).dropWhile Char.isDigit = d :: left) :
    numberOrWord c cs =
      if ((c :: cs).takeWhile Char.isDigit).isEmpty then wordOrUnknown c cs
      else if d = '<' then whole .redirectFd ((c :: cs).takeWhile Char.isDigit ++ ['<']) left
      else if d = '>' then greaterThan ((c :: cs).takeWhile Char.isDigit) left
      else wordOrUnknown c cs := by
  unfold numberOrWord
  rw [h]
  dsimp only
  by_cases hin : d = '<'
  · subst hin
    rfl
  by_cases hout : d = '>'
  · subst hout
    rfl
  · simp [hin, hout]

theorem numberOrWord_more {c : Char} {cs : List Char} (h : (numberOrWord c cs).rest ≠ [])
    (u : List Char) : numberOrWord c (cs ++ u) = (numberOrWord c cs).more u := by
  cases hleft : (c :: cs).dropWhile Char.isDigit with
  | nil =>
    refine absurd ?_ h
    have hword := wordOrUnknown_rest_eq_nil (word_digits hleft)
    unfold numberOrWord
    rw [hleft]
    dsimp only
    rw [ite_self]
    exact hword
  | cons d left =>
    obtain ⟨htake, hdrop⟩ := takeWhile_more Char.isDigit (hleft ▸ List.cons_ne_nil d left) u
    simp only [hleft, List.cons_append] at htake hdrop
    rw [numberOrWord_eq hleft] at h ⊢
    rw [numberOrWord_eq hdrop, htake]
    by_cases hnone : ((c :: cs).takeWhile Char.isDigit).isEmpty = true
    · rw [if_pos hnone] at h
      rw [if_pos hnone, if_pos hnone]
      exact wordOrUnknown_more h u
    rw [if_neg hnone] at h
    rw [if_neg hnone, if_neg hnone]
    by_cases hin : d = '<'
    · rw [if_pos hin, if_pos hin]
      rfl
    rw [if_neg hin] at h
    rw [if_neg hin, if_neg hin]
    by_cases hout : d = '>'
    · rw [if_pos hout] at h
      rw [if_pos hout, if_pos hout]
      exact greaterThan_more h u
    · rw [if_neg hout] at h
      rw [if_neg hout, if_neg hout]
      exact wordOrUnknown_more h u

/-- A token that is not the last of its text is the same whatever else follows. -/
theorem scan_more {c : Char} {cs : List Char} {lx : Lexeme} (h : scan c cs = .ok lx)
    (hrest : lx.rest ≠ []) (u : List Char) : scan c (cs ++ u) = .ok (lx.more u) := by
  cases scan_form h with
  | bar => exact congrArg Except.ok (bar_more hrest u)
  | ampersand => exact congrArg Except.ok (ampersand_more hrest u)
  | lessThan => exact congrArg Except.ok (lessThan_more hrest u)
  | greaterThan => exact congrArg Except.ok (greaterThan_more hrest u)
  | double h => exact quoted_more h u
  | single h => exact quoted_more h u
  | backtick h => exact quoted_more h u
  | dollar => exact dollar_more h hrest u
  | semicolon | newline | leftParen | rightParen => rfl
  | number c cs hc =>
    rw [scan_of_not_mem_starters hc, numberOrWord_more hrest]

end Lexeme

namespace Cursor

/-- Only a backslash at the end of a text could still be one that joins lines. -/
theorem not_joined_more {c : Char} {cs : List Char}
    (h : ∀ more, c = '\\' → cs = '\n' :: more → False) (hcs : c = '\\' → cs ≠ [])
    (u more : List Char) : c = '\\' → cs ++ u = '\n' :: more → False := by
  intro hc hmore
  cases cs with
  | nil => exact hcs hc rfl
  | cons d cs => exact h cs hc (by rw [(List.cons.inj hmore).1])

/-- What stands before a token is passed over in the same way whatever else follows.  A backslash at
the end of a text is the exception: a line feed behind it would join lines. -/
theorem gap_more {inComment : Bool} {cs : List Char} (hleft : (gap inComment cs).2 ≠ [])
    (hbackslash : (gap inComment cs).2 ≠ ['\\']) (u : List Char) :
    gap inComment (cs ++ u) = ((gap inComment cs).1, (gap inComment cs).2 ++ u) := by
  fun_induction gap inComment cs with
  | case1 => exact absurd rfl hleft
  | case2 cs => rfl
  | case3 inComment cs hin ih =>
    rw [List.cons_append, List.cons_append, gap, if_neg hin, ih hleft hbackslash]
    rfl
  | case4 inComment c cs hjoined hc ih =>
    have hcs : c = '\\' → cs ≠ [] := by
      rintro - rfl
      exact hleft rfl
    rw [List.cons_append, gap, if_pos hc, ih hleft hbackslash]
    · rfl
    · exact not_joined_more hjoined hcs u
  | case5 inComment c cs hjoined hin hc ih =>
    have hcs : c = '\\' → cs ≠ [] := by
      rintro rfl
      cases hc
    rw [List.cons_append, gap, if_neg hin, if_pos hc, ih hleft hbackslash]
    · rfl
    · exact not_joined_more hjoined hcs u
  | case6 inComment cs hjoined hin hc ih =>
    rw [List.cons_append, gap, if_neg hin, if_neg hc, if_pos rfl, ih hleft hbackslash]
    · rfl
    · exact not_joined_more hjoined (fun h => by cases h) u
  | case7 inComment c cs hjoined hin hc hcomment =>
    have hcs : c = '\\' → cs ≠ [] := by
      rintro rfl rfl
      exact hbackslash rfl
    rw [List.cons_append, gap, if_neg hin, if_neg hc, if_neg hcomment]
    exact not_joined_more hjoined hcs u

/-- The same cursor with more text behind it. -/
def more (cur : Cursor) (u : List Char) : Cursor :=
  { cur with rest := cur.rest ++ u }

/-- What stands behind a gap is found there whatever else follows, unless it is the backslash that
could join lines. -/
theorem gap_more_of_eq {cs blank left : List Char} (cut : gap false cs = (blank, left))
    (hleft : left ≠ []) (hbackslash : left ≠ ['\\']) (u : List Char) :
    gap false (cs ++ u) = (blank, left ++ u) := by
  have hgap (hleft : (gap false cs).2 ≠ []) (hbackslash : (gap false cs).2 ≠ ['\\']) :=
    gap_more hleft hbackslash u
  rw [cut] at hgap
  exact hgap hleft hbackslash

/-- A token that is not the last of its text is read in the same way whatever else follows. -/
theorem next_more {cur cur' : Cursor} {t : Token} (h : cur.next = (.ok t, cur'))
    (hrest : cur'.rest ≠ []) (u : List Char) : (cur.more u).next = (.ok t, cur'.more u) := by
  have houtcome := next_outcome cur
  rw [h] at houtcome
  cases houtcome with
  | ended => exact absurd rfl hrest
  | @token blank cs c lx cut scan =>
    have hlonger : c :: cs ≠ ['\\'] := by
      intro hone
      obtain ⟨rfl, rfl⟩ := List.cons.inj hone
      cases scan
      exact hrest rfl
    have hgap := gap_more_of_eq cut (List.cons_ne_nil c cs) hlonger u
    unfold next
    simp only [more, hgap, List.cons_append, Lexeme.scan_more scan hrest]
    rfl

/-! ## Runs -/

/-- Tokens read one after the other, none of which ends the text. -/
inductive Reads : Cursor → List Token → Cursor → Prop
  | nil (cur : Cursor) : Reads cur [] cur
  | cons {cur mid last : Cursor} {t : Token} {ts : List Token} (next : cur.next = (.ok t, mid))
    (kind : t.kind ≠ .eof) (rest : Reads mid ts last) : Reads cur (t :: ts) last

namespace Reads

variable {cur last : Cursor} {ts : List Token}

theorem rest_ne_nil (h : Reads cur ts last) (hlast : last.rest ≠ []) : cur.rest ≠ [] := by
  cases h with
  | nil => exact hlast
  | cons next kind =>
    have hless := next_rest_length next kind
    intro hempty
    rw [hempty] at hless
    exact Nat.not_lt_zero _ hless

/-- With text left to read, more text behind it changes nothing in what has been read. -/
theorem more (h : Reads cur ts last) (hlast : last.rest ≠ []) (u : List Char) :
    Reads (cur.more u) ts (last.more u) := by
  induction h with
  | nil cur => exact .nil _
  | cons next kind rest ih =>
    exact .cons (next_more next (rest.rest_ne_nil hlast) u) kind (ih hlast)

theorem tokens (h : Reads cur ts last) : cur.tokens = last.tokens.map (ts ++ ·) := by
  induction h with
  | nil cur => cases cur.tokens <;> rfl
  | @cons cur mid last t ts next kind rest ih =>
    rw [tokens_of_token next kind, ih]
    cases last.tokens <;> rfl

theorem past (h : Reads cur ts last) : cur.past ts.length = last := by
  induction h with
  | nil => rfl
  | cons next kind rest ih =>
    show Cursor.past _ (Cursor.next _).2 = _
    rw [next]
    exact ih

theorem answer (h : Reads cur ts last) {i : Nat} {t : Token} (ht : ts[i]? = some t) :
    cur.answer i = .ok t := by
  induction h generalizing i with
  | nil => cases ht
  | @cons cur mid last u us next kind rest ih =>
    cases i with
    | zero =>
      show cur.next.1 = _
      rw [next, ← Option.some.inj ht]
    | succ i =>
      show (Cursor.past i cur.next.2).next.1 = _
      rw [next]
      exact ih ht

/-- What has been read stands before the cursor. -/
theorem offset_lt (h : Reads cur ts last) :
    cur.position.offset ≤ last.position.offset ∧
      ∀ t ∈ ts, t.position.offset < last.position.offset := by
  induction h with
  | nil cur => exact ⟨Nat.le_refl _, fun t ht => by cases ht⟩
  | @cons cur mid last t ts next kind rest ih =>
    have hbefore := offset_le_place cur
    have hplace : t.position.offset < cur.next.2.position.offset :=
      place_lt_offset (by rw [next]) kind
    rw [next] at hplace hbefore
    change cur.position.offset ≤ t.position.offset at hbefore
    change t.position.offset < mid.position.offset at hplace
    refine ⟨by omega, fun u hu => ?_⟩
    rcases List.mem_cons.1 hu with rfl | hu
    · omega
    · exact ih.2 u hu

/-- A text that cannot be cut into tokens is read up to the token that is never closed. -/
theorem of_error {e : LexError} (h : cur.tokens = .error e) :
    ∃ ts last, Reads cur ts last ∧ last.next.1 = .error e := by
  fun_induction Cursor.tokens cur with
  | case1 cur e' cur' hnext =>
    cases h
    exact ⟨[], cur, .nil cur, by rw [hnext]⟩
  | case2 => cases h
  | case3 cur t cur' hnext ht ih =>
    cases hmore : cur'.tokens with
    | ok us =>
      rw [hmore] at h
      cases h
    | error e' =>
      rw [hmore] at h
      cases h
      obtain ⟨ts, last, hreads, hlast⟩ := ih hmore
      exact ⟨t :: ts, last, .cons hnext ht hreads, hlast⟩

end Reads

end Cursor

end ShellGuard
