import Mathlib
import ShellGuard.Proofs.Syntax.Lossless
import ShellGuard.Proofs.Syntax.Readers

/-!
# Places of tokens

A cursor that starts where a text before it ended tells the place that each token has in the two
texts together, and so does the complaint about a token that is never closed.  `Position.reached`
says what that place is by counting lines, characters and bytes, without a cursor.

`Cursor.next_outcome` says once what asking for a token can do.  What the cursor knows about the text
(`Cursor.Tracks`) survives every answer, complaints included, so the places of all answers follow by
induction on how often it has been asked.
-/

namespace ShellGuard

open String (utf8Len)

/-! ## Places in a text -/

namespace Position

/-- The place behind a text, by counting: the lines it opens, the characters since the last line feed
and its bytes. -/
def reached (text : List Char) : Position :=
  ⟨1 + text.count '\n', 1 + (text.reverse.takeWhile (· != '\n')).length, utf8Len text⟩

theorem reached_concat (text : List Char) (c : Char) :
    reached (text ++ [c]) = (reached text).advance c := by
  have hbytes : utf8Len (text ++ [c]) = utf8Len text + c.utf8Size := by
    rw [String.utf8Len_append, String.utf8Len_cons, String.utf8Len_nil]
    omega
  unfold reached advance
  by_cases hc : c = '\n'
  · subst hc
    simp only [List.count_append, List.count_singleton_self, List.reverse_concat, hbytes, if_true]
    rfl
  · have hcount : (text ++ [c]).count '\n' = text.count '\n' := by simp [hc]
    have hline : (text ++ [c]).reverse.takeWhile (· != '\n') =
        c :: text.reverse.takeWhile (· != '\n') := by simp [hc]
    rw [if_neg hc, hcount, hline, hbytes, List.length_cons, ← Nat.add_assoc]

/-- Reading a text leads to the place behind it. -/
theorem start_after (text : List Char) : start.after text = reached text := by
  induction text using List.reverseRecOn with
  | nil => rfl
  | append_singleton text c ih => rw [after_append, ih, reached_concat]; rfl

theorem reached_after (lead text : List Char) :
    (reached lead).after text = reached (lead ++ text) := by
  rw [← start_after, ← after_append, start_after]

end Position

/-! ## Asking for tokens -/

namespace Cursor

/-- What asking for a token gives and where it leaves the cursor, by what stands behind the gap. -/
inductive Outcome (cur : Cursor) : Except LexError Token × Cursor → Prop
  | ended {blank : List Char} (cut : gap false cur.rest = (blank, [])) :
    Outcome cur (.ok (Token.eof (cur.position.after blank) (cur.position.after blank).offset),
      ⟨[], cur.position.after blank⟩)
  | unclosed {blank cs : List Char} {c : Char} {cause : Unclosed}
    (cut : gap false cur.rest = (blank, c :: cs)) (scan : Lexeme.scan c cs = .error cause) :
    Outcome cur (.error ⟨cause, cur.position.after blank⟩,
      ⟨[], (cur.position.after blank).after (c :: cs)⟩)
  | token {blank cs : List Char} {c : Char} {lx : Lexeme}
    (cut : gap false cur.rest = (blank, c :: cs)) (scan : Lexeme.scan c cs = .ok lx) :
    Outcome cur (.ok (lx.token (cur.position.after blank)),
      ⟨lx.rest, (cur.position.after blank).after lx.text⟩)

theorem next_outcome (cur : Cursor) : Outcome cur cur.next := by
  obtain ⟨blank, left, hcut⟩ : ∃ blank left, gap false cur.rest = (blank, left) := ⟨_, _, rfl⟩
  unfold next
  simp only [hcut]
  cases left with
  | nil => exact .ended hcut
  | cons c cs =>
    cases hscan : Lexeme.scan c cs with
    | error cause =>
      simp only [hscan]
      exact .unclosed hcut hscan
    | ok lx =>
      simp only [hscan]
      exact .token hcut hscan

theorem append_of_gap {inComment : Bool} {cs blank left : List Char}
    (h : gap inComment cs = (blank, left)) : cs = blank ++ left := by
  have hcut := gap_append inComment cs
  rw [h] at hcut
  exact hcut.symm

/-- The cursor after it has been asked for `n` tokens. -/
def past : Nat → Cursor → Cursor
  | 0, cur => cur
  | n + 1, cur => past n cur.next.2

/-- What a cursor that has been asked for `n` tokens answers when it is asked for one more. -/
def answer (n : Nat) (cur : Cursor) : Except LexError Token :=
  (cur.past n).next.1

theorem past_succ (n : Nat) (cur : Cursor) : cur.past (n + 1) = (cur.past n).next.2 := by
  induction n generalizing cur with
  | zero => rfl
  | succ n ih => exact ih cur.next.2

/-- The tokens of a text are the answers up to the one that ends it. -/
theorem answer_of_tokens {cur : Cursor} {ts : List Token} (h : cur.tokens = .ok ts) {i : Nat}
    {t : Token} (ht : ts[i]? = some t) : cur.answer i = .ok t := by
  fun_induction tokens cur generalizing ts i with
  | case1 => cases h
  | case2 cur u cur' hnext hu =>
    cases h
    cases i with
    | zero =>
      show cur.next.1 = _
      rw [hnext, ← Option.some.inj ht]
    | succ i => cases ht
  | case3 cur u cur' hnext hu ih =>
    cases hmore : cur'.tokens with
    | error e =>
      rw [hmore] at h
      cases h
    | ok us =>
      rw [hmore] at h
      cases h
      cases i with
      | zero =>
        show cur.next.1 = _
        rw [hnext, ← Option.some.inj ht]
      | succ i =>
        have hlater := ih hmore ht
        show (past i cur.next.2).next.1 = _
        rw [hnext]
        exact hlater

/-- The complaint about a text is an answer too. -/
theorem answer_of_error {cur : Cursor} {e : LexError} (h : cur.tokens = .error e) :
    ∃ n, cur.answer n = .error e := by
  fun_induction tokens cur with
  | case1 cur e' cur' hnext =>
    cases h
    exact ⟨0, by show cur.next.1 = _; rw [hnext]⟩
  | case2 => cases h
  | case3 cur u cur' hnext hu ih =>
    cases hmore : cur'.tokens with
    | ok us =>
      rw [hmore] at h
      cases h
    | error e' =>
      rw [hmore] at h
      cases h
      obtain ⟨n, hn⟩ := ih hmore
      refine ⟨n + 1, ?_⟩
      show (past n cur.next.2).next.1 = _
      rw [hnext]
      exact hn

/-- What a cursor knows about the text it reads, which stands behind `lead`: what it has left is an
end of the text, and its place is that of the first character left. -/
def Tracks (lead text : List Char) (cur : Cursor) : Prop :=
  ∃ before, text = before ++ cur.rest ∧ cur.position = Position.reached (lead ++ before)

section Tracks

variable {lead text : List Char} {cur : Cursor}

theorem tracks_ofText (lead : List Char) (s : String) :
    (ofText s (Position.reached lead)).Tracks lead s.toList :=
  ⟨[], rfl, by rw [List.append_nil]; rfl⟩

/-- Passing a gap. -/
theorem Tracks.pass (h : cur.Tracks lead text) {blank left : List Char}
    (hcut : gap false cur.rest = (blank, left)) : ∃ before, text = before ++ left ∧
      cur.position.after blank = Position.reached (lead ++ before) := by
  obtain ⟨before, htext, hposition⟩ := h
  refine ⟨before ++ blank, by rw [htext, append_of_gap hcut, List.append_assoc], ?_⟩
  rw [hposition, Position.reached_after, List.append_assoc]

theorem Tracks.next (h : cur.Tracks lead text) : cur.next.2.Tracks lead text := by
  have houtcome := next_outcome cur
  generalize cur.next = r at houtcome
  cases houtcome with
  | ended cut => exact h.pass cut
  | @unclosed blank cs c cause cut scan =>
    obtain ⟨before, htext, hposition⟩ := h.pass cut
    refine ⟨text, (List.append_nil text).symm, ?_⟩
    rw [hposition, Position.reached_after, List.append_assoc, ← htext]
  | @token blank cs c lx cut scan =>
    obtain ⟨before, htext, hposition⟩ := h.pass cut
    refine ⟨before ++ lx.text, ?_, ?_⟩
    · rw [List.append_assoc, Lexeme.scan_append scan, htext]
    · rw [hposition, Position.reached_after, List.append_assoc]

theorem Tracks.past (h : cur.Tracks lead text) (n : Nat) : (cur.past n).Tracks lead text := by
  induction n with
  | zero => exact h
  | succ n ih =>
    rw [past_succ]
    exact ih.next

end Tracks

end Cursor

/-! ## Places of answers -/

namespace LexAnswer

/-- The place an answer tells. -/
def place : Except LexError Token → Position
  | .ok t => t.position
  | .error e => e.position

/-- An answer about a text behind `lead` that is true of its place.  A token stands there as it is
written, the one that ends the text at its end; a complaint stands at the first character of
something that is never closed. -/
def TrueIn (lead text : List Char) : Except LexError Token → Prop
  | .ok t => ∃ before own after, text = before ++ (own ++ after) ∧
      t.position = Position.reached (lead ++ before) ∧
      t.stop = (Position.reached (lead ++ (before ++ own))).offset ∧ t.Spells own after ∧
      (t.kind = .eof ∧ own = [] ∧ after = [] ∨ t.kind ≠ .eof ∧ own ≠ [])
  | .error e => ∃ before c after, text = before ++ c :: after ∧
      e.position = Position.reached (lead ++ before) ∧ Lexeme.scan c after = .error e.cause

theorem TrueIn.split {lead text : List Char} {r : Except LexError Token} (h : TrueIn lead text r) :
    ∃ before after, text = before ++ after ∧ place r = Position.reached (lead ++ before) := by
  cases r with
  | ok t =>
    obtain ⟨before, own, after, htext, hposition, -⟩ := h
    exact ⟨before, own ++ after, htext, hposition⟩
  | error e =>
    obtain ⟨before, c, after, htext, hposition, -⟩ := h
    exact ⟨before, c :: after, htext, hposition⟩

end LexAnswer

namespace Cursor

open LexAnswer

variable {lead text : List Char} {cur : Cursor}

theorem Tracks.trueIn (h : cur.Tracks lead text) : TrueIn lead text cur.next.1 := by
  have houtcome := next_outcome cur
  generalize cur.next = r at houtcome
  cases houtcome with
  | ended cut =>
    obtain ⟨before, htext, hposition⟩ := h.pass cut
    refine ⟨before, [], [], htext, hposition, ?_, rfl, .inl ⟨rfl, rfl, rfl⟩⟩
    rw [List.append_nil, ← hposition]
    rfl
  | unclosed cut scan =>
    obtain ⟨before, htext, hposition⟩ := h.pass cut
    exact ⟨before, _, _, htext, hposition, scan⟩
  | @token blank cs c lx cut scan =>
    obtain ⟨before, htext, hposition⟩ := h.pass cut
    have hspelled := Lexeme.scan_wellSpelled scan
    refine ⟨before, lx.text, lx.rest, ?_, hposition, ?_, ?_,
      .inr ⟨hspelled.kind_ne, Lexeme.scan_text scan⟩⟩
    · rw [Lexeme.scan_append scan, htext]
    · rw [← List.append_assoc, ← Position.reached_after, ← hposition]
      rfl
    · show lx.kind.Spells (String.ofList lx.value).toList lx.text lx.rest
      rw [String.toList_ofList]
      exact hspelled.spelled

/-- What is still to be read stands no further back than the cursor. -/
theorem offset_le_place (cur : Cursor) : cur.position.offset ≤ (place cur.next.1).offset := by
  have houtcome := next_outcome cur
  generalize cur.next = r at houtcome
  cases houtcome with
  | ended | unclosed | token =>
    show cur.position.offset ≤ (cur.position.after _).offset
    rw [Position.after_offset]
    omega

/-- Behind a token the cursor stands further on than the token. -/
theorem place_lt_offset {t : Token} (h : cur.next.1 = .ok t) (ht : t.kind ≠ .eof) :
    t.position.offset < cur.next.2.position.offset := by
  have houtcome := next_outcome cur
  generalize cur.next = r at houtcome h
  cases houtcome with
  | ended =>
    cases h
    exact absurd rfl ht
  | unclosed => cases h
  | @token blank cs c lx cut scan =>
    cases h
    have htaken : 0 < utf8Len lx.text :=
      Nat.pos_of_ne_zero fun hzero => Lexeme.scan_text scan (String.utf8Len_eq_zero.1 hzero)
    show (cur.position.after blank).offset < ((cur.position.after blank).after lx.text).offset
    rw [Position.after_offset (cur.position.after blank)]
    omega

end Cursor

/-- Whatever is asked of a cursor that starts in `f` where `p` ended is told with its place in the two
texts together. -/
structure TruePlaces (p f : String) (cur : Cursor) : Prop where
  /-- Tokens and complaints stand where they say. -/
  told : ∀ n, LexAnswer.TrueIn p.toList f.toList (cur.answer n)
  /-- No place splits a character. -/
  boundary : ∀ n, String.Pos.Raw.IsValid (p ++ f) ⟨(LexAnswer.place (cur.answer n)).offset⟩
  /-- What follows a token stands further on. -/
  increasing : ∀ n t, cur.answer n = .ok t → t.kind ≠ .eof →
    t.position.offset < (LexAnswer.place (cur.answer (n + 1))).offset
  /-- The tokens of the text are answers, one by one. -/
  tokens : ∀ ts, cur.tokens = .ok ts → ∀ i t, ts[i]? = some t → cur.answer i = .ok t
  /-- So is the complaint about the text. -/
  complaint : ∀ e, cur.tokens = .error e → ∃ n, cur.answer n = .error e

/-- Places are those of the first characters, wherever a text begins. -/
theorem tokenizeAt_truePlaces (p f : String) :
    Position.start.after p.toList = Position.reached p.toList ∧
      TruePlaces p f (Cursor.ofText f (Position.start.after p.toList)) := by
  have hstart := Position.start_after p.toList
  have htracks := Cursor.tracks_ofText p.toList f
  rw [hstart]
  have htold (n : Nat) : LexAnswer.TrueIn p.toList f.toList
      ((Cursor.ofText f (Position.reached p.toList)).answer n) := (htracks.past n).trueIn
  refine ⟨rfl, htold, fun n => ?_, fun n t ht heof => ?_, ?_, ?_⟩
  · obtain ⟨before, after, htext, hplace⟩ := (htold n).split
    refine String.Pos.Raw.isValid_iff_exists_append.2
      ⟨p ++ String.ofList before, String.ofList after, ?_, ?_⟩
    · apply String.toList_injective
      simp [htext]
    · have hbytes : utf8Len (p.toList ++ before) = (p ++ String.ofList before).utf8ByteSize := by
        rw [utf8ByteSize_eq_utf8Len, String.toList_append, String.toList_ofList]
      rw [hplace]
      exact congrArg String.Pos.Raw.mk hbytes
  · have hlater := Cursor.place_lt_offset ht heof
    rw [← Cursor.past_succ] at hlater
    exact Nat.lt_of_lt_of_le hlater (Cursor.offset_le_place _)
  · intro ts hts i t ht
    exact Cursor.answer_of_tokens hts ht
  · intro e he
    exact Cursor.answer_of_error he

end ShellGuard
