import Mathlib
import ShellGuard.Proofs.Syntax.Places

/-!
# Where comments begin

Comments are looked for between tokens, so a `#` begins one wherever a token could begin.  A bare word
takes a `#` that follows it along, and none begins there.  No other reader does: behind a quoted text,
a parameter or a substitution a `#` hides the rest of its line, although what follows would belong to
the same word.
-/

namespace ShellGuard

open String (utf8Len)

namespace Lexeme

/-! ## What may follow a word -/

theorem word_rest {state : WordState} (hstate : state ≠ .fresh) (cs : List Char) :
    (word state cs).2.head? ≠ some '#' := by
  induction cs generalizing state with
  | nil => simp [word]
  | cons c cs ih =>
    unfold word
    by_cases hshielded : state = .shielded
    · rw [if_pos hshielded]
      exact ih (by decide)
    have hbegun : state = .begun := by
      cases state with
      | fresh => exact absurd rfl hstate
      | begun => rfl
      | shielded => exact absurd rfl hshielded
    rw [if_neg hshielded]
    by_cases htaken : isWordChar c = true ∨ (c = '#' ∧ state = .begun)
    · rw [if_pos htaken]
      exact ih (by decide)
    rw [if_neg htaken]
    by_cases hescape : c = '\\'
    · rw [if_pos hescape]
      exact ih (by decide)
    · rw [if_neg hescape]
      intro hhead
      exact htaken (.inr ⟨Option.some.inj hhead, hbegun⟩)

theorem word_fresh_rest {c : Char} {cs : List Char} (h : (word .fresh (c :: cs)).1 ≠ []) :
    (word .fresh (c :: cs)).2.head? ≠ some '#' := by
  unfold word at h ⊢
  rw [if_neg (by decide)] at h ⊢
  by_cases htaken : isWordChar c = true ∨ (c = '#' ∧ WordState.fresh = .begun)
  · rw [if_pos htaken]
    exact word_rest (by decide) cs
  rw [if_neg htaken] at h ⊢
  by_cases hescape : c = '\\'
  · rw [if_pos hescape]
    exact word_rest (by decide) cs
  · rw [if_neg hescape] at h
    exact absurd rfl h

end Lexeme

/-- Bare words, patterns among them. -/
def TokenKind.isBare : TokenKind → Bool
  | word | glob => true
  | _ => false

theorem TokenKind.isBare_of_isRedirect {k : TokenKind} (h : k.isRedirect = true) :
    k.isBare = false := by
  revert h
  cases k <;> simp [isBare, isRedirect]

namespace Lexeme

theorem wordOrUnknown_rest {c : Char} {cs : List Char}
    (h : (wordOrUnknown c cs).kind.isBare = true) :
    (wordOrUnknown c cs).rest.head? ≠ some '#' := by
  unfold wordOrUnknown at h ⊢
  dsimp only at h ⊢
  split at h
  · cases h
  · next htaken =>
    rw [if_neg htaken]
    exact word_fresh_rest (by simpa using htaken)

theorem numberOrWord_rest {c : Char} {cs : List Char}
    (h : (numberOrWord c cs).kind.isBare = true) :
    (numberOrWord c cs).rest.head? ≠ some '#' := by
  unfold numberOrWord at h ⊢
  dsimp only at h ⊢
  split at h
  · next hdigits =>
    rw [if_pos hdigits]
    exact wordOrUnknown_rest h
  next hdigits =>
  rw [if_neg hdigits]
  split at h
  · cases h
  · rw [TokenKind.isBare_of_isRedirect (greaterThan_isRedirect _ _)] at h
    cases h
  · exact wordOrUnknown_rest h

/-- A dollar sign that stands for itself is not followed by `#`, which would name a parameter. -/
theorem dollar_rest {cs : List Char} {lx : Lexeme} (h : dollar cs = .ok lx)
    (hk : lx.kind.isBare = true) : lx.rest.head? ≠ some '#' := by
  intro hhead
  cases dollar_form h with
  | braced | name | special => cases hk
  | substitution h => rw [(substitution_between h).1] at hk; cases hk
  | ansiC h => rw [(quoted_between h).1] at hk; cases hk
  | double h => rw [(quoted_between h).1] at hk; cases hk
  | alone =>
    obtain ⟨rest, rfl⟩ := List.head?_eq_some_iff.1 hhead
    cases h

/-- A bare word takes a `#` that follows it along. -/
theorem scan_rest {c : Char} {cs : List Char} {lx : Lexeme} (h : scan c cs = .ok lx)
    (hk : lx.kind.isBare = true) : lx.rest.head? ≠ some '#' := by
  cases scan_form h with
  | bar => revert hk; unfold bar; split <;> exact fun hk => by cases hk
  | ampersand => revert hk; unfold ampersand; split <;> exact fun hk => by cases hk
  | lessThan => revert hk; unfold lessThan; split <;> exact fun hk => by cases hk
  | greaterThan =>
    rw [TokenKind.isBare_of_isRedirect (greaterThan_isRedirect _ _)] at hk
    cases hk
  | double h => rw [(quoted_between h).1] at hk; cases hk
  | single h => rw [(quoted_between h).1] at hk; cases hk
  | backtick h => rw [(quoted_between h).1] at hk; cases hk
  | dollar => exact dollar_rest h hk
  | semicolon | newline | leftParen | rightParen => cases hk
  | number => exact numberOrWord_rest hk

end Lexeme

/-! ## Comments in gaps -/

/-- In a gap a comment begins behind `lead`. -/
def BeginsComment (blank lead : List Char) : Prop :=
  ∃ line, blank = lead ++ '#' :: line ∧ Passed lead ('#' :: line)

/-- The last thing in a gap is a blank or a joined line. -/
def EndsBlank (lead : List Char) : Prop :=
  ∃ front, (∃ c, Cursor.isGap c = true ∧ lead = front ++ [c]) ∨ lead = front ++ ['\\', '\n']

theorem EndsBlank.append {lead : List Char} (h : EndsBlank lead) (front : List Char) :
    EndsBlank (front ++ lead) := by
  obtain ⟨before, ⟨c, hc, rfl⟩ | rfl⟩ := h
  · exact ⟨front ++ before, .inl ⟨c, hc, (List.append_assoc ..).symm⟩⟩
  · exact ⟨front ++ before, .inr (List.append_assoc ..).symm⟩

theorem not_endsBlank_nil : ¬EndsBlank [] := by
  rintro ⟨front, ⟨c, -, h⟩ | h⟩
  · exact List.append_ne_nil_of_right_ne_nil front (by simp) h.symm
  · exact List.append_ne_nil_of_right_ne_nil front (by simp) h.symm

/-- What stands in front of a comment in its gap is none itself. -/
theorem Passed.endsBlank {lead line : List Char} (h : Passed lead ('#' :: line)) :
    lead = [] ∨ EndsBlank lead := by
  generalize hrest : '#' :: line = rest at h
  induction h with
  | nil => exact .inl rfl
  | @blank c gap rest hc _ ih =>
    right
    rcases ih hrest with rfl | hblank
    · refine ⟨[], .inl ⟨c, ?_, rfl⟩⟩
      rcases hc with rfl | rfl | rfl <;> rfl
    · exact hblank.append [c]
  | joined _ ih =>
    right
    rcases ih hrest with rfl | hblank
    · exact ⟨[], .inr rfl⟩
    · exact hblank.append ['\\', '\n']
  | comment _ hend =>
    subst hrest
    rcases hend with hend | hend
    · cases hend
    · simp at hend

/-! ## Neighbouring tokens -/

/-- The text between a token and the one in front of it, or the front of the text. -/
def gapBefore (s : String) (front : List Token) (u : Token) : List Char :=
  spanText .start s ((front.getLast?.map Token.stop).getD 0) u.position.offset

/-- The text behind a token. -/
def textAfter (s : String) (t : Token) : List Char :=
  spanText .start s t.stop s.utf8ByteSize

/-- How two neighbouring tokens were read: what the first left begins with the gap between them, and
the second is what stands behind it. -/
structure Neighbours (s : String) (front : List Token) (t u : Token) (lx : Lexeme) : Prop where
  read : ∃ c cs, Lexeme.scan c cs = .ok lx ∧ t.kind = lx.kind
  after : textAfter s t = lx.rest
  between : gapBefore s (front ++ [t]) u = (Cursor.gap false lx.rest).1
  next : (Cursor.gap false lx.rest).2 = [] ∧ u.kind = .eof ∨
    ∃ d ds lx', (Cursor.gap false lx.rest).2 = d :: ds ∧ Lexeme.scan d ds = .ok lx' ∧
      u.kind = lx'.kind

/-- Only the last token ends the text. -/
theorem Tiles.ne_eof {o : Nat} {cs : List Char} {front back : List Token} {t u : Token}
    (h : Tiles o cs (front ++ t :: u :: back)) : t.kind ≠ .eof := by
  obtain ⟨most, last, hts, hmost, -⟩ := h.ending
  have hdrop : (front ++ t :: u :: back).dropLast = most := by rw [hts, List.dropLast_concat]
  have hmem : t ∈ (front ++ t :: u :: back).dropLast := by
    rw [List.dropLast_append_of_ne_nil (List.cons_ne_nil t _)]
    simp
  exact (hmost t (hdrop ▸ hmem)).1

/-- A token stands behind the gap and is what is read there. -/
theorem Cursor.next_token {cur : Cursor} {u : Token} (h : cur.next.1 = .ok u) :
    u.position = cur.position.after (gap false cur.rest).1 ∧
      ((gap false cur.rest).2 = [] ∧ u.kind = .eof ∨
        ∃ d ds lx, (gap false cur.rest).2 = d :: ds ∧ Lexeme.scan d ds = .ok lx ∧
          u.kind = lx.kind) := by
  have houtcome := next_outcome cur
  generalize cur.next = r at houtcome h
  cases houtcome with
  | ended cut =>
    cases h
    rw [cut]
    exact ⟨rfl, .inl ⟨rfl, rfl⟩⟩
  | unclosed => cases h
  | token cut scan =>
    cases h
    rw [cut]
    exact ⟨rfl, .inr ⟨_, _, _, rfl, scan, rfl⟩⟩

theorem tokens_neighbours {s : String} {ts front back : List Token} {t u : Token}
    (h : tokenize s = .ok ts) (hts : ts = front ++ t :: u :: back) :
    ∃ lx, Neighbours s front t u lx := by
  subst hts
  have hne := (Cursor.tokens_tiles h).ne_eof
  obtain ⟨cur, hcur, ht, hu⟩ : ∃ cur : Cursor, cur.Tracks [] s.toList ∧ cur.next.1 = .ok t ∧
      cur.next.2.next.1 = .ok u := by
    refine ⟨(Cursor.ofText s .start).past front.length, (Cursor.tracks_ofText [] s).past _, ?_, ?_⟩
    · exact Cursor.answer_of_tokens h (by simp)
    · rw [← Cursor.past_succ]
      exact Cursor.answer_of_tokens h (by simp)
  have hfirst := Cursor.next_outcome cur
  generalize cur.next = r at hfirst ht hu
  cases hfirst with
  | ended => cases ht; exact absurd rfl hne
  | unclosed => cases ht
  | @token blank cs c lx cut scan =>
    cases ht
    obtain ⟨before, htext, hposition⟩ := hcur.pass cut
    obtain ⟨huposition, hnext⟩ := Cursor.next_token hu
    have hcut := Cursor.gap_append false lx.rest
    rw [← Lexeme.scan_append scan] at htext
    have hsize := utf8ByteSize_eq_utf8Len s
    rw [htext, String.utf8Len_append, String.utf8Len_append] at hsize
    have hstart : (cur.position.after blank).offset = utf8Len before := by
      rw [hposition]
      rfl
    have hstop : (lx.token (cur.position.after blank)).stop =
        Position.start.offset + utf8Len (before ++ lx.text) := by
      show ((cur.position.after blank).after lx.text).offset = 0 + _
      rw [Position.after_offset, hstart, String.utf8Len_append]
      omega
    refine ⟨lx, ⟨c, cs, scan, rfl⟩, ?_, ?_, hnext⟩
    · have hs : s.toList = (before ++ lx.text) ++ (lx.rest ++ []) := by simp [htext]
      refine spanText_eq hs hstop ?_
      rw [hsize, hstop, String.utf8Len_append]
      show _ = 0 + _ + _
      omega
    · have hs : s.toList = (before ++ lx.text) ++
          ((Cursor.gap false lx.rest).1 ++ (Cursor.gap false lx.rest).2) := by
        rw [hcut, htext, List.append_assoc]
      rw [gapBefore, List.getLast?_concat]
      refine spanText_eq hs hstop ?_
      rw [huposition, Position.after_offset]
      rfl

/-- Tokens behind which a comment may begin without a blank. -/
def TokenKind.separates (k : TokenKind) : Bool :=
  k == .newline || k.isOperator || k.isRedirect || k == .leftParen || k == .rightParen

/-- Every comment begins at the front of the text, behind a blank or a joined line, or behind a token
that is no part of a word. -/
def CommentsApart (s : String) (ts : List Token) : Prop :=
  ∀ front u back lead, ts = front ++ u :: back → BeginsComment (gapBefore s front u) lead →
    EndsBlank lead ∨ lead = [] ∧ ∀ t, front.getLast? = some t → t.kind.separates = true

/-- A comment takes the whole gap in front of `u` and with it the rest of a line. -/
structure HidesLine (blank : List Char) (u : Token) : Prop where
  begins : BeginsComment blank []
  line : '\n' ∉ blank
  next : u.kind = .newline ∨ u.kind = .eof

/-- Where the comments of a text begin and what they hide. -/
structure CommentsOf (s : String) (ts : List Token) : Prop where
  /-- A comment begins at the front of the text, behind a blank or a joined line, or right behind a
  token that is no bare word. -/
  begins : ∀ front u back lead, ts = front ++ u :: back → BeginsComment (gapBefore s front u) lead →
    EndsBlank lead ∨ lead = [] ∧ ∀ t, front.getLast? = some t → t.kind.isBare = false
  /-- Right behind a token every `#` begins one, and the rest of its line gives no token. -/
  hides : ∀ front t u back, ts = front ++ t :: u :: back → (textAfter s t).head? = some '#' →
    HidesLine (gapBefore s (front ++ [t]) u) u
  /-- So comments are kept apart from words where no `#` directly follows a part of one. -/
  apart : CommentsApart s ts ↔ ∀ front t u back, ts = front ++ t :: u :: back →
    (textAfter s t).head? = some '#' → t.kind.separates = true

namespace Neighbours

variable {s : String} {front : List Token} {t u : Token} {lx : Lexeme}

theorem hidesLine (h : Neighbours s front t u lx) (hhead : (textAfter s t).head? = some '#') :
    HidesLine (gapBefore s (front ++ [t]) u) u := by
  rw [h.after] at hhead
  obtain ⟨cs, hrest⟩ := List.head?_eq_some_iff.1 hhead
  have hgap : Cursor.gap false ('#' :: cs) = Lexeme.push '#' (Cursor.gap true cs) := by
    rw [Cursor.gap]
    · rfl
    · simp
  obtain ⟨hline, hend⟩ := (Cursor.gap_spec true cs).1 rfl
  have hblank : gapBefore s (front ++ [t]) u = '#' :: (Cursor.gap true cs).1 := by
    rw [h.between, hrest, hgap]
    rfl
  have hnext := h.next
  rw [hrest, hgap] at hnext
  rw [hblank]
  refine ⟨⟨_, rfl, .nil _⟩, by simpa using hline, ?_⟩
  rcases hnext with ⟨-, heof⟩ | ⟨d, ds, lx', hleft, hscan, hkind⟩
  · exact .inr heof
  · -- a comment runs up to a line feed, so the token behind it is that line feed
    have hd : d = '\n' := by
      rw [show (Cursor.gap true cs).2 = d :: ds from hleft] at hend
      rcases hend with hend | hend
      · cases hend
      · exact Option.some.inj hend
    subst hd
    cases hscan
    exact .inl hkind

theorem of_begins (h : Neighbours s front t u lx)
    (hcomment : BeginsComment (gapBefore s (front ++ [t]) u) []) :
    (textAfter s t).head? = some '#' ∧ t.kind.isBare = false := by
  obtain ⟨line, hblank, -⟩ := hcomment
  obtain ⟨c, cs, hscan, hkind⟩ := h.read
  have hhead : lx.rest.head? = some '#' := by
    rw [← Cursor.gap_append false lx.rest, ← h.between, hblank]
    rfl
  refine ⟨by rw [h.after, hhead], ?_⟩
  by_contra hbare
  rw [hkind, Bool.not_eq_false] at hbare
  exact Lexeme.scan_rest hscan hbare hhead

end Neighbours

section Comments

variable {s : String} {ts : List Token} (h : tokenize s = .ok ts)

include h

theorem comment_hides {front back : List Token} {t u : Token} (hts : ts = front ++ t :: u :: back)
    (hhead : (textAfter s t).head? = some '#') : HidesLine (gapBefore s (front ++ [t]) u) u := by
  obtain ⟨lx, hneighbours⟩ := tokens_neighbours h hts
  exact hneighbours.hidesLine hhead

/-- A comment with nothing in front of it in its gap stands right behind a token, if there is one. -/
theorem comment_begins {front back : List Token} {u : Token} {lead : List Char}
    (hts : ts = front ++ u :: back) (hcomment : BeginsComment (gapBefore s front u) lead) :
    EndsBlank lead ∨ lead = [] ∧ ∀ t, front.getLast? = some t →
      ∃ front', ts = front' ++ t :: u :: back ∧ (textAfter s t).head? = some '#' ∧
        t.kind.isBare = false := by
  obtain ⟨line, hblank, hpassed⟩ := id hcomment
  rcases hpassed.endsBlank with rfl | hlead
  · refine .inr ⟨rfl, fun t ht => ?_⟩
    obtain ⟨front', rfl⟩ := List.getLast?_eq_some_iff.1 ht
    rw [List.append_assoc] at hts
    obtain ⟨lx, hneighbours⟩ := tokens_neighbours h hts
    exact ⟨front', hts, hneighbours.of_begins hcomment⟩
  · exact .inl hlead

theorem commentsApart_iff : CommentsApart s ts ↔ ∀ front t u back, ts = front ++ t :: u :: back →
    (textAfter s t).head? = some '#' → t.kind.separates = true := by
  constructor
  · intro hapart front t u back hts hhead
    have hcomment := (comment_hides h hts hhead).begins
    have hts' : ts = (front ++ [t]) ++ u :: back := by rw [hts, List.append_assoc]; rfl
    rcases hapart _ u back [] hts' hcomment with hlead | ⟨-, hlast⟩
    · exact absurd hlead not_endsBlank_nil
    · exact hlast t List.getLast?_concat
  · intro hfollowed front u back lead hts hcomment
    refine (comment_begins h hts hcomment).imp_right fun hlead => ⟨hlead.1, fun t ht => ?_⟩
    obtain ⟨front', hts', hhead, -⟩ := hlead.2 t ht
    exact hfollowed front' t u back hts' hhead

end Comments

/-- A comment begins right behind every token that a `#` directly follows, and that can be any token
but a bare word. -/
theorem tokenize_comments {s : String} {ts : List Token} (h : tokenize s = .ok ts) :
    CommentsOf s ts := by
  refine ⟨fun front u back lead hts hcomment => ?_, fun _ _ _ _ => comment_hides h,
    commentsApart_iff h⟩
  refine (comment_begins h hts hcomment).imp_right fun hlead => ⟨hlead.1, fun t ht => ?_⟩
  obtain ⟨-, -, -, hbare⟩ := hlead.2 t ht
  exact hbare

/-- A `#` inside a word, one behind a quoted text and one behind a semicolon. -/
theorem tokenize_comments_three_signs :
    ∃ ts, tokenize "a#b \"c\"#d\nls;#e" = .ok ts ∧ CommentsOf "a#b \"c\"#d\nls;#e" ts := by
  have h : tokenize "a#b \"c\"#d\nls;#e" = .ok [⟨.word, "a#b", ⟨1, 1, 0⟩, 3⟩,
      ⟨.quoted .double, "c", ⟨1, 5, 4⟩, 7⟩, ⟨.newline, "\n", ⟨1, 10, 9⟩, 10⟩,
      ⟨.word, "ls", ⟨2, 1, 10⟩, 12⟩, ⟨.semicolon, ";", ⟨2, 3, 12⟩, 13⟩,
      ⟨.eof, "", ⟨2, 6, 15⟩, 15⟩] := by decide +kernel
  exact ⟨_, h, tokenize_comments h⟩

/-- Behind a quoted text the rest of the line is lost, a command in it included. -/
theorem quoted_text_hides_line :
    ∃ ts, tokenize "echo \"a\"#b; ls" = .ok ts ∧ ¬CommentsApart "echo \"a\"#b; ls" ts := by
  have h : tokenize "echo \"a\"#b; ls" = .ok [⟨.word, "echo", ⟨1, 1, 0⟩, 4⟩,
      ⟨.quoted .double, "a", ⟨1, 6, 5⟩, 8⟩, ⟨.eof, "", ⟨1, 15, 14⟩, 14⟩] := by decide +kernel
  refine ⟨_, h, fun hapart => ?_⟩
  have hquoted := (commentsApart_iff h).1 hapart [_] _ _ [] rfl (by decide +kernel)
  cases hquoted

end ShellGuard
