import Mathlib
import ShellGuard.Syntax.Lexer

/-!
# Cutting a text into tokens loses nothing

The tokens of a text tile it.  `Tiles o cs ts` says so by recursion on the tokens: in front of each
one stands a gap (`Passed`), then its own text, which its kind and value determine
(`TokenKind.Spells`), and the next tile begins where it stops.  One step of the cursor lays one tile,
so `Cursor.tokens_tiles` is an induction along the loop and every statement about offsets is read off
the tiling.

Offsets count bytes of UTF-8 while the readers move by characters.  The two meet in
`Position.after_offset`, and `spanText` cuts the bytes of a span out of the text itself, so the main
theorem speaks about the text that was given and not about what the readers handed on.
-/

namespace ShellGuard

open String (utf8Len)

/-! ## Offsets -/

/-- Reading a text moves the offset by its length in bytes. -/
theorem Position.after_offset (p : Position) (cs : List Char) :
    (p.after cs).offset = p.offset + utf8Len cs := by
  induction cs generalizing p with
  | nil => rfl
  | cons c cs ih =>
    have hc : (p.advance c).offset = p.offset + c.utf8Size := by
      unfold Position.advance
      split <;> rfl
    rw [Position.after_cons, ih, hc, String.utf8Len_cons]
    omega

/-! ## What may stand between tokens -/

/-- `Passed gap rest` says that `gap`, which stands in front of `rest`, belongs to no token: it is
made of blanks and joined lines, and of a comment at its end that runs up to a line feed or to the
end of the text. -/
inductive Passed : List Char → List Char → Prop
  | nil (rest : List Char) : Passed [] rest
  | blank {c : Char} {gap rest : List Char} (hc : c = ' ' ∨ c = '\t' ∨ c = '\r')
    (h : Passed gap rest) : Passed (c :: gap) rest
  | joined {gap rest : List Char} (h : Passed gap rest) : Passed ('\\' :: '\n' :: gap) rest
  | comment {text rest : List Char} (htext : '\n' ∉ text)
    (hrest : rest = [] ∨ rest.head? = some '\n') : Passed ('#' :: text) rest

namespace Cursor

/-- What the cursor passes over.  Inside a comment that is everything up to the line feed, outside one
it is a gap in front of what is left; the recursion goes from the second to the first at a `#` and
never back. -/
theorem gap_spec (inComment : Bool) (cs : List Char) :
    (inComment = true → '\n' ∉ (gap inComment cs).1 ∧
      ((gap inComment cs).2 = [] ∨ (gap inComment cs).2.head? = some '\n')) ∧
    (inComment = false → Passed (gap inComment cs).1 (gap inComment cs).2) := by
  fun_induction gap inComment cs with
  | case1 => exact ⟨fun _ => by simp, fun _ => .nil []⟩
  | case2 cs => exact ⟨fun _ => by simp, fun h => absurd h (by decide)⟩
  | case3 inComment cs hin ih => exact ⟨fun h => absurd h hin, fun _ => .joined (ih.2 rfl)⟩
  | case4 inComment c cs _ hc ih =>
    obtain ⟨rfl, hn⟩ : inComment = true ∧ c ≠ '\n' := by simpa using hc
    obtain ⟨htext, hrest⟩ := ih.1 rfl
    exact ⟨fun _ => ⟨by simpa [Lexeme.push, htext] using hn.symm, hrest⟩, fun h => by simp at h⟩
  | case5 inComment c cs _ hin hc ih =>
    have hblank : c = ' ' ∨ c = '\t' ∨ c = '\r' := by simpa [isGap, or_assoc] using hc
    refine ⟨fun h => ?_, fun _ => .blank hblank (ih.2 rfl)⟩
    rcases hblank with rfl | rfl | rfl <;> simp [h] at hin
  | case6 inComment cs _ hin _ ih =>
    refine ⟨fun h => by simp [h] at hin, fun _ => ?_⟩
    exact .comment (ih.1 rfl).1 (ih.1 rfl).2
  | case7 inComment c cs _ hin =>
    refine ⟨fun h => ?_, fun _ => .nil _⟩
    have hc : c = '\n' := by simpa [h] using hin
    simp [hc]

theorem gap_passed (cs : List Char) : Passed (gap false cs).1 (gap false cs).2 :=
  (gap_spec false cs).2 rfl

end Cursor

/-! ## How a token is written -/

namespace TokenKind

/-- The kinds of token that are written as their value and in no other way. -/
def isPlain : TokenKind → Bool
  | quoted _ | substitution | backtick | redirectOut | redirectFd | eof => false
  | _ => true

/-- Whether `text`, with `after` behind it, is a way to write a token of a kind and value: the value
between its delimiters, or the value itself.  A descriptor, possibly none, and one `>` take a bar
that follows along, and the bar is no part of the value. -/
def Spells (kind : TokenKind) (value text after : List Char) : Prop :=
  match kind with
  | quoted .single => text = '\'' :: (value ++ ['\''])
  | quoted .double => text = '"' :: (value ++ ['"']) ∨ text = '$' :: '"' :: (value ++ ['"'])
  | quoted .ansiC => text = '$' :: '\'' :: (value ++ ['\''])
  | substitution => text = '$' :: '(' :: (value ++ [')'])
  | backtick => text = '`' :: (value ++ ['`'])
  | redirectOut | redirectFd =>
    if value.dropWhile Char.isDigit = ['>'] then
      text = value ∧ after.head? ≠ some '|' ∨ text = value ++ ['|']
    else text = value
  | _ => text = value

theorem spells_self {kind : TokenKind} (h : kind.isPlain = true) (value after : List Char) :
    kind.Spells value value after := by
  cases kind <;> first | rfl | simp [isPlain] at h

end TokenKind

namespace Lexeme

/-- A token inside a text is not the end of it and is written as its kind and value ask. -/
structure WellSpelled (lx : Lexeme) : Prop where
  kind_ne : lx.kind ≠ .eof
  spelled : lx.kind.Spells lx.value lx.text lx.rest

theorem whole_wellSpelled {kind : TokenKind} (h : kind.isPlain = true) (text rest : List Char) :
    (whole kind text rest).WellSpelled where
  kind_ne := by rintro rfl; simp [TokenKind.isPlain] at h
  spelled := TokenKind.spells_self h text rest

/-- A redirect that takes no bar along is written as its value. -/
theorem whole_redirect_wellSpelled {kind : TokenKind} (h : kind = .redirectOut ∨ kind = .redirectFd)
    {text : List Char} (ht : text.dropWhile Char.isDigit ≠ ['>']) (rest : List Char) :
    (whole kind text rest).WellSpelled := by
  rcases h with rfl | rfl
  all_goals exact ⟨by simp [whole], by simp [whole, TokenKind.Spells, ht]⟩

theorem bar_wellSpelled (cs : List Char) : (bar cs).WellSpelled := by
  unfold bar
  split <;> exact whole_wellSpelled rfl _ _

theorem ampersand_wellSpelled (cs : List Char) : (ampersand cs).WellSpelled := by
  unfold ampersand
  split
  · exact whole_wellSpelled rfl _ _
  · exact whole_wellSpelled rfl _ _
  · exact whole_redirect_wellSpelled (.inl rfl) (by decide) _
  · exact whole_wellSpelled rfl _ _

theorem lessThan_wellSpelled (cs : List Char) : (lessThan cs).WellSpelled := by
  unfold lessThan
  split <;> exact whole_wellSpelled rfl _ _

/-- A run of digits in front of another character is dropped as a whole. -/
theorem dropWhile_isDigit_append {fd : List Char} (hfd : ∀ c ∈ fd, c.isDigit = true) {c : Char}
    (hc : c.isDigit = false) (cs : List Char) : (fd ++ c :: cs).dropWhile Char.isDigit = c :: cs := by
  rw [List.dropWhile_append_of_pos hfd, List.dropWhile_cons_of_neg (by simp [hc])]

theorem redirectKind_cases (fd : List Char) (kind : TokenKind) :
    redirectKind fd kind = kind ∨ redirectKind fd kind = .redirectFd := by
  unfold redirectKind
  split
  · exact .inl rfl
  · exact .inr rfl

theorem greaterThan_isRedirect (fd cs : List Char) :
    (greaterThan fd cs).kind.isRedirect = true := by
  unfold greaterThan redirectKind
  cases fd <;> split <;> rfl

theorem greaterThan_wellSpelled {fd : List Char} (hfd : ∀ c ∈ fd, c.isDigit = true)
    (cs : List Char) : (greaterThan fd cs).WellSpelled := by
  have hone : (fd ++ ['>']).dropWhile Char.isDigit = ['>'] :=
    dropWhile_isDigit_append hfd (by decide) []
  have htwo : (fd ++ ['>', '>']).dropWhile Char.isDigit ≠ ['>'] := by
    rw [dropWhile_isDigit_append hfd (by decide)]
    decide
  unfold greaterThan
  split
  · rcases redirectKind_cases fd .redirectAppend with hk | hk <;> rw [hk]
    · exact whole_wellSpelled rfl _ _
    · exact whole_redirect_wellSpelled (.inr rfl) htwo _
  · exact whole_wellSpelled rfl _ _
  · rcases redirectKind_cases fd .redirectOut with hk | hk <;> rw [hk]
    all_goals exact ⟨by simp, by simp [TokenKind.Spells, hone]⟩
  · rename_i hbar
    have hhead : cs.head? ≠ some '|' := by
      intro h
      obtain ⟨rest, rfl⟩ := List.head?_eq_some_iff.1 h
      exact hbar rest rfl
    rcases redirectKind_cases fd .redirectOut with hk | hk <;> rw [hk]
    all_goals exact ⟨by simp [whole], by simp [whole, TokenKind.Spells, hone, hhead]⟩

/-- A quoted text is its value between the opener and the closing quote. -/
theorem quoted_between {kind : TokenKind} {opener : List Char} {close : Char} {escapes : Bool}
    {cs : List Char} {lx : Lexeme} (h : quoted kind opener close escapes cs = .ok lx) :
    lx.kind = kind ∧ lx.text = opener ++ lx.value ++ [close] := by
  unfold quoted at h
  split at h
  · simp at h
  · obtain rfl := Except.ok.inj h
    exact ⟨rfl, rfl⟩

theorem substitution_between {cs : List Char} {lx : Lexeme} (h : substitution cs = .ok lx) :
    lx.kind = .substitution ∧ lx.text = ['$', '('] ++ lx.value ++ [')'] := by
  unfold substitution at h
  split at h
  · simp at h
  · obtain rfl := Except.ok.inj h
    exact ⟨rfl, rfl⟩

/-- A text between delimiters is written as its kind asks if the delimiters are those of the kind. -/
theorem between_wellSpelled {lx : Lexeme} {kind : TokenKind} {opener : List Char} {close : Char}
    (h : lx.kind = kind ∧ lx.text = opener ++ lx.value ++ [close]) (hkind : kind ≠ .eof)
    (hspells : kind.Spells lx.value (opener ++ lx.value ++ [close]) lx.rest) : lx.WellSpelled := by
  obtain ⟨hk, ht⟩ := h
  constructor
  · rw [hk]
    exact hkind
  · rw [hk, ht]
    exact hspells

theorem dollar_wellSpelled {cs : List Char} {lx : Lexeme} (h : DollarForm cs lx) :
    lx.WellSpelled := by
  cases h with
  | substitution h =>
    exact between_wellSpelled (substitution_between h) (by decide) (by simp [TokenKind.Spells])
  | ansiC h =>
    exact between_wellSpelled (quoted_between h) (by decide) (by simp [TokenKind.Spells])
  | double h =>
    exact between_wellSpelled (quoted_between h) (by decide) (by simp [TokenKind.Spells])
  | braced | name | special | alone => exact whole_wellSpelled rfl _ _

theorem wordOrUnknown_wellSpelled (c : Char) (cs : List Char) : (wordOrUnknown c cs).WellSpelled := by
  unfold wordOrUnknown
  dsimp only
  split
  · exact whole_wellSpelled rfl _ _
  · split <;> exact whole_wellSpelled rfl _ _

theorem numberOrWord_wellSpelled (c : Char) (cs : List Char) : (numberOrWord c cs).WellSpelled := by
  have hdigits : ∀ d ∈ (c :: cs).takeWhile Char.isDigit, d.isDigit = true :=
    List.all_eq_true.1 List.all_takeWhile
  unfold numberOrWord
  dsimp only
  split
  · exact wordOrUnknown_wellSpelled c cs
  · split
    · refine whole_redirect_wellSpelled (.inr rfl) ?_ _
      rw [dropWhile_isDigit_append hdigits (by decide)]
      decide
    · exact greaterThan_wellSpelled hdigits _
    · exact wordOrUnknown_wellSpelled c cs

/-- Every token is written as its kind and value ask. -/
theorem scan_wellSpelled {c : Char} {cs : List Char} {lx : Lexeme} (h : scan c cs = .ok lx) :
    lx.WellSpelled := by
  cases scan_form h with
  | bar => exact bar_wellSpelled cs
  | ampersand => exact ampersand_wellSpelled cs
  | lessThan => exact lessThan_wellSpelled cs
  | greaterThan => exact greaterThan_wellSpelled (by simp) cs
  | double h =>
    exact between_wellSpelled (quoted_between h) (by decide) (by simp [TokenKind.Spells])
  | single h =>
    exact between_wellSpelled (quoted_between h) (by decide) (by simp [TokenKind.Spells])
  | backtick h =>
    exact between_wellSpelled (quoted_between h) (by decide) (by simp [TokenKind.Spells])
  | dollar h => exact dollar_wellSpelled h
  | semicolon | newline | leftParen | rightParen => exact whole_wellSpelled rfl _ _
  | number => exact numberOrWord_wellSpelled c cs

end Lexeme

/-! ## Tilings -/

/-- Whether `text`, with `after` behind it, is a way to write a token. -/
def Token.Spells (t : Token) (text after : List Char) : Prop :=
  t.kind.Spells t.value.toList text after

/-- `Tiles o cs ts` says that the tokens `ts` cover the text `cs`, which begins at byte `o`: a gap and
a token in turn, up to the token that ends the text. -/
inductive Tiles : Nat → List Char → List Token → Prop
  | last {o : Nat} {gap : List Char} {t : Token} (passed : Passed gap []) (kind : t.kind = .eof)
    (value : t.value = "") (start : t.position.offset = o + utf8Len gap)
    (stop : t.stop = t.position.offset) : Tiles o gap [t]
  | token {o : Nat} {gap text rest : List Char} {t : Token} {ts : List Token}
    (passed : Passed gap (text ++ rest)) (kind : t.kind ≠ .eof) (nonempty : text ≠ [])
    (start : t.position.offset = o + utf8Len gap)
    (stop : t.stop = t.position.offset + utf8Len text) (spelled : t.Spells text rest)
    (more : Tiles t.stop rest ts) : Tiles o (gap ++ (text ++ rest)) (t :: ts)

namespace Cursor

/-- What reading one token can do: it passes a gap and then gives the token that ends the text, or
takes one token off what is left. -/
theorem next_cases {cur cur' : Cursor} {t : Token} (h : cur.next = (.ok t, cur')) :
    ∃ gap, (cur.rest = gap ∧ Passed gap [] ∧
        t = Token.eof (cur.position.after gap) (cur.position.after gap).offset) ∨
      ∃ c cs lx, cur.rest = gap ++ c :: cs ∧ Passed gap (c :: cs) ∧ Lexeme.scan c cs = .ok lx ∧
        t = ⟨lx.kind, String.ofList lx.value, cur.position.after gap,
          ((cur.position.after gap).after lx.text).offset⟩ ∧
        cur' = ⟨lx.rest, (cur.position.after gap).after lx.text⟩ := by
  have hcut := gap_append false cur.rest
  have hpassed := gap_passed cur.rest
  unfold next at h
  dsimp only at h
  refine ⟨(gap false cur.rest).1, ?_⟩
  split at h
  · rename_i hr
    rw [hr] at hcut hpassed
    obtain ⟨ht, _⟩ := Prod.mk.inj h
    exact .inl ⟨by rw [← List.append_nil (gap false cur.rest).1, hcut], hpassed,
      (Except.ok.inj ht).symm⟩
  · rename_i c cs hr
    rw [hr] at hcut hpassed
    split at h
    · simp at h
    · rename_i lx hs
      obtain ⟨ht, hcur⟩ := Prod.mk.inj h
      exact .inr ⟨c, cs, lx, hcut.symm, hpassed, hs, (Except.ok.inj ht).symm, hcur.symm⟩

/-- The token that ends a text tiles what is left of it. -/
theorem next_tiles_last {cur cur' : Cursor} {t : Token} (h : cur.next = (.ok t, cur'))
    (ht : t.kind = .eof) : Tiles cur.position.offset cur.rest [t] := by
  obtain ⟨gap, ⟨hcut, hpassed, rfl⟩ | ⟨c, cs, lx, _, _, hs, rfl, _⟩⟩ := next_cases h
  · rw [hcut]
    exact .last hpassed rfl rfl (Position.after_offset _ _) rfl
  · exact absurd ht (Lexeme.scan_wellSpelled hs).kind_ne

/-- A token other than the last is one tile in front of a tiling of the rest. -/
theorem next_tiles_token {cur cur' : Cursor} {t : Token} {ts : List Token}
    (h : cur.next = (.ok t, cur')) (ht : t.kind ≠ .eof)
    (more : Tiles cur'.position.offset cur'.rest ts) :
    Tiles cur.position.offset cur.rest (t :: ts) := by
  obtain ⟨gap, ⟨_, _, rfl⟩ | ⟨c, cs, lx, hcut, hpassed, hs, rfl, rfl⟩⟩ := next_cases h
  · exact absurd rfl ht
  · have hspelled := (Lexeme.scan_wellSpelled hs).spelled
    rw [← Lexeme.scan_append hs] at hpassed hcut
    rw [hcut]
    refine .token hpassed ht (Lexeme.scan_text hs) (Position.after_offset _ _)
      (Position.after_offset _ _) ?_ more
    simpa [Token.Spells] using hspelled

/-- The tokens of a text tile it. -/
theorem tokens_tiles {cur : Cursor} {ts : List Token} (h : cur.tokens = .ok ts) :
    Tiles cur.position.offset cur.rest ts := by
  fun_induction tokens cur generalizing ts with
  | case1 => simp at h
  | case2 cur t cur' hnext ht =>
    obtain rfl := Except.ok.inj h
    exact next_tiles_last hnext ht
  | case3 cur t cur' hnext ht ih =>
    cases hrest : cur'.tokens with
    | error e => simp [hrest, Except.map] at h
    | ok more =>
      obtain rfl : t :: more = ts := by simpa [hrest, Except.map] using h
      exact next_tiles_token hnext ht (ih hrest)

end Cursor

namespace Tiles

variable {o : Nat} {cs : List Char} {ts : List Token}

/-- No tile reaches out of the text. -/
theorem bounds (h : Tiles o cs ts) :
    ∀ t ∈ ts, o ≤ t.position.offset ∧ t.position.offset ≤ t.stop ∧ t.stop ≤ o + utf8Len cs := by
  induction h with
  | last _ _ _ start stop =>
    intro t ht
    obtain rfl := List.mem_singleton.1 ht
    omega
  | @token o gap text rest t ts _ _ _ start stop _ more ih =>
    have hlen : utf8Len (gap ++ (text ++ rest)) = utf8Len gap + (utf8Len text + utf8Len rest) := by
      rw [String.utf8Len_append, String.utf8Len_append]
    intro u hu
    rcases List.mem_cons.1 hu with rfl | hu
    · omega
    · have := ih u hu
      omega

/-- Each tile but the last takes some text, and it ends before the later ones begin. -/
theorem separated (h : Tiles o cs ts) :
    ts.Pairwise fun t u => t.position.offset < t.stop ∧ t.stop ≤ u.position.offset := by
  induction h with
  | last => exact List.pairwise_singleton _ _
  | @token o gap text rest t ts _ _ nonempty _ stop _ more ih =>
    have htext : 0 < utf8Len text :=
      Nat.pos_of_ne_zero fun h => nonempty (String.utf8Len_eq_zero.1 h)
    refine List.pairwise_cons.2 ⟨fun u hu => ⟨by omega, ?_⟩, ih⟩
    exact (more.bounds u hu).1

theorem ordered (h : Tiles o cs ts) : ts.Pairwise fun t u => t.stop ≤ u.position.offset :=
  h.separated.imp And.right

/-- All tiles but the last take some text, and the last one marks the end of it. -/
theorem ending (h : Tiles o cs ts) :
    ∃ front last, ts = front ++ [last] ∧
      (∀ t ∈ front, t.kind ≠ .eof ∧ t.position.offset < t.stop) ∧
      last.kind = .eof ∧ last.position.offset = o + utf8Len cs ∧ last.stop = o + utf8Len cs := by
  induction h with
  | @last o gap t _ kind _ start stop => exact ⟨[], t, rfl, by simp, kind, start, by omega⟩
  | @token o gap text rest t ts _ kind nonempty start stop _ more ih =>
    obtain ⟨front, last, rfl, hfront, hkind, hstart, hstop⟩ := ih
    have htext : 0 < utf8Len text :=
      Nat.pos_of_ne_zero fun h => nonempty (String.utf8Len_eq_zero.1 h)
    have hlen : utf8Len (gap ++ (text ++ rest)) = utf8Len gap + (utf8Len text + utf8Len rest) := by
      rw [String.utf8Len_append, String.utf8Len_append]
    refine ⟨t :: front, last, rfl, ?_, hkind, by omega, by omega⟩
    intro u hu
    rcases List.mem_cons.1 hu with rfl | hu
    · exact ⟨kind, by omega⟩
    · exact hfront u hu

/-- Where a token stands: the text before it up to where the token in front of it stopped, a gap, its
own text, and what follows. -/
theorem cut (h : Tiles o cs ts) {front back : List Token} {t : Token} (hts : ts = front ++ t :: back) :
    ∃ before gap text after, cs = before ++ (gap ++ (text ++ after)) ∧
      (front.getLast?.map Token.stop).getD o = o + utf8Len before ∧
      t.position.offset = o + utf8Len before + utf8Len gap ∧
      t.stop = t.position.offset + utf8Len text ∧
      Passed gap (text ++ after) ∧ t.Spells text after := by
  induction h generalizing front with
  | @last o gap u passed kind value start stop =>
    obtain ⟨rfl, rfl, rfl⟩ : front = [] ∧ u = t ∧ back = [] := by
      cases front with
      | nil => simpa using hts
      | cons f front => simp at hts
    refine ⟨[], gap, [], [], by simp, rfl, by simpa using start, by simpa using stop, passed, ?_⟩
    simp [Token.Spells, kind, value, TokenKind.Spells]
  | @token o gap text rest u ts passed kind nonempty start stop spelled more ih =>
    cases front with
    | nil =>
      obtain ⟨rfl, rfl⟩ := List.cons.inj hts
      exact ⟨[], gap, text, rest, by simp, rfl, by simpa using start, stop, passed, spelled⟩
    | cons f front =>
      rw [List.cons_append] at hts
      obtain ⟨rfl, hmore⟩ := List.cons.inj hts
      obtain ⟨before, gap', text', after, rfl, hfrom, hstart, hstop, hpassed, hspelled⟩ := ih hmore
      refine ⟨gap ++ (text ++ before), gap', text', after, by simp, ?_, ?_, hstop, hpassed,
        hspelled⟩
      · -- The token in front of `t` is the last of `front`, or `u` itself when there is none.
        have hlast : (((u :: front).getLast?).map Token.stop).getD o =
            (front.getLast?.map Token.stop).getD u.stop := by
          rw [List.getLast?_cons]
          cases front.getLast? <;> rfl
        rw [hlast, hfrom, String.utf8Len_append, String.utf8Len_append]
        omega
      · rw [hstart, String.utf8Len_append, String.utf8Len_append]
        omega

end Tiles

/-! ## The text of a span -/

/-- The bytes from `a` up to `b` of a text that begins at `p`. -/
def spanText (p : Position) (s : String) (a b : Nat) : List Char :=
  (String.Pos.Raw.extract s ⟨a - p.offset⟩ ⟨b - p.offset⟩).toList

theorem spanText_eq {p : Position} {s : String} {before text after : List Char}
    (hs : s.toList = before ++ (text ++ after)) {a b : Nat} (ha : a = p.offset + utf8Len before)
    (hb : b = a + utf8Len text) : spanText p s a b = text := by
  have hcut : s = String.ofList (before ++ text ++ after) := by
    rw [List.append_assoc, ← hs, String.ofList_toList]
  have ha' : a - p.offset = utf8Len before := by omega
  have hb' : b - p.offset = utf8Len before + utf8Len text := by omega
  rw [spanText, ha', hb', hcut, String.extract_of_valid, String.toList_ofList]

/-- Nothing of a text that begins at `p` is lost in its tokens. -/
structure Lossless (p : Position) (s : String) (ts : List Token) : Prop where
  /-- No span reaches out of the text. -/
  inside : ∀ t ∈ ts, p.offset ≤ t.position.offset ∧ t.position.offset ≤ t.stop ∧
    t.stop ≤ p.offset + s.utf8ByteSize
  /-- The spans are in order and do not overlap. -/
  ordered : ts.Pairwise fun t u => t.stop ≤ u.position.offset
  /-- Every token but the last takes some text, and the last one marks the end of it. -/
  ending : ∃ front last, ts = front ++ [last] ∧
    (∀ t ∈ front, t.kind ≠ .eof ∧ t.position.offset < t.stop) ∧ last.kind = .eof ∧
    last.position.offset = p.offset + s.utf8ByteSize ∧ last.stop = p.offset + s.utf8ByteSize
  /-- Between a token and the one before it, or the beginning of the text, stands a gap. -/
  gaps : ∀ front t back, ts = front ++ t :: back →
    Passed (spanText p s ((front.getLast?.map Token.stop).getD p.offset) t.position.offset)
      (spanText p s t.position.offset (p.offset + s.utf8ByteSize))
  /-- The text of a span is what its token is written as. -/
  spelled : ∀ t ∈ ts, t.Spells (spanText p s t.position.offset t.stop)
    (spanText p s t.stop (p.offset + s.utf8ByteSize))

theorem utf8ByteSize_eq_utf8Len (s : String) : s.utf8ByteSize = utf8Len s.toList := by
  rw [← String.utf8ByteSize_ofList, String.ofList_toList]

/-- Where a token of a tiled text stands, told by the bytes of the text. -/
theorem Tiles.spanText_cut {p : Position} {s : String} {ts : List Token}
    (h : Tiles p.offset s.toList ts) {front back : List Token} {t : Token}
    (hts : ts = front ++ t :: back) :
    Passed (spanText p s ((front.getLast?.map Token.stop).getD p.offset) t.position.offset)
      (spanText p s t.position.offset (p.offset + s.utf8ByteSize)) ∧
    t.Spells (spanText p s t.position.offset t.stop)
      (spanText p s t.stop (p.offset + s.utf8ByteSize)) := by
  obtain ⟨before, gap, text, after, hs, hfrom, hstart, hstop, hpassed, hspelled⟩ := h.cut hts
  have hsize : s.utf8ByteSize = utf8Len before + (utf8Len gap + (utf8Len text + utf8Len after)) := by
    rw [utf8ByteSize_eq_utf8Len, hs]
    simp only [String.utf8Len_append]
  have hgap : spanText p s ((front.getLast?.map Token.stop).getD p.offset) t.position.offset = gap :=
    spanText_eq hs hfrom (by omega)
  have hleft : spanText p s t.position.offset (p.offset + s.utf8ByteSize) = text ++ after := by
    have hs' : s.toList = (before ++ gap) ++ ((text ++ after) ++ []) := by simp [hs]
    refine spanText_eq hs' ?_ ?_ <;> rw [String.utf8Len_append] <;> omega
  have htext : spanText p s t.position.offset t.stop = text := by
    have hs' : s.toList = (before ++ gap) ++ (text ++ after) := by simp [hs]
    refine spanText_eq hs' ?_ hstop
    rw [String.utf8Len_append]
    omega
  have hafter : spanText p s t.stop (p.offset + s.utf8ByteSize) = after := by
    have hs' : s.toList = (before ++ gap ++ text) ++ (after ++ []) := by simp [hs]
    refine spanText_eq hs' ?_ (by omega)
    rw [String.utf8Len_append, String.utf8Len_append]
    omega
  rw [hgap, hleft, htext, hafter]
  exact ⟨hpassed, hspelled⟩

/-- A text that can be cut into tokens is cut without loss, wherever it begins. -/
theorem tokenizeAt_lossless {p : Position} {s : String} {ts : List Token}
    (h : tokenizeAt p s = .ok ts) : Lossless p s ts := by
  have htiles : Tiles p.offset s.toList ts := Cursor.tokens_tiles h
  have hsize := utf8ByteSize_eq_utf8Len s
  refine ⟨?_, htiles.ordered, ?_, fun front t back hts => (htiles.spanText_cut hts).1, ?_⟩
  · rw [hsize]
    exact htiles.bounds
  · rw [hsize]
    exact htiles.ending
  · intro t ht
    obtain ⟨front, back, hts⟩ := List.append_of_mem ht
    exact (htiles.spanText_cut hts).2

/-- A quoted character of two bytes, a redirect that takes a bar along, a joined line and a comment,
in a text that begins at byte 40. -/
theorem tokenizeAt_lossless_forced_redirect :
    ∃ ts, tokenizeAt ⟨3, 7, 40⟩ "echo \"é\" 2>|f \\\n # end" = .ok ts ∧
      Lossless ⟨3, 7, 40⟩ "echo \"é\" 2>|f \\\n # end" ts := by
  have h : tokenizeAt ⟨3, 7, 40⟩ "echo \"é\" 2>|f \\\n # end" = .ok [
      ⟨.word, "echo", ⟨3, 7, 40⟩, 44⟩, ⟨.quoted .double, "é", ⟨3, 12, 45⟩, 49⟩,
      ⟨.redirectFd, "2>", ⟨3, 16, 50⟩, 53⟩, ⟨.word, "f", ⟨3, 19, 53⟩, 54⟩,
      ⟨.eof, "", ⟨4, 7, 63⟩, 63⟩] := by decide +kernel
  exact ⟨_, h, tokenizeAt_lossless h⟩

end ShellGuard
