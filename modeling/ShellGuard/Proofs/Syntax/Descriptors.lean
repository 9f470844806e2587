import Mathlib
import ShellGuard.Proofs.Syntax.PlainWords
import ShellGuard.Proofs.Syntax.Relocation

/-!
# Descriptors written in front of a redirect

The digits in front of an arrow are read whole, however many they are, and name a descriptor as long
as it fits 31 bits.  Beyond that the digits are dropped without a word and the redirect gets the
descriptor its arrow usually means, one that nothing is wrong with.  So the complaint about a
descriptor above nine has an upper end as well.
-/

namespace ShellGuard

/-! ## Numerals -/

/-- A number as it is written, leading zeros included. -/
structure Numeral where
  digits : List (Fin 10)
  ne_nil : digits ≠ []

namespace Numeral

def chars (d : Numeral) : List Char :=
  d.digits.map fun i : Fin 10 => i.val.digitChar

def number (d : Numeral) : Nat :=
  Nat.ofDigits 10 (d.digits.reverse.map Fin.val)

theorem isDigit_digitChar (i : Fin 10) : i.val.digitChar.isDigit = true := by
  revert i
  decide

theorem value?_digitChar (i : Fin 10) : Digit.value? i.val.digitChar = some i.val := by
  revert i
  decide

theorem isDigit_of_mem (d : Numeral) : ∀ c ∈ d.chars, c.isDigit = true := by
  intro c hc
  obtain ⟨i, -, rfl⟩ := List.mem_map.1 hc
  exact isDigit_digitChar i

theorem isWordChar_of_mem (d : Numeral) : ∀ c ∈ d.chars, isWordChar c = true := by
  intro c hc
  simp [isWordChar, Char.isAlphanum, d.isDigit_of_mem c hc]

theorem chars_ne_nil (d : Numeral) : d.chars ≠ [] := by
  simpa [chars] using d.ne_nil

/-- The last digit is the lowest, so the induction is from the right. -/
theorem number_chars (d : Numeral) : Digit.number 10 d.chars = d.number := by
  rw [chars, number]
  induction d.digits using List.reverseRecOn with
  | nil => rfl
  | append_singleton digits i ih =>
    rw [Digit.number] at ih
    rw [Digit.number, List.map_append, List.foldl_append, ih, List.reverse_append]
    simp only [List.map_cons, List.map_nil, List.foldl_cons, List.foldl_nil, value?_digitChar, Option.getD_some,
      List.reverse_cons, List.reverse_nil, List.nil_append, List.cons_append, Nat.ofDigits_cons]
    omega

end Numeral

/-! ## Operators -/

/-- The arrows that a descriptor can stand in front of.  `>&` takes the descriptor it copies with
it. -/
inductive Operator
  | into
  | append
  | clobber
  | source
  | copy (n : List Char) (hn : ∀ c ∈ n, Lexeme.isDescriptorChar c = true)

namespace Operator

def chars : Operator → List Char
  | into => ['>']
  | append => ['>', '>']
  | clobber => ['>', '|']
  | source => ['<']
  | copy n _ => '>' :: '&' :: n

/-- What the token keeps of the arrow: the bar of `>|` is forgotten. -/
def kept : Operator → List Char
  | clobber => ['>']
  | op => op.chars

def tokenKind : Operator → TokenKind
  | copy .. => .redirectDup
  | _ => .redirectFd

/-- The descriptor an arrow of the kind stands for when its digits do not count. -/
def usualFd : Operator → Int
  | source => 0
  | copy .. => 1
  | _ => 2

/-- What follows a copied descriptor is no part of it. -/
def EndsBefore (rest : List Char) : Operator → Prop
  | copy .. => ∀ c ∈ rest.head?, Lexeme.isDescriptorChar c = false
  | _ => True

end Operator

/-- A text with no operators in it: any number of words, blanks and a comment. -/
def OnlyWords (s : String) : Prop :=
  ∃ run e, tokenize s = .ok (run ++ [e]) ∧ e.kind = .eof ∧ ∀ t ∈ run, t.kind.isWordLike = true

/-! ## Reading the arrow -/

namespace Lexeme

theorem greaterThan_into (fd : List Char) {rest : List Char}
    (h : ∀ c ∈ rest.head?, c ≠ '>' ∧ c ≠ '&' ∧ c ≠ '|') :
    greaterThan fd rest = whole (redirectKind fd .redirectOut) (fd ++ ['>']) rest := by
  unfold greaterThan
  split
  · exact absurd rfl (h _ rfl).1
  · exact absurd rfl (h _ rfl).2.1
  · exact absurd rfl (h _ rfl).2.2
  · rfl

theorem takeWhile_isDigit_append {fd : List Char} (hfd : ∀ c ∈ fd, c.isDigit = true) {c : Char}
    (hc : c.isDigit = false) (cs : List Char) : (fd ++ c :: cs).takeWhile Char.isDigit = fd := by
  rw [List.takeWhile_append_of_pos hfd, List.takeWhile_cons_of_neg (by simp [hc]), List.append_nil]

/-- Digits in front of an arrow belong to the arrow. -/
theorem scan_operator (d : Numeral) (op : Operator) {rest : List Char}
    (hwords : ∀ c ∈ rest.head?, c ≠ '>' ∧ c ≠ '&' ∧ c ≠ '|') (hends : op.EndsBefore rest)
    {c : Char} {cs : List Char} (hd : d.chars = c :: cs) :
    scan c (cs ++ (op.chars ++ rest)) =
      .ok ⟨op.tokenKind, d.chars ++ op.kept, d.chars ++ op.chars, rest⟩ := by
  -- No arrow begins with a digit, so the digits end where the arrow begins.
  have hdigits := d.isDigit_of_mem
  have hc : isWordChar c = true := d.isWordChar_of_mem c (by rw [hd]; exact List.mem_cons_self)
  obtain ⟨a, more, harrow, ha⟩ : ∃ a more, op.chars = a :: more ∧ a.isDigit = false := by
    cases op <;> exact ⟨_, _, rfl, by decide⟩
  have htake : (c :: (cs ++ (op.chars ++ rest))).takeWhile Char.isDigit = d.chars := by
    rw [← List.cons_append, ← hd, harrow]
    exact takeWhile_isDigit_append hdigits ha _
  have hdrop : (c :: (cs ++ (op.chars ++ rest))).dropWhile Char.isDigit = op.chars ++ rest := by
    rw [← List.cons_append, ← hd, harrow]
    exact dropWhile_isDigit_append hdigits ha _
  have hsome : d.chars.isEmpty = false := by simpa using d.chars_ne_nil
  have hkind (kind : TokenKind) : redirectKind d.chars kind = .redirectFd := by
    rw [redirectKind, hsome]
    rfl
  rw [scan_of_not_mem_starters (not_mem_starters hc), numberOrWord, htake, hdrop, hsome]
  cases op with
  | into =>
    show Except.ok (greaterThan d.chars rest) = _
    rw [greaterThan_into d.chars hwords, hkind]
    rfl
  | append =>
    show Except.ok (whole (redirectKind d.chars .redirectAppend) _ rest) = _
    rw [hkind]
    rfl
  | clobber =>
    show Except.ok (Lexeme.mk (redirectKind d.chars .redirectOut) _ _ rest) = _
    rw [hkind]
    rfl
  | source => rfl
  | copy n hn =>
    have hstop : rest.takeWhile isDescriptorChar = [] ∧
        rest.dropWhile isDescriptorChar = rest := by
      cases rest with
      | nil => exact ⟨rfl, rfl⟩
      | cons c rest => simp [hends c rfl]
    show Except.ok (whole .redirectDup (d.chars ++ '>' :: '&' :: (n ++ rest).takeWhile _)
      ((n ++ rest).dropWhile _)) = _
    rw [List.takeWhile_append_of_pos hn, List.dropWhile_append_of_pos hn, hstop.1, hstop.2,
      List.append_nil]
    rfl

end Lexeme

namespace Cursor

/-- Signs that would change an arrow in front of them start no word. -/
theorem next_sign {c : Char} (hc : c = '>' ∨ c = '&' ∨ c = '|') (cs : List Char) (p : Position) :
    ∃ t, (Cursor.mk (c :: cs) p).next.1 = .ok t ∧ t.kind.isWordLike = false ∧ t.kind ≠ .eof := by
  rcases hc with rfl | rfl | rfl
  · refine ⟨(Lexeme.greaterThan [] cs).token p, by simp [next, gap, isGap, Lexeme.scan]; rfl, ?_⟩
    unfold Lexeme.greaterThan
    split <;> exact ⟨rfl, fun heof => by cases heof⟩
  · refine ⟨(Lexeme.ampersand cs).token p, by simp [next, gap, isGap, Lexeme.scan]; rfl, ?_⟩
    unfold Lexeme.ampersand
    split <;> exact ⟨rfl, fun heof => by cases heof⟩
  · refine ⟨(Lexeme.bar cs).token p, by simp [next, gap, isGap, Lexeme.scan]; rfl, ?_⟩
    unfold Lexeme.bar
    split <;> exact ⟨rfl, fun heof => by cases heof⟩

end Cursor

namespace OnlyWords

variable {s : String}

theorem tokens (h : OnlyWords s) (p : Position) :
    ∃ run e, (Cursor.mk s.toList p).tokens = .ok (run ++ [e]) ∧ e.kind = .eof ∧
      ∀ t ∈ run, t.kind.isWordLike = true := by
  obtain ⟨run, e, htokens, he, hrun⟩ := h
  refine ⟨run.map (Token.moved p), e.moved p, ?_, he, ?_⟩
  · exact (tokenizeAt_of_tokenize p htokens).trans (by rw [List.map_append]; rfl)
  · intro t ht
    obtain ⟨u, hu, rfl⟩ := List.mem_map.1 ht
    exact hrun u hu

theorem no_sign (h : OnlyWords s) : ∀ c ∈ s.toList.head?, c ≠ '>' ∧ c ≠ '&' ∧ c ≠ '|' := by
  intro c hc
  obtain ⟨cs, hchars⟩ := List.head?_eq_some_iff.1 hc
  obtain ⟨run, e, htokens, he, hrun⟩ := h
  rw [tokenize, tokenizeAt, Cursor.ofText, hchars] at htokens
  by_contra hsign
  have hsign : c = '>' ∨ c = '&' ∨ c = '|' := by tauto
  obtain ⟨t, hnext, hword, heof⟩ := Cursor.next_sign hsign cs .start
  cases run with
  | nil =>
    have hfirst := Cursor.next_of_tokens htokens
    rw [hnext] at hfirst
    cases hfirst
    exact heof he
  | cons u run =>
    have hfirst := Cursor.next_of_tokens htokens
    rw [hnext] at hfirst
    cases hfirst
    rw [hrun t List.mem_cons_self] at hword
    cases hword

end OnlyWords

/-- The token of an arrow with its descriptor. -/
def Operator.token (op : Operator) (d : Numeral) (p : Position) : Token :=
  Lexeme.token ⟨op.tokenKind, d.chars ++ op.kept, d.chars ++ op.chars, []⟩ p

theorem Operator.token_isRedirect (op : Operator) (d : Numeral) (p : Position) :
    (op.token d p).kind.isRedirect = true := by
  cases op <;> rfl

theorem Cursor.tokens_operator (d : Numeral) (op : Operator) {words : String}
    (hwords : OnlyWords words) (hends : op.EndsBefore words.toList) (p : Position) :
    ∃ run e, (Cursor.mk (d.chars ++ (op.chars ++ words.toList)) p).tokens =
        .ok (op.token d p :: (run ++ [e])) ∧ e.kind = .eof ∧
      ∀ t ∈ run, t.kind.isWordLike = true := by
  obtain ⟨c, cs, hd⟩ := List.exists_cons_of_ne_nil d.chars_ne_nil
  have hc : isWordChar c = true := d.isWordChar_of_mem c (by rw [hd]; exact List.mem_cons_self)
  have hgap : gap false (d.chars ++ (op.chars ++ words.toList)) =
      ([], c :: (cs ++ (op.chars ++ words.toList))) := by
    rw [hd, List.cons_append, gap_plain hc]
  have hnext : (Cursor.mk (d.chars ++ (op.chars ++ words.toList)) p).next =
      (.ok (op.token d p), ⟨words.toList, p.after (d.chars ++ op.chars)⟩) := by
    simp only [next, hgap, Lexeme.scan_operator d op hwords.no_sign hends hd]
    rfl
  obtain ⟨run, e, htokens, he, hrun⟩ := hwords.tokens (p.after (d.chars ++ op.chars))
  have hne : (op.token d p).kind ≠ .eof := by
    intro heof
    have hredirect := op.token_isRedirect d p
    rw [heof] at hredirect
    cases hredirect
  refine ⟨run, e, ?_, he, hrun⟩
  rw [tokens_of_token hnext hne, htokens]
  rfl

/-! ## Reading the redirect -/

theorem substitution_kind (below : Option Level) (body : String) (inner position : Position)
    (backtick : Bool) : (substitution below body inner position backtick).1.kind = .subshell := by
  unfold substitution
  split
  · rfl
  · split <;> rfl

theorem Token.part_kind (below : Option Level) (t : Token) :
    ∀ n ∈ (t.part below).node, n.kind ≠ .redirect := by
  intro n hn
  unfold Token.part Token.partWith at hn
  split at hn <;> cases hn
  case h_5.refl | h_6.refl => simp [substitution_kind]
  all_goals simp [Node.kind]

/-- Parts of words are no redirects. -/
theorem Draft.addPart_redirects (below : Option Level) (d : Draft) (t : Token) :
    (d.addPart t (t.part below)).children.filter (·.kind == .redirect) =
      d.children.filter (·.kind == .redirect) := by
  have hnode : (t.part below).node.toList.filter (·.kind == .redirect) = [] := by
    rw [List.filter_eq_nil_iff]
    intro n hn
    simpa using t.part_kind below n (Option.mem_toList.1 hn)
  rw [addPart, List.filter_append, hnode, List.nil_append]

namespace Redirect

theorem targetSpan_words {e : Token} (he : e.kind = .eof) (last : Option Nat) (run : List Token) :
    ∃ more, (targetSpan last (run ++ [e])).2 = more ++ [e] ∧ more <:+ run := by
  induction run generalizing last with
  | nil => exact ⟨[], by simp [targetSpan, he, TokenKind.isWordLike], List.suffix_refl _⟩
  | cons t run ih =>
    rw [List.cons_append, targetSpan]
    split
    · obtain ⟨more, hmore, hsuffix⟩ := ih (some t.stop)
      exact ⟨more, hmore, hsuffix.trans (List.suffix_cons t run)⟩
    · exact ⟨t :: run, rfl, List.suffix_refl _⟩

/-- Words behind an arrow are its target or words of the command; none is lost. -/
theorem parse_words (below : Option Level) (op : Token) {e : Token} (he : e.kind = .eof)
    (run : List Token) :
    ∃ more, (parse below op (run ++ [e])).rest = more ++ [e] ∧ more <:+ run := by
  unfold parse
  dsimp only
  split
  · exact targetSpan_words he none run
  · exact ⟨run, rfl, List.suffix_refl _⟩

theorem parse_fd (below : Option Level) (op : Token) (ts : List Token) :
    (parse below op ts).value.fd =
      (explicitFd op.value.toList).getD (shape op.kind op.value.toList).2 := by
  unfold parse
  dsimp only
  split <;> rfl

theorem shape_operator (op : Operator) (d : Numeral) :
    (shape op.tokenKind (d.chars ++ op.kept)).2 = op.usualFd := by
  obtain ⟨c, cs, hlast⟩ : ∃ c cs, d.chars.reverse = c :: cs :=
    List.exists_cons_of_ne_nil (by simpa using d.chars_ne_nil)
  have hc : c.isDigit = true :=
    d.isDigit_of_mem c (List.mem_reverse.1 (by rw [hlast]; exact List.mem_cons_self))
  have harrow : '>' ≠ c := by
    rintro rfl
    exact absurd hc (by decide)
  cases op <;>
    simp [shape, Operator.tokenKind, Operator.kept, Operator.chars, Operator.usualFd,
      List.isSuffixOf, hlast, harrow]

/-- The digits count up to the largest descriptor, and not at all beyond it. -/
theorem parse_operator (below : Option Level) (op : Operator) (d : Numeral) (p : Position)
    (ts : List Token) :
    (parse below (op.token d p) ts).value.fd =
      if d.number ≤ maxFd then (d.number : Int) else op.usualFd := by
  have hvalue : (op.token d p).value.toList = d.chars ++ op.kept := String.toList_ofList
  have htake : (d.chars ++ op.kept).takeWhile Char.isDigit = d.chars := by
    cases op <;> exact Lexeme.takeWhile_isDigit_append d.isDigit_of_mem (by decide) _
  have hexplicit : explicitFd (d.chars ++ op.kept) =
      if d.number ≤ maxFd then some (d.number : Int) else none := by
    rw [explicitFd, htake, d.number_chars]
    by_cases hfits : d.number ≤ maxFd
    · rw [if_pos hfits, if_neg (by simp [d.chars_ne_nil, hfits])]
    · rw [if_neg hfits, if_pos (.inr (Nat.lt_of_not_le hfits))]
  rw [parse_fd, hvalue, hexplicit, show (op.token d p).kind = op.tokenKind from rfl, shape_operator]
  split <;> rfl

end Redirect

/-- Words leave the redirects of a command as they are. -/
theorem Draft.read_run (below : Option Level) (d : Draft) {run : List Token} {e : Token}
    (he : e.kind = .eof) (hrun : ∀ t ∈ run, t.kind.isWordLike = true) :
    ∃ d' notes, read below d (run ++ [e]) = ⟨d', notes, [e]⟩ ∧
      d'.children.filter (·.kind == .redirect) = d.children.filter (·.kind == .redirect) := by
  induction run generalizing d with
  | nil =>
    have hend : Tokens.kind [e] ∈ commandEnds := by
      rw [Tokens.kind_cons, he]
      decide
    exact ⟨d, [], read_end below d hend, rfl⟩
  | cons t run ih =>
    obtain ⟨ht, hrun⟩ := List.forall_mem_cons.1 hrun
    obtain ⟨d', notes, hread, hkept⟩ := ih (d.addPart t (t.part below)) hrun
    refine ⟨d', (t.part below).notes ++ notes, ?_, ?_⟩
    · rw [List.cons_append, read_part below d ht, hread]
    · rw [hkept, addPart_redirects]

theorem Draft.read_redirected (below : Option Level) {t op e : Token} {run : List Token}
    (ht : t.kind.isWordLike = true) (hop : op.kind.isRedirect = true) (he : e.kind = .eof)
    (hrun : ∀ t ∈ run, t.kind.isWordLike = true) :
    ∃ d' notes, read below .empty (t :: op :: (run ++ [e])) = ⟨d', notes, [e]⟩ ∧
      d'.children.filter (·.kind == .redirect) =
        [.redirect op.position (Redirect.parse below op (run ++ [e])).value] := by
  obtain ⟨more, hrest, hmore⟩ := Redirect.parse_words below op he run
  obtain ⟨d', notes, hread, hkept⟩ := read_run below
    ((empty.addPart t (t.part below)).addRedirect op.position
      (Redirect.parse below op (run ++ [e])).value) he fun u hu => hrun u (hmore.mem hu)
  refine ⟨d', (t.part below).notes ++ ((Redirect.parse below op (run ++ [e])).notes ++ notes),
    ?_, ?_⟩
  · rw [read_part below _ ht, read_redirect below _ hop]
    dsimp only
    rw [hrest, hread]
  · rw [hkept, addRedirect, List.filter_cons_of_pos rfl, addPart_redirects]
    rfl

/-! ## Which descriptors are complained about -/

theorem descriptor_flaw_iff (p : Position) (r : Redirect) :
    (∃ f ∈ (Node.redirect p r).flaws, "Invalid file descriptor".toList <+: f.message.toList) ↔
      ¬(0 ≤ r.fd ∧ r.fd ≤ 9) := by
  have hmissing : ¬ "Invalid file descriptor".toList <+: "Missing redirect target".toList := by
    decide
  have hinvalid : "Invalid file descriptor".toList <+:
      ("Invalid file descriptor: " ++ toString r.fd).toList := by
    rw [String.toList_append]
    exact List.IsPrefix.trans (by decide) (List.prefix_append _ _)
  constructor
  · rintro ⟨f, hf, hmessage⟩ hrange
    rw [Node.flaws, if_pos hrange, List.append_nil] at hf
    split at hf
    · obtain rfl := List.mem_singleton.1 hf
      exact hmissing hmessage
    · cases hf
  · intro hrange
    rw [Node.flaws, if_neg hrange]
    exact ⟨_, List.mem_append_right _ (List.mem_singleton_self _), hinvalid⟩

/-- A command with a redirect that names its descriptor, and words behind it. -/
def redirectText (name : PlainWord) (b : Blanks) (d : Numeral) (op : Operator) (words : String) :
    String :=
  String.ofList (name.chars ++ (b.chars ++ (d.chars ++ (op.chars ++ words.toList))))

theorem tokenize_redirectText (name : PlainWord) (b : Blanks) (d : Numeral) (op : Operator)
    {words : String} (hwords : OnlyWords words) (hends : op.EndsBefore words.toList) :
    ∃ run e, tokenize (redirectText name b d op words) =
        .ok (name.token .start ::
          op.token d ((Position.start.after name.chars).after b.chars) :: (run ++ [e])) ∧
      e.kind = .eof ∧ ∀ t ∈ run, t.kind.isWordLike = true := by
  obtain ⟨run, e, htokens, he, hrun⟩ := Cursor.tokens_operator d op hwords hends
    ((Position.start.after name.chars).after b.chars)
  refine ⟨run, e, ?_, he, hrun⟩
  rw [tokenize, tokenizeAt, Cursor.ofText, redirectText, String.toList_ofList,
    Cursor.tokens_of_token (Cursor.next_plain name (b.endsWord _) .start)
      (name.token_ne_eof .start), Cursor.tokens_blanks b.isGap_of_mem, htokens]
  rfl

/-- A written descriptor is complained about from ten up to the largest that a redirect can have.  A
larger one is not, because the redirect then has its usual descriptor. -/
theorem parse_descriptor (name : PlainWord) (b : Blanks) (d : Numeral) (op : Operator)
    {words : String} (hwords : OnlyWords words) (hends : op.EndsBefore words.toList) :
    ∃ tree r, parse (redirectText name b d op words) = .ok tree ∧ tree.root.kind = .command ∧
      tree.root.children.filter (·.kind == .redirect) =
        [.redirect ((Position.start.after name.chars).after b.chars) r] ∧
      ((∃ f ∈ (Node.redirect ((Position.start.after name.chars).after b.chars) r).flaws,
        "Invalid file descriptor".toList <+: f.message.toList) ↔
          9 < d.number ∧ d.number ≤ Redirect.maxFd) ∧
      r.fd = if d.number ≤ Redirect.maxFd then (d.number : Int) else op.usualFd := by
  obtain ⟨run, e, htokens, he, hrun⟩ := tokenize_redirectText name b d op hwords hends
  generalize (Position.start.after name.chars).after b.chars = p at htokens ⊢
  have hfd := Redirect.parse_operator (some innerLevel) op d p (run ++ [e])
  obtain ⟨d', notes, hread, hchildren⟩ := Draft.read_redirected (some innerLevel)
    (name.token_isWordLike .start) (op.token_isRedirect d p) he hrun
  have hcommand := parseCommand_word (some innerLevel) (name.token_isWordLike .start)
    (op.token d p :: (run ++ [e]))
  rw [hread] at hcommand
  have hlist : (level maxNesting).list false _ = _ := Level.above_list_command hcommand rfl he
  refine ⟨⟨d'.node .start, notes⟩, _, ?_, rfl, ?_, ?_, hfd⟩
  · rw [parse_of_tokens htokens]
    dsimp only
    rw [hlist]
    rfl
  · show d'.children.reverse.filter _ = _
    rw [List.filter_reverse, hchildren]
    rfl
  · -- The usual descriptors are all below ten, so a number that was dropped is never complained of.
    rw [descriptor_flaw_iff, hfd]
    cases op <;> simp only [Operator.usualFd] <;> split <;> omega

def cmdWord : PlainWord :=
  ⟨['c', 'm', 'd'], by decide, List.all_eq_true.1 (by decide)⟩

def oneBlank : Blanks :=
  ⟨[' '], by decide, fun _ hc => .inl (List.mem_singleton.1 hc)⟩

/-- Leading zeros do not count: `cmd 0012>&1 "a b"` names descriptor twelve. -/
theorem parse_descriptor_twelve :
    OnlyWords " \"a b\"" ∧
    ∃ tree r, parse "cmd 0012>&1 \"a b\"" = .ok tree ∧ tree.root.kind = .command ∧
      tree.root.children.filter (·.kind == .redirect) = [.redirect ⟨1, 5, 4⟩ r] ∧
      ((∃ f ∈ (Node.redirect ⟨1, 5, 4⟩ r).flaws,
        "Invalid file descriptor".toList <+: f.message.toList) ↔ 9 < 12 ∧ 12 ≤ Redirect.maxFd) ∧
      r.fd = if 12 ≤ Redirect.maxFd then 12 else 1 := by
  have hwords : OnlyWords " \"a b\"" :=
    ⟨[⟨.quoted .double, "a b", ⟨1, 2, 1⟩, 6⟩], .eof ⟨1, 7, 6⟩ 6, by cbv, rfl,
      List.all_eq_true.1 (by decide)⟩
  have hends : ∀ c ∈ " \"a b\"".toList.head?, Lexeme.isDescriptorChar c = false := by
    intro c hc
    obtain rfl : ' ' = c := Option.some.inj hc
    rfl
  have hresult := parse_descriptor cmdWord oneBlank ⟨[0, 0, 1, 2], by decide⟩
    (.copy ['1'] (List.all_eq_true.1 (by decide))) hwords hends
  rw [show redirectText _ _ _ _ _ = "cmd 0012>&1 \"a b\"" from rfl,
    show (Position.start.after cmdWord.chars).after oneBlank.chars = ⟨1, 5, 4⟩ from rfl,
    show Numeral.number _ = 12 from rfl] at hresult
  exact ⟨hwords, hresult⟩

/-- Not every descriptor above nine is complained about: `cmd 2147483648> out` is passed over. -/
theorem large_descriptor_unseen :
    ¬∀ (name : PlainWord) (b : Blanks) (d : Numeral) (op : Operator) (words : String),
      OnlyWords words → op.EndsBefore words.toList →
      ∃ tree p r, parse (redirectText name b d op words) = .ok tree ∧
        tree.root.children.filter (·.kind == .redirect) = [.redirect p r] ∧
        ((∃ f ∈ (Node.redirect p r).flaws,
          "Invalid file descriptor".toList <+: f.message.toList) ↔ 9 < d.number) ∧
        (d.number ≤ 9 → r.fd = d.number) := by
  intro h
  have hwords : OnlyWords " out" :=
    ⟨[⟨.word, "out", ⟨1, 2, 1⟩, 4⟩], .eof ⟨1, 5, 4⟩ 4, by cbv, rfl, List.all_eq_true.1 (by decide)⟩
  have hsilent : (parse "cmd 2147483648> out").toOption.map
      (fun tree => (tree.root.children.filter (·.kind == .redirect)).flatMap Node.flaws) =
        some [] := by
    decide +kernel
  obtain ⟨tree, p, r, hparse, hredirect, hflaw, -⟩ := h cmdWord oneBlank
    ⟨[2, 1, 4, 7, 4, 8, 3, 6, 4, 8], by decide⟩ .into " out" hwords trivial
  rw [show redirectText _ _ _ _ _ = "cmd 2147483648> out" from rfl] at hparse
  have hnone : (Node.redirect p r).flaws = [] := by
    simpa [hparse, Except.toOption, hredirect] using hsilent
  obtain ⟨f, hf, -⟩ := hflaw.2 (by decide)
  rw [hnone] at hf
  cases hf

end ShellGuard
