import Mathlib
import ShellGuard.Proofs.Syntax.Lossless
import ShellGuard.Proofs.Syntax.Quoting

/-!
# Lines of plain words

A plain word holds only characters that mean nothing to the shell, patterns apart, so with blanks
around it it is one token with its own text.  A line is a word and then blanks and words in turn; it
is one command, with those words and no others.
-/

namespace ShellGuard

open String (utf8Len)

/-- A word that needs no quotes. -/
structure PlainWord where
  chars : List Char
  ne_nil : chars ≠ []
  isWordChar_of_mem : ∀ c ∈ chars, isWordChar c = true

/-- A run of spaces and tabs. -/
structure Blanks where
  chars : List Char
  ne_nil : chars ≠ []
  blank_of_mem : ∀ c ∈ chars, c = ' ' ∨ c = '\t'

def PlainWord.text (w : PlainWord) : String :=
  String.ofList w.chars

/-! ## Characters of words -/

theorem isAlphanum_range {c : Char} (h : c.isAlphanum = true) :
    0x30 ≤ c.toNat ∧ c.toNat ≤ 0x7a := by
  simp only [Char.isAlphanum, Char.isAlpha, Char.isUpper, Char.isLower, Char.isDigit,
    Bool.or_eq_true, Bool.and_eq_true, decide_eq_true_eq, ge_iff_le, UInt32.le_iff_toNat_le] at h
  change ((65 ≤ c.toNat ∧ c.toNat ≤ 90) ∨ (97 ≤ c.toNat ∧ c.toNat ≤ 122)) ∨
    (48 ≤ c.toNat ∧ c.toNat ≤ 57) at h
  omega

theorem isWordChar_range {c : Char} (h : isWordChar c = true) :
    0x21 ≤ c.toNat ∧ c.toNat ≤ 0x7e := by
  simp only [isWordChar, isGlobChar, Bool.or_eq_true, beq_iff_eq, or_assoc] at h
  rcases h with h | rfl | rfl | rfl | rfl | rfl | rfl | rfl | rfl | rfl | rfl | rfl | rfl | rfl |
    rfl | rfl
  · have hrange := isAlphanum_range h
    omega
  all_goals decide

theorem not_isBlank_of_isWordChar {c : Char} (h : isWordChar c = true) :
    Text.isBlank c = false := by
  have hrange := isWordChar_range h
  simp only [Text.isBlank, Bool.or_eq_false_iff, Bool.and_eq_false_iff, decide_eq_false_iff_not,
    beq_eq_false_iff_ne]
  omega

theorem not_mem_starters {c : Char} (h : isWordChar c = true) : c ∉ Lexeme.starters := by
  intro hmem
  have hall : Lexeme.starters.all (fun c => !isWordChar c) = true := by decide
  have hnot := List.all_eq_true.1 hall c hmem
  rw [h] at hnot
  cases hnot

/-- What may follow a plain word: a blank, or nothing. -/
def EndsWord (rest : List Char) : Prop :=
  ∀ c ∈ rest.head?, Cursor.isGap c = true

theorem not_isWordChar_gap {c : Char} (h : Cursor.isGap c = true) :
    isWordChar c = false ∧ c ≠ '#' ∧ c ≠ '\\' ∧ c.isDigit = false ∧ c ≠ '<' ∧ c ≠ '>' := by
  have hc : c = ' ' ∨ c = '\t' ∨ c = '\r' := by simpa [Cursor.isGap, or_assoc] using h
  rcases hc with rfl | rfl | rfl <;> decide

namespace Lexeme

theorem word_plain {w rest : List Char} (hw : ∀ c ∈ w, isWordChar c = true)
    (hrest : EndsWord rest) : word .begun (w ++ rest) = (w, rest) := by
  induction w with
  | nil =>
    cases rest with
    | nil => rfl
    | cons c rest =>
      obtain ⟨hword, hsign, hescape, -⟩ := not_isWordChar_gap (hrest c rfl)
      simp [word, hword, hsign, hescape]
  | cons c w ih =>
    obtain ⟨hc, hw⟩ := List.forall_mem_cons.1 hw
    simp [word, hc, ih hw, push]

/-- Behind the digits a plain word begins with there is no arrow. -/
theorem dropWhile_isDigit_plain {w rest : List Char} (hw : ∀ c ∈ w, isWordChar c = true)
    (hrest : EndsWord rest) :
    ∀ c ∈ ((w ++ rest).dropWhile Char.isDigit).head?, c ≠ '<' ∧ c ≠ '>' := by
  induction w with
  | nil =>
    cases rest with
    | nil => simp
    | cons c rest =>
      obtain ⟨-, -, -, hdigit, harrow⟩ := not_isWordChar_gap (hrest c rfl)
      rw [List.nil_append, List.dropWhile_cons_of_neg (by simp [hdigit])]
      intro d hd
      obtain rfl : c = d := by simpa using hd
      exact harrow
  | cons c w ih =>
    obtain ⟨hc, hw⟩ := List.forall_mem_cons.1 hw
    by_cases hdigit : c.isDigit = true
    · rw [List.cons_append, List.dropWhile_cons_of_pos hdigit]
      exact ih hw
    · rw [List.cons_append, List.dropWhile_cons_of_neg hdigit]
      intro d hd
      obtain rfl : c = d := by simpa using hd
      constructor <;> rintro rfl <;> exact absurd hc (by decide)

/-- Words are patterns or not by their characters alone. -/
def plainKind (w : List Char) : TokenKind :=
  if looksLikeGlob w then .glob else .word

theorem wordOrUnknown_plain {c : Char} {w rest : List Char} (hc : isWordChar c = true)
    (hw : ∀ c ∈ w, isWordChar c = true) (hrest : EndsWord rest) :
    wordOrUnknown c (w ++ rest) = whole (plainKind (c :: w)) (c :: w) rest := by
  have hword : word .fresh (c :: (w ++ rest)) = (c :: w, rest) := by
    simp [word, hc, word_plain hw hrest, push]
  simp [wordOrUnknown, hword, plainKind]

theorem scan_of_not_mem_starters {c : Char} (h : c ∉ starters) (cs : List Char) :
    scan c cs = .ok (numberOrWord c cs) := by
  simp only [starters, List.mem_cons, List.not_mem_nil, or_false, not_or] at h
  simp only [scan, h, if_false]

theorem scan_plain {c : Char} {w rest : List Char} (hc : isWordChar c = true)
    (hw : ∀ c ∈ w, isWordChar c = true) (hrest : EndsWord rest) :
    scan c (w ++ rest) = .ok (whole (plainKind (c :: w)) (c :: w) rest) := by
  have harrow := dropWhile_isDigit_plain (List.forall_mem_cons.2 ⟨hc, hw⟩) hrest
  have hword := wordOrUnknown_plain hc hw hrest
  rw [scan_of_not_mem_starters (not_mem_starters hc), numberOrWord]
  split
  · rw [hword]
  · split
    · next hless => exact absurd rfl (harrow '<' (by rw [List.cons_append, hless]; rfl)).1
    · next hgreater => exact absurd rfl (harrow '>' (by rw [List.cons_append, hgreater]; rfl)).2
    · rw [hword]

end Lexeme

/-! ## One word -/

namespace Cursor

theorem gap_blanks {blanks : List Char} (h : ∀ c ∈ blanks, isGap c = true) (cs : List Char) :
    gap false (blanks ++ cs) = (blanks ++ (gap false cs).1, (gap false cs).2) := by
  induction blanks with
  | nil => rfl
  | cons c blanks ih =>
    obtain ⟨hc, hblanks⟩ := List.forall_mem_cons.1 h
    have hescape := (not_isWordChar_gap hc).2.2.1
    rw [List.cons_append, gap]
    · simp [hc, ih hblanks, Lexeme.push]
    · exact fun _ hbackslash => absurd hbackslash hescape

theorem gap_plain {c : Char} (h : isWordChar c = true) (cs : List Char) :
    gap false (c :: cs) = ([], c :: cs) := by
  have hne : c ≠ '\\' ∧ isGap c = false ∧ c ≠ '#' := by
    refine ⟨?_, Bool.eq_false_iff.2 fun hgap => ?_, ?_⟩
    · rintro rfl
      exact absurd h (by decide)
    · rw [(not_isWordChar_gap hgap).1] at h
      cases h
    · rintro rfl
      exact absurd h (by decide)
  rw [gap]
  · simp [hne]
  · exact fun _ hbackslash => absurd hbackslash hne.1

/-- Blanks are passed over and nothing else happens. -/
theorem next_blanks {blanks : List Char} (h : ∀ c ∈ blanks, isGap c = true) (cs : List Char)
    (p : Position) : (Cursor.mk (blanks ++ cs) p).next = (Cursor.mk cs (p.after blanks)).next := by
  simp only [next, gap_blanks h, Position.after_append]

theorem tokens_congr {cur cur' : Cursor} (h : cur.next = cur'.next) : cur.tokens = cur'.tokens := by
  obtain ⟨answer, after, hnext⟩ : ∃ answer after, cur'.next = (answer, after) := ⟨_, _, rfl⟩
  cases answer with
  | error e => rw [tokens_of_error hnext, tokens_of_error (h.trans hnext)]
  | ok t =>
    by_cases ht : t.kind = .eof
    · rw [tokens_of_eof hnext ht, tokens_of_eof (h.trans hnext) ht]
    · rw [tokens_of_token hnext ht, tokens_of_token (h.trans hnext) ht]

theorem tokens_blanks {blanks : List Char} (h : ∀ c ∈ blanks, isGap c = true) (cs : List Char)
    (p : Position) :
    (Cursor.mk (blanks ++ cs) p).tokens = (Cursor.mk cs (p.after blanks)).tokens := by
  exact tokens_congr (next_blanks h cs p)

end Cursor

/-- The token of a plain word. -/
def PlainWord.token (w : PlainWord) (p : Position) : Token :=
  ⟨Lexeme.plainKind w.chars, w.text, p, (p.after w.chars).offset⟩

theorem Cursor.next_plain (w : PlainWord) {rest : List Char} (hrest : EndsWord rest)
    (p : Position) :
    (Cursor.mk (w.chars ++ rest) p).next = (.ok (w.token p), ⟨rest, p.after w.chars⟩) := by
  obtain ⟨chars, hne, hplain⟩ := w
  obtain ⟨c, cs, rfl⟩ := List.exists_cons_of_ne_nil hne
  obtain ⟨hc, hcs⟩ := List.forall_mem_cons.1 hplain
  simp only [next, List.cons_append, gap_plain hc, Lexeme.scan_plain hc hcs hrest]
  rfl

/-! ## Lines -/

/-- Words with blanks in front of each. -/
def lineText (pieces : List (Blanks × PlainWord)) : List Char :=
  pieces.flatMap fun piece => piece.1.chars ++ piece.2.chars

theorem Blanks.isGap_of_mem (b : Blanks) : ∀ c ∈ b.chars, Cursor.isGap c = true := by
  intro c hc
  rcases b.blank_of_mem c hc with rfl | rfl <;> rfl

theorem Blanks.endsWord (b : Blanks) (rest : List Char) : EndsWord (b.chars ++ rest) := by
  obtain ⟨c, cs, hchars⟩ := List.exists_cons_of_ne_nil b.ne_nil
  intro d hd
  obtain rfl : c = d := by simpa [hchars] using hd
  exact b.isGap_of_mem c (by rw [hchars]; exact List.mem_cons_self)

theorem endsWord_lineText (pieces : List (Blanks × PlainWord)) : EndsWord (lineText pieces) := by
  cases pieces with
  | nil => exact fun c hc => by cases hc
  | cons piece pieces =>
    rw [lineText, List.flatMap_cons, List.append_assoc]
    exact piece.1.endsWord _

/-- The tokens of a line that goes on at `p`. -/
def lineTokens (p : Position) : List (Blanks × PlainWord) → List Token
  | [] => [Token.eof p p.offset]
  | (b, w) :: pieces =>
    w.token (p.after b.chars) :: lineTokens ((p.after b.chars).after w.chars) pieces

theorem PlainWord.token_isWordLike (w : PlainWord) (p : Position) :
    (w.token p).kind.isWordLike = true := by
  unfold token Lexeme.plainKind
  dsimp only
  split <;> rfl

theorem PlainWord.token_ne_eof (w : PlainWord) (p : Position) : (w.token p).kind ≠ .eof := by
  intro heof
  have hword := w.token_isWordLike p
  rw [heof] at hword
  cases hword

theorem Cursor.tokens_line (p : Position) (pieces : List (Blanks × PlainWord)) :
    (Cursor.mk (lineText pieces) p).tokens = .ok (lineTokens p pieces) := by
  induction pieces generalizing p with
  | nil => exact tokens_nil p
  | cons piece pieces ih =>
    obtain ⟨b, w⟩ := piece
    have hnext := next_plain w (endsWord_lineText pieces) (p.after b.chars)
    rw [lineText, List.flatMap_cons, List.append_assoc, tokens_blanks b.isGap_of_mem]
    show (Cursor.mk (w.chars ++ lineText pieces) (p.after b.chars)).tokens = _
    rw [tokens_of_token hnext (w.token_ne_eof _), ih]
    rfl

theorem Cursor.tokens_word_line (w : PlainWord) (p : Position)
    (pieces : List (Blanks × PlainWord)) :
    (Cursor.mk (w.chars ++ lineText pieces) p).tokens =
      .ok (w.token p :: lineTokens (p.after w.chars) pieces) := by
  rw [tokens_of_token (next_plain w (endsWord_lineText pieces) p) (w.token_ne_eof p), tokens_line]
  rfl

/-! ## Commands -/

/-- Patterns leave a node behind, other plain words none. -/
theorem PlainWord.part_token (below : Option Level) (w : PlainWord) (p : Position) :
    ∃ node, (w.token p).part below = ⟨w.text, node, []⟩ ∧ ∀ n ∈ node, n.kind = .glob := by
  unfold Token.part Token.partWith token Lexeme.plainKind
  by_cases hglob : looksLikeGlob w.chars = true
  · simp [hglob, Node.kind]
  · simp [hglob]

theorem Blanks.offset_after_ne (b : Blanks) (p : Position) :
    (p.after b.chars).offset ≠ p.offset := by
  obtain ⟨c, cs, hchars⟩ := List.exists_cons_of_ne_nil b.ne_nil
  have hsize := Char.utf8Size_pos c
  rw [Position.after_offset, hchars, String.utf8Len_cons]
  omega

/-- The words of a line are added one by one: each begins behind blanks, so none is glued to the one
before it. -/
theorem Draft.read_line (below : Option Level) (d : Draft) (p : Position)
    (hd : d.words = [] ∨ d.lastStop = some p.offset) (pieces : List (Blanks × PlainWord)) :
    ∃ (nodes : List Node) (last : Option Nat) (e : Token), e.kind = .eof ∧
      read below d (lineTokens p pieces) =
        ⟨⟨(pieces.map (·.2.text)).reverse ++ d.words, nodes ++ d.children, last⟩, [], [e]⟩ ∧
      ∀ n ∈ nodes, n.kind = .glob := by
  induction pieces generalizing d p with
  | nil =>
    have hend : Tokens.kind (lineTokens p []) ∈ commandEnds := by simp [lineTokens, commandEnds,
      pipelineEnds, chainEnds, Token.eof]
    exact ⟨[], d.lastStop, Token.eof p p.offset, rfl, read_end below d hend, by simp⟩
  | cons piece pieces ih =>
    obtain ⟨b, w⟩ := piece
    obtain ⟨node, hpart, hnode⟩ := w.part_token below (p.after b.chars)
    have hadd : d.addPart (w.token (p.after b.chars)) ⟨w.text, node, []⟩ =
        ⟨w.text :: d.words, node.toList ++ d.children,
          some ((p.after b.chars).after w.chars).offset⟩ := by
      unfold addPart
      split
      · next hwords => rw [hwords]; rfl
      · next v vs hwords =>
        have hlast := hd.resolve_left (by simp [hwords])
        have hapart : d.lastStop ≠ some (w.token (p.after b.chars)).position.offset := by
          rw [hlast]
          exact fun h => b.offset_after_ne p (Option.some.inj h).symm
        rw [if_neg hapart, hwords]
        rfl
    obtain ⟨nodes, last, e, he, hread, hnodes⟩ := ih
      ⟨w.text :: d.words, node.toList ++ d.children, some ((p.after b.chars).after w.chars).offset⟩
      ((p.after b.chars).after w.chars) (.inr rfl)
    refine ⟨nodes ++ node.toList, last, e, he, ?_, ?_⟩
    · rw [lineTokens, read_part below d (w.token_isWordLike _), hpart, hadd, hread]
      simp
    · intro n hn
      rcases List.mem_append.1 hn with hn | hn
      · exact hnodes n hn
      · exact hnode n (Option.mem_toList.1 hn)

/-- A line is one command, with the words of the line. -/
theorem parse_line (w : PlainWord) (pieces : List (Blanks × PlainWord)) :
    ∃ nodes, parse (String.ofList (w.chars ++ lineText pieces)) =
        .ok ⟨.command .start w.text (pieces.map (·.2.text)) nodes, []⟩ ∧
      ∀ n ∈ nodes, n.kind = .glob := by
  have htokens : tokenize (String.ofList (w.chars ++ lineText pieces)) =
      .ok (w.token .start :: lineTokens (Position.start.after w.chars) pieces) := by
    rw [tokenize, tokenizeAt, Cursor.ofText, String.toList_ofList]
    exact Cursor.tokens_word_line w .start pieces
  obtain ⟨node, hpart, hnode⟩ := w.part_token (some innerLevel) .start
  have hfirst : Draft.empty.addPart (w.token .start) ⟨w.text, node, []⟩ =
      ⟨[w.text], node.toList, some (Position.start.after w.chars).offset⟩ := by
    simp [Draft.addPart, Draft.empty, PlainWord.token]
  obtain ⟨nodes, last, e, he, hread, hnodes⟩ := Draft.read_line (some innerLevel)
    ⟨[w.text], node.toList, some (Position.start.after w.chars).offset⟩
    (Position.start.after w.chars) (.inr rfl) pieces
  have hcommand := parseCommand_word (some innerLevel) (w.token_isWordLike .start)
    (lineTokens (Position.start.after w.chars) pieces)
  rw [Draft.read_part _ _ (w.token_isWordLike .start), hpart, hfirst, hread] at hcommand
  have hlist : (level maxNesting).list false _ = _ := Level.above_list_command hcommand rfl he
  refine ⟨(nodes ++ node.toList).reverse, ?_, ?_⟩
  · rw [parse_of_tokens htokens]
    dsimp only
    rw [hlist]
    simp [Draft.node, PlainWord.token]
  · intro n hn
    rcases List.mem_append.1 (List.mem_reverse.1 hn) with hn | hn
    · exact hnodes n hn
    · exact hnode n (Option.mem_toList.1 hn)

end ShellGuard
