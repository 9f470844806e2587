import Mathlib
import ShellGuard.Proofs.Syntax.Progress
import ShellGuard.Proofs.Syntax.Tally

/-!
# The words of a text that is read in silence

Tokens that touch make up one word.  Which tokens do can be said without a reader: a word is a longest
stretch of tokens that are parts of words and touch one another (`Tokens.wordRuns`).  A parser of
tokens without redirects and parentheses that has no complaint has read all of them, and the words of
its commands are those stretches, one after the other.

A command is read with the last word still open, and the next token goes on with it or begins another.
So the account of a command in the middle of being read is what its words will be once the rest of the
open word is added (`Draft.wordsWith`), and no step of the reader changes that.
-/

namespace ShellGuard

/-! ## Words among tokens -/

/-- What a token adds to the text of its word. -/
def Token.wordText (t : Token) : String :=
  match t.kind with
  | .substitution => "$(" ++ t.value ++ ")"
  | .backtick => "`" ++ t.value ++ "`"
  | _ => t.value

theorem Token.part_wordText (below : Option Level) (t : Token) :
    (t.part below).text = t.wordText := by
  unfold Token.part Token.partWith Token.wordText
  cases t.kind with
  | quoted style => cases style <;> rfl
  | _ => rfl

/-- Two parts of one word: the second begins where the first stops. -/
def Token.touches (t u : Token) : Bool :=
  t.kind.isWordLike && u.kind.isWordLike && u.position.offset == t.stop

namespace Tokens

/-- The longest stretches of parts of words that touch one another. -/
def wordRuns (ts : List Token) : List (List Token) :=
  (ts.splitBy Token.touches).filter fun run => run.all (·.kind.isWordLike)

def runText (run : List Token) : String :=
  String.join (run.map Token.wordText)

/-- The words that some tokens make up. -/
def words (ts : List Token) : List String :=
  (wordRuns ts).map runText

/-- Tokens whose words are kept apart make up the words of both. -/
theorem words_append {ts us : List Token}
    (h : ∀ t ∈ ts.getLast?, ∀ u ∈ us.head?, t.touches u = false) :
    words (ts ++ us) = words ts ++ words us := by
  rw [words, wordRuns, List.splitBy_append h, List.filter_append, List.map_append]
  rfl

theorem words_of_run {run : List Token} (hne : run ≠ [])
    (hchain : run.IsChain fun t u => t.touches u = true) :
    words run = if run.all (·.kind.isWordLike) then [runText run] else [] := by
  rw [words, wordRuns, List.splitBy_of_isChain hne hchain]
  by_cases hall : run.all (·.kind.isWordLike) = true
  · rw [if_pos hall, List.filter_cons, if_pos hall]
    rfl
  · rw [if_neg hall, List.filter_cons, if_neg hall]
    rfl

theorem words_other {t : Token} (h : t.kind.isWordLike = false) : words [t] = [] := by
  rw [words_of_run (List.cons_ne_nil t []) (.singleton t), if_neg (by simp [h])]

/-- A token that is no part of a word makes up none and keeps the words around it apart. -/
theorem words_cons_other {t : Token} (h : t.kind.isWordLike = false) (ts : List Token) :
    words (t :: ts) = words ts := by
  have hapart : ∀ x ∈ [t].getLast?, ∀ y ∈ ts.head?, x.touches y = false := by
    intro x hx y _
    obtain rfl : x = t := by simpa using hx.symm
    rw [Token.touches, h]
    rfl
  have happend := words_append hapart
  rwa [words_other h] at happend

theorem words_concat_other {t : Token} (h : t.kind.isWordLike = false) (ts : List Token) :
    words (ts ++ [t]) = words ts := by
  have hapart : ∀ x ∈ ts.getLast?, ∀ y ∈ [t].head?, x.touches y = false := by
    intro x _ y hy
    obtain rfl : y = t := by simpa using hy.symm
    rw [Token.touches, h, Bool.and_false]
    rfl
  rw [words_append hapart, words_other h, List.append_nil]

section Run

variable {t : Token} (ht : t.kind.isWordLike = true) (ts : List Token)

include ht

theorem targetSpan_chain :
    (t :: (Redirect.targetSpan (some t.stop) ts).1).IsChain (fun x y => x.touches y = true) := by
  induction ts generalizing t with
  | nil => exact .singleton t
  | cons u ts ih =>
    unfold Redirect.targetSpan
    split
    · next hnext =>
      obtain ⟨hu, hstop⟩ := hnext
      have hoffset : t.stop = u.position.offset := by simpa using hstop
      exact .cons_cons (by simp [Token.touches, ht, hu, hoffset]) (ih hu)
    · exact .singleton t

theorem targetSpan_stops :
    ∀ x ∈ (t :: (Redirect.targetSpan (some t.stop) ts).1).getLast?,
      ∀ y ∈ (Redirect.targetSpan (some t.stop) ts).2.head?, x.touches y = false := by
  induction ts generalizing t with
  | nil => simp [Redirect.targetSpan]
  | cons u ts ih =>
    unfold Redirect.targetSpan
    split
    · next hnext =>
      rw [List.getLast?_cons_cons]
      exact ih hnext.1
    · next hnext =>
      intro x hx y hy
      obtain rfl : x = t := by simpa using hx.symm
      obtain rfl : y = u := by simpa using hy.symm
      by_contra htouches
      have htouches : y.kind.isWordLike = true ∧ y.position.offset = x.stop := by
        simpa [Token.touches, ht] using htouches
      exact hnext ⟨htouches.1, .inr (by rw [htouches.2])⟩

omit ht in
theorem targetSpan_wordLike (last : Option Nat) :
    ∀ u ∈ (Redirect.targetSpan last ts).1, u.kind.isWordLike = true := by
  induction ts generalizing last with
  | nil => simp [Redirect.targetSpan]
  | cons u ts ih =>
    unfold Redirect.targetSpan
    split
    · next hnext => exact List.forall_mem_cons.2 ⟨hnext.1, ih _⟩
    · simp

/-- A part of a word begins a word that takes all tokens which touch it and one another. -/
theorem words_cons_word :
    words (t :: ts) = runText (t :: (Redirect.targetSpan (some t.stop) ts).1) ::
      words (Redirect.targetSpan (some t.stop) ts).2 := by
  have hall : (t :: (Redirect.targetSpan (some t.stop) ts).1).all (·.kind.isWordLike) = true :=
    List.all_eq_true.2 (List.forall_mem_cons.2 ⟨ht, targetSpan_wordLike ts _⟩)
  have happend := words_append (targetSpan_stops ht ts)
  rwa [List.cons_append, Redirect.targetSpan_append,
    words_of_run (List.cons_ne_nil _ _) (targetSpan_chain ht ts), if_pos hall] at happend

end Run

theorem runText_cons (t : Token) (run : List Token) :
    runText (t :: run) = t.wordText ++ runText run := by
  rw [runText, List.map_cons, String.join_cons]
  rfl

theorem words_tail {ts : List Token} (h : (kind ts).isWordLike = false) :
    words ts.tail = words ts := by
  cases ts with
  | nil => rfl
  | cons t ts => exact (words_cons_other h ts).symm

end Tokens

/-! ## Words of trees -/

namespace Node

/-- The words of the commands that stand in no substitution and in no quoted text. -/
def outerWords (n : Node) : List String :=
  (n.walkWhere fun m => !m.encloses).flatMap words

theorem outerWords_eq {n : Node} (h : n.encloses = false) :
    n.outerWords = n.words ++ n.children.flatMap outerWords := by
  rw [outerWords, walkWhere_eq, h, Bool.not_false, if_pos rfl, List.flatMap_cons,
    List.flatMap_assoc]
  rfl

theorem outerWords_of_encloses {n : Node} (h : n.encloses = true) : n.outerWords = [] := by
  rw [outerWords, walkWhere_eq, h]
  cases n with
  | command => cases h
  | _ => rfl

theorem outerWords_frame {n : Node} (h : n.frames = true) :
    n.outerWords = n.children.flatMap outerWords := by
  have hwords : n.words = [] := by
    cases n with
    | command => cases h
    | _ => rfl
  rw [outerWords_eq (encloses_of_frames h), hwords, List.nil_append]

end Node

theorem substitution_encloses (below : Option Level) (body : String) (inner position : Position)
    (backtick : Bool) : (substitution below body inner position backtick).1.encloses = true := by
  unfold substitution
  split
  · rfl
  · split
    · rfl
    · rfl

/-- What a token adds to a command besides its text holds no words of its own. -/
theorem part_outerWords (below : Option Level) (t : Token) :
    ∀ n ∈ (t.part below).node, n.outerWords = [] := by
  intro n hn
  unfold Token.part at hn
  by_cases hk : t.kind.isSubstitution = true
  · rw [partWith_of_isSubstitution below hk] at hn
    cases hn
    exact Node.outerWords_of_encloses (substitution_encloses ..)
  · unfold Token.partWith at hn
    cases hkind : t.kind with
    | quoted style =>
      rw [hkind] at hn
      cases style <;> cases hn <;> exact Node.outerWords_of_encloses rfl
    | glob | parameter =>
      rw [hkind] at hn
      cases hn
      rw [Node.outerWords_eq rfl]
      rfl
    | substitution | backtick =>
      rw [hkind] at hk
      exact absurd rfl hk
    | _ =>
      rw [hkind] at hn
      cases hn

/-! ## Simple commands -/

/-- Neither a redirect nor a parenthesis. -/
def Token.IsSimple (t : Token) : Prop :=
  t.kind.isRedirect = false ∧ t.kind ≠ .leftParen ∧ t.kind ≠ .rightParen

instance : DecidablePred Token.IsSimple :=
  fun t => inferInstanceAs (Decidable (t.kind.isRedirect = false ∧ _ ∧ _))

namespace Draft

/-- The words of a command once the tokens that follow are added to them: the last word goes on if a
part of it was read last. -/
def wordsWith (d : Draft) (ts : List Token) : List String :=
  match d.lastStop, d.words with
  | some stop, w :: ws =>
    ws.reverse ++ (w ++ Tokens.runText (Redirect.targetSpan (some stop) ts).1) ::
      Tokens.words (Redirect.targetSpan (some stop) ts).2
  | _, _ => d.words.reverse ++ Tokens.words ts

variable (d : Draft)

/-- Where no part of a word follows, the words are those read so far. -/
theorem wordsWith_other {ts : List Token} (h : (Tokens.kind ts).isWordLike = false) :
    d.wordsWith ts = d.words.reverse ++ Tokens.words ts := by
  have hspan (last : Option Nat) : Redirect.targetSpan last ts = ([], ts) := by
    cases ts with
    | nil => rfl
    | cons t ts =>
      rw [Tokens.kind_cons] at h
      simp [Redirect.targetSpan, h]
  unfold wordsWith
  split
  · next hwords =>
    rw [hwords, hspan]
    simp [Tokens.runText]
  · rfl

/-- Taking a part of a word changes nothing of what the words will be. -/
theorem wordsWith_addPart {t : Token} (ht : t.kind.isWordLike = true) (below : Option Level)
    (ts : List Token) : (d.addPart t (t.part below)).wordsWith ts = d.wordsWith (t :: ts) := by
  have hwords := Tokens.words_cons_word ht ts
  rw [Tokens.runText_cons] at hwords
  obtain ⟨words, children, lastStop⟩ := d
  cases words with
  | nil => cases lastStop <;> simp [addPart, wordsWith, hwords, Token.part_wordText]
  | cons w ws =>
    cases lastStop with
    | none => simp [addPart, wordsWith, hwords, Token.part_wordText]
    | some stop =>
      by_cases hjoined : stop = t.position.offset
      · simp [addPart, wordsWith, Redirect.targetSpan, hjoined, ht, Tokens.runText_cons,
          Token.part_wordText, String.append_assoc]
      · simp [addPart, wordsWith, Redirect.targetSpan, hjoined, hwords, Token.part_wordText,
          Tokens.runText]

theorem read_wordsWith (below : Option Level) {ts : List Token} (hplain : ∀ t ∈ ts, t.IsSimple) :
    (read below d ts).value.words.reverse ++ Tokens.words (read below d ts).rest =
      d.wordsWith ts := by
  fun_induction read below d ts with
  | case1 d => rw [wordsWith_other d rfl]
  | case2 d t rest hword part more ih =>
    rw [← wordsWith_addPart d hword below]
    exact ih (List.forall_mem_cons.1 hplain).2
  | case3 d t rest hword hredirect r more ih =>
    have hkind := (hplain t List.mem_cons_self).1
    rw [hredirect] at hkind
    cases hkind
  | case4 d t rest hword hredirect hparens ih =>
    exact absurd hparens.1 (hplain t List.mem_cons_self).2.1
  | case5 d t rest hword hredirect hparens hunknown ih =>
    have hother : t.kind.isWordLike = false := by
      rw [hunknown]
      rfl
    have hnext : (Tokens.kind (t :: rest)).isWordLike = false := hother
    rw [ih (List.forall_mem_cons.1 hplain).2, wordsWith_other d hnext,
      Tokens.words_cons_other hother]
    rfl
  | case6 d t rest hword =>
    have hnext : (Tokens.kind (t :: rest)).isWordLike = false := Bool.eq_false_iff.2 hword
    rw [wordsWith_other d hnext]

theorem read_outerWords (below : Option Level) {ts : List Token} (hplain : ∀ t ∈ ts, t.IsSimple)
    (hd : ∀ c ∈ d.children, c.outerWords = []) :
    ∀ c ∈ (read below d ts).value.children, c.outerWords = [] := by
  fun_induction read below d ts with
  | case1 => exact hd
  | case2 d t rest hword part more ih =>
    refine ih (List.forall_mem_cons.1 hplain).2 (List.forall_mem_append.2 ⟨fun c hc => ?_, hd⟩)
    exact part_outerWords below t c (Option.mem_toList.1 hc)
  | case3 d t rest hword hredirect r more ih =>
    have hkind := (hplain t List.mem_cons_self).1
    rw [hredirect] at hkind
    cases hkind
  | case4 d t rest hword hredirect hparens ih =>
    exact absurd hparens.1 (hplain t List.mem_cons_self).2.1
  | case5 d t rest hword hredirect hparens hunknown ih =>
    exact ih (List.forall_mem_cons.1 hplain).2 hd
  | case6 => exact hd

theorem read_words_ne_nil (below : Option Level) {ts : List Token} (hd : d.words ≠ []) :
    (read below d ts).value.words ≠ [] := by
  fun_induction read below d ts with
  | case1 => exact hd
  | case2 d t rest _ part more ih =>
    apply ih
    unfold addPart
    dsimp only
    split
    · exact List.cons_ne_nil _ _
    · split
      · exact List.cons_ne_nil _ _
      · exact List.cons_ne_nil _ _
  | case3 d t rest _ _ r more ih => exact ih hd
  | case4 d t rest _ _ _ ih => exact ih (List.cons_ne_nil _ _)
  | case5 d t rest _ _ _ _ ih => exact ih hd
  | case6 => exact hd

theorem node_words {d : Draft} (hd : d.words ≠ []) (p : Position) :
    (d.node p).words = d.words.reverse := by
  obtain ⟨w, ws, hwords⟩ := List.exists_cons_of_ne_nil (mt List.reverse_eq_nil_iff.1 hd)
  rw [node, hwords]
  rfl

end Draft

/-! ## Lists -/

/-- The words of a tree and those of the tokens left are the words of the tokens given. -/
theorem words_tally (below : Option Level) :
    Tally Token.IsSimple Node.outerWords
      (fun ts ws rest => Tokens.words ts = ws ++ Tokens.words rest) below where
  frame n := Node.outerWords_frame
  stay ts := rfl
  filler {t ts ws rest} hfiller h := by
    have hother : t.kind.isWordLike = false := by
      revert hfiller
      cases t.kind <;> simp [TokenKind.isFiller, TokenKind.isWordLike]
    rw [Tokens.words_cons_other hother, h]
  across {ts ws us vs rest} h hkind h' := by
    have hother : (Tokens.kind us).isWordLike = false := by
      revert hkind
      cases Tokens.kind us <;> simp [TokenKind.isSeparator, TokenKind.isWordLike]
    rw [h, ← Tokens.words_tail hother, h', List.append_assoc]
  group {t ts ws us} ht h hclosed := by
    have hother : t.kind.isWordLike = false := by
      rw [ht]
      rfl
    rw [Tokens.words_cons_other hother, h, Tokens.words_tail (by rw [hclosed]; rfl)]
  command {t ts} hplain hpart _ := by
    have hword : t.kind.isWordLike = true := by
      simpa [(hplain t List.mem_cons_self).1] using hpart
    have hwords := Draft.read_wordsWith .empty below hplain
    have hchildren := Draft.read_outerWords .empty below hplain (by simp [Draft.empty])
    have hne : (Draft.read below .empty (t :: ts)).value.words ≠ [] := by
      rw [Draft.read_part below .empty hword]
      exact Draft.read_words_ne_nil _ below (List.cons_ne_nil _ _)
    have hnode : ((Draft.read below .empty (t :: ts)).value.node t.position).outerWords =
        (Draft.read below .empty (t :: ts)).value.words.reverse := by
      rw [Node.outerWords_eq rfl, Draft.node_words hne, List.append_right_eq_self,
        List.flatMap_eq_nil_iff]
      exact fun c hc => hchildren c (List.mem_reverse.1 hc)
    rw [hnode, hwords]
    rfl

theorem level_words (n : Nat) : (level n).Tallies Token.IsSimple Node.outerWords
    (fun ts ws rest => Tokens.words ts = ws ++ Tokens.words rest) :=
  level_induction (fun below hbelow => Level.above_tallies (words_tally below) hbelow) n

namespace Parser

/-- A parser without complaint of tokens without redirects and parentheses has read them up to the
end of the text, and the words of its commands, substitutions and quoted texts not looked into, are
the stretches of tokens that touch. -/
theorem list_words {d : Nat} {ts : List Token} {e : Token}
    (hts : ∀ t ∈ ts, t.kind ≠ .eof ∧ t.IsSimple) (he : e.kind = .eof)
    (hsilent : ((ofTokens (ts ++ [e]) d).list false).2.notes = []) :
    ((ofTokens (ts ++ [e]) d).list false).2.rest = [e] ∧
      ((ofTokens (ts ++ [e]) d).list false).1.toList.flatMap Node.outerWords = Tokens.words ts := by
  have hclose : Tokens.close (ts ++ [e]) = ts ++ [e] := Tokens.close_concat he
  have hplain : ∀ t ∈ ts ++ [e], t.IsSimple := by
    refine List.forall_mem_append.2 ⟨fun t ht => (hts t ht).2, List.forall_mem_singleton.2 ?_⟩
    rw [Token.IsSimple, he]
    decide
  have hother : e.kind.isWordLike = false := by
    rw [he]
    rfl
  unfold ofTokens list at hsilent ⊢
  rw [hclose] at hsilent ⊢
  have hrest := level_silent_rest (fun t ht => (hts t ht).1) he hsilent
  have hwords := level_words (maxNesting - d) false (ts ++ [e]) hplain hsilent
  refine ⟨hrest, ?_⟩
  dsimp only at hwords
  rw [hrest, Tokens.words_other hother, List.append_nil, Tokens.words_concat_other hother] at hwords
  exact hwords.symm

/-- One level above the limit, `a="b c"$(ls)^d |`, a line end and `` `id` $x& `` are four words. -/
theorem list_words_four :
    let token (kind : TokenKind) (value : String) (start stop : Nat) : Token :=
      ⟨kind, value, ⟨1, start + 1, start⟩, stop⟩
    let ts := [token .word "a=" 0 2, token (.quoted .double) "b c" 2 7, token .substitution "ls" 7 12,
      token .unknown "^" 12 13, token .word "d" 13 14, token .pipe "|" 15 16,
      token .newline "\n" 16 17, token .backtick "id" 17 21, token .parameter "$x" 22 24,
      token .ampersand "&" 24 25]
    let read := (ofTokens (ts ++ [token .eof "" 25 25]) 31).list false
    (∀ t ∈ ts, t.kind ≠ .eof ∧ t.IsSimple) ∧ read.2.notes = [] ∧
      read.2.rest = [token .eof "" 25 25] ∧
      read.1.toList.flatMap Node.outerWords = ["a=b c$(ls)", "d", "`id`", "$x"] := by
  intro token ts read
  have hts : ∀ t ∈ ts, t.kind ≠ .eof ∧ t.IsSimple := by decide
  have hsilent : read.2.notes = [] := by cbv
  obtain ⟨hrest, hwords⟩ := list_words hts rfl hsilent
  have hruns : Tokens.words ts = ["a=b c$(ls)", "d", "`id`", "$x"] := by cbv
  exact ⟨hts, hsilent, hrest, hwords.trans hruns⟩

end Parser

end ShellGuard
