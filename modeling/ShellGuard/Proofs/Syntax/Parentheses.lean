import Mathlib
import ShellGuard.Proofs.Syntax.Limit
import ShellGuard.Proofs.Syntax.Tally

/-!
# Parentheses of a text that is read in silence

Nothing that is read in silence closes a parenthesis that was not opened.  But it may leave one open.
A group without its closing parenthesis is complained about; the parenthesis of a function definition
is not, since a word followed by `(` makes a definition whether or not `)` follows.  So the openings of
a silent text exceed its closings by the parentheses that stand behind a word and are not closed at
once (`Tokens.dangling`), and the text is balanced exactly if there are none.

Whether a parenthesis stands behind a word depends on what comes before it, so the account of a reader
says this of the tokens given and of the tokens left (`Nests`).  A separator clears it.
-/

namespace ShellGuard

/-! ## Counting parentheses -/

theorem openings_append (ts us : List Token) : openings (ts ++ us) = openings ts + openings us :=
  List.countP_append

theorem closings_append (ts us : List Token) : closings (ts ++ us) = closings ts + closings us :=
  List.countP_append

namespace Tokens

/-- Tokens that close no parenthesis before it is opened. -/
def Nested (ts : List Token) : Prop :=
  ∀ us, us <+: ts → closings us ≤ openings us

theorem Nested.nil : Nested [] := by
  intro us hus
  rw [List.prefix_nil.1 hus]
  exact Nat.le_refl 0

theorem Nested.append {ts us : List Token} (hts : Nested ts) (hus : Nested us) :
    Nested (ts ++ us) := by
  intro vs hvs
  rcases List.prefix_or_prefix_of_prefix hvs (List.prefix_append ts us) with hvs' | ⟨ws, rfl⟩
  · exact hts vs hvs'
  · have hfront := hts ts List.prefix_rfl
    have hback := hus ws ((List.prefix_append_right_inj ts).1 hvs)
    rw [openings_append, closings_append]
    omega

theorem Nested.one {t : Token} (h : t.kind ≠ .rightParen) : Nested [t] := by
  intro us hus
  have hclosings : closings us ≤ closings [t] := hus.sublist.countP_le
  have hone : closings [t] = 0 := by simp [closings, h]
  omega

/-- Parentheses around tokens that close nothing of what stands before them. -/
theorem Nested.enclosed {o c : Token} {ts : List Token} (h : Nested ts) (ho : o.kind = .leftParen) :
    Nested (o :: (ts ++ [c])) := by
  intro us hus
  cases us with
  | nil => exact Nat.zero_le _
  | cons u us =>
    obtain ⟨rfl, hbody⟩ := List.cons_prefix_cons.1 hus
    have hopen : openings (u :: us) = openings us + 1 := by rw [openings_cons, if_pos ho]
    have hclose : closings (u :: us) = closings us := by
      rw [closings_cons, if_neg (by rw [ho]; decide)]
      rfl
    rw [hopen, hclose]
    rcases List.prefix_concat_iff.1 hbody with rfl | hbody
    · have hall := h ts List.prefix_rfl
      have hlast : closings [c] ≤ 1 := List.countP_le_length
      rw [openings_append, closings_append]
      omega
    · have hfront := h us hbody
      omega

/-- How many parentheses open behind a word or a redirect and are not closed by the next token;
`behind` tells that one came last, characters that start no token aside. -/
def dangling (behind : Bool) : List Token → Nat
  | [] => 0
  | t :: ts =>
    if t.kind = .unknown then dangling behind ts
    else
      dangling (t.kind.isWordLike || t.kind.isRedirect) ts +
        if behind = true ∧ t.kind = .leftParen ∧ kind ts ≠ .rightParen then 1 else 0

end Tokens

/-! ## Accounts -/

/-- From `ts` up to `rest` no parenthesis is closed before it is opened, and those left open dangle. -/
def Nests (behind : Bool) (ts : List Token) (behind' : Bool) (rest : List Token) : Prop :=
  ∃ front, ts = front ++ rest ∧ Tokens.Nested front ∧
    openings front + Tokens.dangling behind' rest = closings front + Tokens.dangling behind ts

namespace Nests

variable {b b' b'' : Bool} {t : Token} {ts us vs : List Token}

theorem refl (b : Bool) (ts : List Token) : Nests b ts b ts :=
  ⟨[], rfl, .nil, rfl⟩

theorem trans (h : Nests b ts b' us) (h' : Nests b' us b'' vs) : Nests b ts b'' vs := by
  obtain ⟨front, rfl, hnested, hcount⟩ := h
  obtain ⟨front', rfl, hnested', hcount'⟩ := h'
  refine ⟨front ++ front', (List.append_assoc ..).symm, hnested.append hnested', ?_⟩
  rw [openings_append, closings_append]
  omega

theorem unknown (b : Bool) (ts : List Token) (h : t.kind = .unknown) : Nests b (t :: ts) b ts := by
  refine ⟨[t], rfl, .one (by rw [h]; decide), ?_⟩
  simp [openings, closings, Tokens.dangling, h]

/-- Any other token that is no parenthesis decides whether the next one stands behind a word. -/
theorem token (b : Bool) (ts : List Token) (hunknown : t.kind ≠ .unknown)
    (hleft : t.kind ≠ .leftParen) (hright : t.kind ≠ .rightParen) :
    Nests b (t :: ts) (t.kind.isWordLike || t.kind.isRedirect) ts := by
  refine ⟨[t], rfl, .one hright, ?_⟩
  simp [openings, closings, Tokens.dangling, hunknown, hleft, hright]

theorem word (b : Bool) (ts : List Token)
    (h : t.kind.isWordLike = true ∨ t.kind.isRedirect = true) : Nests b (t :: ts) true ts := by
  have hkind : t.kind ≠ .unknown ∧ t.kind ≠ .leftParen ∧ t.kind ≠ .rightParen := by
    refine ⟨?_, ?_, ?_⟩ <;> intro hk <;> rw [hk] at h <;> simp [TokenKind.isWordLike,
      TokenKind.isRedirect] at h
  have htoken := token b ts hkind.1 hkind.2.1 hkind.2.2
  rwa [Bool.or_eq_true_iff.2 h] at htoken

theorem separator (b : Bool) (ts : List Token) (h : t.kind.isSeparator = true) :
    Nests b (t :: ts) false ts := by
  have hkind : t.kind ≠ .unknown ∧ t.kind ≠ .leftParen ∧ t.kind ≠ .rightParen ∧
      (t.kind.isWordLike || t.kind.isRedirect) = false := by
    revert h
    cases t.kind <;> simp [TokenKind.isSeparator, TokenKind.isWordLike, TokenKind.isRedirect]
  have htoken := token b ts hkind.1 hkind.2.1 hkind.2.2.1
  rwa [hkind.2.2.2] at htoken

theorem filler (ts : List Token) (h : t.kind.isFiller = true) : Nests false (t :: ts) false ts := by
  by_cases hunknown : t.kind = .unknown
  · exact unknown false ts hunknown
  · refine separator false ts ?_
    revert h hunknown
    cases t.kind <;> simp [TokenKind.isFiller, TokenKind.isSeparator]

/-- A group is closed. -/
theorem group {c : Token} (ht : t.kind = .leftParen) (hc : c.kind = .rightParen)
    (h : Nests false ts b (c :: us)) : Nests false (t :: ts) false us := by
  obtain ⟨body, rfl, hnested, hcount⟩ := h
  refine ⟨t :: (body ++ [c]), by simp, hnested.enclosed ht, ?_⟩
  have hopening : Tokens.dangling false (t :: (body ++ c :: us)) =
      Tokens.dangling false (body ++ c :: us) := by
    simp [Tokens.dangling, ht, TokenKind.isWordLike, TokenKind.isRedirect]
  have hclosing : Tokens.dangling b (c :: us) = Tokens.dangling false us := by
    simp [Tokens.dangling, hc, TokenKind.isWordLike, TokenKind.isRedirect]
  have hopenings : openings (t :: (body ++ [c])) = openings body + 1 := by
    simp [openings, ht, hc]
  have hclosings : closings (t :: (body ++ [c])) = closings body + 1 := by
    simp [closings, ht, hc]
  rw [hopenings, hclosings, hopening]
  rw [hclosing] at hcount
  omega

/-- The parenthesis of a definition is closed at once or dangles. -/
theorem definition (ts : List Token) (ht : t.kind = .leftParen) :
    Nests true (t :: ts) false (Draft.dropClosing ts) := by
  cases ts with
  | nil =>
    refine ⟨[t], rfl, .one (by rw [ht]; decide), ?_⟩
    simp [openings, closings, Tokens.dangling, Draft.dropClosing, ht, Tokens.kind, Tokens.current,
      Token.eof]
  | cons c ts =>
    by_cases hc : c.kind = .rightParen
    · have hnested : Tokens.Nested [t, c] := Tokens.Nested.nil.enclosed ht
      rw [Draft.dropClosing, if_pos hc]
      refine ⟨[t, c], rfl, hnested, ?_⟩
      simp [openings, closings, Tokens.dangling, ht, hc, TokenKind.isWordLike, TokenKind.isRedirect]
    · rw [Draft.dropClosing, if_neg hc]
      have hdangling : Tokens.dangling true (t :: c :: ts) = Tokens.dangling false (c :: ts) + 1 := by
        rw [Tokens.dangling, if_neg (by rw [ht]; decide), if_pos ⟨rfl, ht, hc⟩, ht]
        rfl
      refine ⟨[t], rfl, .one (by rw [ht]; decide), ?_⟩
      rw [hdangling]
      simp [openings, closings, ht, Nat.add_comm]

end Nests

/-! ## Simple commands -/

theorem targetSpan_nests (last : Option Nat) (ts : List Token) :
    Nests true ts true (Redirect.targetSpan last ts).2 := by
  induction ts generalizing last with
  | nil => exact .refl true []
  | cons t ts ih =>
    unfold Redirect.targetSpan
    split
    · next hword => exact (Nests.word true ts (.inl hword.1)).trans (ih _)
    · exact .refl true _

section Readers

variable (below : Option Level)

theorem redirect_nests (op : Token) (ts : List Token) :
    Nests true ts true (Redirect.parse below op ts).rest := by
  unfold Redirect.parse
  dsimp only
  split
  · exact targetSpan_nests none ts
  · exact .refl true ts

/-- A command of one word makes a definition of the next parenthesis, and its word came last. -/
theorem draft_nests (d : Draft) (ts : List Token) : ∀ b, (d.hasOneWord = true → b = true) →
    ∃ b', Nests b ts b' (Draft.read below d ts).rest := by
  fun_induction Draft.read below d ts with
  | case1 =>
    intro b _
    exact ⟨b, .refl b []⟩
  | case2 d t rest hword part more ih =>
    intro b _
    obtain ⟨b', hrest⟩ := ih true fun _ => rfl
    exact ⟨b', (Nests.word b rest (.inl hword)).trans hrest⟩
  | case3 d t rest hword hredirect r more ih =>
    intro b _
    obtain ⟨b', hrest⟩ := ih true fun _ => rfl
    exact ⟨b', ((Nests.word b rest (.inr hredirect)).trans (redirect_nests below t rest)).trans hrest⟩
  | case4 d t rest hword hredirect hparens ih =>
    intro b hb
    have hwords : d.addParens.hasOneWord = false := by
      obtain ⟨hleft, hone⟩ := hparens
      unfold Draft.hasOneWord at hone
      split at hone
      · next w hw => simp [Draft.addParens, Draft.hasOneWord, hw]
      · cases hone
    obtain ⟨b', hrest⟩ := ih false fun hone => absurd hone (by simp [hwords])
    rw [hb hparens.2]
    exact ⟨b', (Nests.definition rest hparens.1).trans hrest⟩
  | case5 d t rest hword hredirect hparens hunknown ih =>
    intro b hb
    obtain ⟨b', hrest⟩ := ih b hb
    exact ⟨b', (Nests.unknown b rest hunknown).trans hrest⟩
  | case6 d t rest =>
    intro b _
    exact ⟨b, .refl b _⟩

/-! ## Lists -/

/-- Of a tree nothing is counted: the account is about the tokens alone. -/
theorem parens_tally :
    Tally (fun _ => True) (fun _ => ([] : List Unit))
      (fun ts _ rest => ∃ b, Nests false ts b rest) below where
  frame n _ := by simp
  stay ts := ⟨false, .refl false ts⟩
  filler {t ts _ rest} hfiller := by
    rintro ⟨b, h⟩
    exact ⟨b, (Nests.filler ts hfiller).trans h⟩
  across {ts _ us _ rest} := by
    rintro ⟨b, h⟩ hkind ⟨b', h'⟩
    cases us with
    | nil => cases hkind
    | cons u us => exact ⟨b', (h.trans (.separator b us hkind)).trans h'⟩
  group {t ts _ us} := by
    rintro ht ⟨b, h⟩ hclosed
    cases us with
    | nil => cases hclosed
    | cons u us => exact ⟨false, h.group ht hclosed⟩
  command {t ts} _ _ _ := draft_nests below .empty (t :: ts) false fun hone => by cases hone

end Readers

theorem level_parens (n : Nat) : (level n).Tallies (fun _ => True) (fun _ => ([] : List Unit))
    (fun ts _ rest => ∃ b, Nests false ts b rest) :=
  level_induction (fun below hbelow => Level.above_tallies (parens_tally below) hbelow) n

/-- A text that is parsed in silence closes no parenthesis before it is opened, and the parentheses it
leaves open are those that stand behind a word and are not closed at once. -/
theorem parse_parens {s : String} {p : Parse} (h : parse s = .ok p) (hnotes : p.notes = []) :
    ∃ ts, tokenize s = .ok ts ∧ (∀ us, us <+: ts → closings us ≤ openings us) ∧
      openings ts = closings ts + Tokens.dangling false ts := by
  obtain ⟨ts, hts, -, hpnotes⟩ := tokens_of_parse h
  obtain ⟨front, last, rfl, hfront, hlast, -⟩ := (Cursor.tokens_tiles hts).ending
  have hsilent := hpnotes.trans hnotes
  have hrest := level_silent_rest (fun t ht => (hfront t ht).1) hlast hsilent
  obtain ⟨b, hnests⟩ := level_parens maxNesting false (front ++ [last]) (fun _ _ => trivial) hsilent
  rw [hrest] at hnests
  have hend : Nests b [last] false [] := by
    have htoken := Nests.token b [] (t := last) (by rw [hlast]; decide) (by rw [hlast]; decide)
      (by rw [hlast]; decide)
    rw [hlast] at htoken
    exact htoken
  obtain ⟨all, hall, hnested, hcount⟩ := hnests.trans hend
  rw [List.append_nil] at hall
  refine ⟨front ++ [last], hts, ?_, ?_⟩
  · rw [hall]
    exact hnested
  · rw [← hall] at hcount
    exact hcount

/-- A definition that is closed, and one in a group that is not. -/
theorem parse_parens_definitions :
    ∃ p, parse "f(); (g( x) | h" = .ok p ∧ p.notes = [] ∧
      ∃ ts, tokenize "f(); (g( x) | h" = .ok ts ∧
        (∀ us, us <+: ts → closings us ≤ openings us) ∧
        openings ts = closings ts + Tokens.dangling false ts ∧ closings ts = 2 ∧
        Tokens.dangling false ts = 1 := by
  obtain ⟨p, hp, hsilent⟩ := exists_of_parse_any
    (f := fun p => p.notes.isEmpty) (s := "f(); (g( x) | h") (by cbv)
  have hnotes := List.isEmpty_iff.1 hsilent
  obtain ⟨ts, hts, hnested, hcount⟩ := parse_parens hp hnotes
  have hcounts : (tokenize "f(); (g( x) | h").toOption.map
      (fun ts => (closings ts, Tokens.dangling false ts)) = some (2, 1) := by cbv
  rw [hts] at hcounts
  obtain ⟨hclosings, hdangling⟩ := Prod.mk.inj (Option.some.inj hcounts)
  exact ⟨p, hp, hnotes, ts, hts, hnested, hcount, hclosings, hdangling⟩

/-- Nothing is said about a definition that is never closed. -/
theorem open_definition_silent :
    ((parse "f(").toOption.map fun p => p.notes.isEmpty) = some true ∧
      ((tokenize "f(").toOption.map fun ts => (openings ts, closings ts)) = some (1, 0) := by
  constructor <;> cbv

end ShellGuard
