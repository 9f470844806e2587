import Mathlib
import ShellGuard.Proofs.Syntax.Lossless
import ShellGuard.Proofs.Syntax.Nesting
import ShellGuard.Proofs.Syntax.Relocation
import ShellGuard.Proofs.Syntax.Tally

/-!
# Which substitutions a tree shows

A command read without complaint shows the substitutions of its text one by one, in order, each with
the tree that its body has on its own.  Only the targets of redirects are left out: of a target the
text is kept and its structure dropped, so a substitution there runs without standing in the tree.

Each reader accounts for the substitutions among the tokens it takes (`Accounts`); what it takes and
what it leaves follow one another, so the accounts of readers that follow one another add up.
-/

namespace ShellGuard

/-! ## Substitutions in trees -/

namespace Node

/-- Whether a node is a substitution. -/
def isSubstitution : Node → Bool
  | subshell _ _ isCommand _ => isCommand
  | _ => false

/-- Substitutions and quoted texts, which are looked at as a whole. -/
def encloses (n : Node) : Bool :=
  n.isSubstitution || n.kind == .quoted

/-- The substitutions of a tree that stand in no other substitution and in no quoted text. -/
def outerSubstitutions (n : Node) : List Node :=
  (n.walkWhere fun m => !m.encloses).filter isSubstitution

theorem outerSubstitutions_of_substitution {n : Node} (h : n.isSubstitution = true) :
    n.outerSubstitutions = [n] := by
  rw [outerSubstitutions, walkWhere_eq]
  simp [encloses, h]

theorem outerSubstitutions_quoted (p : Position) (style : QuoteStyle) (value : String)
    (es : List Node) : (quoted p style value es).outerSubstitutions = [] := by
  rw [outerSubstitutions, walkWhere_eq]
  rfl

/-- Every other node shows what its children show. -/
theorem outerSubstitutions_eq_flatMap {n : Node} (h : n.encloses = false) :
    n.outerSubstitutions = n.children.flatMap outerSubstitutions := by
  have hsubstitution : n.isSubstitution = false := (Bool.or_eq_false_iff.1 h).1
  rw [outerSubstitutions, walkWhere_eq, h, Bool.not_false, if_pos rfl,
    List.filter_cons_of_neg (by simp [hsubstitution]), List.filter_flatMap]
  rfl

theorem encloses_of_frames {n : Node} (h : n.frames = true) : n.encloses = false := by
  cases n with
  | subshell p body isCommand backtick =>
    have hgroup : isCommand = false := by simpa [frames] using h
    rw [hgroup]
    rfl
  | command | redirect | parameter | quoted | glob => cases h
  | _ => rfl

end Node

/-! ## Substitutions among tokens -/

/-- The two ways to write a substitution. -/
def TokenKind.isSubstitution : TokenKind → Bool
  | substitution | backtick => true
  | _ => false

/-- Tokens that are no substitution and take no target. -/
def TokenKind.showsNothing (k : TokenKind) : Bool :=
  !(k.isSubstitution || k.isRedirect)

theorem TokenKind.isSubstitution_of_isRedirect {k : TokenKind} (h : k.isRedirect = true) :
    k.isSubstitution = false := by
  revert h
  cases k <;> simp [isRedirect, isSubstitution]

/-- A redirect that is followed by its target. -/
def Token.takesTarget (t : Token) : Bool :=
  t.kind.isRedirect && (Redirect.embeddedTarget t.kind t.value.toList).isEmpty

namespace Tokens

/-- Tokens parted into those outside and those inside the targets of redirects. -/
def partTargets (ts : List Token) : List Token × List Token :=
  match ts with
  | [] => ([], [])
  | t :: ts =>
    if t.takesTarget then
      let span := Redirect.targetSpan none ts
      let more := partTargets span.2
      (t :: more.1, span.1 ++ more.2)
    else
      let more := partTargets ts
      (t :: more.1, more.2)
termination_by ts.length
decreasing_by
  · have hspan := congrArg List.length (Redirect.targetSpan_append none ts)
    simp only [List.length_append] at hspan
    simp only [List.length_cons]
    omega
  · exact Nat.lt_succ_self _

/-- The substitutions outside the targets of redirects. -/
def substitutions (ts : List Token) : List Token :=
  (partTargets ts).1.filter (·.kind.isSubstitution)

theorem substitutions_nil : substitutions [] = [] := by
  rw [substitutions, partTargets]
  rfl

theorem substitutions_cons {t : Token} (h : t.takesTarget = false) (ts : List Token) :
    substitutions (t :: ts) = [t].filter (·.kind.isSubstitution) ++ substitutions ts := by
  simp only [substitutions]
  rw [partTargets]
  simp only [h, Bool.false_eq_true, if_false, List.filter_cons]
  split <;> rfl

theorem substitutions_target {t : Token} (h : t.takesTarget = true) (ts : List Token) :
    substitutions (t :: ts) = substitutions (Redirect.targetSpan none ts).2 := by
  have hkind : t.kind.isSubstitution = false :=
    TokenKind.isSubstitution_of_isRedirect (Bool.and_eq_true_iff.1 h).1
  simp only [substitutions]
  rw [partTargets]
  simp only [h, if_true]
  exact List.filter_cons_of_neg (by simp [hkind])

/-- Parting keeps all tokens. -/
theorem countP_partTargets (f : Token → Bool) (ts : List Token) :
    ts.countP f = (partTargets ts).1.countP f + (partTargets ts).2.countP f := by
  fun_induction partTargets ts with
  | case1 => rfl
  | case2 t ts h span more ih =>
    have hspan : ts.countP f = span.1.countP f + span.2.countP f := by
      rw [← List.countP_append, Redirect.targetSpan_append]
    simp only [List.countP_cons, List.countP_append, more] at ih ⊢
    omega
  | case3 t ts h more ih =>
    simp only [List.countP_cons, more] at ih ⊢
    omega

end Tokens

/-! ## What a substitution shows -/

/-- The tree that a text has on its own, up to places, or none if it holds no command. -/
def Alone (s : String) (body : Option Node) : Prop :=
  (∃ r, parse s = .ok r ∧ body.map Node.unplaced = some r.root.unplaced) ∨
    ((∃ notes, parse s = .error (.noCommands notes)) ∧ body = none)

/-- The node that stands for a substitution: at its place, and with the tree of its body. -/
def Token.Shows (t : Token) (n : Node) : Prop :=
  ∃ body, n = .subshell t.position body true (t.kind == .backtick) ∧ Alone t.value body

/-- The substitutions among the tokens between `ts` and `rest` are the ones shown. -/
def Accounts (ts : List Token) (shown : List Node) (rest : List Token) : Prop :=
  ∃ front, Tokens.substitutions ts = front ++ Tokens.substitutions rest ∧
    List.Forall₂ Token.Shows front shown

namespace Accounts

theorem refl (ts : List Token) : Accounts ts [] ts :=
  ⟨[], rfl, .nil⟩

theorem trans {ts us vs : List Token} {xs ys : List Node} (h : Accounts ts xs us)
    (h' : Accounts us ys vs) : Accounts ts (xs ++ ys) vs := by
  obtain ⟨front, hfront, hshown⟩ := h
  obtain ⟨front', hfront', hshown'⟩ := h'
  refine ⟨front ++ front', ?_, List.rel_append hshown hshown'⟩
  rw [hfront, hfront', List.append_assoc]

/-- A token that is neither a substitution nor a redirect shows nothing. -/
theorem skip {t : Token} {ts rest : List Token} {shown : List Node} (h : Accounts ts shown rest)
    (ht : t.kind.showsNothing = true) : Accounts (t :: ts) shown rest := by
  obtain ⟨front, hfront, hshown⟩ := h
  obtain ⟨hsubstitution, hredirect⟩ :
      t.kind.isSubstitution = false ∧ t.kind.isRedirect = false := by
    simpa [TokenKind.showsNothing] using ht
  refine ⟨front, ?_, hshown⟩
  rw [Tokens.substitutions_cons (by simp [Token.takesTarget, hredirect]), ← hfront]
  simp [hsubstitution]

end Accounts

/-- A level that reads the bodies of substitutions as they are on their own, and accounts for what
stands in a group. -/
structure Level.Faithful (l : Level) : Prop where
  alone : ∀ p s ts, tokenizeAt p s = .ok ts → (l.list false ts).notes = [] →
    Alone s (l.list false ts).value
  accounts : ∀ inGroup ts, (l.list inGroup ts).notes = [] →
    Accounts ts ((l.list inGroup ts).value.toList.flatMap Node.outerSubstitutions)
      (l.list inGroup ts).rest

section Readers

variable {below : Option Level} (hb : ∀ l ∈ below, l.Faithful)

include hb

/-! ### Words -/

theorem substitution_shown {t : Token} {inner : Position} {backtick : Bool}
    (hkind : (t.kind == .backtick) = backtick)
    (hnotes : (substitution below t.value inner t.position backtick).2 = []) :
    t.Shows (substitution below t.value inner t.position backtick).1 := by
  obtain ⟨l, ts, rfl, hts, hsilent⟩ := substitution_silent hnotes
  rw [substitution_ok l hts, ← hkind]
  exact ⟨_, rfl, (hb l rfl).alone inner t.value ts hts hsilent⟩

/-- What a token adds to a word shows the token where it is a substitution, and else nothing. -/
theorem part_shown {t : Token} (hnotes : (t.part below).notes = []) :
    List.Forall₂ Token.Shows ([t].filter (·.kind.isSubstitution))
      ((t.part below).node.toList.flatMap Node.outerSubstitutions) := by
  unfold Token.part Token.partWith at hnotes ⊢
  cases hk : t.kind with
  | substitution | backtick =>
    simp only [hk] at hnotes ⊢
    have hshown := substitution_shown hb (by rw [hk]; rfl) hnotes
    obtain ⟨body, hnode, -⟩ := id hshown
    rw [hnode] at hshown ⊢
    simpa [hk, TokenKind.isSubstitution,
      Node.outerSubstitutions_of_substitution (n := .subshell _ _ true _) rfl] using hshown
  | quoted style =>
    cases style <;> simp [hk, TokenKind.isSubstitution, Node.outerSubstitutions_quoted]
  | glob | parameter =>
    simp only [Option.toList_some, List.flatMap_singleton]
    rw [Node.outerSubstitutions_eq_flatMap rfl]
    simp [hk, TokenKind.isSubstitution, Node.children]
  | _ => simp [hk, TokenKind.isSubstitution]

/-! ### Simple commands -/

omit hb in
theorem redirect_accounts {op : Token} (hop : op.kind.isRedirect = true) (ts : List Token) :
    Accounts (op :: ts) [] (Redirect.parse below op ts).rest := by
  refine ⟨[], ?_, .nil⟩
  by_cases hembedded : (Redirect.embeddedTarget op.kind op.value.toList).isEmpty = true
  · rw [Tokens.substitutions_target (by simp [Token.takesTarget, hop, hembedded])]
    simp [Redirect.parse, hembedded, Redirect.readTarget]
  · have hkind : op.kind.isSubstitution = false := TokenKind.isSubstitution_of_isRedirect hop
    rw [Tokens.substitutions_cons (by simp [Token.takesTarget, hembedded])]
    simp [Redirect.parse, hembedded, hkind]

omit hb in
theorem dropClosing_accounts (ts : List Token) : Accounts ts [] (Draft.dropClosing ts) := by
  cases ts with
  | nil => exact .refl []
  | cons t ts =>
    unfold Draft.dropClosing
    dsimp only
    split
    · next hparen => exact (Accounts.refl ts).skip (by rw [hparen]; rfl)
    · exact .refl _

/-- What the parts of a command show so far. -/
def Draft.shown (d : Draft) : List Node :=
  d.children.reverse.flatMap Node.outerSubstitutions

omit hb in
theorem Draft.shown_addPart (d : Draft) (t : Token) (part : WordPart) :
    (d.addPart t part).shown = d.shown ++ part.node.toList.flatMap Node.outerSubstitutions := by
  cases hnode : part.node <;> simp [Draft.shown, Draft.addPart, hnode]

omit hb in
theorem Draft.shown_addRedirect (d : Draft) (p : Position) (r : Redirect) :
    (d.addRedirect p r).shown = d.shown := by
  have hredirect : (Node.redirect p r).outerSubstitutions = [] :=
    Node.outerSubstitutions_eq_flatMap rfl
  simp [Draft.shown, Draft.addRedirect, hredirect]

/-- Reading on adds what the tokens show to what the command showed before. -/
theorem draft_accounts {d : Draft} {ts : List Token} (hnotes : (Draft.read below d ts).notes = []) :
    ∃ new, (Draft.read below d ts).value.shown = d.shown ++ new ∧
      Accounts ts new (Draft.read below d ts).rest := by
  fun_induction Draft.read below d ts with
  | case1 d => exact ⟨[], by simp, .refl []⟩
  | case2 d t rest hword part more ih =>
    obtain ⟨hpart, hmore⟩ := List.append_eq_nil_iff.1 hnotes
    obtain ⟨new, hshown, haccounts⟩ := ih hmore
    refine ⟨_, by rw [hshown, Draft.shown_addPart, List.append_assoc], ?_⟩
    have htarget : t.takesTarget = false := by
      rw [Token.takesTarget, TokenKind.isRedirect_of_isWordLike hword, Bool.false_and]
    exact Accounts.trans ⟨_, Tokens.substitutions_cons htarget rest, part_shown hb hpart⟩ haccounts
  | case3 d t rest hword hredirect r more ih =>
    obtain ⟨new, hshown, haccounts⟩ := ih (List.append_eq_nil_iff.1 hnotes).2
    rw [Draft.shown_addRedirect] at hshown
    exact ⟨new, hshown, (redirect_accounts hredirect rest).trans haccounts⟩
  | case4 d t rest hword hredirect hparens ih =>
    obtain ⟨new, hshown, haccounts⟩ := ih hnotes
    exact ⟨new, hshown, ((dropClosing_accounts rest).trans haccounts).skip
      (by rw [hparens.1]; rfl)⟩
  | case5 d t rest hword hredirect hparens hunknown ih =>
    obtain ⟨new, hshown, haccounts⟩ := ih hnotes
    exact ⟨new, hshown, haccounts.skip (by rw [hunknown]; rfl)⟩
  | case6 d t rest => exact ⟨[], by simp, .refl _⟩

/-! ### Lists -/

omit hb in
theorem tail_accounts {ts : List Token} (h : (Tokens.kind ts).showsNothing = true) :
    Accounts ts [] ts.tail := by
  cases ts with
  | nil => exact .refl []
  | cons t ts => exact (Accounts.refl ts).skip h

theorem accounts_tally : Tally (fun _ => True) Node.outerSubstitutions Accounts below where
  frame _ hn := Node.outerSubstitutions_eq_flatMap (Node.encloses_of_frames hn)
  stay := .refl
  filler {t ts xs rest} hfiller hread := by
    have hplain : t.kind.showsNothing = true := by
      revert hfiller
      cases t.kind <;> simp [TokenKind.isFiller, TokenKind.showsNothing,
        TokenKind.isSubstitution, TokenKind.isRedirect]
    exact hread.skip hplain
  across {ts xs us ys rest} hread hkind hmore := by
    have hplain : (Tokens.kind us).showsNothing = true := by
      revert hkind
      cases Tokens.kind us <;> simp [TokenKind.isSeparator, TokenKind.showsNothing,
        TokenKind.isSubstitution, TokenKind.isRedirect]
    exact hread.trans ((tail_accounts hplain).trans hmore)
  group {t ts xs us} ht hread hclosed := by
    have hclosing : Accounts us [] us.tail := tail_accounts (by rw [hclosed]; rfl)
    have hall := hread.trans hclosing
    rw [List.append_nil] at hall
    exact hall.skip (by rw [ht]; rfl)
  command {t ts} _ _ hnotes := by
    obtain ⟨new, hshown, haccounts⟩ := draft_accounts hb hnotes
    rw [show Draft.empty.shown = [] from rfl, List.nil_append] at hshown
    rw [Draft.node, Node.outerSubstitutions_eq_flatMap rfl]
    rw [← hshown] at haccounts
    exact haccounts

theorem list_accounts {inGroup : Bool} {ts : List Token}
    (hnotes : ((Level.above below).list inGroup ts).notes = []) :
    Accounts ts (((Level.above below).list inGroup ts).value.toList.flatMap Node.outerSubstitutions)
      ((Level.above below).list inGroup ts).rest :=
  Level.above_tallies (accounts_tally hb) (fun l hl inGroup ts _ => (hb l hl).accounts inGroup ts)
    inGroup ts (fun _ _ => trivial) hnotes

end Readers

/-! ## Levels -/

/-- What a level reads without complaint is what the text gives on its own, wherever it begins. -/
theorem level_alone {n : Nat} (hn : n ≤ maxNesting) {p : Position} {s : String} {ts : List Token}
    (h : tokenizeAt p s = .ok ts) (hnotes : ((level n).list false ts).notes = []) :
    Alone s ((level n).list false ts).value := by
  -- First the text is brought to the start, then its reader up to that of whole commands.
  obtain ⟨us, hus, rfl⟩ := tokenize_of_tokenizeAt h
  have hmoved := level_moves p n false us (tokenize_proper hus)
  have hsilent : ((level n).list false us).notes = [] := by
    rw [← List.length_eq_zero_iff, ← hmoved.notes, hnotes, List.length_nil]
  have hsame := level_agrees (.inl hn) false us hsilent fun _ _ => Node.shallow_none
  rw [Alone, parse_of_tokens hus, hmoved.value]
  dsimp only
  rw [hsame.value]
  cases ((level n).list false us).value with
  | none => exact .inr ⟨⟨_, rfl⟩, rfl⟩
  | some v => exact .inl ⟨_, rfl, by simp⟩

theorem level_faithful {n : Nat} (hn : n ≤ maxNesting) : (level n).Faithful := by
  induction n with
  | zero => exact ⟨fun _ _ _ => level_alone hn, fun _ _ => list_accounts (by simp)⟩
  | succ n ih =>
    refine ⟨fun _ _ _ => level_alone hn, fun _ _ => list_accounts fun l hl => ?_⟩
    rw [← Option.some.inj hl]
    exact ih (Nat.le_of_succ_le hn)

/-- Of the tokens of a text, only the last can end a list of commands that stands in no group. -/
theorem Tiles.substitutions_end {o : Nat} {cs : List Char} {ts rest : List Token}
    (h : Tiles o cs ts) (hrest : rest <:+ ts) (hend : Tokens.kind rest = .eof) :
    Tokens.substitutions rest = [] := by
  induction h with
  | @last o gap t passed kind =>
    rcases List.suffix_cons_iff.1 hrest with rfl | hnil
    · rw [Tokens.substitutions_cons (by simp [Token.takesTarget, kind, TokenKind.isRedirect]),
        Tokens.substitutions_nil]
      simp [kind, TokenKind.isSubstitution]
    · rw [List.suffix_nil.1 hnil, Tokens.substitutions_nil]
  | @token o gap text rest' t ts passed kind nonempty start stop spelled more ih =>
    rcases List.suffix_cons_iff.1 hrest with rfl | hmore
    · exact absurd hend kind
    · exact ih hmore

theorem tokens_accounts {s : String} {ts : List Token} {root : Node} (hts : tokenize s = .ok ts)
    (hroot : ((level maxNesting).list false ts).value = some root)
    (hnotes : ((level maxNesting).list false ts).notes = []) :
    List.Forall₂ Token.Shows (Tokens.substitutions ts) root.outerSubstitutions := by
  obtain ⟨front, hfront, hshown⟩ :=
    (level_faithful (Nat.le_refl maxNesting)).accounts false ts hnotes
  have hend : Tokens.substitutions ((level maxNesting).list false ts).rest = [] :=
    (Cursor.tokens_tiles hts).substitutions_end ((level maxNesting).rest_suffix false ts)
      (level_silent_end hnotes)
  rw [hend, List.append_nil] at hfront
  rw [hroot, Option.toList_some, List.flatMap_singleton] at hshown
  rwa [hfront]

/-! ## Whole commands -/

/-- A substitution that is shown has the commands of its body among those of the tree. -/
theorem Token.Shows.commands {t : Token} {n root : Node} {r : Parse} (h : t.Shows n)
    (hn : n ∈ root.outerSubstitutions) (hr : parse t.value = .ok r) :
    r.root.commands.map Node.unplaced <:+: root.commands.map Node.unplaced := by
  obtain ⟨body, rfl, ⟨r', hr', hbody⟩ | ⟨⟨notes, hnone⟩, -⟩⟩ := h
  · obtain rfl : r = r' := Except.ok.inj (hr.symm.trans hr')
    obtain ⟨b, rfl, hb⟩ := Option.map_eq_some_iff.1 hbody
    have hwalk : b.walk <:+: root.walk := by
      refine List.IsInfix.trans ?_ (Node.walk_infix (List.mem_of_mem_filter hn))
      rw [Node.walk_eq (.subshell ..), Node.children, Option.toList_some, List.flatMap_singleton]
      exact List.infix_cons (List.infix_refl _)
    rw [← Node.commands_unplaced, ← hb, Node.commands_unplaced]
    exact (hwalk.filter _).map _
  · rw [hr] at hnone
    cases hnone

/-- What a tree shows of the tokens it was read from: each substitution outside the targets of
redirects, in order; all there are only if no target holds one; and the commands inside those it
shows. -/
structure ShowsSubstitutions (ts : List Token) (root : Node) : Prop where
  shown : List.Forall₂ Token.Shows (Tokens.substitutions ts) root.outerSubstitutions
  all_iff : root.outerSubstitutions.length = ts.countP (·.kind.isSubstitution) ↔
    ∀ t ∈ (Tokens.partTargets ts).2, t.kind.isSubstitution = false
  commands : ∀ t ∈ Tokens.substitutions ts, ∀ r, parse t.value = .ok r →
    r.root.commands.map Node.unplaced <:+: root.commands.map Node.unplaced

theorem parse_shows_substitutions {s : String} {p : Parse} (h : parse s = .ok p)
    (hnotes : p.notes = []) : ∃ ts, tokenize s = .ok ts ∧ ShowsSubstitutions ts p.root := by
  obtain ⟨ts, hts, hroot, hpnotes⟩ := tokens_of_parse h
  have hshown := tokens_accounts hts hroot (hpnotes.trans hnotes)
  refine ⟨ts, hts, hshown, ?_, ?_⟩
  · have hall := Tokens.countP_partTargets (·.kind.isSubstitution) ts
    have hlength : p.root.outerSubstitutions.length =
        (Tokens.partTargets ts).1.countP (·.kind.isSubstitution) := by
      rw [← hshown.length_eq, Tokens.substitutions, List.countP_eq_length_filter]
    have hnone : (Tokens.partTargets ts).2.countP (·.kind.isSubstitution) = 0 ↔
        ∀ t ∈ (Tokens.partTargets ts).2, t.kind.isSubstitution = false := by
      simp [List.countP_eq_zero]
    rw [← hnone]
    omega
  · intro t ht r hr
    obtain ⟨i, rfl⟩ := List.get_of_mem ht
    have hi : i.1 < p.root.outerSubstitutions.length := hshown.length_eq ▸ i.2
    exact (hshown.get i.2 hi).commands (List.get_mem _ ⟨i.1, hi⟩) hr

/-- One substitution in a name, one in a group and one in a target. -/
theorem parse_shows_substitutions_everywhere :
    ∃ p, parse "`pwd`/x | (env a$(ls -l)b > $(id))" = .ok p ∧ p.notes = [] ∧
      ∃ ts, tokenize "`pwd`/x | (env a$(ls -l)b > $(id))" = .ok ts ∧
        ShowsSubstitutions ts p.root := by
  obtain ⟨p, hp, hsilent⟩ := exists_of_parse_any
    (f := fun p => p.notes.isEmpty) (s := "`pwd`/x | (env a$(ls -l)b > $(id))") (by cbv)
  have hnotes := List.isEmpty_iff.1 hsilent
  exact ⟨p, hp, hnotes, parse_shows_substitutions hp hnotes⟩

/-- The command that a substitution in a target runs is nowhere in the tree. -/
theorem target_substitution_hidden :
    ((parse "cat < $(ls)").toOption.map fun p =>
        (p.notes.isEmpty, p.root.outerSubstitutions.length, p.root.commands.map Node.words)) =
      some (true, 0, [["cat"]]) ∧
    ((tokenize "cat < $(ls)").toOption.map fun ts =>
        (ts.filter (·.kind.isSubstitution)).map Token.value) = some ["ls"] := by
  constructor <;> cbv

end ShellGuard
