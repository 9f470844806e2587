import Mathlib
import ShellGuard.Proofs.Syntax.Quoting
import ShellGuard.Proofs.Syntax.Substitutions

/-!
# The shape of command trees

Not every tree is one that parsing gives.  Lists are flat and have their separators between their
items, only `&` puts a command into the background, pipes join commands and groups, and what a word
leaves in the tree is a part of a word.  The readers keep to these shapes on every way out, those
that complain included.

The expansions of a double-quoted text never hold another double-quoted text.  They are looked for
by a second scanner, which would read one at `$"`; but the first scanner ends the text at a double
quote that no backslash protects, so no double quote in it directly follows a dollar sign.
-/

namespace ShellGuard

/-! ## Well-shaped nodes -/

namespace Node

/-- What a pipe can join: a simple command or a group. -/
def isStage : Node → Bool
  | command .. => true
  | subshell _ _ isCommand _ => !isCommand
  | _ => false

/-- What can stand below a simple command. -/
def isPart (n : Node) : Bool :=
  n.isSubstitution || n.kind ∈ [.redirect, .parameter, .quoted, .glob]

/-- What can stand inside a double-quoted text. -/
def isExpansion : Node → Bool
  | parameter .. => true
  | quoted _ style _ expansions => style == .ansiC && expansions.isEmpty
  | n => n.isSubstitution

/-- Several items, none of which is a list, with one of `;` and `&` between each two: `&` after the
items that run in the background. -/
structure ListShape (items : List Node) (separators : List Separator) : Prop where
  several : 2 ≤ items.length
  between : separators.length + 1 = items.length
  plain : ∀ s ∈ separators, s = .semicolon ∨ s = .ampersand
  flat : ∀ i ∈ items, i.kind ≠ .list
  marked : ∀ x ∈ items.zip separators, x.2 = .ampersand ↔ x.1.kind = .background

/-- What a node may hold directly below it. -/
def WellShaped : Node → Prop
  | command _ _ _ children => ∀ c ∈ children, c.isPart = true
  | pipeline _ commands trailingPipe =>
    commands ≠ [] ∧ (trailingPipe = false → 2 ≤ commands.length) ∧
      ∀ c ∈ commands, c.isStage = true
  | subshell _ _ isCommand backtick => backtick = true → isCommand = true
  | quoted _ style _ expansions =>
    (expansions ≠ [] → style = .double) ∧ ∀ e ∈ expansions, e.isExpansion = true
  | background _ body => body.kind ∉ [.background, .list]
  | list _ items separators => ListShape items separators
  | both _ left right | either _ left right =>
    left.kind ∉ [.background, .list] ∧ right.kind ∉ [.background, .list, .both, .either]
  | redirect .. | parameter .. | glob .. => True

/-- A tree all nodes of which are well shaped. -/
def Shaped (n : Node) : Prop :=
  ∀ m ∈ n.walk, m.WellShaped

theorem shaped_iff {n : Node} : n.Shaped ↔ n.WellShaped ∧ ∀ c ∈ n.children, c.Shaped := by
  unfold Shaped
  rw [walk_eq, List.forall_mem_cons, List.forall_mem_flatMap]

theorem isPart_of_isSubstitution {n : Node} (h : n.isSubstitution = true) : n.isPart = true := by
  rw [isPart, h, Bool.true_or]

theorem isExpansion_of_isSubstitution {n : Node} (h : n.isSubstitution = true) :
    n.isExpansion = true := by
  cases n with
  | subshell => exact h
  | _ => cases h

theorem kind_of_isStage {n : Node} (h : n.isStage = true) :
    n.kind ∉ [.background, .list, .both, .either] := by
  cases n <;> simp_all [isStage, kind]

theorem kind_of_isPart {n : Node} (h : n.isPart = true) : n.kind ≠ .background := by
  cases n <;> simp_all [isPart, isSubstitution, kind]

theorem kind_of_isExpansion {n : Node} (h : n.isExpansion = true) : n.kind ≠ .background := by
  cases n <;> simp_all [isExpansion, isSubstitution, kind]

/-- Only lists and what stands between parentheses hold what runs in the background. -/
theorem WellShaped.background_child {n c : Node} (h : n.WellShaped) (hc : c ∈ n.children)
    (hkind : c.kind = .background) : n.kind = .list ∨ n.kind = .subshell := by
  cases n with
  | command _ _ _ children => exact absurd hkind (kind_of_isPart (h c hc))
  | pipeline _ commands _ =>
    have hstage := kind_of_isStage (h.2.2 c hc)
    rw [hkind] at hstage
    simp at hstage
  | subshell => exact .inr rfl
  | quoted _ _ _ expansions => exact absurd hkind (kind_of_isExpansion (h.2 c hc))
  | background _ body =>
    obtain rfl : c = body := by simpa [children] using hc
    simp [WellShaped, hkind] at h
  | list => exact .inl rfl
  | both _ left right | either _ left right =>
    have hside : c = left ∨ c = right := by simpa [children] using hc
    rcases hside with rfl | rfl <;> simp [WellShaped, hkind] at h
  | redirect | parameter | glob => cases hc

end Node

/-! ## Double-quoted texts -/

namespace Lexeme

/-- No double quote directly follows a dollar sign. -/
def OpensNoQuote (cs : List Char) : Prop :=
  ¬['$', '"'] <:+: cs

theorem OpensNoQuote.suffix {cs ds : List Char} (h : OpensNoQuote cs) (hs : ds <:+ cs) :
    OpensNoQuote ds :=
  fun hin => h (hin.trans hs.isInfix)

/-- After a dollar sign the next double quote closes, protected as the dollar sign may be. -/
theorem opensNoQuote_of_foldlM {xs : List Char} {s s' : Bool}
    (h : xs.foldlM (quoteStep '"' true) s = some s') : OpensNoQuote xs := by
  rintro ⟨front, back, rfl⟩
  rw [List.foldlM_append, List.foldlM_append] at h
  obtain ⟨t, ht, -⟩ := Option.bind_eq_some_iff.1 h
  obtain ⟨u, -, hu⟩ := Option.bind_eq_some_iff.1 ht
  cases u <;> cases hu

theorem quoted_foldlM {opener cs : List Char} {lx : Lexeme} {kind : TokenKind}
    (h : quoted kind opener '"' true cs = .ok lx) :
    ∃ s, lx.value.foldlM (quoteStep '"' true) false = some s := by
  unfold quoted at h
  split at h
  · cases h
  · next split hsplit =>
    cases h
    obtain ⟨s, c, hfold, -, -⟩ := foldlM_of_untilClosed hsplit
    exact ⟨s, hfold⟩

/-- The reader of a double-quoted text goes on over all of its value. -/
theorem scan_double_foldlM {c : Char} {cs : List Char} {lx : Lexeme} (h : scan c cs = .ok lx)
    (hk : lx.kind = .quoted .double) :
    ∃ s, lx.value.foldlM (quoteStep '"' true) false = some s := by
  cases scan_form h with
  | bar => exact absurd hk (bar_kind cs _)
  | ampersand => exact absurd hk (ampersand_kind cs _)
  | lessThan => exact absurd hk (lessThan_kind cs _)
  | greaterThan => exact absurd hk (greaterThan_kind [] cs _)
  | double h => exact quoted_foldlM h
  | single h => simp [(quoted_between h).1] at hk
  | backtick h => simp [(quoted_between h).1] at hk
  | dollar h =>
    cases h with
    | double h => exact quoted_foldlM h
    | substitution h => exact absurd hk (substitution_kind h _)
    | ansiC h => simp [(quoted_between h).1] at hk
    | braced | name | special | alone => simp [whole] at hk
  | semicolon | newline | leftParen | rightParen => simp [whole] at hk
  | number => exact absurd hk (numberOrWord_kind c cs _)

theorem scan_opensNoQuote {c : Char} {cs : List Char} {lx : Lexeme} (h : scan c cs = .ok lx)
    (hk : lx.kind = .quoted .double) : OpensNoQuote lx.value := by
  obtain ⟨s, hfold⟩ := scan_double_foldlM h hk
  exact opensNoQuote_of_foldlM hfold

/-- What the search for expansions reads where no double quote follows a dollar sign. -/
theorem scan_expansion_kind {c : Char} {cs : List Char} {lx : Lexeme} (hc : c = '$' ∨ c = '`')
    (h : scan c cs = .ok lx) (hopens : OpensNoQuote (c :: cs)) :
    lx.kind ∈ [.parameter, .substitution, .backtick, .quoted .ansiC, .word] := by
  cases scan_form h with
  | backtick h => simp [(quoted_between h).1]
  | dollar h =>
    cases h with
    | double h => exact absurd ⟨[], _, rfl⟩ hopens
    | substitution h => simp [(substitution_between h).1]
    | ansiC h => simp [(quoted_between h).1]
    | braced | name | special | alone => simp [whole]
  | number _ _ hstart => rcases hc with rfl | rfl <;> simp [starters] at hstart
  | _ => simp at hc

end Lexeme

/-- A double-quoted token holds no `$"`. -/
def Token.Guarded (t : Token) : Prop :=
  t.kind = .quoted .double → Lexeme.OpensNoQuote t.value.toList

/-- Tokens as they come from a text. -/
def Tokens.Guarded (ts : List Token) : Prop :=
  ∀ t ∈ ts, t.Guarded

theorem Tokens.Guarded.suffix {ts us : List Token} (h : Guarded ts) (hs : us <:+ ts) :
    Guarded us :=
  fun t ht => h t (hs.subset ht)

theorem Tokens.Guarded.skipFiller {ts : List Token} (h : Guarded ts) : Guarded (skipFiller ts) :=
  h.suffix (skipFiller_suffix ts)

theorem Cursor.tokens_guarded {cur : Cursor} {ts : List Token} (h : cur.tokens = .ok ts) :
    Tokens.Guarded ts := by
  refine tokens_forall (fun _ => True) (fun cur cur' t _ h => ⟨?_, trivial⟩) trivial h
  obtain ⟨gap, ⟨-, -, rfl⟩ | ⟨c, cs, lx, -, -, hscan, rfl, -⟩⟩ := next_cases h
  · intro hk
    cases hk
  · intro hk
    rw [String.toList_ofList]
    exact Lexeme.scan_opensNoQuote hscan hk

/-! ## What each reader gives

Which kinds of node a reader gives does not depend on the tokens or on the levels below. -/

namespace Node

/-- What stands after an item. -/
def separatorAfter (i : Node) : Separator :=
  if i.kind = .background then .ampersand else .semicolon

theorem separatorAfter_eq_ampersand {i : Node} :
    i.separatorAfter = .ampersand ↔ i.kind = .background := by
  unfold separatorAfter
  split <;> simp_all

/-- Items as they are read: each with what stands after it, except perhaps the last. -/
structure Sequence (items : List Node) (separators : List Separator) : Prop where
  flat : ∀ i ∈ items, i.kind ≠ .list
  marked : separators <+: items.map separatorAfter
  after : items.length ≤ separators.length + 1

namespace Sequence

variable {i : Node} {items : List Node} {separators : List Separator}

theorem nil : Sequence [] [] :=
  ⟨by simp, List.prefix_rfl, by simp⟩

theorem one (h : i.kind ≠ .list) : Sequence [i] [] :=
  ⟨List.forall_mem_singleton.2 h, List.nil_prefix, by simp⟩

theorem cons (h : Sequence items separators) (hi : i.kind ≠ .list) :
    Sequence (i :: items) (i.separatorAfter :: separators) :=
  ⟨List.forall_mem_cons.2 ⟨hi, h.flat⟩, List.prefix_cons_iff.2 (.inr ⟨_, rfl, h.marked⟩),
    by simpa using h.after⟩

/-- The separators between the items. -/
theorem take_eq (h : Sequence items separators) :
    separators.take (items.length - 1) = items.dropLast.map separatorAfter := by
  have hafter := h.after
  rw [List.prefix_iff_eq_take.1 h.marked, List.take_take, List.dropLast_eq_take, List.map_take]
  congr 1
  omega

theorem listShape (h : Sequence items separators) (hseveral : 2 ≤ items.length) :
    ListShape items (separators.take (items.length - 1)) := by
  rw [h.take_eq]
  refine ⟨hseveral, by simp; omega, fun s hs => ?_, h.flat, fun x hx => ?_⟩
  · obtain ⟨i, -, rfl⟩ := List.mem_map.1 hs
    unfold separatorAfter
    split <;> simp
  · obtain ⟨k, hk⟩ := List.mem_iff_getElem?.1 hx
    obtain ⟨hitem, hseparator⟩ := List.getElem?_zip_eq_some.1 hk
    rw [List.getElem?_map, List.getElem?_dropLast] at hseparator
    split at hseparator
    · rw [hitem, Option.map_some] at hseparator
      rw [← Option.some.inj hseparator]
      exact separatorAfter_eq_ampersand
    · cases hseparator

end Sequence

end Node

section Kinds

variable {below : Option Level} {inGroup : Bool} {ts : List Token} {r : Parsed Node}

theorem parseCommand_isStage (h : parseCommand below ts = some r) : r.value.isStage = true := by
  unfold parseCommand at h
  split at h
  · cases h
  split at h
  · cases h
    unfold Group.read
    split
    · rfl
    · dsimp only
      split <;> rfl
  split at h
  · cases h
    rfl
  · cases h

theorem parsePiped_isStage (h : parsePiped below inGroup ts = some r) : r.value.isStage = true := by
  unfold parsePiped at h
  split at h
  · cases h
  · exact parseCommand_isStage h

theorem parsePipes_isStage : ∀ c ∈ (parsePipes below inGroup ts).value.1, c.isStage = true := by
  fun_induction parsePipes below inGroup ts with
  | case1 => simp
  | case2 => simp
  | case3 t rest _ command hcommand more ih =>
    exact List.forall_mem_cons.2 ⟨parsePiped_isStage hcommand, ih⟩
  | case4 => simp

theorem parsePipeline_kind (h : parsePipeline below inGroup ts = some r) :
    r.value.kind ∉ [.background, .list, .both, .either] := by
  obtain ⟨first, hfirst, rfl⟩ := Option.map_eq_some_iff.1 h
  dsimp only
  split
  · exact Node.kind_of_isStage (parseCommand_isStage hfirst)
  · simp [Node.kind]

theorem chainNode_kind (op : TokenKind) (left right : Node) :
    (chainNode op left right).kind ∉ [.background, .list] := by
  unfold chainNode
  split <;> simp [Node.kind]

theorem parseChainRest_kind {left : Node} (h : left.kind ∉ [.background, .list]) :
    (parseChainRest below inGroup left ts).value.kind ∉ [.background, .list] := by
  fun_induction parseChainRest below inGroup left ts with
  | case1 => exact h
  | case2 => exact h
  | case3 left t rest _ right hright more ih => exact ih (chainNode_kind _ _ _)
  | case4 => exact h

theorem parseChain_kind (h : parseChain below inGroup ts = some r) :
    r.value.kind ∉ [.background, .list] := by
  obtain ⟨first, hfirst, rfl⟩ := Option.map_eq_some_iff.1 h
  refine parseChainRest_kind fun hmem => parsePipeline_kind hfirst ?_
  exact List.mem_append_left [.both, .either] hmem

theorem parseItems_sequence :
    Node.Sequence (parseItems below inGroup ts).value.1 (parseItems below inGroup ts).value.2 := by
  have hcons {item : Parsed Node} {ts : List Token} (h : parseChain below inGroup ts = some item) :
      item.value.kind ≠ .list ∧ item.value.separatorAfter = .semicolon := by
    have hkind := parseChain_kind h
    simp only [List.mem_cons, List.not_mem_nil, or_false, not_or] at hkind
    exact ⟨hkind.2, if_neg hkind.1⟩
  fun_induction parseItems below inGroup ts with
  | case1 => exact .nil
  | case2 => exact .nil
  | case3 ts start _ item hitem _ more ih
  | case4 ts start _ item hitem _ more ih =>
    obtain ⟨hflat, hseparator⟩ := hcons hitem
    rw [← hseparator]
    exact ih.cons hflat
  | case5 ts start _ item hitem _ more ih => exact ih.cons (by simp [Node.kind])
  | case6 ts start _ item hitem _ _ _ => exact .one (hcons hitem).1

end Kinds

/-! ## Readers -/

/-- A level whose trees are well shaped. -/
def Level.Shapes (l : Level) : Prop :=
  ∀ inGroup ts, Tokens.Guarded ts → ∀ n ∈ (l.list inGroup ts).value, n.Shaped

section Readers

variable {below : Option Level} (hb : ∀ l ∈ below, l.Shapes)

include hb

theorem substitution_shaped (body : String) (inner position : Position) (backtick : Bool) :
    (substitution below body inner position backtick).1.Shaped ∧
      (substitution below body inner position backtick).1.isSubstitution = true := by
  have hempty : (Node.subshell position none true backtick).Shaped :=
    Node.shaped_iff.2 ⟨fun _ => rfl, by simp [Node.children]⟩
  unfold substitution
  split
  · exact ⟨hempty, rfl⟩
  · next level =>
    split
    · exact ⟨hempty, rfl⟩
    · next ts hts =>
      refine ⟨Node.shaped_iff.2 ⟨fun _ => rfl, fun c hc => ?_⟩, rfl⟩
      exact hb level rfl false ts (Cursor.tokens_guarded hts) c (by simpa [Node.children] using hc)

theorem partWith_shaped (t : Token) {inside : List Node × List Finding}
    (hin : ∀ e ∈ inside.1, e.Shaped ∧ e.isExpansion = true) :
    ∀ n ∈ (t.partWith below inside).node, n.Shaped ∧ n.isPart = true := by
  intro n hn
  unfold Token.partWith at hn
  split at hn
  · cases hn
    exact ⟨Node.shaped_iff.2 ⟨trivial, by simp [Node.children]⟩, rfl⟩
  · cases hn
    refine ⟨Node.shaped_iff.2 ⟨⟨fun _ => rfl, fun e he => (hin e he).2⟩, fun e he => ?_⟩, rfl⟩
    exact (hin e he).1
  · cases hn
    refine ⟨Node.shaped_iff.2 ⟨⟨fun he => absurd rfl he, by simp⟩, by simp [Node.children]⟩, rfl⟩
  · cases hn
    exact ⟨Node.shaped_iff.2 ⟨trivial, by simp [Node.children]⟩, rfl⟩
  · cases hn
    obtain ⟨hshaped, hsub⟩ := substitution_shaped hb t.value (t.position.shift 2) t.position false
    exact ⟨hshaped, Node.isPart_of_isSubstitution hsub⟩
  · cases hn
    obtain ⟨hshaped, hsub⟩ := substitution_shaped hb t.value (t.position.shift 1) t.position true
    exact ⟨hshaped, Node.isPart_of_isSubstitution hsub⟩
  · cases hn

/-- Outside double quotes the parts that can start with a dollar sign or a backtick are
expansions. -/
theorem partWith_isExpansion {t : Token}
    (hk : t.kind ∈ [.parameter, .substitution, .backtick, .quoted .ansiC, .word]) :
    ∀ n ∈ (t.partWith below ([], [])).node, n.Shaped ∧ n.isExpansion = true := by
  intro n hn
  refine ⟨(partWith_shaped hb t (by simp) n hn).1, ?_⟩
  simp only [List.mem_cons, List.not_mem_nil, or_false] at hk
  rcases hk with hk | hk | hk | hk | hk <;> simp only [Token.partWith, hk] at hn <;> cases hn
  · rfl
  · exact Node.isExpansion_of_isSubstitution (substitution_shaped hb _ _ _ _).2
  · exact Node.isExpansion_of_isSubstitution (substitution_shaped hb _ _ _ _).2
  · rfl

theorem expansions_shaped (p : Position) {cs : List Char} (h : Lexeme.OpensNoQuote cs) :
    ∀ e ∈ (expansions below p cs).1, e.Shaped ∧ e.isExpansion = true := by
  fun_induction expansions below p cs with
  | case1 => simp
  | case2 => simp
  | case3 p d after ih => exact ih (h.suffix ⟨['\\', d], rfl⟩)
  | case4 p c rest hc hd e he ih => exact ih (h.suffix (List.suffix_cons _ _))
  | case5 p c rest hc hd lx hscan inside part after ihin ihafter =>
    -- the scanner finds no double-quoted text here, so there is nothing to search further inside
    have hkind := Lexeme.scan_expansion_kind hd hscan h
    have hdouble : lx.kind ≠ .quoted .double := by
      intro hdouble
      simp [hdouble] at hkind
    have hrest : lx.rest <:+ c :: rest := ⟨lx.text, Lexeme.scan_append hscan⟩
    have hpart : part = (lx.token p).partWith below ([], []) := by
      simp only [part, inside, dif_neg hdouble]
    intro e he
    rcases List.mem_append.1 he with he | he
    · rw [hpart, Option.mem_toList] at he
      exact partWith_isExpansion hb hkind e he
    · exact ihafter (h.suffix hrest) e he
  | case6 p c rest hc hd ih => exact ih (h.suffix (List.suffix_cons _ _))

theorem part_shaped {t : Token} (h : t.Guarded) :
    ∀ n ∈ (t.part below).node, n.Shaped ∧ n.isPart = true := by
  refine partWith_shaped hb t ?_
  split
  · next hk => exact expansions_shaped hb _ (h hk)
  · simp

/-! ### Simple commands -/

theorem draft_shaped {d : Draft} {ts : List Token} (h : Tokens.Guarded ts)
    (hd : ∀ c ∈ d.children, c.Shaped ∧ c.isPart = true) :
    ∀ c ∈ (Draft.read below d ts).value.children, c.Shaped ∧ c.isPart = true := by
  fun_induction Draft.read below d ts with
  | case1 => exact hd
  | case2 d t rest _ part more ih =>
    obtain ⟨ht, hrest⟩ := List.forall_mem_cons.1 h
    refine ih hrest (List.forall_mem_append.2 ⟨fun c hc => ?_, hd⟩)
    exact part_shaped hb ht c (Option.mem_toList.1 hc)
  | case3 d t rest _ _ r more ih =>
    have hrest := h.suffix (List.suffix_cons t rest)
    refine ih (hrest.suffix (Redirect.parse_rest_suffix below t rest)) ?_
    exact List.forall_mem_cons.2
      ⟨⟨Node.shaped_iff.2 ⟨trivial, by simp [Node.children]⟩, rfl⟩, hd⟩
  | case4 d t rest _ _ _ ih =>
    have hrest := h.suffix (List.suffix_cons t rest)
    exact ih (hrest.suffix (Draft.dropClosing_suffix rest)) hd
  | case5 d t rest _ _ _ _ ih => exact ih (h.suffix (List.suffix_cons t rest)) hd
  | case6 => exact hd

/-! ### Commands, pipelines, chains and lists -/

theorem group_shaped (p : Position) {ts : List Token} (h : Tokens.Guarded ts) :
    (Group.read below p ts).value.Shaped := by
  unfold Group.read
  split
  · exact Node.shaped_iff.2 ⟨fun hb => hb, by simp [Node.children]⟩
  · next level =>
    have hbody : (Node.subshell p (level.list true ts).value false false).Shaped := by
      refine Node.shaped_iff.2 ⟨fun hb => hb, fun c hc => ?_⟩
      exact hb level rfl true ts h c (by simpa [Node.children] using hc)
    dsimp only
    split <;> exact hbody

theorem parseCommand_shaped {ts : List Token} {r : Parsed Node} (h : Tokens.Guarded ts)
    (hr : parseCommand below ts = some r) : r.value.Shaped := by
  unfold parseCommand at hr
  split at hr
  · cases hr
  split at hr
  · cases hr
    exact group_shaped hb _ (h.suffix (List.suffix_cons _ _))
  split at hr
  · cases hr
    have hparts := draft_shaped hb (d := .empty) h (by simp [Draft.empty])
    have hchildren := fun c hc => hparts c (List.mem_reverse.1 hc)
    exact Node.shaped_iff.2 ⟨fun c hc => (hchildren c hc).2, fun c hc => (hchildren c hc).1⟩
  · cases hr

theorem parsePiped_shaped {inGroup : Bool} {ts : List Token} {r : Parsed Node}
    (h : Tokens.Guarded ts) (hr : parsePiped below inGroup ts = some r) : r.value.Shaped := by
  unfold parsePiped at hr
  split at hr
  · cases hr
  · exact parseCommand_shaped hb h hr

theorem parsePipes_shaped {inGroup : Bool} {ts : List Token} (h : Tokens.Guarded ts) :
    ∀ c ∈ (parsePipes below inGroup ts).value.1, c.Shaped := by
  fun_induction parsePipes below inGroup ts with
  | case1 => simp
  | case2 => simp
  | case3 t rest _ command hcommand more ih =>
    have hfed : Tokens.Guarded (Tokens.skipFiller rest) :=
      (h.suffix (List.suffix_cons t rest)).skipFiller
    have hrest := hfed.suffix (parsePiped_rest_suffix hcommand)
    exact List.forall_mem_cons.2 ⟨parsePiped_shaped hb hfed hcommand, ih hrest⟩
  | case4 => simp

theorem parsePipeline_shaped {inGroup : Bool} {ts : List Token} {r : Parsed Node}
    (h : Tokens.Guarded ts) (hr : parsePipeline below inGroup ts = some r) : r.value.Shaped := by
  obtain ⟨first, hfirst, rfl⟩ := Option.map_eq_some_iff.1 hr
  have hshaped := parseCommand_shaped hb h hfirst
  have hrest := h.suffix ((parseCommand_rest_suffix hfirst).1.trans (List.tail_suffix ts))
  dsimp only
  split
  · exact hshaped
  · next hpipes =>
    have hstages : ∀ c ∈ first.value :: (parsePipes below inGroup first.rest).value.1,
        c.isStage = true :=
      List.forall_mem_cons.2 ⟨parseCommand_isStage hfirst, parsePipes_isStage⟩
    refine Node.shaped_iff.2 ⟨⟨by simp, fun htrailing => ?_, hstages⟩,
      List.forall_mem_cons.2 ⟨hshaped, parsePipes_shaped hb hrest⟩⟩
    have hne : (parsePipes below inGroup first.rest).value.1 ≠ [] := by
      intro hnil
      simp [hnil, htrailing] at hpipes
    have hpos := List.length_pos_iff.2 hne
    simp only [List.length_cons]
    omega

theorem parseChainRest_shaped {inGroup : Bool} {left : Node} {ts : List Token}
    (h : Tokens.Guarded ts) (hleft : left.Shaped) (hkind : left.kind ∉ [.background, .list]) :
    (parseChainRest below inGroup left ts).value.Shaped := by
  fun_induction parseChainRest below inGroup left ts with
  | case1 => exact hleft
  | case2 => exact hleft
  | case3 left t rest _ right hright more ih =>
    have hside : Tokens.Guarded (Tokens.skipFiller rest) :=
      (h.suffix (List.suffix_cons t rest)).skipFiller
    have hrest := hside.suffix ((parsePipeline_rest_suffix hright).1.trans (List.tail_suffix _))
    have hsides : ∀ c ∈ [left, right.value], c.Shaped := by
      simp [hleft, parsePipeline_shaped hb hside hright]
    refine ih hrest ?_ (chainNode_kind _ _ _)
    unfold chainNode
    split <;> exact Node.shaped_iff.2 ⟨⟨hkind, parsePipeline_kind hright⟩, hsides⟩
  | case4 => exact hleft

theorem parseChain_shaped {inGroup : Bool} {ts : List Token} {r : Parsed Node}
    (h : Tokens.Guarded ts) (hr : parseChain below inGroup ts = some r) : r.value.Shaped := by
  obtain ⟨first, hfirst, rfl⟩ := Option.map_eq_some_iff.1 hr
  refine parseChainRest_shaped hb
    (h.suffix ((parsePipeline_rest_suffix hfirst).1.trans (List.tail_suffix ts)))
    (parsePipeline_shaped hb h hfirst) fun hmem => parsePipeline_kind hfirst ?_
  exact List.mem_append_left [.both, .either] hmem

theorem parseItems_shaped {inGroup : Bool} {ts : List Token} (h : Tokens.Guarded ts) :
    ∀ i ∈ (parseItems below inGroup ts).value.1, i.Shaped := by
  have hmore {ts : List Token} {item : Parsed Node} (h : Tokens.Guarded ts)
      (hitem : parseChain below inGroup ts = some item) : Tokens.Guarded item.rest.tail :=
    h.suffix ((List.tail_suffix _).trans
      ((parseChain_rest_suffix hitem).1.trans (List.tail_suffix _)))
  fun_induction parseItems below inGroup ts with
  | case1 => simp
  | case2 => simp
  | case3 ts start _ item hitem _ more ih
  | case4 ts start _ item hitem _ more ih =>
    exact List.forall_mem_cons.2
      ⟨parseChain_shaped hb h.skipFiller hitem, ih (hmore h.skipFiller hitem)⟩
  | case5 ts start _ item hitem _ more ih =>
    have hback : (Node.background item.value.position item.value).Shaped :=
      Node.shaped_iff.2 ⟨parseChain_kind hitem,
        List.forall_mem_singleton.2 (parseChain_shaped hb h.skipFiller hitem)⟩
    exact List.forall_mem_cons.2 ⟨hback, ih (hmore h.skipFiller hitem)⟩
  | case6 ts start _ item hitem _ _ _ =>
    exact List.forall_mem_singleton.2 (parseChain_shaped hb h.skipFiller hitem)

omit hb in
theorem listNode_shaped {start : Position} {items : List Node} {separators : List Separator}
    (h : Node.Sequence items separators) (hitems : ∀ i ∈ items, i.Shaped) :
    ∀ n ∈ listNode start items separators, n.Shaped := by
  intro n hn
  cases items with
  | nil => cases hn
  | cons i items =>
    cases items with
    | nil =>
      cases hn
      exact hitems n (List.mem_singleton_self n)
    | cons j items =>
      cases hn
      exact Node.shaped_iff.2 ⟨h.listShape (by simp), hitems⟩

theorem Level.above_shapes : (Level.above below).Shapes :=
  fun _ _ h => listNode_shaped parseItems_sequence (parseItems_shaped hb h)

end Readers

/-! ## Whole commands -/

/-- Every node of a parsed command is well shaped, and what runs in the background is the whole
command, an item of a list or the body of a group or substitution. -/
theorem parse_wellShaped {s : String} {p : Parse} (h : parse s = .ok p) :
    ∀ n ∈ p.root.walk, n.WellShaped ∧
      ∀ c ∈ n.children, c.kind = .background → n.kind = .list ∨ n.kind = .subshell := by
  obtain ⟨ts, hts, hroot, -⟩ := tokens_of_parse h
  have hlevel : (level maxNesting).Shapes := level_induction (fun _ hb => Level.above_shapes hb) _
  have hshaped := hlevel false ts (Cursor.tokens_guarded hts) p.root hroot
  intro n hn
  exact ⟨hshaped n hn, fun c hc hkind => (hshaped n hn).background_child hc hkind⟩

theorem parse_wellShaped_trailing_pipe :
    ∃ p, parse "ls \"$(id &)$'x'\\\"$HOME\" | (a; b &) && c `d` & e |" = .ok p ∧
      p.root.walk.length = 21 ∧
      ∀ n ∈ p.root.walk, n.WellShaped ∧
        ∀ c ∈ n.children, c.kind = .background → n.kind = .list ∨ n.kind = .subshell := by
  obtain ⟨p, hp, hlength⟩ := exists_of_parse_any
    (s := "ls \"$(id &)$'x'\\\"$HOME\" | (a; b &) && c `d` & e |")
    (f := fun p => p.root.walk.length == 21) (by cbv)
  exact ⟨p, hp, beq_iff_eq.1 hlength, parse_wellShaped hp⟩

end ShellGuard
