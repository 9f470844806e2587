import Mathlib
import ShellGuard.Proofs.Syntax.Progress

/-!
# Trees in the order of their text

A walk through a parsed tree never goes back in the text: each node begins no earlier than the one
visited before it, and all begin inside the text.  So whatever goes through a tree by a walk, such as
looking for commands or for flaws, tells what it finds in the order of the text.

Tokens of a text take stretches of it that do not overlap.  Every reader puts its nodes into the
stretches of the tokens it takes (`Lays`); readers that follow one another take later tokens, so their
nodes rise.  A node that joins others begins with the first of them or with the first token.
-/

namespace ShellGuard

open String (utf8Len)

/-! ## Rising nodes -/

namespace Node

/-- The walks through some nodes, one after the other, go on in the text and stay at the offsets
`area`. -/
structure Rising (area : Set Nat) (ns : List Node) : Prop where
  sorted : (ns.flatMap walk).Pairwise fun m n => m.position.offset ≤ n.position.offset
  inside : ∀ n ∈ ns.flatMap walk, n.position.offset ∈ area

namespace Rising

variable {area area' : Set Nat} {ns ns' : List Node} {n : Node}

theorem nil (area : Set Nat) : Rising area [] :=
  ⟨.nil, by simp⟩

theorem mono (h : Rising area ns) (hsub : area ⊆ area') : Rising area' ns :=
  ⟨h.sorted, fun n hn => hsub (h.inside n hn)⟩

theorem append (h : Rising area ns) (h' : Rising area' ns')
    (hle : ∀ a ∈ area, ∀ b ∈ area', a ≤ b) : Rising (area ∪ area') (ns ++ ns') := by
  constructor
  · rw [List.flatMap_append, List.pairwise_append]
    refine ⟨h.sorted, h'.sorted, fun m hm n hn => ?_⟩
    exact hle _ (h.inside m hm) _ (h'.inside n hn)
  · rw [List.flatMap_append]
    intro n hn
    rcases List.mem_append.1 hn with hn | hn
    · exact .inl (h.inside n hn)
    · exact .inr (h'.inside n hn)

/-- A node that begins no later than its children rises with them. -/
theorem node (h : Rising area n.children) (hn : n.position.offset ∈ area)
    (hle : ∀ m ∈ n.children.flatMap walk, n.position.offset ≤ m.position.offset) :
    Rising area [n] := by
  have hwalk : [n].flatMap walk = n :: n.children.flatMap walk := by
    rw [List.flatMap_singleton, walk_eq]
  constructor
  · rw [hwalk]
    exact List.pairwise_cons.2 ⟨hle, h.sorted⟩
  · rw [hwalk]
    exact List.forall_mem_cons.2 ⟨hn, h.inside⟩

/-- A node without children rises where it stands. -/
theorem leaf (hchildren : n.children = []) (hn : n.position.offset ∈ area) : Rising area [n] := by
  refine node ?_ hn ?_
  · rw [hchildren]
    exact nil area
  · rw [hchildren]
    simp

/-- A node that begins with its first child rises with its children. -/
theorem join {c : Node} {cs : List Node} (h : Rising area n.children)
    (hchildren : n.children = c :: cs) (hposition : n.position = c.position) : Rising area [n] := by
  have hwalk : n.children.flatMap walk = c :: (c.children.flatMap walk ++ cs.flatMap walk) := by
    rw [hchildren, List.flatMap_cons, walk_eq, List.cons_append]
  refine node h ?_ fun m hm => ?_
  · rw [hposition]
    apply h.inside
    rw [hwalk]
    exact List.mem_cons_self
  · rw [hposition]
    have hsorted := h.sorted
    rw [hwalk] at hm hsorted
    rcases List.mem_cons.1 hm with rfl | hm
    · exact Nat.le_refl _
    · exact (List.pairwise_cons.1 hsorted).1 m hm

end Rising

end Node

/-! ## Tokens in their stretches -/

/-- A token that ends where its text does, and takes some text unless it ends the text. -/
structure Token.Sits (t : Token) : Prop where
  spelled : ∃ text after, t.Spells text after ∧ t.stop = t.position.offset + utf8Len text
  nonempty : t.kind ≠ .eof → t.position.offset < t.stop

/-- The offsets a token takes. -/
def Token.stretch (t : Token) : Set Nat :=
  Set.Ico t.position.offset t.stop

/-- Tokens that follow one another. -/
structure Tokens.Seated (ts : List Token) : Prop where
  ordered : ts.Pairwise fun t u => t.position.offset < t.stop ∧ t.stop ≤ u.position.offset
  sits : ∀ t ∈ ts, t.Sits

/-- The offsets some tokens take. -/
def Tokens.stretches (ts : List Token) : Set Nat :=
  {o | ∃ t ∈ ts, o ∈ t.stretch}

namespace Tokens

theorem Seated.append {ts us : List Token} (h : Seated (ts ++ us)) :
    Seated ts ∧ Seated us ∧ ∀ a ∈ stretches ts, ∀ b ∈ stretches us, a ≤ b := by
  obtain ⟨hts, hus, hbetween⟩ := List.pairwise_append.1 h.ordered
  obtain ⟨hsits, hsits'⟩ := List.forall_mem_append.1 h.sits
  refine ⟨⟨hts, hsits⟩, ⟨hus, hsits'⟩, ?_⟩
  rintro a ⟨t, ht, hat⟩ b ⟨u, hu, hbu⟩
  have hstop := (hbetween t ht u hu).2
  have ha : a < t.stop := hat.2
  have hb : u.position.offset ≤ b := hbu.1
  omega

section Lead

variable {t : Token} {ts : List Token} {n : Node}

/-- No stretch begins before the first token, and the first token takes some text where any does. -/
theorem Seated.head_le (h : Seated (t :: ts)) {o : Nat} (ho : o ∈ stretches (t :: ts)) :
    t.position.offset ≤ o ∧ t.position.offset < t.stop := by
  obtain ⟨u, hu, hou⟩ := ho
  have hlow : u.position.offset ≤ o := hou.1
  have hhigh : o < u.stop := hou.2
  rcases List.mem_cons.1 hu with rfl | hu
  · omega
  · have hstop := (List.pairwise_cons.1 h.ordered).1 u hu
    omega

/-- A node may begin with the first token. -/
theorem Seated.lead (h : Seated (t :: ts)) (hchildren : Node.Rising (stretches (t :: ts)) n.children)
    (hposition : n.position = t.position) (hself : t.position.offset < t.stop) :
    Node.Rising (stretches (t :: ts)) [n] := by
  refine hchildren.node ?_ fun m hm => ?_
  · rw [hposition]
    exact ⟨t, List.mem_cons_self, Nat.le_refl _, hself⟩
  · rw [hposition]
    exact (h.head_le (hchildren.inside m hm)).1

end Lead

theorem stretches_append (ts us : List Token) :
    stretches (ts ++ us) = stretches ts ∪ stretches us := by
  ext o
  simp only [stretches, List.mem_append, Set.mem_ofPred_eq, Set.mem_union, or_and_right, exists_or]

theorem stretches_singleton (t : Token) : stretches [t] = t.stretch := by
  ext o
  simp [stretches]

end Tokens

namespace Tiles

variable {o : Nat} {cs : List Char} {ts : List Token}

/-- The tokens of a text are seated in it. -/
theorem seated (h : Tiles o cs ts) :
    Tokens.Seated ts ∧ Tokens.stretches ts ⊆ Set.Ico o (o + utf8Len cs) := by
  refine ⟨⟨h.separated, fun t ht => ⟨?_, fun hkind => ?_⟩⟩, ?_⟩
  · obtain ⟨front, back, hts⟩ := List.append_of_mem ht
    obtain ⟨-, -, text, after, -, -, -, hstop, -, hspells⟩ := h.cut hts
    exact ⟨text, after, hspells, hstop⟩
  · obtain ⟨front, last, rfl, hfront, hlast, -⟩ := h.ending
    rcases List.mem_append.1 ht with ht | ht
    · exact (hfront t ht).2
    · rw [List.mem_singleton.1 ht] at hkind
      exact absurd hlast hkind
  · rintro a ⟨t, ht, ha⟩
    obtain ⟨hstart, -, hstop⟩ := h.bounds t ht
    exact ⟨hstart.trans ha.1, Nat.lt_of_lt_of_le ha.2 hstop⟩

end Tiles

/-! ## Readers -/

/-- The tokens from `ts` up to `rest` take the offsets of the nodes, and in this order. -/
def Lays (ts : List Token) (ns : List Node) (rest : List Token) : Prop :=
  ∃ front, ts = front ++ rest ∧
    (Tokens.Seated front → Node.Rising (Tokens.stretches front) ns)

namespace Lays

variable {ts us rest : List Token} {ns ns' : List Node} {n : Node} {t : Token}

/-- Tokens may be passed without a node. -/
theorem pass (h : rest <:+ ts) : Lays ts [] rest := by
  obtain ⟨front, rfl⟩ := h
  exact ⟨front, rfl, fun _ => .nil _⟩

theorem trans (h : Lays ts ns us) (h' : Lays us ns' rest) : Lays ts (ns ++ ns') rest := by
  obtain ⟨front, rfl, hrising⟩ := h
  obtain ⟨front', rfl, hrising'⟩ := h'
  refine ⟨front ++ front', (List.append_assoc ..).symm, fun hseated => ?_⟩
  obtain ⟨hfront, hfront', hle⟩ := hseated.append
  rw [Tokens.stretches_append]
  exact (hrising hfront).append (hrising' hfront') hle

theorem passing (h : Lays ts ns us) (hrest : rest <:+ us) : Lays ts ns rest := by
  have hall := h.trans (pass hrest)
  rwa [List.append_nil] at hall

theorem join {c : Node} {cs : List Node} (h : Lays ts n.children rest)
    (hchildren : n.children = c :: cs) (hposition : n.position = c.position) : Lays ts [n] rest := by
  obtain ⟨front, hts, hrising⟩ := h
  exact ⟨front, hts, fun hseated => (hrising hseated).join hchildren hposition⟩

/-- A token that is taken lays the nodes that stand in it. -/
theorem token (h : t.Sits → Node.Rising t.stretch ns) : Lays (t :: rest) ns rest := by
  refine ⟨[t], rfl, fun hseated => ?_⟩
  rw [Tokens.stretches_singleton]
  exact h (hseated.sits t (List.mem_singleton_self t))

/-- A node may begin with the first token that is taken. -/
theorem lead (h : Lays (t :: ts) n.children rest) (hrest : rest <:+ ts) (hkind : t.kind ≠ .eof)
    (hposition : n.position = t.position) : Lays (t :: ts) [n] rest := by
  obtain ⟨front, hts, hrising⟩ := h
  cases front with
  | nil =>
    -- `t` is taken, so what is left is shorter than `t :: ts`
    have hlength := hrest.length_le
    rw [← List.nil_append rest, ← hts, List.length_cons] at hlength
    omega
  | cons u front =>
    obtain ⟨rfl, -⟩ := List.cons.inj hts
    refine ⟨t :: front, hts, fun hseated => ?_⟩
    have hsits := hseated.sits t List.mem_cons_self
    exact hseated.lead (hrising hseated) hposition (hsits.nonempty hkind)

/-- A node with children may begin with the first token. -/
theorem start {c : Node} {cs : List Node} (h : Lays ts n.children rest)
    (hchildren : n.children = c :: cs) (hposition : n.position = Tokens.position ts) : Lays ts [n] rest := by
  obtain ⟨front, rfl, hrising⟩ := h
  have hc : c ∈ n.children.flatMap Node.walk := by
    rw [hchildren, List.flatMap_cons, Node.walk_eq]
    exact List.mem_cons_self
  cases front with
  | nil =>
    obtain ⟨t, ht, -⟩ := (hrising ⟨.nil, by simp⟩).inside c hc
    cases ht
  | cons t front =>
    refine ⟨t :: front, rfl, fun hseated => ?_⟩
    have hrising := hrising hseated
    exact hseated.lead hrising hposition (hseated.head_le (hrising.inside c hc)).2

end Lays

/-- A level that lays the trees it reads. -/
def Level.InOrder (l : Level) : Prop :=
  ∀ inGroup ts, Lays ts (l.list inGroup ts).value.toList (l.list inGroup ts).rest

/-- The tree of a text stands in the text. -/
theorem Level.InOrder.rising {l : Level} (h : l.InOrder) {p : Position} {s : String}
    {ts : List Token} (hts : tokenizeAt p s = .ok ts) :
    Node.Rising (Set.Ico p.offset (p.offset + utf8Len s.toList)) (l.list false ts).value.toList := by
  obtain ⟨front, hfront, hrising⟩ := h false ts
  obtain ⟨hseated, hinside⟩ := (Cursor.tokens_tiles hts).seated
  rw [hfront] at hseated hinside
  rw [Tokens.stretches_append] at hinside
  exact (hrising hseated.append.1).mono (Set.subset_union_left.trans hinside)

theorem Lexeme.token_sits {c : Char} {cs : List Char} {lx : Lexeme} (h : scan c cs = .ok lx)
    (p : Position) : (lx.token p).Sits := by
  have hstop : (lx.token p).stop = p.offset + utf8Len lx.text := Position.after_offset p lx.text
  have htext : 0 < utf8Len lx.text :=
    Nat.pos_of_ne_zero fun hzero => scan_text h (String.utf8Len_eq_zero.1 hzero)
  refine ⟨⟨lx.text, lx.rest, ?_, hstop⟩, fun _ => ?_⟩
  · simpa [Token.Spells, token] using (scan_wellSpelled h).spelled
  · show p.offset < (lx.token p).stop
    omega

theorem Node.Rising.before {p : Position} (text : List Char) {rest : List Char} {ns : List Node}
    (h : Rising (Set.Ico (p.after text).offset ((p.after text).offset + utf8Len rest)) ns) :
    Rising (Set.Ico p.offset (p.offset + utf8Len (text ++ rest))) ns := by
  refine h.mono (Set.Ico_subset_Ico ?_ ?_)
  · rw [Position.after_offset]
    omega
  · rw [Position.after_offset, String.utf8Len_append]
    omega

/-- Behind a text between delimiters there is one character at least, the closer. -/
theorem utf8Len_enclosed {text opener value : List Char} {close : Char}
    (h : text = opener ++ (value ++ [close])) :
    utf8Len opener + utf8Len value + 1 ≤ utf8Len text := by
  have hclose := close.utf8Size_pos
  rw [h, String.utf8Len_append, String.utf8Len_append, String.utf8Len_cons]
  omega

section Readers

variable {below : Option Level} (hb : ∀ l ∈ below, l.InOrder)

include hb

/-! ### Words -/

/-- A substitution stands in front of its body, and one character closes it. -/
theorem substitution_rising (body : String) {inner position : Position} (backtick : Bool)
    (hinner : position.offset ≤ inner.offset) :
    Node.Rising (Set.Ico position.offset (inner.offset + utf8Len body.toList + 1))
      [(substitution below body inner position backtick).1] := by
  have hself : position.offset ∈
      Set.Ico position.offset (inner.offset + utf8Len body.toList + 1) := by
    rw [Set.mem_Ico]
    omega
  cases below with
  | none => exact .leaf rfl hself
  | some l =>
    cases hts : tokenizeAt inner body with
    | error e =>
      simp only [substitution, hts]
      exact .leaf rfl hself
    | ok ts =>
      rw [substitution_ok l hts]
      have hbody := (hb l rfl).rising hts
      refine (hbody.mono ?_).node hself fun m hm => ?_
      · exact Set.Ico_subset_Ico hinner (Nat.le_succ _)
      · exact hinner.trans (hbody.inside m hm).1

/-- What a token adds to a word stands in the token. -/
theorem partWith_rising {t : Token} (ht : t.Sits) {inside : List Node × List Finding}
    (hinside : t.kind = .quoted .double → Node.Rising
      (Set.Ico (t.position.offset + 1) (t.position.offset + 1 + utf8Len t.value.toList)) inside.1) :
    Node.Rising t.stretch (t.partWith below inside).node.toList := by
  obtain ⟨text, after, hspells, hstop⟩ := ht.spelled
  have hself : t.kind ≠ .eof → t.position.offset ∈ t.stretch :=
    fun hkind => ⟨Nat.le_refl _, ht.nonempty hkind⟩
  by_cases hsubstitution : t.kind.isSubstitution = true
  · obtain ⟨opener, close, htext, -, hinner⟩ := hspells.enclosed (.inl hsubstitution)
    have hoffset : t.inner.offset = t.position.offset + utf8Len opener := by
      rw [hinner hsubstitution, Position.after_offset]
    have hnode := substitution_rising hb t.value (t.kind == .backtick)
      (show t.position.offset ≤ t.inner.offset by omega)
    rw [partWith_of_isSubstitution below hsubstitution inside]
    refine hnode.mono (Set.Ico_subset_Ico (Nat.le_refl _) ?_)
    have hlength := utf8Len_enclosed htext
    omega
  by_cases hdouble : t.kind = .quoted .double
  · obtain ⟨opener, close, htext, hopener, -⟩ := hspells.enclosed (.inr hdouble)
    have hlength := utf8Len_enclosed htext
    have hfirst : 0 < utf8Len opener :=
      Nat.pos_of_ne_zero fun hzero => hopener (String.utf8Len_eq_zero.1 hzero)
    have hexpansions := hinside hdouble
    rw [Token.partWith, hdouble]
    refine (hexpansions.mono (Set.Ico_subset_Ico ?_ ?_)).node (hself ?_) fun m hm => ?_
    · omega
    · omega
    · rw [hdouble]
      decide
    · have hlow : t.position.offset + 1 ≤ m.position.offset := (hexpansions.inside m hm).1
      show t.position.offset ≤ m.position.offset
      omega
  rw [Token.partWith]
  cases hk : t.kind with
  | glob | parameter => exact .leaf rfl (hself (by rw [hk]; decide))
  | quoted style =>
    cases style with
    | single | ansiC => exact .leaf rfl (hself (by rw [hk]; decide))
    | double => exact absurd hk hdouble
  | substitution | backtick =>
    rw [hk] at hsubstitution
    exact absurd rfl hsubstitution
  | _ => exact .nil _

/-- The expansions inside a text stand in it. -/
theorem expansions_rising (p : Position) (cs : List Char) :
    Node.Rising (Set.Ico p.offset (p.offset + utf8Len cs)) (expansions below p cs).1 := by
  fun_induction expansions below p cs with
  | case1 => exact .nil _
  | case2 => exact .nil _
  | case3 p d after ih => exact ih.before ['\\', d]
  | case4 p c rest _ _ e _ ih => exact ih.before [c]
  | case5 p c rest _ _ lx hscan inside part after ihin ihafter =>
    have hpart : Node.Rising (lx.token p).stretch part.node.toList := by
      refine partWith_rising hb (Lexeme.token_sits hscan p) fun hk => ?_
      have hinside : inside = expansions below (p.shift 1) lx.value := dif_pos hk
      have hvalue : (lx.token p).value.toList = lx.value := by simp [Lexeme.token]
      rw [hinside, hvalue]
      exact ihin hk
    have hoffset : (p.after lx.text).offset = p.offset + utf8Len lx.text :=
      Position.after_offset p lx.text
    rw [← Lexeme.scan_append hscan, String.utf8Len_append]
    refine (hpart.append ihafter ?_).mono ?_
    · intro a ha b hb
      have hhigh : a < (p.after lx.text).offset := ha.2
      have hlow : (p.after lx.text).offset ≤ b := hb.1
      omega
    · rintro o (ho | ho)
      · have hlow : p.offset ≤ o := ho.1
        have hhigh : o < (p.after lx.text).offset := ho.2
        rw [Set.mem_Ico]
        omega
      · rw [Set.mem_Ico] at ho ⊢
        omega
  | case6 p c rest _ _ ih => exact ih.before [c]

theorem part_rising {t : Token} (ht : t.Sits) :
    Node.Rising t.stretch (t.part below).node.toList := by
  refine partWith_rising hb ht fun hk => ?_
  rw [if_pos hk]
  exact expansions_rising hb (t.position.shift 1) t.value.toList

/-! ### Simple commands -/

/-- What was laid before a command is read on is laid in front of what the tokens add. -/
theorem draft_lays {all ts : List Token} {d : Draft} (h : Lays all d.children.reverse ts) :
    Lays all (Draft.read below d ts).value.children.reverse (Draft.read below d ts).rest := by
  -- a draft keeps its children latest first, so what a token adds comes to stand at the end
  fun_induction Draft.read below d ts with
  | case1 => exact h
  | case2 d t rest hword part more ih =>
    apply ih
    have hpart : Lays (t :: rest) part.node.toList rest := .token (part_rising hb)
    have hall := h.trans hpart
    have hchildren : (d.addPart t part).children.reverse =
        d.children.reverse ++ part.node.toList := by
      cases hnode : part.node <;> simp [Draft.addPart, hnode]
    rw [hchildren]
    exact hall
  | case3 d t rest hword hredirect r more ih =>
    apply ih
    have hnode : Lays (t :: rest) [.redirect t.position r.value] rest := by
      refine .token fun ht => .leaf rfl ?_
      exact ⟨Nat.le_refl _, ht.nonempty (TokenKind.ne_eof_of_isRedirect hredirect)⟩
    have hall := h.trans (hnode.passing (Redirect.parse_rest_suffix below t rest))
    rw [← List.reverse_cons] at hall
    exact hall
  | case4 d t rest _ _ _ ih =>
    apply ih
    exact h.passing ((Draft.dropClosing_suffix rest).trans (List.suffix_cons t rest))
  | case5 d t rest _ _ _ _ ih =>
    apply ih
    exact h.passing (List.suffix_cons t rest)
  | case6 => exact h

/-! ### Commands, pipelines, chains and lists -/

theorem group_lays {t : Token} (ht : t.kind = .leftParen) (ts : List Token) :
    Lays (t :: ts) [(Group.read below t.position ts).value]
      (Group.read below t.position ts).rest := by
  have hkind : t.kind ≠ .eof := by
    rw [ht]
    decide
  have hrest := Group.read_rest_suffix below t.position ts
  refine Lays.lead ?_ hrest hkind ?_
  · cases below with
    | none => exact .pass (hrest.trans (List.suffix_cons t ts))
    | some l =>
      have hopen : Lays (t :: ts) [] ts := .pass (List.suffix_cons t ts)
      have hbody := hopen.trans (hb l rfl true ts)
      unfold Group.read
      dsimp only
      split
      · exact hbody.passing (List.tail_suffix _)
      · exact hbody
  · cases below with
    | none => rfl
    | some l =>
      unfold Group.read
      dsimp only
      split
      · rfl
      · rfl

theorem parseCommand_lays {ts : List Token} {r : Parsed Node} (h : parseCommand below ts = some r) :
    Lays ts [r.value] r.rest := by
  have hrest := (parseCommand_rest_suffix h).1
  unfold parseCommand at h
  cases ts with
  | nil => cases h
  | cons t ts =>
    dsimp only at h
    by_cases hparen : t.kind = .leftParen
    · rw [if_pos hparen] at h
      cases h
      exact group_lays hb hparen ts
    rw [if_neg hparen] at h
    by_cases hpart : (t.kind.isWordLike || t.kind.isRedirect) = true
    · rw [if_pos hpart] at h
      cases h
      have hkind : t.kind ≠ .eof := by
        intro heof
        rw [heof] at hpart
        cases hpart
      have hempty : Lays (t :: ts) Draft.empty.children.reverse (t :: ts) :=
        .pass (List.suffix_refl _)
      exact Lays.lead (draft_lays hb hempty) hrest hkind rfl
    · rw [if_neg hpart] at h
      cases h

theorem parsePiped_lays {inGroup : Bool} {ts : List Token} {r : Parsed Node}
    (h : parsePiped below inGroup ts = some r) : Lays ts [r.value] r.rest := by
  unfold parsePiped at h
  split at h
  · cases h
  · exact parseCommand_lays hb h

omit hb in
/-- What follows an operator may stand in later lines. -/
theorem Lays.operand {t : Token} {ts rest : List Token} {ns : List Node}
    (h : Lays (Tokens.skipFiller ts) ns rest) : Lays (t :: ts) ns rest := by
  have hskip : Lays (t :: ts) [] (Tokens.skipFiller ts) :=
    .pass ((Tokens.skipFiller_suffix ts).trans (List.suffix_cons t ts))
  exact hskip.trans h

theorem parsePipes_lays (inGroup : Bool) (ts : List Token) :
    Lays ts (parsePipes below inGroup ts).value.1 (parsePipes below inGroup ts).rest := by
  fun_induction parsePipes below inGroup ts with
  | case1 => exact .pass (List.suffix_refl [])
  | case2 t rest _ _ after =>
    exact .pass ((Tokens.skipFiller_suffix rest).trans (List.suffix_cons t rest))
  | case3 t rest _ command hsome more ih => exact (parsePiped_lays hb hsome).operand.trans ih
  | case4 => exact .pass (List.suffix_refl _)

theorem parsePipeline_lays {inGroup : Bool} {ts : List Token} {r : Parsed Node}
    (h : parsePipeline below inGroup ts = some r) : Lays ts [r.value] r.rest := by
  obtain ⟨first, hfirst, rfl⟩ := Option.map_eq_some_iff.1 h
  have hcommand := parseCommand_lays hb hfirst
  have hall := hcommand.trans (parsePipes_lays hb inGroup first.rest)
  dsimp only
  split
  · exact hcommand.passing (parsePipes_rest_suffix below inGroup first.rest)
  · exact Lays.start hall rfl rfl

/-- A chain that is laid up to its next operator is laid up to its end. -/
theorem parseChainRest_lays {inGroup : Bool} {all ts : List Token} {left : Node}
    (h : Lays all [left] ts) :
    Lays all [(parseChainRest below inGroup left ts).value]
      (parseChainRest below inGroup left ts).rest := by
  fun_induction parseChainRest below inGroup left ts with
  | case1 => exact h
  | case2 left t rest _ _ after =>
    exact h.passing ((Tokens.skipFiller_suffix rest).trans (List.suffix_cons t rest))
  | case3 left t rest _ right hright more ih =>
    apply ih
    have hsides := h.trans (parsePipeline_lays hb hright).operand
    unfold chainNode
    split
    · exact Lays.join hsides rfl rfl
    · exact Lays.join hsides rfl rfl
  | case4 => exact h

theorem parseChain_lays {inGroup : Bool} {ts : List Token} {r : Parsed Node}
    (h : parseChain below inGroup ts = some r) : Lays ts [r.value] r.rest := by
  obtain ⟨first, hfirst, rfl⟩ := Option.map_eq_some_iff.1 h
  exact parseChainRest_lays hb (parsePipeline_lays hb hfirst)

theorem parseItems_lays (inGroup : Bool) (ts : List Token) :
    Lays ts (parseItems below inGroup ts).value.1 (parseItems below inGroup ts).rest := by
  have hitem {ts : List Token} {item : Parsed Node}
      (h : parseChain below inGroup (Tokens.skipFiller ts) = some item) :
      Lays ts [item.value] item.rest :=
    (Lays.pass (Tokens.skipFiller_suffix ts)).trans (parseChain_lays hb h)
  fun_induction parseItems below inGroup ts with
  | case1 ts => exact .pass (Tokens.skipFiller_suffix ts)
  | case2 ts => exact .pass (Tokens.skipFiller_suffix ts)
  | case3 ts start _ item h _ more ih
  | case4 ts start _ item h _ more ih =>
    exact ((hitem h).passing (List.tail_suffix _)).trans ih
  | case5 ts start _ item h _ more ih =>
    have hbackground : Lays ts [.background item.value.position item.value] item.rest :=
      Lays.join (hitem h) rfl rfl
    exact (hbackground.passing (List.tail_suffix _)).trans ih
  | case6 ts start _ item h _ _ _ => exact hitem h

theorem Level.above_inOrder : (Level.above below).InOrder := by
  intro inGroup ts
  have hitems := parseItems_lays hb inGroup ts
  show Lays ts (listNode _ _ _).toList (parseItems below inGroup ts).rest
  generalize (parseItems below inGroup ts).value = read at hitems ⊢
  obtain ⟨items, separators⟩ := read
  cases items with
  | nil => exact hitems
  | cons i items =>
    cases items with
    | nil => exact hitems
    | cons j items => exact Lays.start hitems rfl rfl

end Readers

/-! ## Whole commands -/

namespace Node

theorem flaws_position {n : Node} {f : Finding} (h : f ∈ n.flaws) :
    f.position = some n.position := by
  cases n with
  | command | parameter =>
    simp only [flaws, List.mem_ite_nil_left, List.mem_ite_nil_right, List.mem_singleton] at h
    rw [h.2]
    rfl
  | pipeline | redirect =>
    simp only [flaws, List.mem_append, List.mem_ite_nil_left, List.mem_ite_nil_right,
      List.mem_singleton] at h
    rcases h with ⟨-, rfl⟩ | ⟨-, rfl⟩
    · rfl
    · rfl
  | _ => cases h

theorem deprecations_position {n : Node} {f : Finding} (h : f ∈ n.deprecations) :
    f.position = some n.position := by
  unfold deprecations at h
  split at h
  · rw [List.mem_singleton.1 h]
    rfl
  · cases h

/-- What is told about a node is told at its place. -/
theorem remark_position {strict : Bool} {n : Node} {f : Finding}
    (h : f ∈ n.flaws ++ if strict then n.deprecations else []) : f.position = some n.position := by
  rcases List.mem_append.1 h with h | h
  · exact flaws_position h
  · split at h
    · exact deprecations_position h
    · cases h

/-- A tree that is walked in the order of the text `s`, and with it whatever follows the walk. -/
structure InSourceOrder (s : String) (n : Node) : Prop where
  walk : n.walk.Pairwise fun m m' => m.position.offset ≤ m'.position.offset
  inside : ∀ m ∈ n.walk, m.position.offset < s.utf8ByteSize
  find : ∀ kind, (n.find kind).Pairwise fun m m' => m.position.offset ≤ m'.position.offset
  commands : n.commands.Pairwise fun m m' => m.position.offset ≤ m'.position.offset
  /-- Every flaw is told at the place of a node, and earlier ones first. -/
  review : ∀ strict, (∀ f ∈ n.review strict, ∃ m ∈ n.walk, f.position = some m.position) ∧
    (n.review strict).Pairwise fun f g =>
      ∀ p ∈ f.position, ∀ q ∈ g.position, p.offset ≤ q.offset

theorem inSourceOrder_of_walk {s : String} {n : Node}
    (hwalk : n.walk.Pairwise fun m m' => m.position.offset ≤ m'.position.offset)
    (hinside : ∀ m ∈ n.walk, m.position.offset < s.utf8ByteSize) : n.InSourceOrder s := by
  have hfind : ∀ kind,
      (n.find kind).Pairwise fun m m' => m.position.offset ≤ m'.position.offset :=
    fun kind => hwalk.filter _
  refine ⟨hwalk, hinside, hfind, hfind .command, fun strict => ⟨?_, ?_⟩⟩
  · intro f hf
    obtain ⟨m, hm, hf⟩ := List.mem_flatMap.1 hf
    exact ⟨m, hm, remark_position hf⟩
  · refine List.pairwise_flatMap.2 ⟨fun m _ => ?_, hwalk.imp fun {m m'} hle => ?_⟩
    · refine List.pairwise_of_forall_mem_list fun f hf g hg p hp q hq => ?_
      rw [remark_position hf] at hp
      rw [remark_position hg] at hq
      cases hp
      cases hq
      exact Nat.le_refl _
    · intro f hf g hg p hp q hq
      rw [remark_position hf] at hp
      rw [remark_position hg] at hq
      cases hp
      cases hq
      exact hle

end Node

/-- Every parsed tree is walked in the order of its text. -/
theorem parse_inSourceOrder {s : String} {r : Parse} (h : parse s = .ok r) :
    r.root.InSourceOrder s := by
  obtain ⟨ts, hts, hroot, -⟩ := tokens_of_parse h
  have hlevel : (level maxNesting).InOrder := level_induction (fun _ => Level.above_inOrder) _
  have hrising := hlevel.rising hts
  rw [hroot, Option.toList_some] at hrising
  obtain ⟨hsorted, hinside⟩ := hrising
  rw [List.flatMap_singleton] at hsorted hinside
  refine Node.inSourceOrder_of_walk hsorted fun m hm => ?_
  have hbound : m.position.offset < 0 + utf8Len s.toList := (hinside m hm).2
  rw [utf8ByteSize_eq_utf8Len]
  omega

theorem parse_inSourceOrder_nested :
    ∃ p, parse "\n(a; b 2>x \"$(c)\") | d &&\n e $\"é$F\" & *.c |" = .ok p ∧
      p.root.walk.map (·.position.offset) =
        [0, 1, 1, 1, 1, 2, 2, 5, 7, 11, 12, 14, 21, 27, 29, 32, 39, 39, 39] ∧
      p.root.InSourceOrder "\n(a; b 2>x \"$(c)\") | d &&\n e $\"é$F\" & *.c |" := by
  obtain ⟨p, hp, hoffsets⟩ := exists_of_parse_any
    (s := "\n(a; b 2>x \"$(c)\") | d &&\n e $\"é$F\" & *.c |")
    (f := fun p => p.root.walk.map (·.position.offset) ==
      [0, 1, 1, 1, 1, 2, 2, 5, 7, 11, 12, 14, 21, 27, 29, 32, 39, 39, 39]) (by cbv)
  exact ⟨p, hp, beq_iff_eq.1 hoffsets, parse_inSourceOrder hp⟩

end ShellGuard
