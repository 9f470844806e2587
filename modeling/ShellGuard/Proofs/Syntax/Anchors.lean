import Mathlib
import ShellGuard.Proofs.Syntax.Shielding
import ShellGuard.Proofs.Syntax.Standalone

/-!
# Where the parts of a tree stand

Parameters, substitutions, quoted texts, patterns and redirects keep the place of their first
character.  All of them are made from tokens, at any depth: the body of a substitution and the value
of a double-quoted text are read from where they begin, and where that is follows from the opener.

The opener of `$"…"` is two characters long, but its value is read as if it were one.  So what stands
inside is told one byte too early, and on the line of the opener one column.  A text between double
quotes has no double-quoted text inside, so nothing is told earlier than that.

A place is told against a frame: what really stands in front (`lead`) and what was counted in front
(`told`).  The two differ inside `$"…"` only.
-/

namespace ShellGuard

open String (utf8Len)

/-! ## Places against a frame -/

namespace Node

/-- What a node keeps of the token it is made from. -/
def MadeOf (kind : TokenKind) (value : String) : Node → Prop
  | parameter _ v =>
    kind = .parameter ∧ v = Parameter.ofText value ∧ value.toList.head? = some '$'
  | glob _ pattern => kind = .glob ∧ pattern = value
  | quoted _ style v _ => kind = .quoted style ∧ v = value
  | subshell _ _ isCommand backtick =>
    isCommand = true ∧ kind = if backtick then .backtick else .substitution
  | redirect _ r =>
    kind.isRedirect = true ∧ r.kind = (Redirect.shape kind value.toList).1 ∧
      r.fd = (Redirect.explicitFd value.toList).getD (Redirect.shape kind value.toList).2
  | _ => False

/-- Whether `text` is a way to write what a node stands for. -/
def WrittenAs (text : List Char) (n : Node) : Prop :=
  ∃ kind value after, n.MadeOf kind value ∧ kind.Spells value.toList text after

/-- In the text `s`, which begins with `lead`, a node is written behind some more text, and it keeps
the place behind `told` and that text. -/
def StandsBehind (s lead told : List Char) (n : Node) : Prop :=
  ∃ before text after, s = lead ++ (before ++ (text ++ after)) ∧ n.WrittenAs text ∧
    n.position = Position.reached (told ++ before)

/-- A double-quoted text, in either form. -/
def isDouble : Node → Bool
  | quoted _ style _ _ => style == .double
  | _ => false

/-- In the tree there is no double-quoted text, and its parts stand where they say. -/
def Within (s lead told : List Char) (n : Node) : Prop :=
  ∀ m ∈ n.walk, m.isDouble = false ∧ (m.isPart = true → m.StandsBehind s lead told)

theorem within_iff {s lead told : List Char} {n : Node} :
    n.Within s lead told ↔
      (n.isDouble = false ∧ (n.isPart = true → n.StandsBehind s lead told)) ∧
        ∀ c ∈ n.children, c.Within s lead told := by
  unfold Within
  rw [walk_eq, List.forall_mem_cons]
  refine and_congr_right fun _ => ⟨fun h c hc m hm => ?_, fun h m hm => ?_⟩
  · exact h m (List.mem_flatMap.2 ⟨c, hc, hm⟩)
  · obtain ⟨c, hc, hm⟩ := List.mem_flatMap.1 hm
    exact h c hc m hm

theorem joins_plain {n : Node} (h : n.joins = true) : n.isDouble = false ∧ n.isPart = false := by
  cases n with
  | redirect | subshell | parameter | quoted | glob => cases h
  | _ => exact ⟨rfl, rfl⟩

theorem MadeOf.isDouble {kind : TokenKind} {value : String} {n : Node} (h : n.MadeOf kind value)
    (hk : kind ≠ .quoted .double) : n.isDouble = false := by
  cases n with
  | quoted p style v es =>
    have hstyle : style ≠ .double := fun hdouble => hk (by rw [h.1, hdouble])
    simpa [Node.isDouble] using hstyle
  | _ => rfl

end Node

/-- A token of the text `s` that stands in a frame.  Where `free` holds, the text it was read from has
no bare double quote. -/
structure Token.Rooted (s lead told : List Char) (free : Bool) (t : Token) : Prop where
  stands : ∃ before text after rest, s = lead ++ (before ++ (text ++ rest)) ∧ t.Spells text after ∧
    t.position = Position.reached (told ++ before)
  dollar : t.kind = .parameter → t.value.toList.head? = some '$'
  double : t.kind = .quoted .double → free = false ∧ Lexeme.Shielded false t.value.toList
  shielded : free = true → t.kind.isSubstitution = true → Lexeme.Shielded false t.value.toList

theorem Lexeme.greaterThan_ne_parameter (fd cs : List Char) :
    (greaterThan fd cs).kind ≠ .parameter := by
  intro hk
  have hredirect := greaterThan_isRedirect fd cs
  rw [hk] at hredirect
  cases hredirect

theorem Lexeme.wordOrUnknown_ne_parameter (c : Char) (cs : List Char) :
    (wordOrUnknown c cs).kind ≠ .parameter := by
  unfold wordOrUnknown whole
  dsimp only
  split
  · simp
  · split <;> simp

theorem Lexeme.numberOrWord_ne_parameter (c : Char) (cs : List Char) :
    (numberOrWord c cs).kind ≠ .parameter := by
  unfold numberOrWord
  dsimp only
  split
  · exact wordOrUnknown_ne_parameter c cs
  split
  · simp [whole]
  · exact greaterThan_ne_parameter _ _
  · exact wordOrUnknown_ne_parameter c cs

/-- How an expansion of a parameter is written: with braces, with a name, or with a digit or another
character that names a parameter alone. -/
inductive Lexeme.ParameterForm : List Char → Prop
  | braced (cs : List Char) : ParameterForm ('$' :: '{' :: cs)
  | name (c : Char) (cs : List Char) (h : isName (c :: cs) = true) : ParameterForm ('$' :: c :: cs)
  | single (c : Char) (h : (c.isDigit || isSpecialParameter c) = true) : ParameterForm ['$', c]

theorem Lexeme.ParameterForm.head? {cs : List Char} (h : ParameterForm cs) :
    cs.head? = some '$' := by
  cases h <;> rfl

theorem Lexeme.scan_parameter {c : Char} {cs : List Char} {lx : Lexeme} (h : scan c cs = .ok lx)
    (hk : lx.kind = .parameter) : ParameterForm lx.value := by
  cases scan_form h with
  | bar => exact absurd hk (by unfold bar; split <;> simp [whole])
  | ampersand => exact absurd hk (by unfold ampersand; split <;> simp [whole])
  | lessThan => exact absurd hk (by unfold lessThan; split <;> simp [whole])
  | greaterThan => exact absurd hk (greaterThan_ne_parameter [] cs)
  | double h => rw [(quoted_between h).1] at hk; cases hk
  | single h => rw [(quoted_between h).1] at hk; cases hk
  | backtick h => rw [(quoted_between h).1] at hk; cases hk
  | dollar h =>
    cases h with
    | braced cs => exact .braced (Lexeme.braced 1 cs).1
    | name c cs hc =>
      refine .name c _ ?_
      rw [isName, hc, Bool.true_and, List.all_eq_true]
      exact fun d hd => List.mem_takeWhile_imp hd
    | special c cs hc => exact .single c hc
    | substitution h => rw [(substitution_between h).1] at hk; cases hk
    | ansiC h => rw [(quoted_between h).1] at hk; cases hk
    | double h => rw [(quoted_between h).1] at hk; cases hk
    | alone => cases hk
  | semicolon | newline | leftParen | rightParen => cases hk
  | number => exact absurd hk (numberOrWord_ne_parameter c cs)

section Frame

variable {s lead told : List Char} {free : Bool}

/-- A token that is read where a frame is kept stands in it. -/
theorem Lexeme.token_rooted {c : Char} {cs before rest : List Char} {lx : Lexeme} {p : Position}
    (h : scan c cs = .ok lx) (hs : s = lead ++ (before ++ (c :: cs ++ rest)))
    (hp : p = Position.reached (told ++ before)) (hcs : free = true → Shielded false (c :: cs)) :
    (lx.token p).Rooted s lead told free := by
  have hvalue : (lx.token p).value.toList = lx.value := by simp [token]
  refine ⟨⟨before, lx.text, lx.rest, lx.rest ++ rest, ?_, ?_, hp⟩, fun hk => ?_, fun hk => ?_,
    fun hfree hk => ?_⟩
  · rw [hs, ← scan_append h, List.append_assoc lx.text]
  · rw [Token.Spells, hvalue]
    exact (scan_wellSpelled h).spelled
  · rw [hvalue]
    exact (scan_parameter h hk).head?
  · rw [hvalue]
    refine ⟨?_, scan_double_foldlM h hk⟩
    by_contra hfree
    exact (hcs (by simpa using hfree)).kind h hk
  · rw [hvalue]
    refine (hcs hfree).value h ?_
    change lx.kind.isSubstitution = true at hk
    revert hk
    cases lx.kind <;> simp [TokenKind.isSubstitution]

theorem tokenizeAt_rooted {p : Position} {body : String} {before rest : List Char} {ts : List Token}
    (h : tokenizeAt p body = .ok ts) (hs : s = lead ++ (before ++ (body.toList ++ rest)))
    (hp : p = Position.reached (told ++ before))
    (hbody : free = true → Lexeme.Shielded false body.toList) :
    ∀ t ∈ ts, t.Rooted s lead told free := by
  -- the cursor knows what stands in front of it, in the text and in its own count
  let I (cur : Cursor) : Prop := ∃ before, s = lead ++ (before ++ (cur.rest ++ rest)) ∧
    cur.position = Position.reached (told ++ before) ∧
    (free = true → Lexeme.Shielded false cur.rest)
  refine Cursor.tokens_forall I (fun cur cur' t hcur hnext => ?_) ⟨before, hs, hp, hbody⟩ h
  obtain ⟨before, hs, hp, hshielded⟩ := hcur
  have houtcome := Cursor.next_outcome cur
  rw [hnext] at houtcome
  cases houtcome with
  | @ended blank cut =>
    rw [Cursor.append_of_gap cut, List.append_nil] at hs
    have hplace : cur.position.after blank = Position.reached (told ++ (before ++ blank)) := by
      rw [hp, Position.reached_after, List.append_assoc]
    have hsplit : s = lead ++ ((before ++ blank) ++ ([] ++ rest)) := by
      rw [hs, List.nil_append, List.append_assoc before]
    refine ⟨⟨⟨before ++ blank, [], [], rest, hsplit, rfl, hplace⟩, ?_, ?_, ?_⟩, ?_⟩
    · exact fun hk => by cases hk
    · exact fun hk => by cases hk
    · exact fun _ hk => by cases hk
    · exact ⟨before ++ blank, hsplit, hplace, fun _ => .nil false⟩
  | @token blank cs c lx cut scan =>
    have hpassed := Cursor.gap_passed cur.rest
    rw [cut] at hpassed
    rw [Cursor.append_of_gap cut] at hs hshielded
    have hplace : cur.position.after blank = Position.reached (told ++ (before ++ blank)) := by
      rw [hp, Position.reached_after, List.append_assoc]
    have hsplit : s = lead ++ ((before ++ blank) ++ (c :: cs ++ rest)) := by
      rw [hs, List.append_assoc blank, List.append_assoc before]
    have hleft : free = true → Lexeme.Shielded false (c :: cs) :=
      fun hfree => hpassed.shielded (hshielded hfree)
    refine ⟨Lexeme.token_rooted scan hsplit hplace hleft, before ++ blank ++ lx.text, ?_, ?_, ?_⟩
    · rw [hsplit, ← Lexeme.scan_append scan, List.append_assoc (before ++ blank),
        List.append_assoc lx.text]
    · show (cur.position.after blank).after lx.text = _
      rw [hplace, Position.reached_after, List.append_assoc told]
    · exact fun hfree => (hleft hfree).rest scan

namespace Token.Rooted

variable {t : Token} (h : t.Rooted s lead told free)

include h

/-- A node made from a token stands where the token does. -/
theorem standsBehind {n : Node} (hn : n.MadeOf t.kind t.value) (hposition : n.position = t.position) :
    n.StandsBehind s lead told := by
  obtain ⟨before, text, after, rest, hs, hspells, hplace⟩ := h.stands
  exact ⟨before, text, rest, hs, ⟨t.kind, t.value, after, hn, hspells⟩, hposition.trans hplace⟩

/-- The tokens of a substitution's body stand in the frame of the substitution. -/
theorem body (hk : t.kind.isSubstitution = true) {ts : List Token}
    (hts : tokenizeAt t.inner t.value = .ok ts) : ∀ u ∈ ts, u.Rooted s lead told free := by
  obtain ⟨before, text, after, rest, hs, hspells, hplace⟩ := h.stands
  obtain ⟨opener, close, htext, -, hinner⟩ := hspells.enclosed (.inl hk)
  have hbody : s = lead ++ ((before ++ opener) ++ (t.value.toList ++ close :: rest)) := by
    rw [hs, htext]
    simp
  have hstart : t.inner = Position.reached (told ++ (before ++ opener)) := by
    rw [hinner hk, hplace, Position.reached_after, List.append_assoc]
  exact tokenizeAt_rooted hts hbody hstart fun hfree => h.shielded hfree hk

end Token.Rooted

end Frame

/-! ## What tokens and readers make -/

section Made

variable (below : Option Level)

theorem substitution_node (body : String) (inner position : Position) (backtick : Bool) :
    ∃ tree, (substitution below body inner position backtick).1 =
        .subshell position tree true backtick ∧
      ∀ c ∈ tree, ∃ l ∈ below, ∃ ts, tokenizeAt inner body = .ok ts ∧
        c ∈ (l.list false ts).value := by
  cases below with
  | none => exact ⟨none, rfl, by simp⟩
  | some l =>
    cases hts : tokenizeAt inner body with
    | error e =>
      simp only [substitution, hts]
      exact ⟨none, rfl, by simp⟩
    | ok ts =>
      rw [substitution_ok l hts]
      exact ⟨_, rfl, fun c hc => ⟨l, rfl, ts, rfl, hc⟩⟩

theorem redirect_madeOf {t : Token} (ht : t.kind.isRedirect = true) (ts : List Token) :
    (Node.redirect t.position (Redirect.parse below t ts).value).MadeOf t.kind t.value := by
  unfold Redirect.parse
  dsimp only
  split
  · exact ⟨ht, rfl, rfl⟩
  · exact ⟨ht, rfl, rfl⟩

variable {below} {t : Token} {inside : List Node × List Finding} {n : Node}
  (hn : n ∈ (t.partWith below inside).node)

include hn

theorem partWith_madeOf (hdollar : t.kind = .parameter → t.value.toList.head? = some '$') :
    n.MadeOf t.kind t.value ∧ n.position = t.position := by
  cases hk : t.kind with
  | substitution | backtick =>
    rw [partWith_of_isSubstitution below (by rw [hk]; rfl) inside, hk] at hn
    obtain ⟨tree, hnode, -⟩ := substitution_node below t.value t.inner t.position _
    rw [hnode] at hn
    cases hn
    exact ⟨⟨rfl, rfl⟩, rfl⟩
  | glob =>
    rw [Token.partWith, hk] at hn
    cases hn
    exact ⟨⟨rfl, rfl⟩, rfl⟩
  | parameter =>
    rw [Token.partWith, hk] at hn
    cases hn
    exact ⟨⟨rfl, rfl, hdollar hk⟩, rfl⟩
  | quoted style =>
    rw [Token.partWith, hk] at hn
    cases style <;> cases hn <;> exact ⟨⟨rfl, rfl⟩, rfl⟩
  | _ =>
    rw [Token.partWith, hk] at hn
    cases hn

/-- The children of a part are what was found inside a double-quoted text, or the tree of a
substitution's body. -/
theorem partWith_children {c : Node} (hc : c ∈ n.children) :
    (t.kind = .quoted .double ∧ c ∈ inside.1) ∨
      (t.kind.isSubstitution = true ∧ ∃ l ∈ below, ∃ ts, tokenizeAt t.inner t.value = .ok ts ∧
        c ∈ (l.list false ts).value) := by
  by_cases hsubstitution : t.kind.isSubstitution = true
  · rw [partWith_of_isSubstitution below hsubstitution inside] at hn
    obtain ⟨tree, hnode, htree⟩ := substitution_node below t.value t.inner t.position _
    rw [hnode] at hn
    cases hn
    exact .inr ⟨hsubstitution, htree c (Option.mem_toList.1 hc)⟩
  · rw [Token.partWith] at hn
    cases hk : t.kind with
    | substitution | backtick =>
      rw [hk] at hsubstitution
      exact absurd rfl hsubstitution
    | quoted style =>
      rw [hk] at hn
      cases style with
      | double =>
        cases hn
        exact .inl ⟨rfl, hc⟩
      | single | ansiC =>
        cases hn
        cases hc
    | glob | parameter =>
      rw [hk] at hn
      cases hn
      cases hc
    | _ =>
      rw [hk] at hn
      cases hn

end Made

/-! ## Between double quotes -/

section Inner

variable {s lead told : List Char} {below : Option Level}
  (hb : ∀ l ∈ below, l.Gives (Token.Rooted s lead told true) (Node.Within s lead told))

include hb

theorem partWith_within {t : Token} (ht : t.Rooted s lead told true)
    (inside : List Node × List Finding) :
    ∀ n ∈ (t.partWith below inside).node, n.Within s lead told := by
  intro n hn
  have hkind : t.kind ≠ .quoted .double := fun hk => by cases (ht.double hk).1
  obtain ⟨hmade, hposition⟩ := partWith_madeOf hn ht.dollar
  refine Node.within_iff.2 ⟨⟨?_, fun _ => ht.standsBehind hmade hposition⟩, fun c hc => ?_⟩
  · exact hmade.isDouble hkind
  · rcases partWith_children hn hc with ⟨hk, -⟩ | ⟨hk, l, hl, ts, hts, hc⟩
    · exact absurd hk hkind
    · exact hb l hl false ts (ht.body hk hts) c hc

theorem expansions_within (p : Position) (cs rest : List Char) :
    ∀ before, s = lead ++ (before ++ (cs ++ rest)) → p = Position.reached (told ++ before) →
      Lexeme.Shielded false cs → ∀ e ∈ (expansions below p cs).1, e.Within s lead told := by
  -- what has been read moves to the front, in the text and in the count
  have hmove {p : Position} (text : List Char) {more before : List Char}
      (hs : s = lead ++ (before ++ (text ++ more ++ rest)))
      (hp : p = Position.reached (told ++ before)) :
      s = lead ++ ((before ++ text) ++ (more ++ rest)) ∧
        p.after text = Position.reached (told ++ (before ++ text)) := by
    constructor
    · rw [hs, List.append_assoc text, List.append_assoc before]
    · rw [hp, Position.reached_after, List.append_assoc]
  fun_induction expansions below p cs with
  | case1 => simp
  | case2 => simp
  | case3 p d after ih =>
    intro before hs hp hcs
    obtain ⟨hs, hp⟩ := hmove ['\\', d] hs hp
    exact ih _ hs hp hcs
  | case4 p c more hc _ e _ ih =>
    intro before hs hp hcs
    obtain ⟨hs, hp⟩ := hmove [c] hs hp
    exact ih _ hs hp (hcs.tail hc)
  | case5 p c more _ _ lx hscan inside part after ihin ihafter =>
    intro before hs hp hcs
    have htoken : (lx.token p).Rooted s lead told true :=
      Lexeme.token_rooted hscan hs hp fun _ => hcs
    rw [← Lexeme.scan_append hscan] at hs
    obtain ⟨hs, hp⟩ := hmove lx.text hs hp
    refine List.forall_mem_append.2 ⟨fun e he => ?_, ihafter _ hs hp (hcs.rest hscan)⟩
    exact partWith_within hb htoken inside e (Option.mem_toList.1 he)
  | case6 p c more hc _ ih =>
    intro before hs hp hcs
    obtain ⟨hs, hp⟩ := hmove [c] hs hp
    exact ih _ hs hp (hcs.tail hc)

theorem builds_within :
    Builds (Token.Rooted s lead told true) (Node.Within s lead told) (Node.Within s lead told)
      below where
  join n hjoins hchildren := by
    obtain ⟨hdouble, hpart⟩ := Node.joins_plain hjoins
    refine Node.within_iff.2 ⟨⟨hdouble, fun h => ?_⟩, hchildren⟩
    rw [hpart] at h
    cases h
  part t ht := partWith_within hb ht _
  redirect t ts ht hredirect := by
    refine Node.within_iff.2 ⟨⟨rfl, fun _ => ?_⟩, fun c hc => ?_⟩
    · exact ht.standsBehind (redirect_madeOf below hredirect ts) rfl
    · cases hc
  group t body _ _ _ hbody := by
    refine Node.within_iff.2 ⟨⟨rfl, fun h => ?_⟩, fun c hc => hbody c (Option.mem_toList.1 hc)⟩
    cases h

end Inner

/-! ## Outside of `$"…"` -/

theorem spanText_reached {s : String} {before back : List Char} (hs : s.toList = before ++ back) :
    spanText .start s (Position.reached before).offset s.utf8ByteSize = back := by
  have hback : s.toList = before ++ (back ++ []) := by rw [hs, List.append_nil]
  refine spanText_eq hback ?_ ?_
  · show utf8Len before = 0 + utf8Len before
    omega
  · rw [utf8ByteSize_eq_utf8Len, hs, String.utf8Len_append]
    rfl

namespace Node

/-- A double-quoted text that is written `$"…"`. -/
def isLocalized (s : String) (n : Node) : Bool :=
  n.isDouble && (spanText .start s n.position.offset s.utf8ByteSize).head? == some '$'

/-- The nodes of a tree that stand in no `$"…"`. -/
def outerWalk (s : String) (n : Node) : List Node :=
  n.walkWhere fun m => !m.isLocalized s

/-- What stands inside a `$"…"` is told as if the second character of the opener were missing. -/
def TellsEarly (s : String) (q : Node) : Prop :=
  ∃ before, q.position = Position.reached before ∧
    ∀ n ∈ q.children.flatMap walk, n.isPart = true →
      n.StandsBehind s.toList (before ++ ['$', '"']) (before ++ ['$'])

/-- Outside of every `$"…"` parts stand where they say, and inside they are told too early. -/
structure Settled (s : String) (n : Node) : Prop where
  outside : ∀ m ∈ n.outerWalk s, m.isPart = true → m.StandsBehind s.toList [] []
  inside : ∀ q ∈ n.outerWalk s, q.isLocalized s = true → q.TellsEarly s

variable {s : String} {n : Node}

theorem isLocalized_of_isDouble (h : n.isDouble = false) : n.isLocalized s = false := by
  rw [isLocalized, h, Bool.false_and]

theorem settled_of_children (hn : n.isLocalized s = false)
    (hpart : n.isPart = true → n.StandsBehind s.toList [] [])
    (hchildren : ∀ c ∈ n.children, c.Settled s) : n.Settled s := by
  have hwalk : n.outerWalk s = n :: n.children.flatMap (outerWalk s) := by
    rw [outerWalk, walkWhere_eq, hn]
    rfl
  constructor
  · rw [hwalk]
    refine List.forall_mem_cons.2 ⟨hpart, fun m hm => ?_⟩
    obtain ⟨c, hc, hm⟩ := List.mem_flatMap.1 hm
    exact (hchildren c hc).outside m hm
  · rw [hwalk]
    refine List.forall_mem_cons.2 ⟨fun h => ?_, fun q hq => ?_⟩
    · rw [hn] at h
      cases h
    · obtain ⟨c, hc, hq⟩ := List.mem_flatMap.1 hq
      exact (hchildren c hc).inside q hq

theorem settled_of_localized (hn : n.isLocalized s = true)
    (hpart : n.StandsBehind s.toList [] []) (hearly : n.TellsEarly s) : n.Settled s := by
  have hwalk : n.outerWalk s = [n] := by
    rw [outerWalk, walkWhere_eq, hn]
    rfl
  constructor
  · rw [hwalk]
    exact List.forall_mem_singleton.2 fun _ => hpart
  · rw [hwalk]
    exact List.forall_mem_singleton.2 fun _ => hearly

theorem Within.settled (h : n.Within s.toList [] []) : n.Settled s := by
  have hmem {m : Node} (hm : m ∈ n.outerWalk s) : m ∈ n.walk := by
    have hreached := walk_infix hm
    apply hreached.subset
    rw [walk_eq]
    exact List.mem_cons_self
  constructor
  · exact fun m hm => (h m (hmem hm)).2
  · intro q hq hlocalized
    rw [isLocalized_of_isDouble (h q (hmem hq)).1] at hlocalized
    cases hlocalized

end Node

/-- A level that keeps places, inside double-quoted texts and outside. -/
structure Level.Anchors (s : String) (l : Level) : Prop where
  within : ∀ lead told,
    l.Gives (Token.Rooted s.toList lead told true) (Node.Within s.toList lead told)
  settled : l.Gives (Token.Rooted s.toList [] [] false) (Node.Settled s)

section Outer

variable {s : String} {below : Option Level} (hb : ∀ l ∈ below, l.Anchors s)

include hb

theorem quoted_settled {t : Token} (ht : t.Rooted s.toList [] [] false)
    (hk : t.kind = .quoted .double) {q : Node}
    (hq : q = .quoted t.position .double t.value
      (expansions below (t.position.shift 1) t.value.toList).1) : q.Settled s := by
  have hexpansions (lead told rest before : List Char) :=
    expansions_within (fun l hl => (hb l hl).within lead told) (t.position.shift 1)
      t.value.toList rest before
  have hvalue := (ht.double hk).2
  have hstands : q.StandsBehind s.toList [] [] := by
    rw [hq]
    exact ht.standsBehind ⟨hk, rfl⟩ rfl
  obtain ⟨before, text, after, rest, hs, hspells, hplace⟩ := ht.stands
  rw [List.nil_append] at hs hplace
  have hlocalized : q.isLocalized s = ((text ++ rest).head? == some '$') := by
    rw [hq]
    show (true && (spanText .start s t.position.offset s.utf8ByteSize).head? == some '$') = _
    rw [hplace, spanText_reached hs, Bool.true_and]
  rw [Token.Spells, hk] at hspells
  rcases hspells with rfl | rfl
  · -- the opener is as long as it is taken to be
    refine Node.settled_of_children hlocalized (fun _ => hstands) fun c hc => ?_
    rw [hq] at hc
    refine Node.Within.settled (hexpansions [] [] ('"' :: rest) (before ++ ['"']) ?_ ?_ hvalue c hc)
    · rw [hs]
      simp
    · rw [hplace, ← List.append_assoc, Position.reached_concat]
      rfl
  · -- the second character of the opener is not counted
    refine Node.settled_of_localized hlocalized hstands ⟨before, ?_, fun n hn => ?_⟩
    · rw [hq]
      exact hplace
    · obtain ⟨c, hc, hn⟩ := List.mem_flatMap.1 hn
      rw [hq] at hc
      refine (hexpansions (before ++ ['$', '"']) (before ++ ['$']) ('"' :: rest) [] ?_ ?_ hvalue c hc
        n hn).2
      · rw [hs]
        simp
      · rw [hplace, List.append_nil, Position.reached_concat]
        rfl

theorem part_settled {t : Token} (ht : t.Rooted s.toList [] [] false) :
    ∀ n ∈ (t.part below).node, n.Settled s := by
  intro n hn
  rw [Token.part] at hn
  by_cases hk : t.kind = .quoted .double
  · rw [if_pos hk, Token.partWith, hk] at hn
    cases hn
    exact quoted_settled hb ht hk rfl
  rw [if_neg hk] at hn
  obtain ⟨hmade, hposition⟩ := partWith_madeOf hn ht.dollar
  refine Node.settled_of_children ?_ (fun _ => ht.standsBehind hmade hposition) fun c hc => ?_
  · apply Node.isLocalized_of_isDouble
    exact hmade.isDouble hk
  · rcases partWith_children hn hc with ⟨hdouble, -⟩ | ⟨hsubstitution, l, hl, ts, hts, hc⟩
    · exact absurd hdouble hk
    · exact (hb l hl).settled false ts (ht.body hsubstitution hts) c hc

theorem builds_settled :
    Builds (Token.Rooted s.toList [] [] false) (Node.Settled s) (Node.Settled s) below where
  join n hjoins hchildren := by
    obtain ⟨hdouble, hpart⟩ := Node.joins_plain hjoins
    refine Node.settled_of_children (Node.isLocalized_of_isDouble hdouble) (fun h => ?_) hchildren
    rw [hpart] at h
    cases h
  part t ht := part_settled hb ht
  redirect t ts ht hredirect := by
    refine Node.settled_of_children rfl (fun _ => ?_) fun c hc => ?_
    · exact ht.standsBehind (redirect_madeOf below hredirect ts) rfl
    · cases hc
  group t body _ _ _ hbody := by
    refine Node.settled_of_children rfl (fun h => ?_) fun c hc => hbody c (Option.mem_toList.1 hc)
    cases h

theorem Level.above_anchors : (Level.above below).Anchors s := by
  constructor
  · intro lead told
    have hbelow : ∀ l ∈ below, l.Gives (Token.Rooted s.toList lead told true)
        (Node.Within s.toList lead told) := fun l hl => (hb l hl).within lead told
    exact Level.above_gives (builds_within hbelow) hbelow
  · exact Level.above_gives (builds_settled hb) fun l hl => (hb l hl).settled

end Outer

/-! ## Whole commands -/

/-- Where the parts of a parsed tree stand. -/
structure Node.Anchored (s : String) (root : Node) : Prop where
  /-- Outside of every `$"…"` a part keeps the line, column and offset of its first character. -/
  outside : ∀ n ∈ root.outerWalk s, n.isPart = true → n.StandsBehind s.toList [] []
  /-- There the text at a parameter begins with a dollar sign. -/
  dollar : ∀ p v, .parameter p v ∈ root.outerWalk s →
    (spanText .start s p.offset s.utf8ByteSize).head? = some '$'
  /-- Inside it keeps the place it would have if the opener were one character long. -/
  inside : ∀ q ∈ root.outerWalk s, q.isLocalized s = true → q.TellsEarly s
  /-- So it is told on its line, but one byte in front of its first character. -/
  early : ∀ q ∈ root.outerWalk s, q.isLocalized s = true →
    ∀ n ∈ q.children.flatMap Node.walk, n.isPart = true →
      ∃ before text after, s.toList = before ++ (text ++ after) ∧ n.WrittenAs text ∧
        n.position.line = (Position.reached before).line ∧
        n.position.offset + 1 = (Position.reached before).offset
  /-- Every node stands outside or inside. -/
  all : ∀ n ∈ root.walk, n ∈ root.outerWalk s ∨
    ∃ q ∈ root.outerWalk s, q.isLocalized s = true ∧ n ∈ q.children.flatMap Node.walk

theorem Node.StandsBehind.dollar {s : String} {p : Position} {v : Parameter}
    (h : (Node.parameter p v).StandsBehind s.toList [] []) :
    (spanText .start s p.offset s.utf8ByteSize).head? = some '$' := by
  obtain ⟨before, text, after, hs, ⟨kind, value, _, ⟨hkind, -, hvalue⟩, hspells⟩, hplace⟩ := h
  rw [List.nil_append] at hs hplace
  rw [hkind] at hspells
  obtain rfl : text = value.toList := hspells
  rw [show p = Position.reached before from hplace, spanText_reached hs, List.head?_append, hvalue]
  rfl

theorem Node.StandsBehind.early {s front : List Char} {n : Node}
    (h : n.StandsBehind s (front ++ ['$', '"']) (front ++ ['$'])) :
    ∃ before text after, s = before ++ (text ++ after) ∧ n.WrittenAs text ∧
      n.position.line = (Position.reached before).line ∧
      n.position.offset + 1 = (Position.reached before).offset := by
  obtain ⟨before, text, after, hs, hwritten, hplace⟩ := h
  refine ⟨front ++ ['$', '"'] ++ before, text, after, ?_, hwritten, ?_, ?_⟩
  · rw [hs, List.append_assoc (front ++ ['$', '"'])]
  · rw [hplace]
    simp [Position.reached]
  · rw [hplace]
    show utf8Len (front ++ ['$'] ++ before) + 1 = utf8Len (front ++ ['$', '"'] ++ before)
    simp only [String.utf8Len_append]
    change _ + 1 + _ + 1 = _ + 2 + _
    omega

/-- The parts of a parsed tree stand where they say, except inside `$"…"`, where they stand one
character further on. -/
theorem parse_anchored {s : String} {r : Parse} (h : parse s = .ok r) : r.root.Anchored s := by
  obtain ⟨ts, hts, hroot, -⟩ := tokens_of_parse h
  have hlevel : (level maxNesting).Anchors s := level_induction (fun _ => Level.above_anchors) _
  have htokens : ∀ t ∈ ts, t.Rooted s.toList [] [] false := by
    refine tokenizeAt_rooted hts (show s.toList = [] ++ ([] ++ (s.toList ++ [])) by simp) rfl ?_
    intro hfree
    cases hfree
  obtain ⟨houtside, hinside⟩ := hlevel.settled false ts htokens r.root hroot
  refine ⟨houtside, fun p v hv => (houtside _ hv rfl).dollar, hinside, ?_, fun n hn => ?_⟩
  · intro q hq hlocalized n hn hpart
    obtain ⟨front, -, hearly⟩ := hinside q hq hlocalized
    exact (hearly n hn hpart).early
  · refine (Node.mem_walkWhere_or _ hn).imp_right fun ⟨q, hq, hclosed, hn⟩ => ⟨q, hq, ?_, hn⟩
    simpa using hclosed

theorem parse_anchored_both_forms :
    ∃ p, parse "a 2>x \"é$(b *)\" `c`\n$\"$D\n$(e $F)\" '' $G" = .ok p ∧
      p.root.walk.map (·.position.offset) =
        [0, 0, 2, 6, 9, 11, 13, 17, 18, 21, 21, 22, 25, 27, 29, 35, 38] ∧
      p.root.Anchored "a 2>x \"é$(b *)\" `c`\n$\"$D\n$(e $F)\" '' $G" := by
  obtain ⟨p, hp, hoffsets⟩ := exists_of_parse_any
    (s := "a 2>x \"é$(b *)\" `c`\n$\"$D\n$(e $F)\" '' $G")
    (f := fun p => p.root.walk.map (·.position.offset) ==
      [0, 0, 2, 6, 9, 11, 13, 17, 18, 21, 21, 22, 25, 27, 29, 35, 38]) (by cbv)
  exact ⟨p, hp, beq_iff_eq.1 hoffsets, parse_anchored hp⟩

/-- At the place of the parameter in `$"$HOME"` stands the quote. -/
theorem localized_parameter_early :
    ∃ p, parse "echo $\"$HOME\"" = .ok p ∧
      ∃ n ∈ p.root.walk, n.isPart = true ∧ ¬n.StandsBehind "echo $\"$HOME\"".toList [] [] := by
  obtain ⟨p, hp, hearly⟩ := exists_of_parse_any (s := "echo $\"$HOME\"")
    (f := fun p => p.root.walk.any fun n => n.kind == .parameter && n.position.offset == 6)
    (by cbv)
  obtain ⟨n, hn, hplace⟩ := List.any_eq_true.1 hearly
  rw [Bool.and_eq_true] at hplace
  obtain ⟨position, v, rfl⟩ : ∃ position v, n = .parameter position v := by
    cases n with
    | parameter position v => exact ⟨position, v, rfl⟩
    | _ => cases hplace.1
  refine ⟨p, hp, _, hn, rfl, fun hstands => ?_⟩
  have hdollar := hstands.dollar
  rw [show position.offset = 6 from beq_iff_eq.1 hplace.2] at hdollar
  revert hdollar
  decide +kernel

end ShellGuard
