import Mathlib
import ShellGuard.Proofs.Syntax.Descent
import ShellGuard.Proofs.Syntax.Lossless
import ShellGuard.Proofs.Syntax.Relocation
import ShellGuard.Proofs.Syntax.Substitutions

/-!
# Nested commands on their own

The body of a substitution is read in place: its tokens carry the places of the whole text, and so
does its tree.  Still the tree is the one the body has when it is parsed on its own, moved to where
the body stands.  A text parsed elsewhere gives the same result with other places (`Relocated`), and
a substitution does nothing with its body but parse it one level further in.

The second half goes through a whole tree.  Every substitution in it, however it is nested in
groups, quoted texts and other substitutions, was written in the text, and its body is the
standalone tree for the depth at which it is met.
-/

namespace ShellGuard

/-! ## Parsing elsewhere -/

/-- The results of parsing one text at the start and at `p`: two trees that differ in their places,
or two errors of one kind. -/
inductive Relocated (p : Position) : Except SyntaxError Parse → Except SyntaxError Parse → Prop
  | tree (root : Node) {notes notes' : List Finding} (length : notes'.length = notes.length) :
    Relocated p (.ok ⟨root, notes⟩) (.ok ⟨root.mapPlaces p.moved, notes'⟩)
  | unlexed (e : LexError) : Relocated p (.error (.lex e)) (.error (.lex (e.moved p)))
  | empty {notes notes' : List Finding} (length : notes'.length = notes.length) :
    Relocated p (.error (.noCommands notes)) (.error (.noCommands notes'))

theorem parseAt_relocated (p : Position) (d : Nat) (s : String) :
    Relocated p (parseAt .start d s) (parseAt p d s) := by
  have htokens := tokenizeAt_moved p Position.proper_start s
  rw [Position.moved_start] at htokens
  unfold parseAt
  rw [htokens]
  cases hts : tokenizeAt .start s with
  | error e => exact .unlexed e
  | ok ts =>
    obtain ⟨hvalue, hnotes, -⟩ :=
      level_moves p (maxNesting - d) false ts (Cursor.tokens_proper Position.proper_start hts)
    simp only [Except.mapError, Except.map, levelAt, hvalue]
    cases ((level (maxNesting - d)).list false ts).value with
    | none => exact .empty hnotes
    | some root => exact .tree root hnotes

theorem Relocated.root {p : Position} {r r' : Except SyntaxError Parse} (h : Relocated p r r') :
    r'.toOption.map (·.root) = r.toOption.map fun a => a.root.mapPlaces p.moved := by
  cases h <;> rfl

/-! ## Bodies of substitutions -/

namespace Token

/-- Where the value of a substitution begins. -/
def inner (t : Token) : Position :=
  t.position.shift (if t.kind = .backtick then 1 else 2)

/-- The tree that the value of a token has when it is parsed on its own at a depth, moved to where
the value begins. -/
def standalone (t : Token) (d : Nat) : Option Node :=
  (parseAt .start d t.value).toOption.map fun r => r.root.mapPlaces t.inner.moved

end Token

/-- The level that reads what is nested in a text at a depth. -/
def levelBelow (d : Nat) : Option Level :=
  if d < maxNesting then some (levelAt (d + 1)) else none

theorem levelAt_eq_above (d : Nat) : levelAt d = .above (levelBelow d) := by
  unfold levelAt levelBelow
  by_cases h : d < maxNesting
  · have hleft : maxNesting - d = maxNesting - (d + 1) + 1 := by omega
    rw [if_pos h, hleft]
    rfl
  · have hnone : maxNesting - d = 0 := by omega
    rw [if_neg h, hnone]
    rfl

theorem substitution_eq_parseAt (d : Nat) (body : String) (inner position : Position)
    (backtick : Bool) :
    (substitution (some (levelAt d)) body inner position backtick).1 =
      .subshell position ((parseAt inner d body).toOption.map (·.root)) true backtick := by
  unfold substitution parseAt
  cases tokenizeAt inner body with
  | error e => rfl
  | ok ts =>
    dsimp only
    cases ((levelAt d).list false ts).value with
    | none => rfl
    | some root => rfl

theorem Token.standalone_eq (t : Token) (d : Nat) :
    t.standalone d = (parseAt t.inner d t.value).toOption.map (·.root) :=
  (parseAt_relocated t.inner d t.value).root.symm

theorem tokens_of_parseAt {p : Position} {d : Nat} {s : String} {n : Node}
    (h : (parseAt p d s).toOption.map (·.root) = some n) :
    ∃ ts, tokenizeAt p s = .ok ts ∧ ((levelAt d).list false ts).value = some n := by
  unfold parseAt at h
  cases hts : tokenizeAt p s with
  | error e =>
    rw [hts] at h
    cases h
  | ok ts =>
    rw [hts] at h
    dsimp only at h
    cases hvalue : ((levelAt d).list false ts).value with
    | none =>
      rw [hvalue] at h
      cases h
    | some root =>
      rw [hvalue] at h
      exact ⟨ts, rfl, hvalue.trans h⟩

/-- What a substitution met at depth `d` becomes. -/
def Token.substitutionNode (t : Token) (d : Nat) : Node :=
  .subshell t.position (if d < maxNesting then t.standalone (d + 1) else none) true
    (t.kind == .backtick)

theorem partWith_of_isSubstitution (below : Option Level) {t : Token}
    (h : t.kind.isSubstitution = true) (inside : List Node × List Finding) :
    (t.partWith below inside).node =
      some (substitution below t.value t.inner t.position (t.kind == .backtick)).1 := by
  unfold Token.partWith Token.inner
  cases hk : t.kind with
  | substitution | backtick => rfl
  | _ =>
    rw [hk] at h
    cases h

theorem partWith_substitution {t : Token} (h : t.kind.isSubstitution = true) (d : Nat)
    (inside : List Node × List Finding) :
    (t.partWith (levelBelow d) inside).node = some (t.substitutionNode d) := by
  rw [partWith_of_isSubstitution (levelBelow d) h inside, Token.substitutionNode]
  unfold levelBelow
  by_cases hd : d < maxNesting
  · rw [if_pos hd, if_pos hd, substitution_eq_parseAt, Token.standalone_eq]
  · rw [if_neg hd, if_neg hd]
    rfl

/-! ## Substitutions in a text -/

/-- The value of a token with delimiters stands between them, and the value of a substitution is read
from behind the opener. -/
theorem Token.Spells.enclosed {t : Token} {text after : List Char} (h : t.Spells text after)
    (hk : t.kind.isSubstitution = true ∨ t.kind = .quoted .double) :
    ∃ opener close, text = opener ++ (t.value.toList ++ [close]) ∧ opener ≠ [] ∧
      (t.kind.isSubstitution = true → t.inner = t.position.after opener) := by
  unfold Token.Spells at h
  unfold Token.inner
  cases hkind : t.kind with
  | substitution =>
    rw [hkind] at h
    exact ⟨['$', '('], ')', h, by simp, fun _ => rfl⟩
  | backtick =>
    rw [hkind] at h
    exact ⟨['`'], '`', h, by simp, fun _ => rfl⟩
  | quoted style =>
    rw [hkind] at h hk
    obtain rfl : style = .double := by simpa [TokenKind.isSubstitution] using hk
    rcases h with htext | htext
    · exact ⟨['"'], '"', htext, by simp, fun hsubstitution => by cases hsubstitution⟩
    · exact ⟨['$', '"'], '"', htext, by simp, fun hsubstitution => by cases hsubstitution⟩
  | _ =>
    rw [hkind] at hk
    rcases hk with hk | hk
    · cases hk
    · cases hk

/-- A token that is written in a text. -/
def Token.StandsIn (cs : List Char) (t : Token) : Prop :=
  ∃ text after, t.Spells text after ∧ text <:+: cs

namespace Token.StandsIn

variable {cs ds : List Char} {t : Token}

theorem mono (h : t.StandsIn ds) (hds : ds <:+: cs) : t.StandsIn cs := by
  obtain ⟨text, after, hspells, htext⟩ := h
  exact ⟨text, after, hspells, htext.trans hds⟩

theorem value (h : t.StandsIn cs)
    (hk : t.kind.isSubstitution = true ∨ t.kind = .quoted .double) : t.value.toList <:+: cs := by
  obtain ⟨text, after, hspells, htext⟩ := h
  obtain ⟨opener, close, rfl, -, -⟩ := hspells.enclosed hk
  exact List.IsInfix.trans ⟨opener, [close], List.append_assoc ..⟩ htext

end Token.StandsIn

theorem Tiles.standsIn {o : Nat} {cs : List Char} {ts : List Token} (h : Tiles o cs ts) :
    ∀ t ∈ ts, t.StandsIn cs := by
  induction h with
  | @last o gap t _ kind value =>
    refine List.forall_mem_singleton.2 ⟨[], [], ?_, List.nil_infix⟩
    rw [Token.Spells, kind, value]
    rfl
  | @token o gap text rest t ts _ _ _ _ _ spelled _ ih =>
    have hrest : rest <:+: gap ++ (text ++ rest) :=
      ((List.suffix_append text rest).trans (List.suffix_append gap _)).isInfix
    refine List.forall_mem_cons.2 ⟨⟨text, rest, spelled, gap, rest, ?_⟩, fun u hu => ?_⟩
    · rw [List.append_assoc]
    · exact (ih u hu).mono hrest

theorem tokenizeAt_standsIn {p : Position} {s : String} {cs : List Char} {ts : List Token}
    (h : tokenizeAt p s = .ok ts) (hs : s.toList <:+: cs) : ∀ t ∈ ts, t.StandsIn cs :=
  fun t ht => ((Cursor.tokens_tiles h).standsIn t ht).mono hs

theorem Lexeme.token_standsIn {c : Char} {rest cs : List Char} {lx : Lexeme}
    (h : scan c rest = .ok lx) (hcs : c :: rest <:+: cs) (p : Position) :
    (lx.token p).StandsIn cs := by
  refine ⟨lx.text, lx.rest, ?_, List.IsInfix.trans ⟨[], lx.rest, ?_⟩ hcs⟩
  · have hspelled := (scan_wellSpelled h).spelled
    simpa only [Token.Spells, Lexeme.token, String.toList_ofList] using hspelled
  · exact scan_append h

/-! ## Substitutions in a tree -/

/-- A substitution met at depth `d` that is written in the text and has the body it has on its
own. -/
def Node.Standalone (cs : List Char) (d : Nat) (n : Node) : Prop :=
  n.isSubstitution = true →
    ∃ t : Token, t.kind.isSubstitution = true ∧ t.StandsIn cs ∧ n = t.substitutionNode d

theorem Node.throughout_of_not_subshell {cs : List Char} {d : Nat} {n : Node}
    (hkind : n.kind ≠ .subshell) (h : ∀ c ∈ n.children, c.Throughout (Standalone cs) d) :
    n.Throughout (Standalone cs) d := by
  have hplain : n.isSubstitution = false ∧ n.opening = 0 := by
    cases n with
    | subshell => exact absurd rfl hkind
    | _ => exact ⟨rfl, rfl⟩
  refine throughout_iff.2 ⟨fun hsubstitution => ?_, ?_⟩
  · rw [hplain.1] at hsubstitution
    cases hsubstitution
  · rw [hplain.2]
    exact h

/-- Any other token adds at most what was found inside it. -/
theorem partWith_plain {t : Token} (h : t.kind.isSubstitution = false) (below : Option Level)
    (inside : List Node × List Finding) :
    ∀ n ∈ (t.partWith below inside).node, n.kind ≠ .subshell ∧ n.children ⊆ inside.1 := by
  intro n hn
  unfold Token.partWith at hn
  cases hk : t.kind with
  | glob | parameter =>
    rw [hk] at hn
    cases hn
    exact ⟨by simp [Node.kind], List.nil_subset _⟩
  | quoted style =>
    rw [hk] at hn
    cases style with
    | double =>
      cases hn
      exact ⟨by simp [Node.kind], List.Subset.refl _⟩
    | single | ansiC =>
      cases hn
      exact ⟨by simp [Node.kind], List.nil_subset _⟩
  | substitution | backtick =>
    rw [hk] at h
    cases h
  | _ =>
    rw [hk] at hn
    cases hn

theorem Level.Upholds.parsed {cs : List Char} {d : Nat} {p : Position} {s : String} {n : Node}
    (h : (levelAt d).Upholds (Token.StandsIn cs) (Node.Standalone cs) d) (hs : s.toList <:+: cs)
    (hn : (parseAt p d s).toOption.map (·.root) = some n) :
    n.Throughout (Node.Standalone cs) d := by
  obtain ⟨ts, hts, hvalue⟩ := tokens_of_parseAt hn
  exact h false ts (tokenizeAt_standsIn hts hs) n hvalue

section Tree

variable {cs : List Char} {d : Nat}
  (hbelow : ∀ l ∈ levelBelow d, l.Upholds (Token.StandsIn cs) (Node.Standalone cs) (d + 1))

include hbelow

theorem substitutionNode_throughout {t : Token} (ht : t.StandsIn cs)
    (hk : t.kind.isSubstitution = true) :
    (t.substitutionNode d).Throughout (Node.Standalone cs) d := by
  refine Node.throughout_iff.2 ⟨fun _ => ⟨t, hk, ht, rfl⟩, fun c hc => ?_⟩
  have hbody := Option.mem_toList.1 hc
  by_cases hd : d < maxNesting
  · rw [if_pos hd, Token.standalone_eq] at hbody
    exact (hbelow _ (if_pos hd)).parsed (ht.value (.inl hk)) hbody
  · rw [if_neg hd] at hbody
    cases hbody

theorem partWith_throughout {t : Token} (ht : t.StandsIn cs)
    {inside : List Node × List Finding}
    (hin : ∀ e ∈ inside.1, e.Throughout (Node.Standalone cs) d) :
    ∀ n ∈ (t.partWith (levelBelow d) inside).node, n.Throughout (Node.Standalone cs) d := by
  intro n hn
  by_cases hk : t.kind.isSubstitution = true
  · rw [partWith_substitution hk] at hn
    cases hn
    exact substitutionNode_throughout hbelow ht hk
  · obtain ⟨hkind, hchildren⟩ := partWith_plain (Bool.eq_false_iff.2 hk) _ inside n hn
    exact Node.throughout_of_not_subshell hkind fun c hc => hin c (hchildren hc)

theorem expansions_throughout (p : Position) {ds : List Char} (hds : ds <:+: cs) :
    ∀ e ∈ (expansions (levelBelow d) p ds).1, e.Throughout (Node.Standalone cs) d := by
  fun_induction expansions (levelBelow d) p ds with
  | case1 => simp
  | case2 => simp
  | case3 p e after ih =>
    have hsuffix : after <:+ '\\' :: e :: after := ⟨['\\', e], rfl⟩
    exact ih (hsuffix.isInfix.trans hds)
  | case4 p c rest hc hdollar e he ih => exact ih ((List.suffix_cons c rest).isInfix.trans hds)
  | case5 p c rest hc hdollar lx hscan inside part after ihin ihafter =>
    have ht := Lexeme.token_standsIn hscan hds p
    have hsuffix : lx.rest <:+ c :: rest := ⟨lx.text, Lexeme.scan_append hscan⟩
    have hinside : ∀ e ∈ inside.1, e.Throughout (Node.Standalone cs) d := by
      by_cases hk : lx.kind = .quoted .double
      · have hvalue := ht.value (.inr hk)
        simp only [Lexeme.token, String.toList_ofList] at hvalue
        simpa only [inside, dif_pos hk] using ihin hk hvalue
      · simp [inside, hk]
    refine List.forall_mem_append.2 ⟨fun e he => ?_, ihafter (hsuffix.isInfix.trans hds)⟩
    exact partWith_throughout hbelow ht hinside e (Option.mem_toList.1 he)
  | case6 p c rest hc hdollar ih => exact ih ((List.suffix_cons c rest).isInfix.trans hds)

theorem pieces_standalone : Pieces (Token.StandsIn cs) (Node.Standalone cs) d (levelBelow d) where
  join n hjoins := by
    intro hsubstitution
    cases n with
    | subshell => cases hjoins
    | _ => cases hsubstitution
  part t ht := by
    refine partWith_throughout hbelow ht ?_
    split
    · next hk => exact expansions_throughout hbelow _ (ht.value (.inr hk))
    · simp
  redirect t r _ _ := by
    intro hsubstitution
    cases hsubstitution
  group t body _ _ _ := by
    intro hsubstitution
    cases hsubstitution

end Tree

theorem levelAt_upholds (cs : List Char) (d : Nat) :
    (levelAt d).Upholds (Token.StandsIn cs) (Node.Standalone cs) d := by
  have hbelow : ∀ l ∈ levelBelow d, l.Upholds (Token.StandsIn cs) (Node.Standalone cs) (d + 1) := by
    intro l hl
    by_cases hd : d < maxNesting
    · rw [levelBelow, if_pos hd] at hl
      cases hl
      exact levelAt_upholds cs (d + 1)
    · rw [levelBelow, if_neg hd] at hl
      cases hl
  rw [levelAt_eq_above]
  exact Level.above_upholds (pieces_standalone hbelow) hbelow
termination_by maxNesting - d

/-- A text parsed at a place gives what it gives on its own, moved there.  So a substitution met at
a depth has the body that its value has on its own one level further in, and this holds of every
substitution of a tree. -/
theorem parseAt_standalone (s : String) (d : Nat) (p : Position) :
    Relocated p (parseAt .start d s) (parseAt p d s) ∧
      (d < maxNesting → levelAt d = .above (some (levelAt (d + 1))) ∧
        ∀ t : Token, t.kind.isSubstitution = true →
          (t.part (some (levelAt (d + 1)))).node =
            some (.subshell t.position (t.standalone (d + 1)) true (t.kind == .backtick))) ∧
      ∀ r, parseAt p d s = .ok r → ∀ e m, Node.MetAt d r.root e m → m.isSubstitution = true →
        ∃ t : Token, t.kind.isSubstitution = true ∧ t.StandsIn s.toList ∧
          m = .subshell t.position (if e < maxNesting then t.standalone (e + 1) else none) true
            (t.kind == .backtick) := by
  refine ⟨parseAt_relocated p d s, ?_, ?_⟩
  · intro hd
    have hbelow : levelBelow d = some (levelAt (d + 1)) := if_pos hd
    refine ⟨by rw [levelAt_eq_above, hbelow], fun t ht => ?_⟩
    rw [← hbelow, Token.part, partWith_substitution ht, Token.substitutionNode, if_pos hd]
  · intro r hr
    have hroot : (parseAt p d s).toOption.map (·.root) = some r.root := by
      rw [hr]
      rfl
    exact (levelAt_upholds s.toList d).parsed List.infix_rfl hroot

/-- At depth 30 the outer two of three substitutions have bodies.  The second is in the text of the
first, and the third in the text of the second, on a line of its own. -/
theorem parseAt_standalone_limit :
    let s := "echo \"$(a `b\n$(c)`)\""
    let p : Position := ⟨3, 7, 40⟩
    Relocated p (parseAt .start 30 s) (parseAt p 30 s) ∧
      ∃ r, parseAt p 30 s = .ok r ∧ (r.root.walk.filter Node.isSubstitution).length = 3 ∧
        ∀ m ∈ r.root.walk, m.isSubstitution = true → ∃ e, Node.MetAt 30 r.root e m ∧
          ∃ t : Token, t.kind.isSubstitution = true ∧ t.StandsIn s.toList ∧
            m = .subshell t.position (if e < maxNesting then t.standalone (e + 1) else none) true
              (t.kind == .backtick) := by
  intro s p
  obtain ⟨hrelocated, -, htree⟩ := parseAt_standalone s 30 p
  have hthree : (parseAt p 30 s).toOption.any
      (fun r => (r.root.walk.filter Node.isSubstitution).length == 3) = true := by cbv
  refine ⟨hrelocated, ?_⟩
  cases hr : parseAt p 30 s with
  | error e =>
    rw [hr] at hthree
    cases hthree
  | ok r =>
    rw [hr] at hthree
    refine ⟨r, rfl, beq_iff_eq.1 hthree, fun m hm hsubstitution => ?_⟩
    obtain ⟨e, he⟩ := Node.mem_walk_iff.1 hm
    exact ⟨e, he, htree r hr e m he hsubstitution⟩

end ShellGuard
