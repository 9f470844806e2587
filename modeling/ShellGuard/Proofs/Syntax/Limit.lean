import Mathlib
import ShellGuard.Proofs.Syntax.Progress
import ShellGuard.Proofs.Syntax.Quoting
import ShellGuard.Proofs.Syntax.Sequencing

/-!
# The limit of nesting

Groups and substitutions may stand inside one another up to a limit, which both kinds share.  A
parser of tokens at depth `d` gives trees in which no path from the root down goes through more than
`maxNesting - d` of them that hold something.

At the limit an opening parenthesis is passed over together with everything up to the parenthesis
that closes it.  Which one that is can be said by counting (`ClosesFrom`), without the reader.  So
the reading that encloses the group goes on behind it as if the group had been read: any number of
parentheses around a word, then a semicolon and a command, are two items, the second being the
command.
-/

namespace ShellGuard

/-! ## Paths in a tree -/

namespace Node

/-- A group or a substitution that holds something. -/
def hasBody : Node → Bool
  | subshell _ body _ _ => body.isSome
  | _ => false

/-- Something is held only above the limit. -/
def WithinLimit (d : Nat) (n : Node) : Prop :=
  n.hasBody = true → d < maxNesting

theorem opening_of_hasBody {n : Node} (h : n.hasBody = true) : n.opening = 1 := by
  cases n with
  | subshell => rfl
  | _ => cases h

/-- On the way down the depth grows with every group or substitution, so that there is room for no
more of them than are left. -/
theorem Throughout.countP_path {d : Nat} {n : Node} {path : List Node}
    (h : n.Throughout WithinLimit d) (hpath : (n :: path).IsChain fun m c => c ∈ m.children) :
    (n :: path).countP hasBody ≤ maxNesting - d := by
  induction path generalizing d n with
  | nil =>
    have hroot := (throughout_iff.1 h).1
    by_cases hbody : n.hasBody = true
    · have hd := hroot hbody
      rw [List.countP_cons_of_pos hbody, List.countP_nil]
      omega
    · rw [List.countP_cons_of_neg hbody, List.countP_nil]
      exact Nat.zero_le _
  | cons c path ih =>
    obtain ⟨hchild, hrest⟩ := List.isChain_cons_cons.1 hpath
    obtain ⟨hroot, hchildren⟩ := throughout_iff.1 h
    have hbelow := ih (hchildren c hchild) hrest
    by_cases hbody : n.hasBody = true
    · have hd := hroot hbody
      have hopening := opening_of_hasBody hbody
      rw [List.countP_cons_of_pos hbody]
      omega
    · rw [List.countP_cons_of_neg hbody]
      omega

end Node

/-! ## What the readers put together -/

/-- What every token keeps that is put together from expansions with a property, all expansions of a
text have. -/
theorem expansions_forall {below : Option Level} {Q : Node → Prop}
    (hpart : ∀ (t : Token) inside, (∀ e ∈ inside.1, Q e) →
      ∀ n ∈ (t.partWith below inside).node, Q n) (p : Position) (cs : List Char) :
    ∀ e ∈ (expansions below p cs).1, Q e := by
  fun_induction expansions below p cs with
  | case1 => simp
  | case2 => simp
  | case3 p d after ih => exact ih
  | case4 p c rest _ _ e _ ih => exact ih
  | case5 p c rest _ _ lx hscan inside part after ihin ihafter =>
    have hinside : ∀ e ∈ inside.1, Q e := by
      by_cases hk : lx.kind = .quoted .double
      · simpa only [inside, dif_pos hk] using ihin hk
      · simp [inside, hk]
    refine List.forall_mem_append.2 ⟨fun e he => ?_, ihafter⟩
    exact hpart (lx.token p) inside hinside e (Option.mem_toList.1 he)
  | case6 p c rest _ _ ih => exact ih

section Tree

variable {d : Nat} (hbelow : ∀ l ∈ levelBelow d, l.Upholds (fun _ => True) Node.WithinLimit (d + 1))

include hbelow

theorem substitutionNode_withinLimit (t : Token) :
    (t.substitutionNode d).Throughout Node.WithinLimit d := by
  by_cases hd : d < maxNesting
  · refine Node.throughout_iff.2 ⟨fun _ => hd, fun c hc => ?_⟩
    have hbody := Option.mem_toList.1 hc
    rw [if_pos hd, Token.standalone_eq] at hbody
    obtain ⟨ts, -, hvalue⟩ := tokens_of_parseAt hbody
    exact hbelow _ (if_pos hd) false ts (fun _ _ => trivial) c hvalue
  · have hnode : t.substitutionNode d = .subshell t.position none true (t.kind == .backtick) := by
      rw [Token.substitutionNode, if_neg hd]
    rw [hnode]
    refine Node.throughout_iff.2 ⟨fun hbody => ?_, fun c hc => ?_⟩
    · cases hbody
    · cases hc

theorem partWith_withinLimit (t : Token) (inside : List Node × List Finding)
    (hin : ∀ e ∈ inside.1, e.Throughout Node.WithinLimit d) :
    ∀ n ∈ (t.partWith (levelBelow d) inside).node, n.Throughout Node.WithinLimit d := by
  intro n hn
  by_cases hk : t.kind.isSubstitution = true
  · rw [partWith_substitution hk] at hn
    cases hn
    exact substitutionNode_withinLimit hbelow t
  · obtain ⟨hkind, hchildren⟩ := partWith_plain (Bool.eq_false_iff.2 hk) _ inside n hn
    have hplain : n.hasBody = false ∧ n.opening = 0 := by
      cases n with
      | subshell => exact absurd rfl hkind
      | _ => exact ⟨rfl, rfl⟩
    refine Node.throughout_iff.2 ⟨fun hbody => ?_, fun c hc => ?_⟩
    · rw [hplain.1] at hbody
      cases hbody
    · rw [hplain.2]
      exact hin c (hchildren hc)

theorem pieces_withinLimit : Pieces (fun _ => True) Node.WithinLimit d (levelBelow d) where
  join n hjoins hbody := by
    cases n with
    | subshell => cases hjoins
    | _ => cases hbody
  part t _ := by
    refine partWith_withinLimit hbelow t _ ?_
    split
    · exact expansions_forall (partWith_withinLimit hbelow) _ _
    · simp
  redirect t r _ _ hbody := by cases hbody
  group t body _ _ hnone hbody := by
    by_contra hd
    rw [hnone (if_neg hd)] at hbody
    cases hbody

end Tree

theorem levelAt_withinLimit (d : Nat) :
    (levelAt d).Upholds (fun _ => True) Node.WithinLimit d := by
  have hbelow : ∀ l ∈ levelBelow d, l.Upholds (fun _ => True) Node.WithinLimit (d + 1) := by
    intro l hl
    obtain ⟨hd, rfl⟩ := mem_levelBelow hl
    exact levelAt_withinLimit (d + 1)
  rw [levelAt_eq_above]
  exact Level.above_upholds (pieces_withinLimit hbelow) hbelow
termination_by maxNesting - d

/-! ## Passing over a group -/

/-- How many of some tokens are opening parentheses. -/
def openings (ts : List Token) : Nat :=
  ts.countP (·.kind == .leftParen)

/-- How many of some tokens are closing parentheses. -/
def closings (ts : List Token) : Nat :=
  ts.countP (·.kind == .rightParen)

theorem openings_cons (t : Token) (ts : List Token) :
    openings (t :: ts) = openings ts + if t.kind = .leftParen then 1 else 0 := by
  simp [openings, List.countP_cons]

theorem closings_cons (t : Token) (ts : List Token) :
    closings (t :: ts) = closings ts + if t.kind = .rightParen then 1 else 0 := by
  simp [closings, List.countP_cons]

/-- Tokens inside a text that close as many parentheses as they open and the `opened` ones that are
open before them, and never more up to any of them. -/
structure ClosesFrom (opened : Nat) (ts : List Token) : Prop where
  inside : ∀ t ∈ ts, t.kind ≠ .eof
  nested : ∀ us, us <+: ts → closings us ≤ opened + openings us
  all : closings ts = opened + openings ts

namespace ClosesFrom

theorem nil_iff {opened : Nat} : ClosesFrom opened [] ↔ opened = 0 := by
  constructor
  · intro h
    have hall : 0 = opened + 0 := h.all
    omega
  · rintro rfl
    refine ⟨by simp, fun us hus => ?_, rfl⟩
    rw [List.prefix_nil.1 hus]
    exact Nat.le_refl 0

/-- One more token in front changes how many parentheses are open behind it. -/
theorem cons_iff {opened : Nat} {t : Token} {ts : List Token} :
    ClosesFrom opened (t :: ts) ↔ t.kind ≠ .eof ∧
      closings [t] ≤ opened + openings [t] ∧
      ClosesFrom (opened + openings [t] - closings [t]) ts := by
  have hopenings (us : List Token) : openings (t :: us) = openings [t] + openings us := by
    rw [openings_cons, openings_cons t [], Nat.add_comm]
    simp [openings]
  have hclosings (us : List Token) : closings (t :: us) = closings [t] + closings us := by
    rw [closings_cons, closings_cons t [], Nat.add_comm]
    simp [closings]
  constructor
  · rintro ⟨hinside, hnested, hall⟩
    have hfirst := hnested [t] ⟨ts, rfl⟩
    refine ⟨hinside t List.mem_cons_self, hfirst,
      fun u hu => hinside u (List.mem_cons_of_mem t hu), fun us hus => ?_, ?_⟩
    · have hmore := hnested (t :: us) (List.prefix_cons_inj t |>.2 hus)
      rw [hopenings, hclosings] at hmore
      omega
    · rw [hopenings, hclosings] at hall
      omega
  · rintro ⟨ht, hfirst, hinside, hnested, hall⟩
    refine ⟨List.forall_mem_cons.2 ⟨ht, hinside⟩, fun us hus => ?_, ?_⟩
    · cases us with
      | nil => exact Nat.zero_le _
      | cons u us =>
        obtain ⟨rfl, htail⟩ := List.cons_prefix_cons.1 hus
        have hmore := hnested us htail
        rw [hopenings, hclosings]
        omega
    · rw [hopenings, hclosings]
      omega

variable {opened : Nat} {t : Token} {ts : List Token}

theorem open_iff (h : t.kind = .leftParen) :
    ClosesFrom opened (t :: ts) ↔ ClosesFrom (opened + 1) ts := by
  rw [cons_iff]
  simp [openings, closings, h]

theorem close_iff (h : t.kind = .rightParen) :
    ClosesFrom opened (t :: ts) ↔ 1 ≤ opened ∧ ClosesFrom (opened - 1) ts := by
  rw [cons_iff]
  simp [openings, closings, h]

theorem other_iff (heof : t.kind ≠ .eof) (hleft : t.kind ≠ .leftParen)
    (hright : t.kind ≠ .rightParen) : ClosesFrom opened (t :: ts) ↔ ClosesFrom opened ts := by
  rw [cons_iff]
  simp [openings, closings, heof, hleft, hright]

end ClosesFrom

namespace Group

theorem skip_closes {opened : Nat} {body after : List Token} {c : Token}
    (h : ClosesFrom opened body) (hc : c.kind = .rightParen) :
    skip opened (body ++ c :: after) = (true, after) := by
  induction body generalizing opened with
  | nil =>
    rw [ClosesFrom.nil_iff.1 h]
    simp [skip, hc]
  | cons t body ih =>
    have heof : t.kind ≠ .eof := h.inside t List.mem_cons_self
    rw [List.cons_append, skip.eq_def]
    dsimp only
    rw [if_neg heof]
    by_cases hleft : t.kind = .leftParen
    · rw [if_pos hleft]
      exact ih ((ClosesFrom.open_iff hleft).1 h)
    rw [if_neg hleft]
    by_cases hright : t.kind = .rightParen
    · obtain ⟨hopened, hrest⟩ := (ClosesFrom.close_iff hright).1 h
      obtain ⟨n, rfl⟩ := Nat.exists_eq_add_of_le' hopened
      rw [if_pos hright]
      exact ih hrest
    · rw [if_neg hright]
      exact ih ((ClosesFrom.other_iff heof hleft hright).1 h)

theorem skip_found {opened : Nat} {ts : List Token} (h : (skip opened ts).1 = true) :
    ∃ body c, ts = body ++ c :: (skip opened ts).2 ∧ ClosesFrom opened body ∧
      c.kind = .rightParen := by
  fun_induction skip opened ts with
  | case1 => cases h
  | case2 => cases h
  | case3 opened t ts heof hleft ih =>
    obtain ⟨body, c, hts, hbody, hc⟩ := ih h
    exact ⟨t :: body, c, congrArg (t :: ·) hts, (ClosesFrom.open_iff hleft).2 hbody, hc⟩
  | case4 t ts heof hleft hright => exact ⟨[], t, rfl, ClosesFrom.nil_iff.2 rfl, hright⟩
  | case5 t ts heof hleft hright n ih =>
    obtain ⟨body, c, hts, hbody, hc⟩ := ih h
    exact ⟨t :: body, c, congrArg (t :: ·) hts,
      (ClosesFrom.close_iff hright).2 ⟨Nat.le_add_left 1 n, hbody⟩, hc⟩
  | case6 opened t ts heof hleft hright ih =>
    obtain ⟨body, c, hts, hbody, hc⟩ := ih h
    exact ⟨t :: body, c, congrArg (t :: ·) hts,
      (ClosesFrom.other_iff heof hleft hright).2 hbody, hc⟩

theorem skip_missed {opened : Nat} {ts : List Token} (h : (skip opened ts).1 = false) :
    (skip opened ts).2 = ts.dropWhile (·.kind != .eof) := by
  have hpass {t : Token} {ts : List Token} (heof : ¬t.kind = .eof) :
      (t :: ts).dropWhile (·.kind != .eof) = ts.dropWhile (·.kind != .eof) :=
    List.dropWhile_cons_of_pos (by simpa using heof)
  fun_induction skip opened ts with
  | case1 => rfl
  | case2 opened t ts heof => rw [List.dropWhile_cons_of_neg (by simpa using heof)]
  | case3 opened t ts heof hleft ih => rw [hpass heof, ih h]
  | case4 => cases h
  | case5 t ts heof hleft hright n ih => rw [hpass heof, ih h]
  | case6 opened t ts heof hleft hright ih => rw [hpass heof, ih h]

end Group

/-- The command that a group at the limit is read as. -/
def unread (t : Token) : Node :=
  .subshell t.position none false false

theorem parseCommand_limit_closed {t c : Token} {body after : List Token}
    (ht : t.kind = .leftParen) (hbody : ClosesFrom 0 body) (hc : c.kind = .rightParen) :
    parseCommand none (t :: (body ++ c :: after)) =
      some ⟨unread t, [complaint "Nesting too deep" t.position], after⟩ := by
  rw [parseCommand, if_pos ht, Group.read, Group.skip_closes hbody hc]
  rfl

theorem parseCommand_limit_unclosed {t : Token} {ts : List Token} (ht : t.kind = .leftParen)
    (h : ¬∃ body c after, ts = body ++ c :: after ∧ ClosesFrom 0 body ∧ c.kind = .rightParen) :
    parseCommand none (t :: ts) =
      some ⟨unread t, [complaint "Nesting too deep" t.position,
        complaint "Missing closing parenthesis" t.position], ts.dropWhile (·.kind != .eof)⟩ := by
  have hmissed : (Group.skip 0 ts).1 = false := by
    rw [Bool.eq_false_iff]
    intro hfound
    obtain ⟨body, c, hts, hbody, hc⟩ := Group.skip_found hfound
    exact h ⟨body, c, _, hts, hbody, hc⟩
  rw [parseCommand, if_pos ht, Group.read, hmissed, Group.skip_missed hmissed]
  rfl

/-! ## A word in parentheses -/

/-- A node with groups around it, of which only the first `left` hold something. -/
def nested (left : Nat) : List Token → Node → Node
  | [], inner => inner
  | o :: os, inner =>
    match left with
    | 0 => unread o
    | n + 1 => .subshell o.position (some (nested n os inner)) false false

/-- The complaint about the first parenthesis that is too deep. -/
def tooDeep (left : Nat) (os : List Token) : List Finding :=
  (os.drop left).head?.toList.map fun o => complaint "Nesting too deep" o.position

theorem closesFrom_parens {opened : Nat} {w : Token} {os rs : List Token}
    (hos : ∀ o ∈ os, o.kind = .leftParen) (hw : w.kind = .word)
    (hrs : ∀ r ∈ rs, r.kind = .rightParen) (hlength : rs.length = opened + os.length) :
    ClosesFrom opened (os ++ w :: rs) := by
  induction os generalizing opened with
  | cons o os ih =>
    obtain ⟨ho, hos⟩ := List.forall_mem_cons.1 hos
    rw [List.cons_append, ClosesFrom.open_iff ho]
    refine ih hos ?_
    rw [hlength, List.length_cons]
    omega
  | nil =>
    rw [List.nil_append, ClosesFrom.other_iff (by rw [hw]; decide) (by rw [hw]; decide)
      (by rw [hw]; decide)]
    induction rs generalizing opened with
    | nil =>
      rw [ClosesFrom.nil_iff]
      exact hlength.symm
    | cons r rs ih =>
      obtain ⟨hr, hrs⟩ := List.forall_mem_cons.1 hrs
      rw [List.length_cons, List.length_nil] at hlength
      rw [ClosesFrom.close_iff hr]
      refine ⟨by omega, ih hrs ?_⟩
      rw [List.length_nil]
      omega

/-- Where a command can be read, a list reads it first. -/
theorem list_start {below : Option Level} {ts : List Token} {r : Parsed Node}
    (h : parseCommand below ts = some r) (inGroup : Bool) :
    Tokens.skipFiller ts = ts ∧ ¬endsList inGroup (Tokens.kind (Tokens.skipFiller ts)) = true := by
  have hstarts : (Tokens.kind ts).startsCommand = true := by
    rw [← Bool.not_eq_false]
    intro hnot
    rw [parseCommand_eq_none_iff.2 hnot] at h
    cases h
  obtain ⟨hfiller, hend⟩ := TokenKind.not_end_of_startsCommand hstarts inGroup
  have hskip := Tokens.skipFiller_eq hfiller
  rw [hskip]
  exact ⟨rfl, hend⟩

theorem list_of_command {below : Option Level} {inGroup : Bool} {ts : List Token} {r : Parsed Node}
    (h : parseCommand below ts = some r) (hend : endsList inGroup (Tokens.kind r.rest) = true) :
    (Level.above below).list inGroup ts = ⟨some r.value, r.notes, r.rest⟩ := by
  obtain ⟨hskip, hstart⟩ := list_start h inGroup
  have hchain : parseChain below inGroup (Tokens.skipFiller ts) = some r := by
    rw [hskip]
    exact parseChain_of_command h (mem_chainEnds_of_endsList hend)
  have hkind : Tokens.kind r.rest ≠ .semicolon ∧ Tokens.kind r.rest ≠ .newline ∧
      Tokens.kind r.rest ≠ .ampersand := by
    refine ⟨?_, ?_, ?_⟩ <;> intro hk <;> rw [hk] at hend <;> cases hend
  simp only [Level.above, parseList, parseItems_final hstart hchain hkind.1 hkind.2.1 hkind.2.2,
    hend, if_true, List.append_nil, listNode]

/-- The command that a single word is read as. -/
def plainWord (w : Token) : Node :=
  .command w.position w.value [] []

theorem parseCommand_plainWord (below : Option Level) {w : Token} {rest : List Token}
    (hw : w.kind = .word) (hrest : Tokens.kind rest ∈ commandEnds) :
    parseCommand below (w :: rest) = some ⟨plainWord w, [], rest⟩ := by
  have hword : w.kind.isWordLike = true := by rw [hw]; rfl
  rw [parseCommand_word below hword, Draft.read_part below .empty hword,
    Token.part_word below hw, Draft.read_end below _ hrest]
  rfl

/-- The induction is on the parentheses from the outside in, and the depth grows with it. -/
theorem parseCommand_nested {d : Nat} {w : Token} {os rs rest : List Token}
    (hos : ∀ o ∈ os, o.kind = .leftParen) (hw : w.kind = .word)
    (hrs : ∀ r ∈ rs, r.kind = .rightParen) (hlength : rs.length = os.length)
    (hrest : Tokens.kind rest ∈ commandEnds) :
    parseCommand (levelBelow d) (os ++ w :: (rs ++ rest)) =
      some ⟨nested (maxNesting - d) os (plainWord w), tooDeep (maxNesting - d) os, rest⟩ := by
  induction os generalizing d rs rest with
  | nil =>
    obtain rfl : rs = [] := List.length_eq_zero_iff.1 hlength
    rw [List.nil_append, List.nil_append, parseCommand_plainWord _ hw hrest]
    simp [nested, tooDeep]
  | cons o os ih =>
    obtain ⟨ho, hos⟩ := List.forall_mem_cons.1 hos
    have hne : rs ≠ [] := by
      rintro rfl
      cases hlength
    obtain ⟨rs, r, rfl⟩ := (List.eq_nil_or_concat' rs).resolve_left hne
    obtain ⟨hrs, hr⟩ := List.forall_mem_append.1 hrs
    have hr : r.kind = .rightParen := hr r (List.mem_singleton_self r)
    have hlength : rs.length = os.length := by simpa using hlength
    rw [List.append_assoc, List.singleton_append]
    by_cases hd : d < maxNesting
    · have hcloses : Tokens.kind (r :: rest) ∈ commandEnds := by
        rw [Tokens.kind_cons, hr]
        decide
      have hends : endsList true (Tokens.kind (r :: rest)) = true := by
        rw [Tokens.kind_cons, hr]
        rfl
      have hbody := list_of_command (ih (d := d + 1) hos hrs hlength hcloses) hends
      obtain ⟨left, hleft⟩ : ∃ left, maxNesting - d = left + 1 ∧ maxNesting - (d + 1) = left :=
        ⟨maxNesting - (d + 1), by omega, rfl⟩
      rw [levelBelow, if_pos hd, List.cons_append, parseCommand, if_pos ho]
      simp only [Group.read]
      rw [levelAt_eq_above, hbody]
      simp only [Tokens.kind_cons, hr, if_true, List.tail_cons, hleft.1, hleft.2, nested, tooDeep,
        List.drop_succ_cons]
    · have hleft : maxNesting - d = 0 := by omega
      have hclosed : ClosesFrom 0 (os ++ w :: rs) :=
        closesFrom_parens hos hw hrs (by rw [hlength, Nat.zero_add])
      have hskipped : parseCommand none (o :: (os ++ w :: rs ++ r :: rest)) =
          some ⟨unread o, [complaint "Nesting too deep" o.position], rest⟩ :=
        parseCommand_limit_closed ho hclosed hr
      rw [List.append_assoc, List.cons_append] at hskipped
      rw [levelBelow, if_neg hd, List.cons_append, hskipped, hleft]
      rfl

/-- A single command is the only item of its list. -/
theorem items_of_command {start : Position} {items : List Node} {separators : List Separator}
    {c : Node} (h : listNode start items separators = some c) (hc : c.kind = .command) :
    items = [c] := by
  cases items with
  | nil => cases h
  | cons i items =>
    cases items with
    | nil =>
      cases h
      rfl
    | cons j items =>
      cases h
      cases hc

/-- Behind the parentheses and a semicolon a list goes on as it does on its own. -/
theorem list_nested {d : Nat} {w s : Token} {os rs ts : List Token} {c : Node}
    (hos : ∀ o ∈ os, o.kind = .leftParen) (hw : w.kind = .word)
    (hrs : ∀ r ∈ rs, r.kind = .rightParen) (hlength : rs.length = os.length)
    (hs : s.kind = .semicolon) (hvalue : ((levelAt d).list false ts).value = some c)
    (hc : c.kind = .command) :
    (levelAt d).list false (os ++ w :: (rs ++ s :: ts)) =
      ⟨some (.list (Tokens.position (os ++ [w]))
          [nested (maxNesting - d) os (plainWord w), c] [.semicolon]),
        tooDeep (maxNesting - d) os ++ ((levelAt d).list false ts).notes,
        ((levelAt d).list false ts).rest⟩ := by
  have hcommand : parseCommand (levelBelow d) (os ++ w :: (rs ++ s :: ts)) = some _ :=
    parseCommand_nested hos hw hrs hlength (by rw [Tokens.kind_cons, hs]; decide)
  obtain ⟨hskip, hstart⟩ := list_start hcommand false
  have hchain : parseChain (levelBelow d) false (Tokens.skipFiller (os ++ w :: (rs ++ s :: ts))) =
      some ⟨nested (maxNesting - d) os (plainWord w), tooDeep (maxNesting - d) os, s :: ts⟩ := by
    rw [hskip]
    exact parseChain_of_command hcommand (by rw [Tokens.kind_cons, hs]; decide)
  have hplace : Tokens.position (os ++ w :: (rs ++ s :: ts)) = Tokens.position (os ++ [w]) := by
    cases os with
    | nil => rfl
    | cons o os => rfl
  rw [levelAt_eq_above] at hvalue ⊢
  simp only [Level.above, parseList] at hvalue ⊢
  rw [parseItems_semicolon hstart hchain (.inl hs), hplace]
  simp only [List.tail_cons, items_of_command hvalue hc, listNode]
  rfl

/-! ## A parser of tokens -/

namespace Parser

theorem lists_depth (p : Parser) (calls : List Bool) :
    ∀ r ∈ p.lists calls, r.2.depth = p.depth := by
  induction calls generalizing p with
  | nil => simp [lists]
  | cons inGroup calls ih => exact List.forall_mem_cons.2 ⟨rfl, ih (p.list inGroup).2⟩

theorem lists_withinLimit (p : Parser) (calls : List Bool) :
    ∀ r ∈ p.lists calls, ∀ n ∈ r.1, n.Throughout Node.WithinLimit p.depth := by
  induction calls generalizing p with
  | nil => simp [lists]
  | cons inGroup calls ih =>
    refine List.forall_mem_cons.2 ⟨fun n hn => ?_, ih (p.list inGroup).2⟩
    exact levelAt_withinLimit p.depth inGroup p.rest (fun _ _ => trivial) n hn

/-- A parser at depth `d` stays there, and no path in its trees goes through more groups and
substitutions that hold something than are left to the limit.  A group met at the limit is passed
over up to the parenthesis that closes it, or to the end of the text where none does; so what
follows any number of parentheses around a word is read as it is on its own. -/
theorem nesting_limit (d : Nat) :
    (∀ tokens calls, ∀ r ∈ (ofTokens tokens d).lists calls, r.2.depth = d ∧
      ∀ n ∈ r.1, ∀ path, (n :: path).IsChain (fun m c => c ∈ m.children) →
        (n :: path).countP Node.hasBody ≤ maxNesting - d) ∧
    (∀ e, maxNesting ≤ e → levelAt e = .above none) ∧
    (∀ t ts, t.kind = .leftParen →
      (∀ body c after, ts = body ++ c :: after → ClosesFrom 0 body → c.kind = .rightParen →
        parseCommand none (t :: ts) = some ⟨.subshell t.position none false false,
          [complaint "Nesting too deep" t.position], after⟩) ∧
      ((¬∃ body c after, ts = body ++ c :: after ∧ ClosesFrom 0 body ∧ c.kind = .rightParen) →
        parseCommand none (t :: ts) = some ⟨.subshell t.position none false false,
          [complaint "Nesting too deep" t.position,
            complaint "Missing closing parenthesis" t.position],
          ts.dropWhile (·.kind != .eof)⟩)) ∧
    (∀ (os rs cs : List Token) (w s : Token) (c : Node), (∀ o ∈ os, o.kind = .leftParen) →
      w.kind = .word → (∀ r ∈ rs, r.kind = .rightParen) → rs.length = os.length →
      s.kind = .semicolon → ((ofTokens cs d).list false).1 = some c → c.kind = .command →
      let whole := (ofTokens (os ++ w :: (rs ++ s :: cs)) d).list false
      whole.1 = some (.list (Tokens.position (os ++ [w]))
        [nested (maxNesting - d) os (plainWord w), c] [.semicolon]) ∧
      whole.2.notes = tooDeep (maxNesting - d) os ++ ((ofTokens cs d).list false).2.notes ∧
      ∀ f ∈ whole.2.notes, f.message = "Missing closing parenthesis" →
        f ∈ ((ofTokens cs d).list false).2.notes) := by
  refine ⟨fun tokens calls r hr => ⟨lists_depth _ calls r hr, fun n hn path hpath => ?_⟩,
    fun e he => ?_, fun t ts ht => ⟨?_, fun hnone => parseCommand_limit_unclosed ht hnone⟩, ?_⟩
  · exact (lists_withinLimit (ofTokens tokens d) calls r hr n hn).countP_path hpath
  · rw [levelAt_eq_above, levelBelow, if_neg (by omega)]
  · rintro body c after rfl hbody hc
    exact parseCommand_limit_closed ht hbody hc
  · intro os rs cs w s c hos hw hrs hlength hs hvalue hc whole
    have halone : ((levelAt d).list false (Tokens.close cs)).value = some c := hvalue
    have hcs : cs ≠ [] := by
      rw [levelAt_eq_above] at halone
      exact Level.above_list_close halone
    have hclose : Tokens.close (os ++ w :: (rs ++ s :: cs)) =
        os ++ w :: (rs ++ s :: Tokens.close cs) := by
      have happend : os ++ w :: (rs ++ s :: cs) = (os ++ w :: (rs ++ [s])) ++ cs := by simp
      rw [happend, Tokens.close_append hcs]
      simp
    have hlist := list_nested hos hw hrs hlength hs halone hc
    rw [← hclose] at hlist
    have hnotes : whole.2.notes =
        tooDeep (maxNesting - d) os ++ ((ofTokens cs d).list false).2.notes := by
      show [] ++ ((levelAt d).list false (Tokens.close (os ++ w :: (rs ++ s :: cs)))).notes = _
      rw [hlist]
      rfl
    refine ⟨congrArg Parsed.value hlist, hnotes, fun f hf hmessage => ?_⟩
    rw [hnotes] at hf
    refine (List.mem_append.1 hf).resolve_left fun hdeep => ?_
    obtain ⟨o, -, rfl⟩ := List.mem_map.1 hdeep
    have hsame : "Nesting too deep" = "Missing closing parenthesis" := hmessage
    exact absurd hsame (by decide)

/-- One level below the limit, `((a)); b` is read with nothing in the inner group, and `b` as it is
on its own. -/
theorem nesting_limit_inner_group :
    let token (kind : TokenKind) (value : String) (n : Nat) : Token :=
      ⟨kind, value, ⟨1, n + 1, n⟩, n + 1⟩
    let whole := (ofTokens [token .leftParen "(" 0, token .leftParen "(" 1, token .word "a" 2,
      token .rightParen ")" 3, token .rightParen ")" 4, token .semicolon ";" 5,
      token .word "b" 7] 31).list false
    whole.1 = some (.list ⟨1, 1, 0⟩
      [.subshell ⟨1, 1, 0⟩ (some (.subshell ⟨1, 2, 1⟩ none false false)) false false,
        .command ⟨1, 8, 7⟩ "b" [] []] [.semicolon]) ∧
      whole.2.notes = [complaint "Nesting too deep" ⟨1, 2, 1⟩] := by
  intro token whole
  have halone : (Level.above (levelBelow 31)).list false (Tokens.close [token .word "b" 7]) =
      ⟨some (plainWord (token .word "b" 7)), [], _⟩ :=
    list_of_command (parseCommand_plainWord (levelBelow 31) rfl (by decide)) rfl
  rw [← levelAt_eq_above] at halone
  obtain ⟨hvalue, hnotes, -⟩ := (nesting_limit 31).2.2.2
    [token .leftParen "(" 0, token .leftParen "(" 1] [token .rightParen ")" 3, token .rightParen ")" 4]
    [token .word "b" 7] (token .word "a" 2) (token .semicolon ";" 5) _ (by decide) rfl (by decide) rfl
    rfl (congrArg Parsed.value halone) rfl
  have hsilent : ((ofTokens [token .word "b" 7] 31).list false).2.notes = [] :=
    congrArg Parsed.notes halone
  rw [hsilent] at hnotes
  exact ⟨hvalue, hnotes⟩

end Parser

end ShellGuard
