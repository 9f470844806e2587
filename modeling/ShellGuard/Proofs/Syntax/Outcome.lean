import Mathlib
import ShellGuard.Proofs.Syntax.Progress

/-!
# When parsing succeeds

A text that can be cut into tokens is parsed or holds no command, and its first token that is no
filler decides which.  If a command can begin with it there is a tree: whatever a reader meets later,
it complains and keeps what it has read.  If none can, nothing is read, and there is a complaint
exactly if the text does not end there.
-/

namespace ShellGuard

/-- The first token that is neither a line end nor a character that starts no token. -/
def Tokens.firstSignificant (ts : List Token) : Option Token :=
  ts.find? fun t => !t.kind.isFiller

theorem Tokens.firstSignificant_eq (ts : List Token) :
    firstSignificant ts = (skipFiller ts).head? :=
  List.find?_not_eq_head?_dropWhile _ ts

/-- The end of a text is significant, so its tokens have a first one that is. -/
theorem Tokens.exists_firstSignificant {s : String} {ts : List Token} (h : tokenize s = .ok ts) :
    ∃ t, firstSignificant ts = some t ∧ kind (skipFiller ts) = t.kind := by
  obtain ⟨front, last, rfl, -, hlast, -⟩ := (Cursor.tokens_tiles h).ending
  have hsome : (firstSignificant (front ++ [last])).isSome = true :=
    List.find?_isSome.2 ⟨last, by simp, by simp [hlast, TokenKind.isFiller]⟩
  obtain ⟨t, ht⟩ := Option.isSome_iff_exists.1 hsome
  refine ⟨t, ht, ?_⟩
  rw [firstSignificant_eq] at ht
  cases hskip : skipFiller (front ++ [last]) with
  | nil =>
    rw [hskip] at ht
    cases ht
  | cons u rest =>
    rw [hskip] at ht
    cases ht
    rfl

section Lists

variable {below : Option Level} {inGroup : Bool} {ts : List Token}

/-- A list has an item exactly if a command can begin with the first token that is no filler. -/
theorem parseItems_eq_nil_iff :
    (parseItems below inGroup ts).value.1 = [] ↔
      (Tokens.kind (Tokens.skipFiller ts)).startsCommand = false := by
  have hread {ts : List Token} {item : Parsed Node} (h : parseChain below inGroup ts = some item) :
      ¬(Tokens.kind ts).startsCommand = false := by
    intro hnone
    rw [parseChain_eq_none_iff.2 hnone] at h
    cases h
  fun_induction parseItems below inGroup ts with
  | case1 ts start hend =>
    refine ⟨fun _ => Bool.eq_false_iff.2 fun hstarts => ?_, fun _ => rfl⟩
    exact (TokenKind.not_end_of_startsCommand hstarts inGroup).2 hend
  | case2 ts start hend hnone => exact ⟨fun _ => parseChain_eq_none_iff.1 hnone, fun _ => rfl⟩
  | case3 ts start hend item hitem
  | case4 ts start hend item hitem
  | case5 ts start hend item hitem
  | case6 ts start hend item hitem => simpa using hread hitem

/-- Where nothing can be read there is a complaint, unless the list ends there. -/
theorem parseItems_notes_eq_nil_iff
    (h : (Tokens.kind (Tokens.skipFiller ts)).startsCommand = false) :
    (parseItems below inGroup ts).notes = [] ↔
      endsList inGroup (Tokens.kind (Tokens.skipFiller ts)) = true := by
  by_cases hend : endsList inGroup (Tokens.kind (Tokens.skipFiller ts)) = true
  · rw [parseItems_stop hend]
    exact ⟨fun _ => hend, fun _ => rfl⟩
  · rw [parseItems_none hend (parseChain_eq_none_iff.2 h)]
    simp [hend]

end Lists

theorem listNode_eq_none_iff {p : Position} {items : List Node} {separators : List Separator} :
    listNode p items separators = none ↔ items = [] := by
  unfold listNode
  split
  · simp
  · simp
  · next hnil _ => simpa using hnil

theorem list_eq_none_iff (d : Nat) (ts : List Token) :
    ((levelAt d).list false ts).value = none ↔
      (Tokens.kind (Tokens.skipFiller ts)).startsCommand = false := by
  rw [levelAt_eq_above]
  exact listNode_eq_none_iff.trans parseItems_eq_nil_iff

theorem list_notes_of_none {d : Nat} {ts : List Token}
    (h : ((levelAt d).list false ts).value = none) :
    ((levelAt d).list false ts).notes = [] ↔ Tokens.kind (Tokens.skipFiller ts) = .eof := by
  have hnone := (list_eq_none_iff d ts).1 h
  rw [levelAt_eq_above]
  refine (parseItems_notes_eq_nil_iff hnone).trans ⟨eq_eof_of_endsList, fun heof => ?_⟩
  rw [heof]
  rfl

/-! ## Whole commands -/

/-- How a text that is cut into tokens is parsed. -/
theorem parse_cases {s : String} {ts : List Token} (h : tokenize s = .ok ts) :
    (∃ p, parse s = .ok p ∧ ((levelAt 0).list false ts).value = some p.root) ∨
      ((levelAt 0).list false ts).value = none ∧
        parse s = .error (.noCommands ((levelAt 0).list false ts).notes) := by
  rw [parse, parseAt, ← tokenize, h]
  dsimp only
  cases hvalue : ((levelAt 0).list false ts).value with
  | none => exact .inr ⟨rfl, rfl⟩
  | some root => exact .inl ⟨_, rfl, rfl⟩

theorem parse_lex_iff {s : String} {e : LexError} :
    parse s = .error (.lex e) ↔ tokenize s = .error e := by
  cases hts : tokenize s with
  | error e' =>
    rw [parse, parseAt, ← tokenize, hts]
    simp
  | ok ts =>
    have hparse : parse s ≠ .error (.lex e) := by
      intro hlex
      rcases parse_cases hts with ⟨p, hp, -⟩ | ⟨-, hp⟩
      · rw [hp] at hlex
        cases hlex
      · rw [hp] at hlex
        cases hlex
    simpa using hparse

/-- A text with tokens is parsed exactly if a command can begin with the first significant one. -/
theorem parse_ok_iff {s : String} {ts : List Token} {t : Token} (h : tokenize s = .ok ts)
    (ht : Tokens.firstSignificant ts = some t) :
    (∃ p, parse s = .ok p) ↔ t.kind.startsCommand = true := by
  obtain ⟨u, hu, hkind⟩ := Tokens.exists_firstSignificant h
  obtain rfl : t = u := Option.some.inj (ht.symm.trans hu)
  rw [← hkind, ← Bool.not_eq_false, ← list_eq_none_iff 0 ts]
  rcases parse_cases h with ⟨p, hp, hvalue⟩ | ⟨hvalue, hp⟩
  · rw [hvalue]
    exact ⟨fun _ => Option.some_ne_none _, fun _ => ⟨p, hp⟩⟩
  · refine ⟨fun ⟨p, hok⟩ => ?_, fun hsome => absurd hvalue hsome⟩
    rw [hp] at hok
    cases hok

theorem parse_noCommands_iff {s : String} {ts : List Token} {t : Token} {notes : List Finding}
    (h : tokenize s = .ok ts) (ht : Tokens.firstSignificant ts = some t)
    (hnone : parse s = .error (.noCommands notes)) : notes = [] ↔ t.kind = .eof := by
  obtain ⟨u, hu, hkind⟩ := Tokens.exists_firstSignificant h
  obtain rfl : t = u := Option.some.inj (ht.symm.trans hu)
  rw [← hkind]
  rcases parse_cases h with ⟨p, hp, -⟩ | ⟨hvalue, hp⟩
  · rw [hp] at hnone
    cases hnone
  · rw [hp] at hnone
    cases hnone
    exact list_notes_of_none hvalue

/-- A text is not cut into tokens, or its first significant token decides whether there is a tree, and
if not, whether there is a complaint.  So a text that has that token and those before it in common
with one that is parsed is parsed as well, whatever follows. -/
theorem parse_decided (s : String) :
    (∀ e, parse s = .error (.lex e) ↔ tokenize s = .error e) ∧
    ∀ ts, tokenize s = .ok ts → ∃ t, Tokens.firstSignificant ts = some t ∧
      ((∃ p, parse s = .ok p) ↔
        t.kind.isWordLike = true ∨ t.kind.isRedirect = true ∨ t.kind = .leftParen) ∧
      (∀ notes, parse s = .error (.noCommands notes) → (notes = [] ↔ t.kind = .eof)) ∧
      ∀ s' front rest, front <+: ts → t ∈ front → tokenize s' = .ok (front ++ rest) →
        (∃ p, parse s = .ok p) → ∃ p, parse s' = .ok p := by
  refine ⟨fun e => parse_lex_iff, fun ts hts => ?_⟩
  obtain ⟨t, ht, -⟩ := Tokens.exists_firstSignificant hts
  refine ⟨t, ht, ?_, fun notes => parse_noCommands_iff hts ht, ?_⟩
  · rw [parse_ok_iff hts ht, TokenKind.startsCommand, Bool.or_eq_true, Bool.or_eq_true, beq_iff_eq]
    tauto
  · intro s' front rest hfront hmem hts' hok
    -- the front has a significant token, so the first one of `ts` is the first one of the front
    have hfirst : Tokens.firstSignificant front = some t := by
      have hsome : (Tokens.firstSignificant front).isSome = true :=
        List.find?_isSome.2 ⟨t, hmem, List.find?_some (p := fun t : Token => !t.kind.isFiller) ht⟩
      obtain ⟨u, hu⟩ := Option.isSome_iff_exists.1 hsome
      rw [hu, ← ht]
      exact (hfront.find?_eq_some hu).symm
    have hfirst' : Tokens.firstSignificant (front ++ rest) = some t :=
      (List.prefix_append front rest).find?_eq_some hfirst
    exact (parse_ok_iff hts' hfirst').2 ((parse_ok_iff hts ht).1 hok)

end ShellGuard
