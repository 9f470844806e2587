import Mathlib
import ShellGuard.Proofs.Syntax.Quoting

/-!
# The bodies of substitutions

What can stand between `$(` and its closing parenthesis is a small language (`Lexeme.Body`): plain
characters, protected ones, quoted texts, and bodies in parentheses.  The reader of substitutions
knows nothing of this recursion.  It goes over the text once, counts parentheses and remembers a
quote, and `balanced_reads_body` says that it finds the body nevertheless, and that there is but one
to be found.

A body leaves the reader in the state it found it in (`Body.run`).  For the converse every state
says what has been read in it (`Nest.Reads`): as many groups as the depth says are still open, each
behind a body, and the last one is followed by a body and at most a backslash or the start of a
quoted text.
-/

namespace ShellGuard

namespace Lexeme

/-! ## The language -/

/-- Text in front of the quote `q`, where a backslash protects the next character. -/
inductive Guarded (q : Char) : List Char → Prop
  | nil : Guarded q []
  | char {c : Char} {cs : List Char} (hquote : c ≠ q) (hbackslash : c ≠ '\\') (h : Guarded q cs) :
    Guarded q (c :: cs)
  | escaped (c : Char) {cs : List Char} (h : Guarded q cs) : Guarded q ('\\' :: c :: cs)

/-- What can stand between two quotes: between single ones no backslash protects. -/
inductive Enquoted : Char → List Char → Prop
  | single {text : List Char} (h : '\'' ∉ text) : Enquoted '\'' text
  | double {text : List Char} (h : Guarded '"' text) : Enquoted '"' text
  | backtick {text : List Char} (h : Guarded '`' text) : Enquoted '`' text

/-- The body of a substitution. -/
inductive Body : List Char → Prop
  | nil : Body []
  | char {c : Char} {cs : List Char} (hc : c ∉ ['\\', '\'', '"', '`', '(', ')']) (h : Body cs) :
    Body (c :: cs)
  | escaped (c : Char) {cs : List Char} (h : Body cs) : Body ('\\' :: c :: cs)
  | quoted {q : Char} {text cs : List Char} (htext : Enquoted q text) (h : Body cs) :
    Body (q :: (text ++ q :: cs))
  | group {inner cs : List Char} (hinner : Body inner) (h : Body cs) :
    Body ('(' :: (inner ++ ')' :: cs))

theorem Guarded.append {q : Char} {xs ys : List Char} (hx : Guarded q xs) (hy : Guarded q ys) :
    Guarded q (xs ++ ys) := by
  induction hx with
  | nil => exact hy
  | char hquote hbackslash _ ih => exact .char hquote hbackslash ih
  | escaped c _ ih => exact .escaped c ih

theorem Enquoted.nil {q : Char} (h : isQuote q = true) : Enquoted q [] := by
  simp only [isQuote, Bool.or_eq_true, beq_iff_eq] at h
  rcases h with (rfl | rfl) | rfl
  · exact .single List.not_mem_nil
  · exact .double .nil
  · exact .backtick .nil

/-- A quoted text can go on with a character that neither ends it nor protects the next one. -/
theorem Enquoted.char {q c : Char} {text : List Char} (h : Enquoted q text) (hquote : c ≠ q)
    (hbackslash : ¬(c = '\\' ∧ q ≠ '\'')) : Enquoted q (text ++ [c]) := by
  cases h with
  | single h => exact .single (by simp [h, hquote.symm])
  | double h =>
    have hc : c ≠ '\\' := fun hc => hbackslash ⟨hc, by decide⟩
    exact .double (h.append (.char hquote hc .nil))
  | backtick h =>
    have hc : c ≠ '\\' := fun hc => hbackslash ⟨hc, by decide⟩
    exact .backtick (h.append (.char hquote hc .nil))

theorem Enquoted.escaped {q : Char} {text : List Char} (h : Enquoted q text) (hquote : q ≠ '\'')
    (c : Char) : Enquoted q (text ++ ['\\', c]) := by
  cases h with
  | single => exact absurd rfl hquote
  | double h => exact .double (h.append (.escaped c .nil))
  | backtick h => exact .backtick (h.append (.escaped c .nil))

theorem Body.append {xs ys : List Char} (hx : Body xs) (hy : Body ys) : Body (xs ++ ys) := by
  induction hx with
  | nil => exact hy
  | char hc _ ih => exact .char hc ih
  | escaped c _ ih => exact .escaped c ih
  | quoted htext _ ih => simpa using Body.quoted htext ih
  | group hinner _ _ ih => simpa using Body.group hinner ih

/-! ## A body leaves the reader where it was -/

namespace Nest

theorem step_of_quote {q c : Char} (depth : Nat) (hquote : c ≠ q)
    (hbackslash : ¬(c = '\\' ∧ q ≠ '\'')) :
    Nest.step ⟨depth, some q, false⟩ c = some ⟨depth, some q, false⟩ := by
  simp [Nest.step, hquote, hbackslash]

theorem run_guarded {q : Char} {text : List Char} (h : Guarded q text) (hquote : q ≠ '\'')
    (depth : Nat) :
    text.foldlM Nest.step ⟨depth, some q, false⟩ = some ⟨depth, some q, false⟩ := by
  induction h with
  | nil => rfl
  | char hc hbackslash _ ih =>
    rw [List.foldlM_cons, step_of_quote depth hc fun hboth => hbackslash hboth.1]
    exact ih
  | escaped c _ ih =>
    have hprotects : Nest.step ⟨depth, some q, false⟩ '\\' = some ⟨depth, some q, true⟩ := by
      simp [Nest.step, hquote]
    rw [List.foldlM_cons, hprotects]
    exact ih

theorem run_single {text : List Char} (h : '\'' ∉ text) (depth : Nat) :
    text.foldlM Nest.step ⟨depth, some '\'', false⟩ = some ⟨depth, some '\'', false⟩ := by
  induction text with
  | nil => rfl
  | cons c cs ih =>
    rw [List.mem_cons, not_or] at h
    rw [List.foldlM_cons, step_of_quote depth (Ne.symm h.1) fun hboth => hboth.2 rfl]
    exact ih h.2

theorem run_enquoted {q : Char} {text : List Char} (h : Enquoted q text) (depth : Nat) :
    text.foldlM Nest.step ⟨depth, some q, false⟩ = some ⟨depth, some q, false⟩ := by
  cases h with
  | single h => exact run_single h depth
  | double h => exact run_guarded h (by decide) depth
  | backtick h => exact run_guarded h (by decide) depth

end Nest

/-- Whatever is open around it, a body opens nothing that it does not close. -/
theorem Body.run {b : List Char} (h : Body b) (depth : Nat) :
    b.foldlM Nest.step ⟨depth, none, false⟩ = some ⟨depth, none, false⟩ := by
  induction h generalizing depth with
  | nil => rfl
  | @char c cs hc _ ih =>
    have hstep : Nest.step ⟨depth, none, false⟩ c = some ⟨depth, none, false⟩ := by
      simp only [List.mem_cons, List.not_mem_nil, or_false, not_or] at hc
      simp [Nest.step, isQuote, hc]
    rw [List.foldlM_cons, hstep]
    exact ih depth
  | escaped c _ ih => exact ih depth
  | @quoted q text cs htext _ ih =>
    have hopens : Nest.step ⟨depth, none, false⟩ q = some ⟨depth, some q, false⟩ := by
      cases htext <;> rfl
    have hcloses : Nest.step ⟨depth, some q, false⟩ q = some ⟨depth, none, false⟩ := by
      cases htext <;> rfl
    rw [List.foldlM_cons, hopens]
    show (text ++ q :: cs).foldlM Nest.step _ = _
    rw [List.foldlM_append, Nest.run_enquoted htext]
    show (Nest.step ⟨depth, some q, false⟩ q).bind _ = _
    rw [hcloses]
    exact ih depth
  | @group inner cs _ _ ihinner ih =>
    show (inner ++ ')' :: cs).foldlM Nest.step ⟨depth + 1, none, false⟩ = _
    rw [List.foldlM_append, ihinner (depth + 1)]
    exact ih depth

/-! ## What has been read in a state -/

/-- A text in which some groups are still open: in front of each and behind the last one stands a
body. -/
inductive Ajar : Nat → List Char → Prop
  | body {b : List Char} (h : Body b) : Ajar 0 b
  | group {depth : Nat} {a b : List Char} (ha : Ajar depth a) (hb : Body b) :
    Ajar (depth + 1) (a ++ '(' :: b)

namespace Ajar

variable {depth : Nat} {a : List Char}

theorem append (h : Ajar depth a) {b : List Char} (hb : Body b) : Ajar depth (a ++ b) := by
  cases h with
  | body ha => exact .body (ha.append hb)
  | group ha hbody =>
    rw [List.append_assoc]
    exact .group ha (hbody.append hb)

theorem opens (h : Ajar depth a) : Ajar (depth + 1) (a ++ ['(']) :=
  .group h .nil

theorem closes (h : Ajar (depth + 1) a) : Ajar depth (a ++ [')']) := by
  cases h with
  | group ha hb =>
    rw [List.append_assoc]
    exact ha.append (.group hb .nil)

end Ajar

/-- What a reader of substitutions has read when it is in a state. -/
inductive Nest.Reads : Nest → List Char → Prop
  | bare {depth : Nat} {a : List Char} (h : Ajar depth a) : Reads ⟨depth, none, false⟩ a
  | shielded {depth : Nat} {a : List Char} (h : Ajar depth a) :
    Reads ⟨depth, none, true⟩ (a ++ ['\\'])
  | quoted {depth : Nat} {q : Char} {a text : List Char} (h : Ajar depth a)
    (htext : Enquoted q text) : Reads ⟨depth, some q, false⟩ (a ++ q :: text)
  | quotedShielded {depth : Nat} {q : Char} {a text : List Char} (h : Ajar depth a)
    (htext : Enquoted q text) (hquote : q ≠ '\'') :
    Reads ⟨depth, some q, true⟩ (a ++ q :: (text ++ ['\\']))

namespace Nest

theorem Reads.step_bare {n' : Nest} {depth : Nat} {a : List Char} {c : Char} (h : Ajar depth a)
    (hstep : Nest.step ⟨depth, none, false⟩ c = some n') : n'.Reads (a ++ [c]) := by
  unfold Nest.step at hstep
  rw [if_neg Bool.false_ne_true] at hstep
  dsimp only at hstep
  split at hstep
  · next hc =>
    cases hstep
    rw [hc]
    exact .shielded h
  next hbackslash =>
  split at hstep
  · next hc =>
    cases hstep
    exact .quoted h (.nil hc)
  next hquote =>
  split at hstep
  · next hc =>
    cases hstep
    rw [hc]
    exact .bare h.opens
  next hopen =>
  split at hstep
  · next hc =>
    cases depth with
    | zero => cases hstep
    | succ depth =>
      cases hstep
      rw [hc]
      exact .bare h.closes
  next hclose =>
  cases hstep
  have hplain : c ∉ ['\\', '\'', '"', '`', '(', ')'] := by
    simp only [isQuote, Bool.or_eq_true, beq_iff_eq, not_or] at hquote
    simp [hbackslash, hquote, hopen, hclose]
  exact .bare (h.append (.char hplain .nil))

theorem Reads.step_quoted {n' : Nest} {depth : Nat} {q c : Char} {a text : List Char}
    (h : Ajar depth a) (htext : Enquoted q text)
    (hstep : Nest.step ⟨depth, some q, false⟩ c = some n') :
    n'.Reads ((a ++ q :: text) ++ [c]) := by
  unfold Nest.step at hstep
  rw [if_neg Bool.false_ne_true] at hstep
  dsimp only at hstep
  rw [List.append_assoc, List.cons_append]
  split at hstep
  · next hc =>
    cases hstep
    rw [hc.1]
    exact .quotedShielded h htext hc.2
  next hbackslash =>
  split at hstep
  · next hc =>
    cases hstep
    rw [hc]
    exact .bare (h.append (.quoted htext .nil))
  next hquote =>
  cases hstep
  exact .quoted h (htext.char hquote hbackslash)

/-- What one character adds to what has been read. -/
theorem Reads.step {n n' : Nest} {cs : List Char} {c : Char} (h : n.Reads cs)
    (hstep : n.step c = some n') : n'.Reads (cs ++ [c]) := by
  cases h with
  | bare h => exact step_bare h hstep
  | shielded h =>
    cases hstep
    rw [List.append_assoc]
    exact .bare (h.append (.escaped c .nil))
  | quoted h htext => exact step_quoted h htext hstep
  | quotedShielded h htext hquote =>
    cases hstep
    rw [List.append_assoc, List.cons_append, List.append_assoc]
    exact .quoted h (htext.escaped hquote c)

theorem Reads.run {n n' : Nest} {pre cs : List Char} (h : n.Reads pre)
    (hrun : cs.foldlM Nest.step n = some n') : n'.Reads (pre ++ cs) := by
  induction cs generalizing n pre with
  | nil =>
    cases hrun
    rwa [List.append_nil]
  | cons c cs ih =>
    rw [List.foldlM_cons] at hrun
    obtain ⟨mid, hstep, hmore⟩ := Option.bind_eq_some_iff.1 hrun
    simpa using ih (h.step hstep) hmore

/-- The reader stops outside of everything. -/
theorem eq_of_step_eq_none {n : Nest} {c : Char} (h : n.step c = none) : n = ⟨0, none, false⟩ := by
  obtain ⟨depth, quote, shielded⟩ := n
  unfold Nest.step at h
  repeat' split at h
  all_goals simp_all

/-- Outside of everything a body has been read. -/
theorem Reads.body {b : List Char} (h : Nest.Reads ⟨0, none, false⟩ b) : Body b := by
  cases h with
  | bare h =>
    cases h with
    | body h => exact h

end Nest

/-! ## Finding the body -/

theorem balanced_of_body {inner : List Char} (h : Body inner) (rest : List Char) :
    balanced (inner ++ ')' :: rest) = some (inner, rest) := by
  rw [balanced, untilClosed_of_foldlM (h.run 0)]
  show some (inner ++ [], rest) = _
  rw [List.append_nil]

theorem body_of_balanced {cs : List Char} {split : List Char × List Char}
    (h : balanced cs = some split) : Body split.1 := by
  obtain ⟨n, c, hrun, hclose, -⟩ := foldlM_of_untilClosed h
  have hstart : Nest.Reads ⟨0, none, false⟩ [] := .bare (.body .nil)
  have hreads := hstart.run hrun
  rw [Nest.eq_of_step_eq_none hclose] at hreads
  exact hreads.body

theorem balanced_eq_some_iff {cs inner rest : List Char} :
    balanced cs = some (inner, rest) ↔ cs = inner ++ ')' :: rest ∧ Body inner := by
  constructor
  · intro h
    exact ⟨(balanced_append h).symm, body_of_balanced h⟩
  · rintro ⟨rfl, hinner⟩
    exact balanced_of_body hinner rest

theorem Body.unique {inner inner' rest rest' : List Char} (h : Body inner) (h' : Body inner')
    (hsame : inner ++ ')' :: rest = inner' ++ ')' :: rest') : inner = inner' ∧ rest = rest' := by
  have hread := balanced_of_body h rest
  rw [hsame, balanced_of_body h' rest'] at hread
  obtain ⟨hinner, hrest⟩ := Prod.mk.inj (Option.some.inj hread)
  exact ⟨hinner.symm, hrest.symm⟩

/-- A cursor in front of `$(` reads the body as the value of one token and moves on to right behind
the parenthesis that closes it. -/
theorem next_of_body {inner : List Char} (h : Body inner) (rest : List Char) (p : Position) :
    (Cursor.mk ('$' :: '(' :: (inner ++ ')' :: rest)) p).next =
      (.ok ⟨.substitution, String.ofList inner, p,
          (p.after ('$' :: '(' :: (inner ++ [')']))).offset⟩,
        ⟨rest, p.after ('$' :: '(' :: (inner ++ [')']))⟩) := by
  have hscan : scan '$' ('(' :: (inner ++ ')' :: rest)) =
      .ok (between .substitution ['$', '('] ')' (inner, rest)) := by
    show substitution (inner ++ ')' :: rest) = _
    rw [substitution, balanced_of_body h]
  have hgap : Cursor.gap false ('$' :: '(' :: (inner ++ ')' :: rest)) =
      ([], '$' :: '(' :: (inner ++ ')' :: rest)) := rfl
  simp only [Cursor.next, hgap, hscan]
  rfl

/-- The reader of substitutions takes `inner` and leaves `rest` exactly if the text is `inner`, a
closing parenthesis and `rest`, and `inner` is a body.  A text has one such body at most, and where
it has none nothing is read.  So a cursor in front of `$(` either reads the body and comes to stand
right behind the closing parenthesis, or reports that the substitution is never closed. -/
theorem balanced_reads_body (cs : List Char) :
    (∀ inner rest, balanced cs = some (inner, rest) ↔ cs = inner ++ ')' :: rest ∧ Body inner) ∧
    (∀ inner inner' rest rest', cs = inner ++ ')' :: rest → Body inner →
      cs = inner' ++ ')' :: rest' → Body inner' → inner = inner') ∧
    (balanced cs = none ↔ ¬∃ inner rest, cs = inner ++ ')' :: rest ∧ Body inner) ∧
    ∀ p : Position,
      (∀ inner rest, cs = inner ++ ')' :: rest → Body inner →
        (Cursor.mk ('$' :: '(' :: cs) p).next =
          (.ok ⟨.substitution, String.ofList inner, p,
              (p.after ('$' :: '(' :: (inner ++ [')']))).offset⟩,
            ⟨rest, p.after ('$' :: '(' :: (inner ++ [')']))⟩)) ∧
      ((¬∃ inner rest, cs = inner ++ ')' :: rest ∧ Body inner) →
        (Cursor.mk ('$' :: '(' :: cs) p).next.1 = .error ⟨.substitution, p⟩) := by
  have hnone : balanced cs = none ↔ ¬∃ inner rest, cs = inner ++ ')' :: rest ∧ Body inner := by
    rw [Option.eq_none_iff_forall_ne_some]
    constructor
    · rintro h ⟨inner, rest, hcs⟩
      exact h (inner, rest) (balanced_eq_some_iff.2 hcs)
    · rintro h ⟨inner, rest⟩ hread
      exact h ⟨inner, rest, balanced_eq_some_iff.1 hread⟩
  refine ⟨fun inner rest => balanced_eq_some_iff, ?_, hnone, fun p => ⟨?_, fun h => ?_⟩⟩
  · intro inner inner' rest rest' hcs h hcs' h'
    exact (h.unique h' (hcs.symm.trans hcs')).1
  · rintro inner rest rfl h
    exact next_of_body h rest p
  · rw [← hnone] at h
    have hscan : scan '$' ('(' :: cs) = .error .substitution := by
      show substitution cs = _
      rw [substitution, h]
    have hgap : Cursor.gap false ('$' :: '(' :: cs) = ([], '$' :: '(' :: cs) := rfl
    simp only [Cursor.next, hgap, hscan]
    rfl

/-- Parentheses that are protected, quoted and nested, and behind the body a text that looks like
more of it. -/
theorem balanced_reads_body_nested :
    let inner := "a\\)'\\'\"\\\")\"(`(`b)".toList
    let cs := inner ++ ')' :: "(c))".toList
    Body inner ∧ balanced cs = some (inner, "(c))".toList) ∧
      (∀ other rest, cs = other ++ ')' :: rest → Body other → other = inner) ∧
      (Cursor.mk ('$' :: '(' :: cs) .start).next.2 = ⟨"(c))".toList, ⟨1, 21, 20⟩⟩ ∧
      (Cursor.mk "$('b)\\'".toList .start).next.1 = .error ⟨.substitution, .start⟩ := by
  intro inner cs
  have hread : balanced cs = some (inner, "(c))".toList) := by decide
  obtain ⟨hsplit, hunique, -, hcursor⟩ := balanced_reads_body cs
  obtain ⟨hcs, hbody⟩ := (hsplit inner "(c))".toList).1 hread
  refine ⟨hbody, hread, fun other rest hother h => ?_, ?_, ?_⟩
  · exact hunique other inner rest _ hother h hcs hbody
  · rw [(hcursor .start).1 inner _ hcs hbody]
    decide
  · obtain ⟨-, -, hnone, hcursor⟩ := balanced_reads_body "'b)\\'".toList
    exact (hcursor .start).2 (hnone.1 (by decide))

end Lexeme

end ShellGuard
