import Mathlib
import ShellGuard.Proofs.Syntax.Places
import ShellGuard.Proofs.Syntax.Shape

/-!
# What stands between double quotes

Between double quotes every double quote is protected by a backslash.  Cut into tokens, such a text
gives no double-quoted text, and neither do the bodies of its substitutions: the readers of tokens
never stop behind a backslash that protects something, so what is left of the text is again one in
which every double quote is protected.
-/

namespace ShellGuard

namespace Lexeme

/-- Every double quote of a text is protected by a backslash; `shielded` tells that the first
character is. -/
def Shielded (shielded : Bool) (cs : List Char) : Prop :=
  ∃ after, cs.foldlM (quoteStep '"' true) shielded = some after

/-- Behind `text` nothing is protected, or nothing is left. -/
def Settles (text rest : List Char) : Prop :=
  ∀ after, text.foldlM (quoteStep '"' true) false = some after → after = false ∨ rest = []

theorem Shielded.split {shielded : Bool} {xs ys : List Char} (h : Shielded shielded (xs ++ ys)) :
    ∃ after, xs.foldlM (quoteStep '"' true) shielded = some after ∧ Shielded after ys := by
  obtain ⟨last, hlast⟩ := h
  rw [List.foldlM_append] at hlast
  obtain ⟨after, hxs, hys⟩ := Option.bind_eq_some_iff.1 hlast
  exact ⟨after, hxs, last, hys⟩

theorem Shielded.nil (shielded : Bool) : Shielded shielded [] :=
  ⟨shielded, rfl⟩

theorem Shielded.of_settles {xs ys : List Char} (h : Shielded false (xs ++ ys))
    (hxs : Settles xs ys) : Shielded false ys := by
  obtain ⟨after, hfold, hys⟩ := h.split
  rcases hxs after hfold with rfl | rfl
  · exact hys
  · exact .nil false

/-- A character other than a backslash protects nothing. -/
theorem quoteStep_ne_backslash {shielded after : Bool} {c : Char} (hc : c ≠ '\\')
    (h : quoteStep '"' true shielded c = some after) : after = false := by
  unfold quoteStep at h
  by_cases hshielded : shielded = true
  · rw [if_pos hshielded] at h
    exact (Option.some.inj h).symm
  rw [if_neg hshielded, if_neg (fun hand => hc hand.1)] at h
  by_cases hquote : c = '"'
  · rw [if_pos hquote] at h
    cases h
  · rw [if_neg hquote] at h
    exact (Option.some.inj h).symm

theorem settles_concat (front : List Char) {c : Char} (hc : c ≠ '\\') (rest : List Char) :
    Settles (front ++ [c]) rest := by
  intro after hfold
  rw [List.foldlM_append] at hfold
  obtain ⟨shielded, -, hstep⟩ := Option.bind_eq_some_iff.1 hfold
  rw [List.foldlM_cons] at hstep
  obtain ⟨last, hlast, hnil⟩ := Option.bind_eq_some_iff.1 hstep
  cases hnil
  exact .inl (quoteStep_ne_backslash hc hlast)

/-- A text that ends without a backslash settles. -/
theorem settles_append (front : List Char) {back : List Char} (hne : back ≠ [])
    (hback : '\\' ∉ back) (rest : List Char) : Settles (front ++ back) rest := by
  obtain ⟨most, last, rfl⟩ := List.eq_nil_or_concat' back |>.resolve_left hne
  rw [← List.append_assoc]
  refine settles_concat _ (fun hlast => hback ?_) rest
  rw [hlast]
  exact List.mem_append_right _ (List.mem_singleton_self _)

theorem Shielded.tail {c : Char} {cs : List Char} (h : Shielded false (c :: cs)) (hc : c ≠ '\\') :
    Shielded false cs :=
  of_settles (show Shielded false ([c] ++ cs) from h) (settles_concat [] hc cs)

/-! ## Where tokens end -/

theorem braced_settles (depth : Nat) (cs : List Char) :
    (braced depth cs).2 = [] ∨ ∃ front, (braced depth cs).1 = front ++ ['}'] := by
  induction cs generalizing depth with
  | nil => exact .inl rfl
  | cons c cs ih =>
    have hpush (d : Nat) : (push c (braced d cs)).2 = [] ∨
        ∃ front, (push c (braced d cs)).1 = front ++ ['}'] := by
      refine (ih d).imp id fun ⟨front, hfront⟩ => ⟨c :: front, ?_⟩
      rw [push, hfront, List.cons_append]
    unfold braced
    by_cases hopen : c = '{'
    · rw [if_pos hopen]
      exact hpush _
    rw [if_neg hopen]
    by_cases hclose : c = '}'
    · rw [if_pos hclose]
      split
      · exact .inr ⟨[], by rw [hclose]; rfl⟩
      · exact hpush _
    · rw [if_neg hclose]
      exact hpush _

/-- A word takes the character that its last backslash protects along, if there is one. -/
theorem word_settles {state : WordState} {shielded after : Bool} {cs : List Char}
    (hstate : shielded = decide (state = .shielded))
    (h : (word state cs).1.foldlM (quoteStep '"' true) shielded = some after) :
    after = false ∨ (word state cs).2 = [] := by
  induction cs generalizing state shielded with
  | nil => exact .inr rfl
  | cons c cs ih =>
    have hstep {state' : WordState}
        (h : (c :: (word state' cs).1).foldlM (quoteStep '"' true) shielded = some after) :
        ∃ next, quoteStep '"' true shielded c = some next ∧
          (word state' cs).1.foldlM (quoteStep '"' true) next = some after := by
      rw [List.foldlM_cons] at h
      exact Option.bind_eq_some_iff.1 h
    unfold word at h ⊢
    by_cases hshielded : state = .shielded
    · rw [if_pos hshielded] at h ⊢
      obtain ⟨next, hnext, hmore⟩ := hstep h
      rw [hstate, hshielded] at hnext
      cases hnext
      exact ih rfl hmore
    rw [if_neg hshielded] at h ⊢
    have hfresh : shielded = false := by rw [hstate, decide_eq_false hshielded]
    by_cases htaken : isWordChar c = true ∨ (c = '#' ∧ state = .begun)
    · rw [if_pos htaken] at h ⊢
      have hc : c ≠ '\\' := by
        rintro rfl
        rcases htaken with htaken | htaken
        · cases htaken
        · cases htaken.1
      obtain ⟨next, hnext, hmore⟩ := hstep h
      exact ih (quoteStep_ne_backslash hc hnext) hmore
    rw [if_neg htaken] at h ⊢
    by_cases hescape : c = '\\'
    · rw [if_pos hescape] at h ⊢
      obtain ⟨next, hnext, hmore⟩ := hstep h
      rw [hfresh, hescape] at hnext
      cases hnext
      exact ih rfl hmore
    · rw [if_neg hescape] at h
      cases h
      exact .inl hfresh

theorem greaterThan_settles (fd cs : List Char) :
    Settles (greaterThan fd cs).text (greaterThan fd cs).rest := by
  unfold greaterThan
  split
  · exact settles_append fd (by simp) (by decide) _
  · next rest =>
    refine settles_append fd (by simp) (fun hmem => ?_) _
    have hdescriptor : '\\' ∈ rest.takeWhile isDescriptorChar := by simpa using hmem
    cases List.mem_takeWhile_imp hdescriptor
  · exact settles_append fd (by simp) (by decide) _
  · exact settles_append fd (by simp) (by decide) _

theorem wordOrUnknown_settles (c : Char) (cs : List Char) :
    Settles (wordOrUnknown c cs).text (wordOrUnknown c cs).rest := by
  unfold wordOrUnknown
  dsimp only
  split
  · next hempty =>
    refine settles_concat [] (fun hc => ?_) _
    -- a backslash begins a word
    rw [hc] at hempty
    cases hempty
  · exact fun after hfold => word_settles rfl hfold

theorem numberOrWord_settles (c : Char) (cs : List Char) :
    Settles (numberOrWord c cs).text (numberOrWord c cs).rest := by
  unfold numberOrWord
  dsimp only
  split
  · exact wordOrUnknown_settles c cs
  split
  · exact settles_append _ (by simp) (by decide) _
  · exact greaterThan_settles _ _
  · exact wordOrUnknown_settles c cs

/-- A text between delimiters ends with the closer. -/
theorem between_settles {kind : TokenKind} {opener : List Char} {close : Char} {lx : Lexeme}
    (h : lx.kind = kind ∧ lx.text = opener ++ lx.value ++ [close]) (hclose : close ≠ '\\') :
    Settles lx.text lx.rest := by
  rw [h.2]
  exact settles_concat _ hclose _

theorem dollar_settles {cs : List Char} {lx : Lexeme} (h : DollarForm cs lx) :
    Settles lx.text lx.rest := by
  cases h with
  | braced cs =>
    show Settles ('$' :: _) _
    rcases braced_settles 0 ('{' :: cs) with hend | ⟨front, hfront⟩
    · exact fun _ _ => .inr hend
    · rw [hfront]
      exact settles_concat ('$' :: front) (by decide) _
  | substitution h => exact between_settles (substitution_between h) (by decide)
  | ansiC h => exact between_settles (quoted_between h) (by decide)
  | double h => exact between_settles (quoted_between h) (by decide)
  | name c cs hc =>
    refine settles_append ['$'] (List.cons_ne_nil c _) (fun hmem => ?_) _
    rcases List.mem_cons.1 hmem with rfl | hname
    · cases hc
    · cases List.mem_takeWhile_imp hname
  | special c cs hc =>
    refine settles_concat ['$'] (fun hbackslash => ?_) _
    rw [hbackslash] at hc
    cases hc
  | alone cs => exact settles_concat [] (by decide) _

/-- No token ends behind a backslash that protects something. -/
theorem scan_settles {c : Char} {cs : List Char} {lx : Lexeme} (h : scan c cs = .ok lx) :
    Settles lx.text lx.rest := by
  cases scan_form h with
  | bar => unfold bar; split <;> exact settles_append [] (by decide) (by decide) _
  | ampersand => unfold ampersand; split <;> exact settles_append [] (by decide) (by decide) _
  | lessThan => unfold lessThan; split <;> exact settles_append [] (by decide) (by decide) _
  | greaterThan => exact greaterThan_settles [] cs
  | double h => exact between_settles (quoted_between h) (by decide)
  | single h => exact between_settles (quoted_between h) (by decide)
  | backtick h => exact between_settles (quoted_between h) (by decide)
  | dollar h => exact dollar_settles h
  | semicolon | newline | leftParen | rightParen => exact settles_concat [] (by decide) _
  | number => exact numberOrWord_settles c cs

/-! ## What is left and what is inside -/

section Shielded

variable {c : Char} {cs : List Char} {lx : Lexeme} (h : scan c cs = .ok lx)
  (hcs : Shielded false (c :: cs))

include h hcs

theorem Shielded.rest : Shielded false lx.rest := by
  rw [← scan_append h] at hcs
  exact hcs.of_settles (scan_settles h)

theorem Shielded.text : Shielded false lx.text := by
  rw [← scan_append h] at hcs
  obtain ⟨after, hfold, -⟩ := hcs.split
  exact ⟨after, hfold⟩

/-- A quote that opens a text is not protected. -/
theorem Shielded.kind : lx.kind ≠ .quoted .double := by
  intro hk
  obtain ⟨after, hfold⟩ := hcs.text h
  have hspelled := (scan_wellSpelled h).spelled
  rw [hk] at hspelled
  rcases hspelled with htext | htext
  · rw [htext] at hfold
    cases hfold
  · rw [htext] at hfold
    cases hfold

/-- The body of a substitution is as protected as the text it stands in. -/
theorem Shielded.value (hk : lx.kind = .substitution ∨ lx.kind = .backtick) :
    Shielded false lx.value := by
  have htext := hcs.text h
  have hspelled := (scan_wellSpelled h).spelled
  rcases hk with hk | hk
  · rw [hk] at hspelled
    rw [show lx.text = _ from hspelled] at htext
    obtain ⟨after, hvalue, -⟩ := (show Shielded false (lx.value ++ [')']) from htext).split
    exact ⟨after, hvalue⟩
  · rw [hk] at hspelled
    rw [show lx.text = _ from hspelled] at htext
    obtain ⟨after, hvalue, -⟩ := (show Shielded false (lx.value ++ ['`']) from htext).split
    exact ⟨after, hvalue⟩

end Shielded

end Lexeme

/-- A gap ends without protecting what follows it. -/
theorem Passed.shielded {gap rest : List Char} (h : Passed gap rest)
    (hshielded : Lexeme.Shielded false (gap ++ rest)) : Lexeme.Shielded false rest := by
  induction h with
  | nil => exact hshielded
  | blank hc _ ih =>
    apply ih
    rcases hc with rfl | rfl | rfl
    · exact hshielded
    · exact hshielded
    · exact hshielded
  | joined _ ih => exact ih hshielded
  | comment _ hend =>
    obtain ⟨after, -, hrest⟩ := hshielded.split
    rcases hend with rfl | hhead
    · exact .nil false
    · -- a comment may end in a backslash, and the line feed it protects needs no protection
      obtain ⟨cs, rfl⟩ := List.head?_eq_some_iff.1 hhead
      cases after with
      | false => exact hrest
      | true => exact hrest

end ShellGuard
