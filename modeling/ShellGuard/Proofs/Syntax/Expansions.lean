import Mathlib
import ShellGuard.Proofs.Syntax.Anchors

/-!
# Expansions taken apart

The text between the braces of an expansion is a name and what is done with it.  Some characters can
be either, `#` above all, so the text is taken apart by trying one reading after the other;
`Parameter.Split` lists what can come out.  Whatever does, nothing of the text is lost.

An expansion without braces leaves no such choice.  The characters that can follow the dollar sign
there are those of a name, or one that names a parameter alone, and both pass as parameters.
-/

namespace ShellGuard

namespace Parameter

/-- A text that can stand in front of a modifier: name characters, or one special parameter. -/
def Modifiable (name : List Char) : Prop :=
  (name ≠ [] ∧ ∀ c ∈ name, c.isAlphanum = true ∨ c = '_') ∨
    ∃ c ∈ ['?', '@', '*', '#', '$', '!', '-'], name = [c]

/-- The characters a modifier can begin with. -/
def modifierChars : List Char :=
  [':', '-', '=', '?', '+', '#', '%', '/', '^', ',', '[', '@', '*']

/-- What the text between braces can be taken for: the length of a parameter, a parameter with a
modifier, or a name as a whole. -/
inductive Split (inner : List Char) : Parameter → Prop
  | length {name : List Char} (hname : isName name = true) (h : inner = '#' :: name) :
    Split inner ⟨String.ofList name, some "#", true⟩
  | modified {name rest : List Char} {c : Char} (hname : Modifiable name) (hc : c ∈ modifierChars)
    (h : inner = name ++ c :: rest) :
    Split inner ⟨String.ofList name, some (String.ofList (c :: rest)), true⟩
  | whole : Split inner ⟨String.ofList inner, none, true⟩

theorem mem_modifierChars {c : Char} (h : isModifierChar c = true) : c ∈ modifierChars := by
  simpa [isModifierChar, modifierChars, or_assoc] using h

theorem isNameChar_iff {c : Char} :
    Lexeme.isNameChar c = true ↔ c.isAlphanum = true ∨ c = '_' := by
  rw [Lexeme.isNameChar, Bool.or_eq_true, beq_iff_eq]

theorem splitName_append (inner : List Char) :
    (splitName inner).1 ++ (splitName inner).2 = inner := by
  unfold splitName
  repeat' split
  · rfl
  · exact List.takeWhile_append_dropWhile
  · rfl
  · rfl

theorem splitName_modifiable {inner : List Char} (h : (splitName inner).1 ≠ []) :
    Modifiable (splitName inner).1 := by
  cases inner with
  | nil => exact absurd rfl h
  | cons c cs =>
    rw [splitName] at h ⊢
    by_cases hname : Lexeme.isNameChar c = true
    · rw [if_pos hname] at h ⊢
      exact .inl ⟨h, fun d hd => isNameChar_iff.1 (List.mem_takeWhile_imp hd)⟩
    rw [if_neg hname] at h ⊢
    by_cases hspecial : Lexeme.isSpecialParameter c = true
    · rw [if_pos hspecial]
      refine .inr ⟨c, ?_, rfl⟩
      simpa [Lexeme.isSpecialParameter, or_assoc] using hspecial
    · rw [if_neg hspecial] at h
      exact absurd rfl h

theorem ofBraces_split (inner : List Char) : Split inner (ofBraces inner) := by
  have happend := splitName_append inner
  unfold ofBraces
  extract_lets parts plain
  -- what comes out unless the text asks for a length
  have hplain : Split inner plain := by
    unfold plain parts
    split
    · next hrest =>
      rw [hrest, List.append_nil] at happend
      rw [happend]
      exact .whole
    · next c rest hrest =>
      split
      · next hmodified =>
        obtain ⟨hname, hc⟩ := Bool.and_eq_true_iff.1 hmodified
        have hmodifiable : Modifiable (splitName inner).1 :=
          splitName_modifiable (by simpa using hname)
        rw [hrest] at happend ⊢
        exact .modified hmodifiable (mem_modifierChars hc) happend.symm
      · exact .whole
  split
  · split
    · next hname => exact .length hname rfl
    · exact hplain
  · exact hplain

/-- The expansion `${inner}`. -/
def inBraces (inner : String) : Parameter :=
  ofText ("$\x7b" ++ inner ++ "\x7d")

theorem inBraces_split (inner : String) : Split inner.toList (inBraces inner) := by
  have hclosed : dropClosingBrace (inner.toList ++ ['}']) = inner.toList := by
    simp [dropClosingBrace]
  have htext : ("$\x7b" ++ inner ++ "\x7d").toList = '$' :: '{' :: (inner.toList ++ ['}']) := by
    simp
  have hbraces : inBraces inner = ofBraces (dropClosingBrace (inner.toList ++ ['}'])) := by
    rw [inBraces, ofText, htext]
    rfl
  rw [hbraces, hclosed]
  exact ofBraces_split inner.toList

/-! ## Expansions without braces -/

/-- Without braces everything behind the dollar sign is the name. -/
theorem ofText_bare {raw : String} {cs : List Char} (h : raw.toList = '$' :: cs)
    (hbrace : cs.head? ≠ some '{') : ofText raw = ⟨String.ofList cs, none, false⟩ := by
  rw [ofText, h, ofChars]
  rintro inner rfl
  exact hbrace rfl

theorem flaws_eq_nil_iff {p : Position} {v : Parameter} :
    (Node.parameter p v).flaws = [] ↔ v.isSpecial = true ∨ isName v.name.toList = true := by
  rw [Node.flaws, ← Bool.or_eq_true]
  split <;> simp_all

/-- However an expansion is written without braces, nothing is wrong with it. -/
theorem flaws_of_form {raw : String} (h : Lexeme.ParameterForm raw.toList)
    (hbrace : ¬['$', '{'] <+: raw.toList) (p : Position) :
    (ofText raw).braced = false ∧ (Node.parameter p (ofText raw)).flaws = [] := by
  have hhead {c : Char} {cs : List Char} (hraw : raw.toList = '$' :: c :: cs) :
      (c :: cs).head? ≠ some '{' := by
    rintro hc
    rw [Option.some.inj hc] at hraw
    exact hbrace ⟨cs, hraw.symm⟩
  generalize hcs : raw.toList = text at h
  cases h with
  | braced cs => exact absurd rfl (hhead hcs)
  | name c cs hname =>
    rw [ofText_bare hcs (hhead hcs)]
    refine ⟨rfl, flaws_eq_nil_iff.2 (.inr ?_)⟩
    rwa [String.toList_ofList]
  | single c hc =>
    rw [ofText_bare hcs (hhead hcs)]
    refine ⟨rfl, flaws_eq_nil_iff.2 (.inl ?_)⟩
    rw [isSpecial, String.toList_ofList]
    exact hc

theorem form_of_next {cur : Cursor} {t : Token} (h : cur.next.1 = .ok t)
    (hk : t.kind = .parameter) : Lexeme.ParameterForm t.value.toList := by
  have houtcome := Cursor.next_outcome cur
  generalize cur.next = r at houtcome h
  cases houtcome with
  | ended =>
    cases h
    cases hk
  | unclosed => cases h
  | token _ scan =>
    cases h
    rw [Lexeme.token, String.toList_ofList]
    exact Lexeme.scan_parameter scan hk

/-- The text between the braces of an expansion is `#` and the name of the parameter whose length is
asked for, or it is the name followed by the modifier.  There is a modifier only behind name
characters or one special parameter, and only where one of the characters for it comes next.  With
an expansion that is read without braces nothing is ever wrong. -/
theorem expansions_lossless :
    (∀ inner : String,
      ((inBraces inner).modifier = some "#" ∧ isName (inBraces inner).name.toList = true ∧
        inner = "#" ++ (inBraces inner).name) ∨
      (inner = (inBraces inner).name ++ (inBraces inner).modifier.getD "" ∧
        ∀ modifier, (inBraces inner).modifier = some modifier →
          Modifiable (inBraces inner).name.toList ∧
            ∃ c ∈ modifierChars, modifier.toList.head? = some c)) ∧
    ∀ (cur : Cursor) (t : Token), cur.next.1 = .ok t → t.kind = .parameter →
      ¬['$', '{'] <+: t.value.toList →
        (ofText t.value).braced = false ∧
          ∀ p, (Node.parameter p (ofText t.value)).flaws = [] := by
  refine ⟨fun inner => ?_, fun cur t h hk hbrace => ?_⟩
  · have hsplit := inBraces_split inner
    generalize inBraces inner = v at hsplit
    cases hsplit with
    | length hname h =>
      refine .inl ⟨rfl, by rwa [String.toList_ofList], String.toList_injective ?_⟩
      simp [h]
    | modified hname hc h =>
      refine .inr ⟨String.toList_injective (by simp [h]), fun modifier hmodifier => ?_⟩
      obtain rfl := Option.some.inj hmodifier
      rw [String.toList_ofList, String.toList_ofList]
      exact ⟨hname, _, hc, rfl⟩
    | whole =>
      refine .inr ⟨by simp, fun modifier hmodifier => ?_⟩
      cases hmodifier
  · have hform := form_of_next h hk
    exact ⟨(flaws_of_form hform hbrace .start).1, fun p => (flaws_of_form hform hbrace p).2⟩

/-- A `#` that asks for a length, one that is the parameter, and one that begins a modifier; and a
name without braces that ends where a modifier could begin. -/
theorem expansions_lossless_hash :
    inBraces "#x" = ⟨"x", some "#", true⟩ ∧ inBraces "##x" = ⟨"#", some "#x", true⟩ ∧
    inBraces "x#" = ⟨"x", some "#", true⟩ ∧ Modifiable "x".toList ∧
    (Cursor.ofText "$_x1#y" .start).next.1 = .ok ⟨.parameter, "$_x1", .start, 4⟩ ∧
    (Node.parameter .start (ofText "$_x1")).flaws = [] := by
  have hmodified : inBraces "x#" = ⟨"x", some "#", true⟩ := by decide
  have hread : (Cursor.ofText "$_x1#y" .start).next.1 = .ok ⟨.parameter, "$_x1", .start, 4⟩ := by
    decide
  refine ⟨by decide, by decide, hmodified, ?_, hread, ?_⟩
  · rcases expansions_lossless.1 "x#" with ⟨-, -, hlength⟩ | ⟨-, hparts⟩
    · rw [hmodified] at hlength
      exact absurd hlength (by decide)
    · rw [hmodified] at hparts
      exact (hparts "#" rfl).1
  · exact (expansions_lossless.2 _ _ hread rfl (by decide)).2 .start

end Parameter

end ShellGuard
