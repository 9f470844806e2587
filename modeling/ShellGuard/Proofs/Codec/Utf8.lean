import Mathlib
import ShellGuard.Text.Utf8

/-!
# Reading back the bytes of a text

Decoding inverts encoding.  One character is enough: read between two characters, its bytes give that
character and leave nothing open (`pieces_encodeChar`).  The bytes are those that strings have in
memory (`encode_toList`), so every string is the reading of its own bytes.
-/

namespace ShellGuard.Utf8

/-- A character is numbered below the surrogates or above them. -/
theorem toNat_range (c : Char) :
    c.toNat < 0xd800 ∨ 0xdfff < c.toNat ∧ c.toNat < 0x110000 :=
  c.valid

/-! ## Bytes of one character -/

theorem first_ascii {b : Nat} (h : b < 0x80) : first b = ⟨[some (Char.ofNat b)], none⟩ := by
  rw [first, if_pos h]

/-- A byte that may come next and is the last one owed. -/
theorem next_last {low high bits b : Nat} (hlow : low ≤ b) (hhigh : b ≤ high) :
    next ⟨1, low, high, bits⟩ b = ⟨[some (Char.ofNat (bits * 0x40 + (b - 0x80)))], none⟩ := by
  simp [next, hlow, hhigh]

/-- A byte that may come next with more to follow. -/
theorem next_more {owed low high bits b : Nat} (hlow : low ≤ b) (hhigh : b ≤ high) :
    next ⟨owed + 2, low, high, bits⟩ b =
      ⟨[], some ⟨owed + 1, 0x80, 0xbf, bits * 0x40 + (b - 0x80)⟩⟩ := by
  simp [next, hlow, hhigh]

/-- The first of two bytes. -/
theorem first_two {b : Nat} (hlow : 0xc2 ≤ b) (hhigh : b < 0xe0) :
    first b = ⟨[], some ⟨1, 0x80, 0xbf, b - 0xc0⟩⟩ := by
  unfold first
  rw [if_neg (by omega), if_neg (by omega), if_pos hhigh]

/-- The first of three bytes, and what it asks of the second. -/
theorem first_three {b : Nat} (hlow : 0xe0 ≤ b) (hhigh : b < 0xf0) :
    first b = ⟨[], some ⟨2, if b = 0xe0 then 0xa0 else 0x80, if b = 0xed then 0x9f else 0xbf,
      b - 0xe0⟩⟩ := by
  unfold first
  rw [if_neg (by omega), if_neg (by omega), if_neg (by omega)]
  by_cases he0 : b = 0xe0
  · subst he0
    rfl
  by_cases hed : b = 0xed
  · subst hed
    rfl
  rw [if_neg he0, if_neg hed, if_pos hhigh, if_neg he0, if_neg hed]

/-- The first of four bytes, and what it asks of the second. -/
theorem first_four {b : Nat} (hlow : 0xf0 ≤ b) (hhigh : b ≤ 0xf4) :
    first b = ⟨[], some ⟨3, if b = 0xf0 then 0x90 else 0x80, if b = 0xf4 then 0x8f else 0xbf,
      b - 0xf0⟩⟩ := by
  unfold first
  rw [if_neg (by omega), if_neg (by omega), if_neg (by omega), if_neg (by omega),
    if_neg (by omega), if_neg (by omega)]
  by_cases hf0 : b = 0xf0
  · subst hf0
    rfl
  by_cases hf4 : b = 0xf4
  · subst hf4
    rfl
  rw [if_neg hf0, if_pos (by omega), if_neg hf0, if_neg hf4]

/-- The bytes of a character are read as that character. -/
theorem pieces_encodeChar (c : Char) (rest : List Nat) :
    pieces none (encodeChar c ++ rest) = some c :: pieces none rest := by
  have hrange := toNat_range c
  have hback : ∀ m, m = c.toNat → Char.ofNat m = c := by
    intro m hm
    rw [hm, Char.ofNat_toNat]
  unfold encodeChar encodeCode
  by_cases h1 : c.toNat < 0x80
  · rw [if_pos h1]
    simp [pieces, step, first_ascii h1, hback]
  rw [if_neg h1]
  by_cases h2 : c.toNat < 0x800
  · rw [if_pos h2]
    have hfirst := first_two (b := 0xc0 + c.toNat / 0x40) (by omega) (by omega)
    simp only [List.cons_append, List.nil_append, pieces, step, hfirst]
    rw [next_last (by omega) (by omega)]
    rw [hback _ (by omega)]
    rfl
  rw [if_neg h2]
  by_cases h3 : c.toNat < 0x10000
  · rw [if_pos h3]
    have hfirst := first_three (b := 0xe0 + c.toNat / 0x1000) (by omega) (by omega)
    -- the least second byte keeps out what two bytes can say, the greatest keeps out surrogates
    have hlow : (if 0xe0 + c.toNat / 0x1000 = 0xe0 then 0xa0 else 0x80) ≤
        0x80 + c.toNat / 0x40 % 0x40 := by
      split <;> omega
    have hhigh : 0x80 + c.toNat / 0x40 % 0x40 ≤
        (if 0xe0 + c.toNat / 0x1000 = 0xed then 0x9f else 0xbf) := by
      split <;> omega
    simp only [List.cons_append, List.nil_append, pieces, step, hfirst]
    rw [next_more hlow hhigh]
    simp only [List.nil_append, Nat.zero_add]
    rw [next_last (by omega) (by omega)]
    rw [hback _ (by omega)]
    rfl
  · rw [if_neg h3]
    have hfirst := first_four (b := 0xf0 + c.toNat / 0x40000) (by omega) (by omega)
    have hlow : (if 0xf0 + c.toNat / 0x40000 = 0xf0 then 0x90 else 0x80) ≤
        0x80 + c.toNat / 0x1000 % 0x40 := by
      split <;> omega
    have hhigh : 0x80 + c.toNat / 0x1000 % 0x40 ≤
        (if 0xf0 + c.toNat / 0x40000 = 0xf4 then 0x8f else 0xbf) := by
      split <;> omega
    simp only [List.cons_append, List.nil_append, pieces, step, hfirst]
    rw [next_more hlow hhigh]
    simp only [List.nil_append]
    rw [next_more (by omega) (by omega)]
    simp only [List.nil_append, Nat.zero_add]
    rw [next_last (by omega) (by omega)]
    rw [hback _ (by omega)]
    rfl

/-! ## Bytes of a text -/

theorem pieces_encode (cs : List Char) : pieces none (encode cs) = cs.map some := by
  induction cs with
  | nil => rfl
  | cons c cs ih =>
    rw [show encode (c :: cs) = encodeChar c ++ encode cs from rfl, pieces_encodeChar, ih]
    rfl

theorem decode?_encode (cs : List Char) : decode? (encode cs) = some cs := by
  rw [decode?, pieces_encode, List.mapM_map]
  induction cs with
  | nil => rfl
  | cons c cs ih =>
    rw [List.mapM_cons, ih]
    rfl

theorem encodeChar_eq (c : Char) :
    encodeChar c = (String.utf8EncodeChar c).map UInt8.toNat := by
  have hrange := toNat_range c
  have hval : c.val.toNat = c.toNat := rfl
  unfold encodeChar encodeCode String.utf8EncodeChar
  simp only [hval]
  by_cases h1 : c.toNat < 0x80
  · rw [if_pos h1, if_pos (show c.toNat ≤ 0x7f by omega)]
    simp
    omega
  rw [if_neg h1, if_neg (show ¬c.toNat ≤ 0x7f by omega)]
  by_cases h2 : c.toNat < 0x800
  · rw [if_pos h2, if_pos (show c.toNat ≤ 0x7ff by omega)]
    simp
    omega
  rw [if_neg h2, if_neg (show ¬c.toNat ≤ 0x7ff by omega)]
  by_cases h3 : c.toNat < 0x10000
  · rw [if_pos h3, if_pos (show c.toNat ≤ 0xffff by omega)]
    simp
    omega
  · rw [if_neg h3, if_neg (show ¬c.toNat ≤ 0xffff by omega)]
    simp
    omega

/-- The bytes of a text are those of the string in memory. -/
theorem encode_toList (s : String) : encode s.toList = s.toUTF8.data.toList.map UInt8.toNat := by
  have hbytes : s.toUTF8.data.toList = s.toList.flatMap String.utf8EncodeChar := by
    show s.toByteArray.data.toList = _
    rw [← String.utf8Encode_toList, List.utf8Encode, List.data_toByteArray]
  rw [hbytes, List.map_flatMap, encode]
  exact List.flatMap_congr fun c _ => encodeChar_eq c

end ShellGuard.Utf8
