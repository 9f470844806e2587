import Mathlib
import ShellGuard.Codec.Base64

/-!
# Reading back base64

Decoding inverts encoding for bytes, the padding and the bits that it cuts off included, and an
encoding is written with the digits and the sign for padding alone.
-/

namespace ShellGuard.Base64

/-- The signs of an encoding: the sign for padding and the digits. -/
def signs : List Char :=
  '=' :: (List.range 64).map digit

theorem digit_mem_signs {n : Nat} (h : n < 64) : digit n ∈ signs :=
  List.mem_cons_of_mem _ (List.mem_map_of_mem (List.mem_range.2 h))

theorem value?_digit {n : Nat} (h : n < 64) : value? (digit n) = some n := by
  have hall : ∀ m ∈ List.range 64, value? (digit m) = some m := by decide
  exact hall n (List.mem_range.2 h)

theorem digit_ne_padding {n : Nat} (h : n < 64) : digit n ≠ '=' := by
  intro heq
  have hvalue := value?_digit h
  rw [heq] at hvalue
  cases hvalue

theorem encode_signs {bytes : List Nat} (h : ∀ b ∈ bytes, b < 256) :
    ∀ c ∈ encode bytes, c ∈ signs := by
  have hpad : '=' ∈ signs := List.mem_cons_self
  fun_induction encode bytes with
  | case1 => simp
  | case2 a =>
    have ha := h a (by simp)
    simp only [List.forall_mem_cons]
    exact ⟨digit_mem_signs (by omega), digit_mem_signs (by omega), hpad, hpad, by simp⟩
  | case3 a b =>
    have ha := h a (by simp)
    have hb := h b (by simp)
    simp only [List.forall_mem_cons]
    exact ⟨digit_mem_signs (by omega), digit_mem_signs (by omega), digit_mem_signs (by omega), hpad,
      by simp⟩
  | case4 a b c rest ih =>
    have ha := h a (by simp)
    have hb := h b (by simp)
    have hc := h c (by simp)
    simp only [List.forall_mem_cons]
    exact ⟨digit_mem_signs (by omega), digit_mem_signs (by omega), digit_mem_signs (by omega),
      digit_mem_signs (by omega), ih fun x hx => h x (by simp [hx])⟩

/-! ## Decoding -/

theorem decodeThree_digits {x y z w : Nat} (hx : x < 64) (hy : y < 64) (hz : z < 64) (hw : w < 64) :
    decodeThree (digit x) (digit y) (digit z) (digit w) =
      some [x * 4 + y / 16, y % 16 * 16 + z / 4, z % 4 * 64 + w] := by
  simp [decodeThree, value?_digit, hx, hy, hz, hw]

/-- Three bytes make four digits. -/
theorem decodeThree_bytes {a b c : Nat} (ha : a < 256) (hb : b < 256) (hc : c < 256) :
    decodeThree (digit (a / 4)) (digit (a % 4 * 16 + b / 16)) (digit (b % 16 * 4 + c / 64))
      (digit (c % 64)) = some [a, b, c] := by
  rw [decodeThree_digits (by omega) (by omega) (by omega) (by omega)]
  have hfirst : a / 4 * 4 + (a % 4 * 16 + b / 16) / 16 = a := by omega
  have hsecond : (a % 4 * 16 + b / 16) % 16 * 16 + (b % 16 * 4 + c / 64) / 4 = b := by omega
  have hthird : (b % 16 * 4 + c / 64) % 4 * 64 + c % 64 = c := by omega
  rw [hfirst, hsecond, hthird]

theorem decodeTwo_bytes {a b : Nat} (ha : a < 256) (hb : b < 256) :
    decodeTwo (digit (a / 4)) (digit (a % 4 * 16 + b / 16)) (digit (b % 16 * 4)) =
      some [a, b] := by
  have hzero : b % 16 * 4 % 4 = 0 := by omega
  have hfirst : a / 4 * 4 + (a % 4 * 16 + b / 16) / 16 = a := by omega
  have hsecond : (a % 4 * 16 + b / 16) % 16 * 16 + b % 16 * 4 / 4 = b := by omega
  simp only [decodeTwo, value?_digit (show a / 4 < 64 by omega),
    value?_digit (show a % 4 * 16 + b / 16 < 64 by omega),
    value?_digit (show b % 16 * 4 < 64 by omega), Option.bind_eq_bind, Option.bind_some]
  rw [if_pos hzero, hfirst, hsecond]

theorem decodeOne_byte {a : Nat} (ha : a < 256) :
    decodeOne (digit (a / 4)) (digit (a % 4 * 16)) = some [a] := by
  have hzero : a % 4 * 16 % 16 = 0 := by omega
  have hbyte : a / 4 * 4 + a % 4 * 16 / 16 = a := by omega
  simp only [decodeOne, value?_digit (show a / 4 < 64 by omega),
    value?_digit (show a % 4 * 16 < 64 by omega), Option.bind_eq_bind, Option.bind_some]
  rw [if_pos hzero, hbyte]

theorem encode_eq_nil {bytes : List Nat} (h : encode bytes = []) : bytes = [] := by
  fun_cases encode bytes with
  | case1 => rfl
  | case2 | case3 | case4 => simp_all [encode]

theorem decode?_encode {bytes : List Nat} (h : ∀ b ∈ bytes, b < 256) :
    decode? (encode bytes) = some bytes := by
  fun_induction encode bytes with
  | case1 => rfl
  | case2 a =>
    have ha := h a (by simp)
    rw [decode?, decodeLast, if_pos rfl, if_pos rfl, decodeOne_byte ha]
  | case3 a b =>
    have ha := h a (by simp)
    have hb := h b (by simp)
    rw [decode?, decodeLast, if_pos rfl, if_neg (digit_ne_padding (by omega)),
      decodeTwo_bytes ha hb]
  | case4 a b c rest ih =>
    have ha := h a (by simp)
    have hb := h b (by simp)
    have hc := h c (by simp)
    have hmore := ih fun x hx => h x (by simp [hx])
    by_cases hlast : rest = []
    · -- the last four signs are read by another rule, which looks for padding first
      subst hlast
      rw [encode, decode?, decodeLast, if_neg (digit_ne_padding (by omega)),
        decodeThree_bytes ha hb hc]
    · rw [decode?.eq_3 _ _ _ _ _ (fun hnil => hlast (encode_eq_nil hnil)),
        decodeThree_bytes ha hb hc, hmore]
      rfl

end ShellGuard.Base64
