import Mathlib
import ShellGuard.Proofs.Codec.Utf8
import ShellGuard.Proofs.Obfuscation.Encoded
import ShellGuard.Proofs.Pattern.Best

/-!
# Escapes for bytes and characters

Numbers are written in hexadecimal with a fixed number of digits, of which each may be in either
case (`Escape.Numbers`).  A byte is spelled by two of them after `\x`, a character by four after
`\u` or by eight after `\U`.  The decoders undo both spellings.

For characters more can be said, about every text: `Escape.Decodes` relates it to what it stands
for, going over it from the left.  An escape that numbers a character is that character; one that
numbers none stays as it is, and so does everything that is not part of an escape.
-/

namespace ShellGuard

namespace Escape

/-! ## Digits -/

/-- The digits of a number below `16 ^ width`, in lower case. -/
def hexDigits : (width n : Nat) → List Char
  | 0, _ => []
  | width + 1, n => hexDigits width (n / 16) ++ [Nat.digitChar (n % 16)]

/-- Digits in either case that write a number. -/
structure Numbers (digits : List Char) (width n : Nat) : Prop where
  bound : n < 16 ^ width
  spelled : digits.map Char.toLower = hexDigits width n

theorem length_hexDigits (width n : Nat) : (hexDigits width n).length = width := by
  induction width generalizing n with
  | zero => rfl
  | succ width ih => rw [hexDigits, List.length_append, ih, List.length_singleton]

theorem toNat_toLower (c : Char) :
    c.toLower.toNat = if 65 ≤ c.toNat ∧ c.toNat ≤ 90 then c.toNat + 32 else c.toNat := by
  have hrange : ('A'.val ≤ c.val ∧ c.val ≤ 'Z'.val) ↔ (65 ≤ c.toNat ∧ c.toNat ≤ 90) := by
    simp only [UInt32.le_iff_toNat_le]
    rfl
  unfold Char.toLower
  split
  · next h =>
    have hc := hrange.1 h
    have hshift : ('a'.val - 'A'.val).toNat = 32 := by decide
    rw [if_pos hc]
    show (c.val + ('a'.val - 'A'.val)).toNat = c.val.toNat + 32
    rw [UInt32.toNat_add, hshift]
    have hsmall : c.val.toNat ≤ 90 := hc.2
    omega
  · next h => rw [if_neg fun hc => h (hrange.2 hc)]

theorem toNat_digitChar :
    ∀ d < 16, (Nat.digitChar d).toNat = if d < 10 then 48 + d else 87 + d := by
  decide

theorem value?_digitChar : ∀ d < 16, Digit.value? (Nat.digitChar d) = some d := by
  decide

/-- The range a character is in tells its value as a digit. -/
theorem value?_range {c : Char} {d : Nat} :
    Digit.value? c = some d ↔ 48 ≤ c.toNat ∧ c.toNat ≤ 57 ∧ d = c.toNat - 48 ∨
      97 ≤ c.toNat ∧ c.toNat ≤ 102 ∧ d = c.toNat - 87 ∨
      65 ≤ c.toNat ∧ c.toNat ≤ 70 ∧ d = c.toNat - 55 := by
  have hdigit : c.isDigit = true ↔ 48 ≤ c.toNat ∧ c.toNat ≤ 57 := by
    simp only [Char.isDigit, Bool.and_eq_true, decide_eq_true_eq, ge_iff_le,
      UInt32.le_iff_toNat_le]
    rfl
  have hrange (a b : Char) : (decide (a ≤ c) && decide (c ≤ b)) = true ↔
      a.toNat ≤ c.toNat ∧ c.toNat ≤ b.toNat := by
    simp only [Bool.and_eq_true, decide_eq_true_eq, Char.le_def, UInt32.le_iff_toNat_le]
    rfl
  have hlower : (decide ('a' ≤ c) && decide (c ≤ 'f')) = true ↔ 97 ≤ c.toNat ∧ c.toNat ≤ 102 :=
    hrange 'a' 'f'
  have hupper : (decide ('A' ≤ c) && decide (c ≤ 'F')) = true ↔ 65 ≤ c.toNat ∧ c.toNat ≤ 70 :=
    hrange 'A' 'F'
  have hfirst : '0'.toNat = 48 ∧ 'a'.toNat = 97 ∧ 'A'.toNat = 65 := by decide
  unfold Digit.value?
  simp only [hdigit, hlower, hupper, hfirst]
  split
  · rw [Option.some.injEq]
    omega
  · split
    · rw [Option.some.injEq]
      omega
    · split
      · rw [Option.some.injEq]
        omega
      · exact iff_of_false (by simp) (by omega)

theorem value?_eq_some {c : Char} {d : Nat} :
    Digit.value? c = some d ↔ d < 16 ∧ c.toLower = Nat.digitChar d := by
  rw [value?_range, ← Char.toNat_inj, toNat_toLower]
  constructor
  · intro h
    have hd : d < 16 := by omega
    rw [toNat_digitChar d hd]
    refine ⟨hd, ?_⟩
    split <;> split <;> omega
  · rintro ⟨hd, hc⟩
    rw [toNat_digitChar d hd] at hc
    split at hc <;> split at hc <;> omega

theorem isHex_iff {c : Char} : Digit.isHex c = true ↔ ∃ d < 16, c.toLower = Nat.digitChar d := by
  simp only [Digit.isHex, Option.isSome_iff_exists, value?_eq_some]

theorem number_concat (ds : List Char) {c : Char} {d : Nat} (h : Digit.value? c = some d) :
    Digit.number 16 (ds ++ [c]) = Digit.number 16 ds * 16 + d := by
  rw [Digit.number, List.foldl_append, List.foldl_cons, List.foldl_nil, h]
  rfl

theorem hexDigits_succ (width : Nat) {n d : Nat} (hd : d < 16) :
    hexDigits (width + 1) (n * 16 + d) = hexDigits width n ++ [Nat.digitChar d] := by
  rw [hexDigits, show (n * 16 + d) / 16 = n by omega, show (n * 16 + d) % 16 = d by omega]

/-- Hexadecimal digits write their value. -/
theorem numbers_number {ds : List Char} (h : ∀ c ∈ ds, Digit.isHex c = true) :
    Numbers ds ds.length (Digit.number 16 ds) := by
  induction ds using List.reverseRecOn with
  | nil => exact ⟨Nat.one_pos, rfl⟩
  | append_singleton ds c ih =>
    obtain ⟨hds, hc⟩ := List.forall_mem_append.1 h
    obtain ⟨d, hd, hlower⟩ := isHex_iff.1 (hc c (List.mem_singleton_self c))
    obtain ⟨hbound, hspelled⟩ := ih hds
    rw [number_concat ds (value?_eq_some.2 ⟨hd, hlower⟩), List.length_append,
      List.length_singleton]
    constructor
    · rw [Nat.pow_succ]
      omega
    · rw [List.map_append, hspelled, hexDigits_succ _ hd, List.map_singleton, hlower]

theorem hexDigits_inj {width m n : Nat} (hm : m < 16 ^ width) (hn : n < 16 ^ width)
    (h : hexDigits width m = hexDigits width n) : m = n := by
  induction width generalizing m n with
  | zero =>
    rw [Nat.pow_zero] at hm hn
    omega
  | succ width ih =>
    rw [Nat.pow_succ] at hm hn
    obtain ⟨hfront, hlast⟩ := List.append_inj h (by rw [length_hexDigits, length_hexDigits])
    have hhigh : m / 16 = n / 16 := ih (by omega) (by omega) hfront
    have hlow : m % 16 = n % 16 := by
      have hvalue := congrArg Digit.value? (List.singleton_inj.1 hlast)
      rw [value?_digitChar _ (Nat.mod_lt m (by decide)),
        value?_digitChar _ (Nat.mod_lt n (by decide))] at hvalue
      exact Option.some.inj hvalue
    omega

namespace Numbers

variable {ds : List Char} {width n : Nat}

theorem length (h : Numbers ds width n) : ds.length = width := by
  rw [← List.length_map Char.toLower, h.spelled, length_hexDigits]

theorem isHex (h : Numbers ds width n) : ∀ c ∈ ds, Digit.isHex c = true := by
  have hdigits (width n : Nat) : ∀ c ∈ hexDigits width n, ∃ d < 16, c = Nat.digitChar d := by
    induction width generalizing n with
    | zero => exact fun c hc => by cases hc
    | succ width ih =>
      refine List.forall_mem_append.2 ⟨ih (n / 16), List.forall_mem_singleton.2 ?_⟩
      exact ⟨n % 16, Nat.mod_lt n (by decide), rfl⟩
  intro c hc
  refine isHex_iff.2 (hdigits width n c.toLower ?_)
  rw [← h.spelled]
  exact List.mem_map_of_mem hc

/-- Digits write one number. -/
theorem number (h : Numbers ds width n) : Digit.number 16 ds = n := by
  have hown := numbers_number h.isHex
  rw [h.length] at hown
  exact hexDigits_inj hown.bound h.bound (hown.spelled.symm.trans h.spelled)

end Numbers

/-! ## Escapes -/

/-- A byte spelled by its number. -/
inductive ByteEscape : List Char → Nat → Prop
  | mk {ds : List Char} {n : Nat} (h : Numbers ds 2 n) : ByteEscape ('\\' :: 'x' :: ds) n

/-- A number spelled as characters are, whether or not it is that of a character. -/
inductive CodeEscape : List Char → Nat → Prop
  | short {ds : List Char} {n : Nat} (h : Numbers ds 4 n) : CodeEscape ('\\' :: 'u' :: ds) n
  | long {ds : List Char} {n : Nat} (h : Numbers ds 8 n) : CodeEscape ('\\' :: 'U' :: ds) n

/-- A text of nothing but escapes, one for each number. -/
def Spelling (escape : List Char → Nat → Prop) (numbers : List Nat) (cs : List Char) : Prop :=
  ∃ es, List.Forall₂ escape es numbers ∧ cs = es.flatten

/-! ## Bytes -/

theorem hexBytes_escape {e : List Char} {n : Nat} (h : ByteEscape e n) (cs : List Char) :
    hexBytesFrom 0 (e ++ cs) = n :: hexBytesFrom 0 cs := by
  obtain ⟨hds⟩ := h
  obtain ⟨a, b, rfl⟩ := List.length_eq_two.1 hds.length
  have hall : [a, b].all Digit.isHex = true := List.all_eq_true.2 hds.isHex
  rw [List.cons_append, hexBytesFrom, if_pos ⟨rfl, rfl, rfl, hall⟩]
  exact congrArg (· :: _) hds.number

theorem hexBytes_spelling {bytes : List Nat} {cs : List Char}
    (h : Spelling ByteEscape bytes cs) : hexBytesFrom 0 cs = bytes := by
  obtain ⟨es, hes, rfl⟩ := h
  induction hes with
  | nil => rfl
  | cons hescape _ ih => rw [List.flatten_cons, hexBytes_escape hescape, ih]

/-- The bytes of a text, spelled one by one, are decoded to the text. -/
theorem decodeHex_spelling {t : String} {cs : List Char}
    (h : Spelling ByteEscape (t.toUTF8.data.toList.map UInt8.toNat) cs) :
    decodeHex cs = t.toList := by
  rw [decodeHex, hexBytes_spelling h, ← Utf8.encode_toList, Utf8.decodeLossy, Utf8.pieces_encode,
    List.map_map]
  exact List.map_id _

/-! ## Characters -/

/-- A text that begins with an escape for a character. -/
def BeginsEscape (cs : List Char) : Prop :=
  ∃ e n rest, CodeEscape e n ∧ cs = e ++ rest

theorem unicodeDigits?_escape {e : List Char} {n : Nat} (h : CodeEscape e n) (rest : List Char) :
    ∃ ds, unicodeDigits? (e ++ rest) = some ds ∧ Digit.number 16 ds = n ∧ e.length = ds.length + 2 := by
  have hdigits {ds : List Char} {width : Nat} (hds : Numbers ds width n) :
      (if ((ds ++ rest).take width).length = width ∧ ((ds ++ rest).take width).all Digit.isHex = true
        then some ((ds ++ rest).take width) else none) = some ds := by
    rw [← hds.length, List.take_left, if_pos ⟨rfl, List.all_eq_true.2 hds.isHex⟩]
  cases h with
  | short hds => exact ⟨_, hdigits hds, hds.number, rfl⟩
  | long hds => exact ⟨_, hdigits hds, hds.number, rfl⟩

theorem beginsEscape_of_unicodeDigits? {cs ds : List Char} (h : unicodeDigits? cs = some ds) :
    BeginsEscape cs := by
  have hnumbers {width : Nat} {rest : List Char} (h : (if (rest.take width).length = width ∧
      (rest.take width).all Digit.isHex = true then some (rest.take width) else none) = some ds) :
      Numbers (rest.take width) width (Digit.number 16 (rest.take width)) := by
    split at h
    · next hdigits =>
      have hown := numbers_number (List.all_eq_true.1 hdigits.2)
      rwa [hdigits.1] at hown
    · cases h
  unfold unicodeDigits? at h
  split at h
  · next rest => exact ⟨_, _, rest.drop 4, .short (hnumbers h), by simp⟩
  · next rest => exact ⟨_, _, rest.drop 8, .long (hnumbers h), by simp⟩
  · cases h

theorem unicodeDigits?_isSome_iff {cs : List Char} :
    (unicodeDigits? cs).isSome = true ↔ BeginsEscape cs := by
  constructor
  · intro h
    obtain ⟨ds, hds⟩ := Option.isSome_iff_exists.1 h
    exact beginsEscape_of_unicodeDigits? hds
  · rintro ⟨e, n, rest, hescape, rfl⟩
    obtain ⟨ds, hds, -⟩ := unicodeDigits?_escape hescape rest
    rw [hds]
    rfl

theorem decodeUnicodeFrom_skip (u cs : List Char) :
    decodeUnicodeFrom u.length (u ++ cs) = decodeUnicodeFrom 0 cs := by
  induction u with
  | nil => rfl
  | cons c u ih => exact ih

theorem decodeUnicode_escape {e : List Char} {n : Nat} (h : CodeEscape e n) (cs : List Char) :
    decodeUnicode (e ++ cs) =
      (if n.isValidChar then [Char.ofNat n] else e) ++ decodeUnicode cs := by
  obtain ⟨ds, hds, rfl, hlength⟩ := unicodeDigits?_escape h cs
  cases e with
  | nil => cases h
  | cons c e =>
    have hskip : ds.length + 1 = e.length := by
      rw [List.length_cons] at hlength
      omega
    rw [List.cons_append] at hds
    rw [decodeUnicode, List.cons_append, decodeUnicodeFrom, hds]
    dsimp only
    rw [hskip, decodeUnicodeFrom_skip, ← hlength, ← List.cons_append, List.take_left]
    rfl

theorem decodeUnicode_other {c : Char} {cs : List Char} (h : ¬BeginsEscape (c :: cs)) :
    decodeUnicode (c :: cs) = c :: decodeUnicode cs := by
  have hnone : unicodeDigits? (c :: cs) = none := by
    rwa [← unicodeDigits?_isSome_iff, Bool.not_eq_true, Option.isSome_eq_false_iff,
      Option.isNone_iff_eq_none] at h
  rw [decodeUnicode, decodeUnicodeFrom, hnone]
  rfl

theorem isValidChar_iff {n : Nat} : n.isValidChar ↔ ∃ c : Char, c.toNat = n :=
  ⟨fun h => ⟨Char.ofNat n, by rw [Char.toNat_ofNat, if_pos h]⟩, fun ⟨c, hc⟩ => hc ▸ c.valid⟩

/-- What a text stands for, from the left: escapes for characters are the characters they number,
those that number none stay, and so does everything else. -/
inductive Decodes : List Char → List Char → Prop
  | nil : Decodes [] []
  | character {e cs out : List Char} {c : Char} (h : CodeEscape e c.toNat) (more : Decodes cs out) :
    Decodes (e ++ cs) (c :: out)
  | kept {e cs out : List Char} {n : Nat} (h : CodeEscape e n) (hn : ∀ c : Char, c.toNat ≠ n)
    (more : Decodes cs out) : Decodes (e ++ cs) (e ++ out)
  | other {c : Char} {cs out : List Char} (h : ¬BeginsEscape (c :: cs)) (more : Decodes cs out) :
    Decodes (c :: cs) (c :: out)

theorem Decodes.eq {cs out : List Char} (h : Decodes cs out) : out = decodeUnicode cs := by
  induction h with
  | nil => rfl
  | @character e cs out c h _ ih =>
    rw [decodeUnicode_escape h, if_pos (isValidChar_iff.2 ⟨c, rfl⟩), Char.ofNat_toNat, ih]
    rfl
  | kept h hn _ ih =>
    rw [decodeUnicode_escape h, if_neg, ih]
    intro hvalid
    obtain ⟨c, hc⟩ := isValidChar_iff.1 hvalid
    exact hn c hc
  | other h _ ih => rw [decodeUnicode_other h, ih]

theorem decodes_decodeUnicode (cs : List Char) : Decodes cs (decodeUnicode cs) := by
  induction hlength : cs.length using Nat.strongRecOn generalizing cs with
  | ind size ih =>
    by_cases hbegins : BeginsEscape cs
    · obtain ⟨e, n, rest, hescape, rfl⟩ := hbegins
      have hpos : 0 < e.length := by cases hescape <;> exact Nat.succ_pos _
      have hrest := ih rest.length (by rw [← hlength, List.length_append]; omega) rest rfl
      rw [decodeUnicode_escape hescape]
      by_cases hvalid : n.isValidChar
      · obtain ⟨c, rfl⟩ := isValidChar_iff.1 hvalid
        rw [if_pos hvalid, Char.ofNat_toNat]
        exact .character hescape hrest
      · rw [if_neg hvalid]
        exact .kept hescape (fun c hc => hvalid (isValidChar_iff.2 ⟨c, hc⟩)) hrest
    · cases cs with
      | nil => exact .nil
      | cons c cs =>
        rw [decodeUnicode_other hbegins]
        exact .other hbegins (ih cs.length (by rw [← hlength]; exact Nat.lt_succ_self _) cs rfl)

theorem decodes_iff {cs out : List Char} : Decodes cs out ↔ out = decodeUnicode cs :=
  ⟨Decodes.eq, fun h => h ▸ decodes_decodeUnicode cs⟩

theorem decodes_spelling {t cs : List Char} (h : Spelling CodeEscape (t.map Char.toNat) cs) :
    Decodes cs t := by
  obtain ⟨es, hes, rfl⟩ := h
  induction es generalizing t with
  | nil =>
    cases t with
    | nil => exact .nil
    | cons c t => cases hes
  | cons e es ih =>
    cases t with
    | nil => cases hes
    | cons c t =>
      obtain ⟨he, hmore⟩ := List.forall₂_cons.1 hes
      exact .character he (ih hmore)

/-- An escape for a character is found if there is one. -/
theorem hasUnicode_iff {cs : List Char} :
    hasUnicode cs = true ↔ ∃ before rest, cs = before ++ rest ∧ BeginsEscape rest := by
  induction cs with
  | nil =>
    refine ⟨fun h => absurd h Bool.false_ne_true, ?_⟩
    rintro ⟨before, rest, hcs, hbegins⟩
    obtain ⟨-, rfl⟩ := List.append_eq_nil_iff.1 hcs.symm
    exact absurd (unicodeDigits?_isSome_iff.2 hbegins) (by decide)
  | cons c cs ih =>
    rw [hasUnicode, Bool.or_eq_true, unicodeDigits?_isSome_iff, ih]
    constructor
    · rintro (hbegins | ⟨before, rest, rfl, hbegins⟩)
      · exact ⟨[], c :: cs, rfl, hbegins⟩
      · exact ⟨c :: before, rest, rfl, hbegins⟩
    · rintro ⟨before, rest, hcs, hbegins⟩
      cases before with
      | nil =>
        rw [hcs]
        exact .inl hbegins
      | cons d before =>
        obtain ⟨rfl, rfl⟩ := List.cons.inj hcs
        exact .inr ⟨before, rest, rfl, hbegins⟩

end Escape

namespace Technique

open Escape

/-! ## What is printed -/

/-- The digits of the pattern for bytes. -/
def hexDigit : CharSet :=
  .unions [.range 0x30 0x39, .range 0x61 0x66, .range 0x41 0x46]

/-- One escape of the pattern for bytes. -/
def hexEscape : Pattern :=
  .seqs [.text "\\x", .times 2 (.chars hexDigit)]

theorem contains_of_isHex {c : Char} (h : Digit.isHex c = true) : hexDigit.contains c = true := by
  obtain ⟨d, hd⟩ := Option.isSome_iff_exists.1 h
  have hspans : hexDigit = ⟨[⟨0x30, 0x39⟩, ⟨0x41, 0x46⟩, ⟨0x61, 0x66⟩]⟩ := by decide
  rw [value?_range] at hd
  rw [hspans]
  simp only [CharSet.contains, CharSet.mem, CharSet.memSpans]
  grind

theorem hexEscape_prefers {e : List Char} {n : Nat} (h : ByteEscape e n) (rest : List Char) :
    hexEscape.Prefers e rest := by
  obtain ⟨hds⟩ := h
  obtain ⟨a, b, rfl⟩ := List.length_eq_two.1 hds.length
  have hdigits : ∀ t ∈ [[a], [b]], t ≠ [] ∧ ∀ rest, (Pattern.chars hexDigit).Prefers t rest := by
    intro t ht
    obtain ⟨c, hc, rfl⟩ : ∃ c ∈ [a, b], t = [c] := by simpa using ht
    exact ⟨List.cons_ne_nil c [],
      Pattern.prefers_chars (contains_of_isHex (hds.isHex c hc))⟩
  have htwo : (Pattern.times 2 (.chars hexDigit)).Prefers [[a], [b]].flatten rest :=
    Pattern.prefers_repeat hdigits (Nat.le_refl 2) (by simp) (.inl rfl)
  exact (Pattern.prefers_literal _ _).seq htwo

/-- After the last byte nothing follows that could be one. -/
theorem hexEscape_stops {rest : List Char} (h : rest.head? ≠ some '\\') (w v : Way)
    (hw : w.place.rest = rest) : ¬hexEscape.Goes w v := by
  intro hgoes
  obtain ⟨t, ⟨u, x, rfl, -, rfl⟩, ht⟩ := Pattern.Goes.spells hgoes
  rw [← hw, ht.rest] at h
  exact h rfl

theorem hexEscapes_prefers {es : List (List Char)} (hes : ∀ e ∈ es, ∃ n, ByteEscape e n)
    (hne : es ≠ []) {rest : List Char} (hrest : rest.head? ≠ some '\\') :
    hexEscapes.Prefers es.flatten rest := by
  refine Pattern.prefers_repeat (fun e he => ?_) (List.length_pos_iff.2 hne) (by simp)
    (.inr (hexEscape_stops hrest))
  obtain ⟨n, hescape⟩ := hes e he
  refine ⟨?_, hexEscape_prefers hescape⟩
  rintro rfl
  cases hescape

/-- What prints escaped bytes, up to them. -/
def hexFront : List Char := "echo -e \"".toList

theorem quoteMark_prefers (rest : List Char) : quoteMark.Prefers ['"'] rest :=
  Pattern.prefers_repeat_one (by decide) (by decide) (by simp) (.inl rfl)

theorem hexFront_prefers (cs : List Char) :
    (Pattern.seqs [.text "echo", .some1 .blank, .text "-e", .some1 .blank, quoteMark]).Prefers
      hexFront cs := by
  have hblank {rest : List Char} (hrest : ∀ c ∈ rest.head?, CharSet.blanks.contains c = false) :
      (Pattern.some1 .blank).Prefers [' '] rest :=
    Pattern.prefers_repeat_one (by decide) (by decide) (by simp) (.inr hrest)
  have hdash : (Pattern.some1 .blank).Prefers [' '] ("-e \"".toList ++ cs) :=
    hblank (CharSet.outside_head (by decide))
  have hmark : (Pattern.some1 .blank).Prefers [' '] ("\"".toList ++ cs) :=
    hblank (CharSet.outside_head (by decide))
  exact (Pattern.prefers_literal _ _).seq (hdash.seq ((Pattern.prefers_literal _ _).seq
    (hmark.seq (quoteMark_prefers cs))))

/-- Escaped bytes that are printed are what is remembered, all of them. -/
theorem echoHex_find {es : List (List Char)} (hes : ∀ e ∈ es, ∃ n, ByteEscape e n)
    (hne : es ≠ []) :
    ∃ m, echoHex.find (hexFront ++ (es.flatten ++ ['"'])) = some m ∧ m.group 1 = es.flatten := by
  generalize hcs : hexFront ++ (es.flatten ++ ['"']) = cs
  have hbytes : hexEscapes.Prefers es.flatten ['"'] := hexEscapes_prefers hes hne (by decide)
  obtain ⟨w, hw, hfront⟩ :=
    hexFront_prefers (es.flatten ++ ['"']) cs.length ⟨.front cs, []⟩ hcs.symm (Nat.le_refl _)
  have hwlength : cs.length = hexFront.length + w.place.rest.length := hw.place.length
  have hwrest : w.place.rest = es.flatten ++ ['"'] :=
    List.append_cancel_left (hw.place.rest.symm.trans hcs.symm)
  obtain ⟨v, hv, hgroup⟩ := hbytes cs.length w hwrest (by omega)
  have hvlength := hv.place.length
  have hvrest : v.place.rest = ['"'] := List.append_cancel_left (hv.place.rest.symm.trans hwrest)
  obtain ⟨x, hx, hback⟩ :=
    quoteMark_prefers [] cs.length (v.remember 1 w) hvrest (by show v.place.rest.length ≤ _; omega)
  have hbest : echoHex.Best cs.length ⟨.front cs, []⟩ x := hfront.seq ((hgroup.group 1).seq hback)
  refine ⟨_, Pattern.find_best hbest, ?_⟩
  have hgroups : x.groups = (1, w.place, v.place) :: v.groups := hx.groups
  rw [Pattern.Match.group, Pattern.Match.group?, hgroups]
  exact hv.place.textTo

theorem exists_escape {es : List (List Char)} {ns : List Nat} {escape : List Char → Nat → Prop}
    (h : List.Forall₂ escape es ns) : ∀ e ∈ es, ∃ n, escape e n := by
  induction h with
  | nil => exact fun e he => by cases he
  | cons hescape _ ih => exact List.forall_mem_cons.2 ⟨⟨_, hescape⟩, ih⟩

/-- A command printed byte by byte is found and read back. -/
theorem detectHex_spelling {t : String} {cs : List Char}
    (h : Spelling ByteEscape (t.toUTF8.data.toList.map UInt8.toNat) cs)
    (hlooks : looksLikeCommand t.toList = true) :
    detectHex (hexFront ++ (cs ++ ['"'])) = some (plain t.toList 90) := by
  have hdecode := decodeHex_spelling h
  obtain ⟨es, hes, rfl⟩ := h
  have hne : es ≠ [] := by
    rintro rfl
    rw [← hdecode] at hlooks
    revert hlooks
    decide
  obtain ⟨m, hfind, hgroup⟩ := echoHex_find (exists_escape hes) hne
  have hprinted : echoedHex (hexFront ++ (es.flatten ++ ['"'])) = some t.toList := by
    rw [echoedHex, hfind]
    simp only [Option.bind_eq_bind, Option.bind_some]
    rw [hgroup, hdecode, if_pos hlooks]
  rw [detectHex, hprinted]

theorem detectUnicode_eq_some_iff {cs : List Char} {d : Detection} :
    detectUnicode cs = some d ↔
      (∃ before rest, cs = before ++ rest ∧ BeginsEscape rest) ∧
        ∃ out, Decodes cs out ∧ d = ⟨out, 70, none⟩ := by
  rw [detectUnicode, ← hasUnicode_iff]
  cases hasUnicode cs with
  | false =>
    constructor
    · intro h
      cases h
    · rintro ⟨h, -⟩
      cases h
  | true =>
    constructor
    · intro h
      exact ⟨rfl, decodeUnicode cs, decodes_decodeUnicode cs, (Option.some.inj h).symm⟩
    · rintro ⟨-, out, hout, rfl⟩
      rw [hout.eq]
      rfl

/-- Characters spelled one by one are found and read back. -/
theorem detectUnicode_spelling {t cs : List Char} (h : Spelling CodeEscape (t.map Char.toNat) cs)
    (hne : t ≠ []) : detectUnicode cs = some ⟨t, 70, none⟩ := by
  refine detectUnicode_eq_some_iff.2 ⟨?_, t, decodes_spelling h, rfl⟩
  obtain ⟨es, hes, rfl⟩ := h
  obtain ⟨c, t, rfl⟩ := List.exists_cons_of_ne_nil hne
  cases hes with
  | @cons e _ es _ hescape _ => exact ⟨[], _, rfl, e, _, es.flatten, hescape, List.flatten_cons⟩

/-- The decoders of escapes undo every spelling of a text: by its bytes, where it is printed by a
command or stands alone, and by its characters.  In any other text as well, escapes for characters
are all that changes. -/
theorem escapes_decoded (t : String) :
    (∀ cs, Spelling ByteEscape (t.toUTF8.data.toList.map UInt8.toNat) cs →
      decodeHex cs = t.toList ∧
        (looksLikeCommand t.toList = true →
          detectHex ("echo -e \"".toList ++ (cs ++ ['"'])) = some ⟨t.toList, 90, none⟩)) ∧
    (∀ cs, Spelling CodeEscape (t.toList.map Char.toNat) cs → t ≠ "" →
      detectUnicode cs = some ⟨t.toList, 70, none⟩) ∧
    (∀ cs out, Decodes cs out ↔ out = decodeUnicode cs) ∧
    ∀ cs d, detectUnicode cs = some d ↔
      (∃ before rest, cs = before ++ rest ∧ BeginsEscape rest) ∧
        ∃ out, Decodes cs out ∧ d = ⟨out, 70, none⟩ := by
  refine ⟨fun cs h => ⟨decodeHex_spelling h, detectHex_spelling h⟩, fun cs h hne => ?_,
    fun cs out => decodes_iff, fun cs d => detectUnicode_eq_some_iff⟩
  exact detectUnicode_spelling h (by simpa using hne)

/-- A text with a character of two bytes, spelled with digits of both cases and with both kinds of
escapes for characters. -/
theorem escapes_decoded_mixed :
    decodeHex "\\x72\\x6D\\x20\\xc3\\xB1".toList = "rm ñ".toList ∧
      detectHex "echo -e \"\\x72\\x6D\\x20\\xc3\\xB1\"".toList = some ⟨"rm ñ".toList, 90, none⟩ ∧
      detectUnicode "\\u0072\\U0000006D\\u0020\\u00f1".toList = some ⟨"rm ñ".toList, 70, none⟩ := by
  have hlooks : looksLikeCommand "rm ñ".toList = true := by decide +kernel
  have hutf8 : "rm ñ".toUTF8.data.toList.map UInt8.toNat = [0x72, 0x6d, 0x20, 0xc3, 0xb1] := by
    decide +kernel
  have hbytes : Spelling ByteEscape ("rm ñ".toUTF8.data.toList.map UInt8.toNat)
      "\\x72\\x6D\\x20\\xc3\\xB1".toList := by
    rw [hutf8]
    exact ⟨["\\x72".toList, "\\x6D".toList, "\\x20".toList, "\\xc3".toList, "\\xB1".toList],
      .cons (.mk ⟨by decide, by decide⟩) (.cons (.mk ⟨by decide, by decide⟩)
        (.cons (.mk ⟨by decide, by decide⟩) (.cons (.mk ⟨by decide, by decide⟩)
          (.cons (.mk ⟨by decide, by decide⟩) .nil)))), rfl⟩
  have hchars : Spelling CodeEscape ("rm ñ".toList.map Char.toNat)
      "\\u0072\\U0000006D\\u0020\\u00f1".toList :=
    ⟨["\\u0072".toList, "\\U0000006D".toList, "\\u0020".toList, "\\u00f1".toList],
      .cons (.short ⟨by decide, by decide⟩) (.cons (.long ⟨by decide, by decide⟩)
        (.cons (.short ⟨by decide, by decide⟩) (.cons (.short ⟨by decide, by decide⟩) .nil))), rfl⟩
  obtain ⟨hhex, hunicode, -⟩ := escapes_decoded "rm ñ"
  obtain ⟨hdecode, hdetect⟩ := hhex _ hbytes
  exact ⟨hdecode, hdetect hlooks, hunicode _ hchars (by decide)⟩

end Technique

end ShellGuard
