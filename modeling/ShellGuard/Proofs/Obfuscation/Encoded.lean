import Mathlib
import ShellGuard.Obfuscation.Detector
import ShellGuard.Proofs.Codec.Base64
import ShellGuard.Proofs.Codec.Utf8
import ShellGuard.Proofs.Pattern.Matches
import ShellGuard.Proofs.Text.Occurrences

/-!
# Commands printed into base64

A command that is encoded and printed into `base64` is found and read back, and no other technique
has a say in it.

The first half is about one pattern.  The text it remembers is the whole payload, since no way
through the pattern can stop inside it: what has to follow is not a sign of base64.  The second half
is about the other six techniques.  They could be set off by what the payload happens to spell, but
each of them asks for a character that the command does not hold, or for two characters side by side
that never meet in it (`Apart`).
-/

namespace ShellGuard

namespace Technique

-- decided character by character; the statement itself would be decided over all characters
theorem forall_of_all {cs : List Char} {p : Char → Prop} [DecidablePred p]
    (h : (cs.all fun c => p c) = true) : ∀ c ∈ cs, p c := by
  simpa using h

/-! ## Where the other techniques stay silent -/

/-- Two characters side by side that begin no evaluation, no script taken from the network and no
option for escapes. -/
def Apart (x y : Char) : Prop :=
  ¬(x = '-' ∧ y = 'e') ∧ ¬(x ∈ ['l', 'e', 't'] ∧ CharSet.blanks.contains y = true)

instance (x y : Char) : Decidable (Apart x y) :=
  inferInstanceAs (Decidable (_ ∧ _))

/-- A text in which only base64 can hide something. -/
structure Quiet (cs : List Char) : Prop where
  plain : ∀ c ∈ cs, c ∉ ['$', '\\', '`']
  apart : cs.IsChain Apart

namespace Quiet

variable {cs : List Char}

theorem not_mem {c : Char} (h : Quiet cs) (hc : c ∈ ['$', '\\', '`']) : c ∉ cs :=
  fun hmem => h.plain c hmem hc

theorem apart_of_meet {x y : Char} (h : Quiet cs) (hxy : [x, y] <:+: cs) : Apart x y := by
  have hchain := List.IsChain.infix h.apart hxy
  simpa using hchain

/-- A pattern whose texts all hold a character that is not there. -/
theorem find_of_mem {p : Pattern} {c : Char} (h : Quiet cs) (hc : c ∈ ['$', '\\', '`'])
    (hp : ∀ t, p.Spells t → c ∈ t) : p.find cs = none :=
  Pattern.find_eq_none fun t ht hinside => h.not_mem hc (hinside.subset (hp t ht))

/-- A pattern whose texts all hold two characters that never meet. -/
theorem find_of_pair {p : Pattern} (h : Quiet cs)
    (hp : ∀ t, p.Spells t → ∃ x y, [x, y] <:+: t ∧ ¬Apart x y) : p.find cs = none := by
  refine Pattern.find_eq_none fun t ht hinside => ?_
  obtain ⟨x, y, hxy, hbad⟩ := hp t ht
  exact hbad (h.apart_of_meet (hxy.trans hinside))

theorem quotedHex_find (h : Quiet cs) : quotedHex.find cs = none := by
  refine h.find_of_mem (c := '$') (by decide) ?_
  rintro t ⟨u, v, rfl, -, rfl⟩
  exact List.mem_append_left _ (by decide)

theorem variableUse_find (h : Quiet cs) : variableUse.find cs = none := by
  refine h.find_of_mem (c := '$') (by decide) ?_
  rintro t ⟨u, v, rfl, -, rfl⟩
  exact List.mem_append_left _ (by decide)

theorem echoHex_find (h : Quiet cs) : echoHex.find cs = none := by
  refine h.find_of_pair ?_
  rintro t ⟨u, v, rfl, ⟨b, v, -, ⟨u, v, rfl, -, rfl⟩, rfl⟩, rfl⟩
  refine ⟨'-', 'e', ?_, by decide⟩
  exact ⟨"echo".toList ++ b, v, by simp⟩

theorem evalCall_find (h : Quiet cs) : evalCall.find cs = none := by
  refine h.find_of_pair ?_
  rintro t ⟨u, v, rfl, ⟨u, b, rfl, hb, rfl⟩, rfl⟩
  obtain ⟨c, b, hc, rfl⟩ := Pattern.spells_some1_chars hb
  refine ⟨'l', c, ⟨"eva".toList, b, rfl⟩, ?_⟩
  intro hapart
  exact hapart.2 ⟨by decide, hc⟩

/-- A word that ends in `x` before a blank. -/
theorem pair_of_word {word : String} {q : Pattern} {t : List Char} (before : List Char) (x : Char)
    (hword : word.toList = before ++ [x]) (hx : x ∈ ['l', 'e', 't'])
    (h : (Pattern.seq (.text word) (.seq (.some1 .blank) q)).Spells t) :
    ∃ x y, [x, y] <:+: t ∧ ¬Apart x y := by
  obtain ⟨u, v, rfl, ⟨b, v, hb, -, rfl⟩, rfl⟩ := h
  obtain ⟨c, b, hc, rfl⟩ := Pattern.spells_some1_chars hb
  refine ⟨x, c, ⟨before, b ++ v, by simp [hword]⟩, ?_⟩
  intro hapart
  exact hapart.2 ⟨hx, hc⟩

theorem remoteSource_find (h : Quiet cs) : remoteSource.find cs = none := by
  refine h.find_of_pair fun t ht => ?_
  rcases ht with ht | ht | ht
  · exact pair_of_word "sourc".toList 'e' (by decide) (by decide) ht
  · exact pair_of_word "wge".toList 't' (by decide) (by decide) ht
  · exact pair_of_word "sourc".toList 'e' (by decide) (by decide) ht

theorem detectHex_eq (h : Quiet cs) : detectHex cs = none := by
  simp [detectHex, echoedHex, unquotedHex, h.echoHex_find, h.quotedHex_find]

theorem detectVariables_eq (h : Quiet cs) : detectVariables cs = none := by
  simp [detectVariables, Pattern.allMatches_eq_nil h.variableUse_find]

theorem detectEval_eq (h : Quiet cs) : detectEval cs = none := by
  simp [detectEval, h.evalCall_find, h.remoteSource_find]

end Quiet

end Technique

namespace Escape

theorem hasUnicode_of_not_mem {cs : List Char} (h : '\\' ∉ cs) : hasUnicode cs = false := by
  induction cs with
  | nil => rfl
  | cons c cs ih =>
    have hc : '\\' ≠ c := List.ne_of_not_mem_cons h
    have hcs : '\\' ∉ cs := List.not_mem_of_not_mem_cons h
    have hnone : unicodeDigits? (c :: cs) = none := by
      unfold unicodeDigits?
      split
      · next heq => exact absurd (List.cons.inj heq).1.symm hc
      · next heq => exact absurd (List.cons.inj heq).1.symm hc
      · rfl
    rw [hasUnicode, hnone, ih hcs]
    rfl

end Escape

namespace Text

theorem occurs_iff {needle cs : List Char} : occurs needle cs = true ↔ needle <:+: cs := by
  induction cs with
  | nil => rw [occurs, List.isEmpty_iff, List.infix_nil]
  | cons c cs ih =>
    rw [occurs, Bool.or_eq_true, List.isPrefixOf_iff_prefix, ih, List.infix_cons_iff]

end Text

namespace Technique

theorem replaceTricks_of_not_occurs {tricks : List (String × String)} {cs : List Char}
    (h : ∀ trick ∈ tricks, Text.occurs trick.1.toList cs = false) :
    replaceTricks tricks cs = (cs, false) := by
  induction tricks with
  | nil => rfl
  | cons trick tricks ih =>
    obtain ⟨htrick, htricks⟩ := List.forall_mem_cons.1 h
    rw [replaceTricks, if_neg (by rw [htrick]; exact Bool.false_ne_true)]
    exact ih htricks

namespace Quiet

variable {cs : List Char}

theorem detectUnicode_eq (h : Quiet cs) : detectUnicode cs = none := by
  have hnone := Escape.hasUnicode_of_not_mem (h.not_mem (by decide))
  rw [detectUnicode, hnone, if_neg Bool.false_ne_true]

theorem detectSeparators_eq (h : Quiet cs) : detectSeparators cs = none := by
  have hdollar : ∀ trick ∈ separatorTricks, '$' ∈ trick.1.toList := by decide
  have hnone : replaceTricks separatorTricks cs = (cs, false) := by
    refine replaceTricks_of_not_occurs fun trick htrick => Bool.eq_false_iff.2 fun hoccurs => ?_
    exact h.not_mem (by decide) ((Text.occurs_iff.1 hoccurs).subset (hdollar trick htrick))
  rw [detectSeparators, hnone]
  rfl

theorem detectSubstitutions_eq (h : Quiet cs) : detectSubstitutions cs = none := by
  have hticks : cs.count '`' = 0 := List.count_eq_zero.2 (h.not_mem (by decide))
  have hopened : Text.occurrences cs ['$', '('] = [] :=
    Text.occurrences_eq_nil fun hinside =>
      h.not_mem (c := '$') (by decide) (hinside.subset List.mem_cons_self)
  rw [detectSubstitutions, substitutionCount, hticks, hopened]
  rfl

end Quiet

/-! ## The payload -/

/-- The signs a payload may be made of. -/
def payloadSign : CharSet :=
  .union base64Digit (.char '=')

theorem payloadSign_of_mem {c : Char} (h : c ∈ Base64.signs) : payloadSign.contains c = true := by
  have hall : ∀ c ∈ Base64.signs, payloadSign.contains c = true := forall_of_all (by decide)
  exact hall c h

/-- What prints a payload into `base64`, up to the payload. -/
def front : List Char := "echo \"".toList

/-- What prints a payload into `base64`, behind the payload. -/
def back : List Char := "\" | base64 -d".toList

theorem quiet_append {cs tail : List Char} (hcs : ∀ c ∈ cs, c ∈ Base64.signs)
    (htail : Quiet (back ++ tail)) : Quiet (front ++ (cs ++ (back ++ tail))) where
  plain := by
    have hsign : ∀ c ∈ Base64.signs, c ∉ ['$', '\\', '`'] := forall_of_all (by decide)
    have hfront : ∀ c ∈ front, c ∉ ['$', '\\', '`'] := forall_of_all (by decide)
    intro c hc
    rcases List.mem_append.1 hc with hc | hc
    · exact hfront c hc
    · rcases List.mem_append.1 hc with hc | hc
      · exact hsign c (hcs c hc)
      · exact htail.plain c hc
  apart := by
    have hdash : ∀ x ∈ Base64.signs, x ≠ '-' := forall_of_all (by decide)
    have hblank : ∀ y ∈ '"' :: Base64.signs, ¬CharSet.blanks.contains y = true :=
      forall_of_all (by decide)
    have hsigns : cs.IsChain Apart := by
      refine List.Pairwise.isChain (List.pairwise_of_forall_mem_list ?_)
      intro x hx y hy
      exact ⟨fun h => hdash x (hcs x hx) h.1,
        fun h => hblank y (List.mem_cons_of_mem _ (hcs y hy)) h.2⟩
    have hlast : ∀ x ∈ cs.getLast?, ∀ y ∈ (back ++ tail).head?, Apart x y := by
      intro x hx y hy
      obtain rfl : '"' = y := Option.some.inj hy
      exact ⟨fun h => absurd h.2 (by decide), fun h => hblank _ List.mem_cons_self h.2⟩
    have hfirst : ∀ x ∈ front.getLast?, ∀ y ∈ (cs ++ (back ++ tail)).head?, Apart x y := by
      intro x hx y hy
      obtain rfl : '"' = x := Option.some.inj hx
      exact ⟨fun h => absurd h.1 (by decide), fun h => absurd h.1 (by decide)⟩
    have hfront : front.IsChain Apart := by decide
    refine List.isChain_append.2 ⟨hfront, ?_, hfirst⟩
    exact List.isChain_append.2 ⟨hsigns, htail.apart, hlast⟩

/-! ## What is remembered -/

/-- The quotes that may stand around a payload. -/
def quotes : CharSet := .ofText "\"'"

theorem disjoint (c : Char) :
    ¬(CharSet.blanks.contains c = true ∧ quotes.contains c = true) ∧
      ¬(CharSet.blanks.contains c = true ∧ payloadSign.contains c = true) ∧
      ¬(quotes.contains c = true ∧ payloadSign.contains c = true) := by
  have hquotes : quotes = ⟨[⟨0x22, 0x22⟩, ⟨0x27, 0x27⟩]⟩ := by decide
  have hsigns : payloadSign =
      ⟨[⟨0x2b, 0x2b⟩, ⟨0x2f, 0x39⟩, ⟨0x3d, 0x3d⟩, ⟨0x41, 0x5a⟩, ⟨0x61, 0x7a⟩]⟩ := by decide
  rw [hquotes, hsigns]
  simp only [CharSet.contains, CharSet.mem, CharSet.memSpans, CharSet.blanks]
  grind

/-- What has to follow a payload. -/
def payloadEnd : Pattern :=
  .seqs [quoteMark, .many .blank, .char '|', .many .blank, base64Decode]

theorem payloadEnd_head {t : List Char} (h : payloadEnd.Spells t) :
    ∃ x u, t = x :: u ∧ payloadSign.contains x = false := by
  obtain ⟨q, v, hq, ⟨b, v, hb, ⟨u, v, rfl, -, rfl⟩, rfl⟩, rfl⟩ := h
  obtain ⟨-, hquotes⟩ := Pattern.spells_repeat_chars hq
  obtain ⟨-, hblanks⟩ := Pattern.spells_repeat_chars hb
  cases q with
  | cons x q =>
    refine ⟨x, _, rfl, Bool.eq_false_iff.2 fun hx => ?_⟩
    exact (disjoint x).2.2 ⟨hquotes x List.mem_cons_self, hx⟩
  | nil =>
    cases b with
    | cons x b =>
      refine ⟨x, _, rfl, Bool.eq_false_iff.2 fun hx => ?_⟩
      exact (disjoint x).2.1 ⟨hblanks x List.mem_cons_self, hx⟩
    | nil => exact ⟨'|', _, rfl, by decide⟩

/-- What comes between `echo` and the payload, told apart from it. -/
theorem payload_start {b q t v : List Char} {c x : Char}
    (hb : ∀ c ∈ b, CharSet.blanks.contains c = true) (hq : ∀ c ∈ q, quotes.contains c = true)
    (hx : payloadSign.contains x = true) (hc : payloadSign.contains c = true)
    (h : b ++ (q ++ x :: t) = ' ' :: '"' :: c :: v) : x :: t = c :: v := by
  have hfollows : ∃ z r, q ++ x :: t = z :: r ∧ CharSet.blanks.contains z = false := by
    cases q with
    | nil => exact ⟨x, t, rfl, Bool.eq_false_iff.2 fun h => (disjoint x).2.1 ⟨h, hx⟩⟩
    | cons z q =>
      refine ⟨z, q ++ x :: t, rfl, Bool.eq_false_iff.2 fun h => ?_⟩
      exact (disjoint z).1 ⟨h, hq z List.mem_cons_self⟩
  obtain ⟨z, r, hz, hzblank⟩ := hfollows
  have hblank : b = [' '] := by
    rw [hz] at h
    exact (CharSet.run_unique (u := [' ']) h hb (forall_of_all (by decide))
      (CharSet.outside_head hzblank) (CharSet.outside_head (by decide))).1
  subst hblank
  have hrest : q ++ x :: t = ['"'] ++ c :: v := (List.cons.inj h).2
  have hquote : q = ['"'] := by
    have hend (d : Char) (hd : payloadSign.contains d = true) : quotes.contains d = false :=
      Bool.eq_false_iff.2 fun h => (disjoint d).2.2 ⟨h, hd⟩
    exact (CharSet.run_unique hrest hq (forall_of_all (by decide))
      (CharSet.outside_head (hend x hx)) (CharSet.outside_head (hend c hc))).1
  subst hquote
  exact List.append_cancel_left hrest

/-- The text remembered on any way through the pattern is the payload. -/
theorem base64Pipe_group {cs tail : List Char} (hcs : ∀ c ∈ cs, c ∈ Base64.signs) (hne : cs ≠ [])
    {w : Way} (h : base64Pipe.Goes ⟨.front (front ++ (cs ++ (back ++ tail))), []⟩ w) :
    ∃ p q, w.groups = [(1, p, q)] ∧ p.textTo q = cs := by
  obtain ⟨w₁, hecho, w₂, hblanks, w₃, hquote, w₄, ⟨v, hpayload, rfl⟩, hend⟩ := h
  obtain ⟨b, -, -, hb, hbread⟩ := Pattern.goes_repeat_chars.1 hblanks
  obtain ⟨q, -, -, hq, hqread⟩ := Pattern.goes_repeat_chars.1 hquote
  obtain ⟨t, ht, -, htall, htread⟩ := Pattern.goes_repeat_chars.1 hpayload
  obtain ⟨u, hu, huahead⟩ := Pattern.Goes.spells hend
  obtain ⟨x, u, rfl, hx⟩ := payloadEnd_head hu
  obtain ⟨y, t, rfl⟩ := List.exists_cons_of_length_pos ht
  obtain ⟨c, cs, rfl⟩ := List.exists_cons_of_ne_nil hne
  have hsigns : ∀ d ∈ c :: cs, payloadSign.contains d = true :=
    fun d hd => payloadSign_of_mem (hcs d hd)
  have htext :
      b ++ (q ++ y :: (t ++ v.place.rest)) = ' ' :: '"' :: c :: (cs ++ (back ++ tail)) := by
    have hall : "echo".toList ++ ' ' :: '"' :: c :: (cs ++ (back ++ tail)) =
        "echo".toList ++ w₁.place.rest := hecho.place.rest
    rw [hbread.place.rest, hqread.place.rest, htread.place.rest] at hall
    exact (List.append_cancel_left hall).symm
  have hpay : y :: t ++ x :: (u ++ w.place.rest) = c :: cs ++ '"' :: (back.tail ++ tail) := by
    have hstart := payload_start hb hq (htall y List.mem_cons_self) (hsigns c List.mem_cons_self)
      htext
    rw [show v.place.rest = x :: (u ++ w.place.rest) from huahead.rest] at hstart
    exact hstart
  have hsame : y :: t = c :: cs :=
    (CharSet.run_unique hpay htall hsigns (CharSet.outside_head hx)
      (CharSet.outside_head (by decide))).1
  refine ⟨w₃.place, v.place, ?_, ?_⟩
  · have hgroups : w.groups = (1, w₃.place, v.place) :: v.groups :=
      Pattern.Goes.groups hend (by decide)
    rw [hgroups, htread.groups, hqread.groups, hbread.groups, Way.Reads.groups hecho]
  · rw [htread.place.textTo, hsame]

/-! ## What is found -/

theorem base64Decode_takes (rest : List Char) : base64Decode.Takes "base64 -d".toList rest := by
  have hblank : (Pattern.some1 .blank).Takes [' '] ("-d".toList ++ rest) :=
    Pattern.takes_repeat_one (by decide) (by simp) (by decide)
  exact (Pattern.takes_literal _ _).seq (hblank.seq ((Pattern.takes_literal _ _).alt_left _))

theorem many_blank_takes (rest : List Char) : (Pattern.many .blank).Takes [' '] rest :=
  Pattern.takes_repeat_one (by decide) (by simp) (by decide)

theorem quoteMark_takes (rest : List Char) : quoteMark.Takes ['"'] rest :=
  Pattern.takes_repeat_one (by decide) (by simp) (by decide)

theorem base64Pipe_takes {cs : List Char} (hcs : ∀ c ∈ cs, c ∈ Base64.signs) (hne : cs ≠ [])
    (tail : List Char) : base64Pipe.Takes (front ++ (cs ++ back)) tail := by
  have hblank (rest : List Char) : (Pattern.some1 .blank).Takes [' '] rest :=
    Pattern.takes_repeat_one (by decide) (by simp) (by decide)
  have hpayload (rest : List Char) : (Pattern.some1 (.chars payloadSign)).Takes cs rest :=
    Pattern.takes_repeat_chars (List.length_pos_iff.2 hne) (by simp)
      fun c hc => payloadSign_of_mem (hcs c hc)
  have hend : payloadEnd.Takes back tail :=
    (quoteMark_takes _).seq ((many_blank_takes _).seq ((Pattern.takes_literal _ _).seq
      ((many_blank_takes _).seq (base64Decode_takes _))))
  exact (Pattern.takes_literal _ _).seq ((hblank _).seq ((quoteMark_takes _).seq
    (((hpayload _).group 1).seq hend)))

/-- A payload printed into `base64` is read back. -/
theorem pipedBase64_eq {cs tail decoded : List Char} (hcs : ∀ c ∈ cs, c ∈ Base64.signs)
    (hne : cs ≠ []) (hdecode : decodeBase64 cs = some decoded)
    (hlooks : looksLikeCommand decoded = true) :
    pipedBase64 (front ++ (cs ++ (back ++ tail))) = some decoded := by
  have hrest : front ++ (cs ++ (back ++ tail)) = front ++ (cs ++ back) ++ tail := by
    simp only [List.append_assoc]
  obtain ⟨w, hw, -⟩ := base64Pipe_takes hcs hne tail ⟨.front _, []⟩ hrest
  obtain ⟨v, hv, hfind⟩ := Pattern.find_front hw
  obtain ⟨p, q, hgroups, htext⟩ := base64Pipe_group hcs hne hv
  have hgroup (start : Place) : Pattern.Match.group ⟨start, v.place, v.groups⟩ 1 = cs := by
    rw [hgroups]
    exact htext
  rw [pipedBase64, hfind]
  simp only [Option.bind_eq_bind, Option.bind_some]
  rw [hgroup, hdecode]
  simp [hlooks]

theorem base64ToShell_takes : base64ToShell.Takes "base64 -d | bash".toList [] := by
  have hshell : (Pattern.seq (.alts (["bash", "sh", "zsh"].map .text)) .wordBoundary).Takes
      "bash".toList [] := by
    intro w hw
    obtain ⟨v, hv, hread⟩ := (Pattern.takes_literal "bash".toList []).alt_left _ w hw
    have hrest : v.place.rest = [] := List.append_cancel_left (hread.rest.symm.trans hw)
    refine ⟨v, ⟨v, hv, ?_, rfl⟩, hread⟩
    have hword : Anchor.isWord false 'h' = true := by decide +kernel
    have hlast : v.place.before = some 'h' := hread.before
    rw [Anchor.holds, hrest, hlast, Option.any_some, hword]
    rfl
  exact (base64Decode_takes _).seq ((many_blank_takes _).seq ((Pattern.takes_literal _ _).seq
    ((many_blank_takes _).seq ((Pattern.takes_opt_nil _ _).seq hshell))))

theorem base64ToShell_find (cs : List Char) :
    (base64ToShell.find (front ++ (cs ++ (back ++ " | bash".toList)))).isSome = true := by
  rw [Pattern.find_isSome_iff]
  obtain ⟨w, hw, -⟩ := base64ToShell_takes
    ⟨Pattern.placeBehind (front ++ (cs ++ "\" | ".toList)) "base64 -d | bash".toList, []⟩ rfl
  refine ⟨_, _, w, ?_, hw⟩
  simp only [List.append_assoc]
  rfl

/-- Nothing is piped on: the only bar stands before the only option. -/
theorem base64ToShell_find_none {cs : List Char} (hcs : ∀ c ∈ cs, c ∈ Base64.signs) :
    base64ToShell.find (front ++ (cs ++ back)) = none := by
  have hsign : ∀ c ∈ Base64.signs, ¬(c == '-' || c == '|') = true := forall_of_all (by decide)
  have hfilter : (front ++ (cs ++ back)).filter (fun c => c == '-' || c == '|') = ['|', '-'] := by
    rw [List.filter_append, List.filter_append,
      List.filter_eq_nil_iff.2 fun c hc => hsign c (hcs c hc)]
    decide
  refine Pattern.find_eq_none ?_
  rintro t ⟨u, v, ⟨a, d, -, ⟨b, d, -, hoption, rfl⟩, rfl⟩,
    ⟨b', v, -, ⟨bar, v, rfl, -, rfl⟩, rfl⟩, rfl⟩ hinside
  have hdash : '-' ∈ d := by
    rcases hoption with rfl | rfl
    · decide
    · decide
  have hleft : ['-'].Sublist (a ++ (b ++ d)) := by
    rw [List.singleton_sublist]
    simp [hdash]
  have hright : ['|'].Sublist (b' ++ (['|'] ++ v)) := by
    rw [List.singleton_sublist]
    simp
  have hpair : ['-', '|'].Sublist (front ++ (cs ++ back)) :=
    (hleft.append hright).trans hinside.sublist
  have hordered := hpair.filter (fun c => c == '-' || c == '|')
  rw [hfilter] at hordered
  revert hordered
  decide

theorem detectBase64_of_piped {cs decoded : List Char} (h : pipedBase64 cs = some decoded) :
    detectBase64 cs =
      some ⟨decoded, 90, if (base64ToShell.find cs).isSome then some .critical else none⟩ := by
  rw [detectBase64, h]

end Technique

namespace Obfuscation

/-- Base64 alone hides a command, and it hides `t`. -/
structure Recovers (o : Obfuscation) (t : String) (level : RiskLevel) : Prop where
  isObfuscated : o.isObfuscated = true
  techniques : o.techniques = ["Base64 Encoding"]
  confidence : o.confidence = 90
  deobfuscated : o.deobfuscated = t
  riskLevel : o.riskLevel = level

theorem detect_recovers {command t : String} {own : Option RiskLevel}
    (hquiet : Technique.Quiet command.toList)
    (hbase : Technique.detectBase64 command.toList = some ⟨t.toList, 90, own⟩) :
    Recovers (detect command) t (RiskLevel.low.join (own.getD .high)) := by
  have hhits : ∃ technique : Technique, technique.name = "Base64 Encoding" ∧
      technique.level = .high ∧ hits command = [⟨technique, ⟨t.toList, 90, own⟩⟩] := by
    refine ⟨⟨"Base64 Encoding", "Detects base64 encoded commands", .high, Technique.detectBase64⟩,
      rfl, rfl, ?_⟩
    simp only [hits, ShellGuard.techniques, List.filterMap_cons, List.filterMap_nil, hbase,
      hquiet.detectHex_eq, hquiet.detectUnicode_eq, hquiet.detectVariables_eq,
      hquiet.detectSeparators_eq, hquiet.detectSubstitutions_eq, hquiet.detectEval_eq,
      Option.map_none, Option.map_some]
  obtain ⟨technique, hname, hlevel, hhits⟩ := hhits
  rw [detect, hhits]
  constructor
  · rfl
  · show [technique.name] = _
    rw [hname]
  · rfl
  · exact String.ofList_toList
  · show RiskLevel.low.join (own.getD technique.level) = _
    rw [hlevel]

/-- The bytes of a text in base64. -/
def payload (t : String) : String :=
  String.ofList (Base64.encode (t.toUTF8.data.toList.map UInt8.toNat))

theorem bytes_lt (t : String) : ∀ b ∈ t.toUTF8.data.toList.map UInt8.toNat, b < 256 := by
  intro b hb
  obtain ⟨byte, -, rfl⟩ := List.mem_map.1 hb
  exact byte.toNat_lt

theorem payload_signs (t : String) : ∀ c ∈ (payload t).toList, c ∈ Base64.signs := by
  rw [payload, String.toList_ofList]
  exact Base64.encode_signs (bytes_lt t)

theorem decodeBase64_payload (t : String) :
    Technique.decodeBase64 (payload t).toList = some t.toList := by
  rw [payload, String.toList_ofList, Technique.decodeBase64, Base64.decode?_encode (bytes_lt t),
    Option.bind_some, ← Utf8.encode_toList, Utf8.decode?_encode]

theorem payload_ne_nil {t : String} (h : looksLikeCommand t.toList = true) :
    (payload t).toList ≠ [] := by
  intro hnil
  have hdecode := decodeBase64_payload t
  rw [hnil] at hdecode
  have hempty : t.toList = [] := (Option.some.inj hdecode).symm
  rw [hempty] at h
  revert h
  decide

/-- What is known about a command that prints a payload into `base64`: its level depends on whether
what is decoded goes to a shell. -/
theorem detect_command {t command : String} {tail : List Char}
    (h : looksLikeCommand t.toList = true)
    (hcommand : command.toList =
      Technique.front ++ ((payload t).toList ++ (Technique.back ++ tail)))
    (hquiet : Technique.Quiet (Technique.back ++ tail)) :
    Recovers (detect command) t
      (if (Technique.base64ToShell.find command.toList).isSome then .critical else .high) := by
  have hsigns := payload_signs t
  have hpiped : Technique.pipedBase64 command.toList = some t.toList := by
    rw [hcommand]
    exact Technique.pipedBase64_eq hsigns (payload_ne_nil h) (decodeBase64_payload t) h
  have hquiet' : Technique.Quiet command.toList := by
    rw [hcommand]
    exact Technique.quiet_append hsigns hquiet
  have hrecovers := detect_recovers hquiet' (Technique.detectBase64_of_piped hpiped)
  split at hrecovers
  · next hshell => rwa [if_pos hshell]
  · next hshell => rwa [if_neg hshell]

/-- A command in base64 that is decoded is found and read back, whether it goes to a shell or
not. -/
theorem detect_payload (t : String) (h : looksLikeCommand t.toList = true) :
    Recovers (detect ("echo \"" ++ payload t ++ "\" | base64 -d | bash")) t .critical ∧
      Recovers (detect ("echo \"" ++ payload t ++ "\" | base64 -d")) t .high := by
  constructor
  · have hcommand : ("echo \"" ++ payload t ++ "\" | base64 -d | bash").toList =
        Technique.front ++ ((payload t).toList ++ (Technique.back ++ " | bash".toList)) := by
      simp only [String.toList_append, List.append_assoc]
      rfl
    have hrecovers := detect_command h hcommand ⟨Technique.forall_of_all (by decide), by decide⟩
    rwa [hcommand, if_pos (Technique.base64ToShell_find _)] at hrecovers
  · have hcommand : ("echo \"" ++ payload t ++ "\" | base64 -d").toList =
        Technique.front ++ ((payload t).toList ++ (Technique.back ++ [])) := by
      simp only [String.toList_append, List.append_assoc]
      rfl
    have hrecovers := detect_command h hcommand ⟨Technique.forall_of_all (by decide), by decide⟩
    rwa [hcommand, List.append_nil, Technique.base64ToShell_find_none (payload_signs t)] at hrecovers

/-- A payload with a character of two bytes and with padding. -/
theorem detect_payload_padded :
    looksLikeCommand "rm -rf ~/ñ".toList = true ∧
      Recovers (detect "echo \"cm0gLXJmIH4vw7E=\" | base64 -d | bash") "rm -rf ~/ñ" .critical ∧
      Recovers (detect "echo \"cm0gLXJmIH4vw7E=\" | base64 -d") "rm -rf ~/ñ" .high := by
  have hlooks : looksLikeCommand "rm -rf ~/ñ".toList = true := by decide +kernel
  have hpayload : payload "rm -rf ~/ñ" = "cm0gLXJmIH4vw7E=" := by decide +kernel
  have hboth := detect_payload "rm -rf ~/ñ" hlooks
  rw [hpayload] at hboth
  exact ⟨hlooks, hboth⟩

end Obfuscation

end ShellGuard
