import Mathlib
import ShellGuard.Proofs.Obfuscation.Encoded
import ShellGuard.Proofs.Pattern.Matches
import ShellGuard.Proofs.Syntax.PlainWords

/-!
# Which declaration decides

A command put together from single characters declares variables and uses them.  A shell reads such
a command from left to right: a use has the value of the nearest declaration before it.  Here all
declarations are collected first, and a use is replaced by what the last declaration of its variable
says, wherever that stands.  The two readings differ as soon as a use is followed by a declaration
of another value (`substituteUses_eq_readInOrder_iff`), and one declaration put behind a command
decides about all uses before it (`declared_append_text`).
-/

namespace ShellGuard

namespace Technique

open Pattern (Match)

/-! ## Word characters -/

theorem le_of_word {c : Char} (h : Unicode.wordChars.contains c = true) : 0x30 ≤ c.toNat := by
  have hfirst : Unicode.wordChars.spans.head?.map Span.first = some 0x30 := by decide +kernel
  replace h : CharSet.memSpans Unicode.wordChars.spans c.toNat = true := h
  generalize Unicode.wordChars.spans = spans at hfirst h
  cases spans with
  | nil => cases h
  | cons span spans =>
    rw [CharSet.memSpans] at h
    split at h
    · cases h
    · next hnot =>
      have hspan : span.first = 0x30 := Option.some.inj hfirst
      omega

theorem not_quote_of_word {c : Char} (h : Unicode.wordChars.contains c = true) :
    quotes.contains c = false := by
  have hle := le_of_word h
  have hquotes : quotes = ⟨[⟨0x22, 0x22⟩, ⟨0x27, 0x27⟩]⟩ := by decide
  rw [hquotes]
  simp only [CharSet.contains, CharSet.mem, CharSet.memSpans]
  simp
  omega

/-- The characters a shell takes for names. -/
theorem word_of_ascii {c : Char} (h : Anchor.isWord true c = true) :
    Unicode.wordChars.contains c = true ∧ CharSet.blanks.contains c = false := by
  have hascii : c.toNat < 128 := by
    rcases Bool.or_eq_true_iff.1 h with h | h
    · have := (isAlphanum_range h).2
      omega
    · rw [beq_iff_eq.1 h]
      decide
  have hall : ∀ n < 128, Anchor.isWord true (Char.ofNat n) = true →
      Unicode.wordChars.contains (Char.ofNat n) = true ∧
        CharSet.blanks.contains (Char.ofNat n) = false := by
    decide +kernel
  have hc := hall c.toNat hascii
  rw [Char.ofNat_toNat] at hc
  exact hc h

/-! ## Uses -/

/-- A match of a use, with the name that is used. -/
structure IsUse (place : Place) (m : Match) (name : List Char) : Prop where
  ne_nil : name ≠ []
  word : ∀ c ∈ name, Unicode.wordChars.contains c = true
  ahead : place.Ahead ('$' :: name) m.stop
  stops : Pattern.StopsAt Unicode.wordChars m.stop
  text : m.text = '$' :: name
  group : m.group 1 = name

theorem variableUse_exhausts : variableUse.Exhausts Unicode.wordChars :=
  ((Pattern.exhausts_repeat Unicode.wordChars 1).group 1).seq (.char '$')

theorem isUse_of_matchAt {size : Nat} {place : Place} {m : Match} (hsize : place.rest.length ≤ size)
    (h : variableUse.matchAt size place = some m) : ∃ name, IsUse place m name := by
  obtain ⟨w, ⟨v, hsign, v', hname, rfl⟩, hstops, rfl⟩ := variableUse_exhausts.matchAt hsize h
  obtain ⟨name, hlength, -, hword, hread⟩ := Pattern.goes_repeat_chars.1 hname
  have hahead : place.Ahead ('$' :: name) v'.place := hsign.place.trans hread.place
  exact ⟨name, List.ne_nil_of_length_pos hlength, hword, hahead, hstops, hahead.textTo,
    hread.place.textTo⟩

theorem isUse_of_mem {command : List Char} {u : Match} (h : u ∈ variableUse.allMatches command) :
    ∃ place name, IsUse place u name := by
  obtain ⟨place, -, hsize, hu⟩ := Pattern.mem_matchesFrom h
  exact ⟨place, isUse_of_matchAt hsize hu⟩

/-- A use takes at least two characters. -/
theorem two_le_text {command : List Char} {u : Match} (h : u ∈ variableUse.allMatches command) :
    2 ≤ u.text.length := by
  obtain ⟨place, name, hu⟩ := isUse_of_mem h
  have hpos := List.length_pos_iff.2 hu.ne_nil
  rw [hu.text, List.length_cons]
  omega

theorem matchAt_use {size : Nat} (place : Place) {name rest : List Char} (hne : name ≠ [])
    (hword : ∀ c ∈ name, Unicode.wordChars.contains c = true)
    (hrest : place.rest = '$' :: name ++ rest) (hsize : place.rest.length ≤ size) :
    (variableUse.matchAt size place).isSome = true := by
  have hname : (Pattern.some1 .wordChar).Takes name rest :=
    Pattern.takes_repeat_chars (List.length_pos_iff.2 hne) (by simp) hword
  obtain ⟨w, hw, -⟩ := (Pattern.takes_literal ['$'] _).seq (hname.group 1) ⟨place, []⟩ hrest
  exact Pattern.matchAt_isSome hw hsize

/-- A text without uses that does not go on with a name leaves the uses before it alone. -/
theorem variableUse_follows {tail : List Char} (hsign : '$' ∉ tail)
    (hhead : ∀ c ∈ tail.head?, Unicode.wordChars.contains c = false) :
    variableUse.Follows (fun u => (u.group 1, u.text)) 0 tail where
  advances hsize h := by
    obtain ⟨name, hu⟩ := isUse_of_matchAt hsize h
    rw [hu.ahead.offset, List.length_cons]
    omega
  found := by
    intro size size' offset before cs m hne hsize hsize' h
    obtain ⟨name, hu⟩ := isUse_of_matchAt hsize' h
    have htail : ∀ c ∈ tail.head?, c ∉ '$' :: name := by
      intro c hc hmem
      rcases List.mem_cons.1 hmem with rfl | hmem
      · exact hsign (List.mem_of_mem_head? hc)
      · exact Bool.false_ne_true ((hhead c hc).symm.trans (hu.word c hmem))
    obtain ⟨rest, hrest⟩ := exists_rest_of_append hu.ahead.rest.symm htail
    exact matchAt_use _ hu.ne_nil hu.word hrest hsize
  kept := by
    intro size size' offset before cs m hsize hsize' h
    obtain ⟨name, hu⟩ := isUse_of_matchAt hsize h
    have hrest : cs = '$' :: name ++ m.stop.rest := hu.ahead.rest
    have hall : cs ++ tail = '$' :: name ++ (m.stop.rest ++ tail) := by
      rw [hrest, List.append_assoc]
    obtain ⟨m', hm'⟩ := Option.isSome_iff_exists.1
      (matchAt_use ⟨offset, before, cs ++ tail⟩ hu.ne_nil hu.word hall hsize')
    obtain ⟨name', hu'⟩ := isUse_of_matchAt hsize' hm'
    -- a name stops where the command stops, or where it stopped before
    have hstops : ∀ c ∈ (m.stop.rest ++ tail).head?, Unicode.wordChars.contains c = false := by
      have hstops := hu.stops
      rw [Pattern.StopsAt] at hstops
      cases hstop : m.stop.rest with
      | nil => exact hhead
      | cons c r => rwa [hstop] at hstops
    have hsame : '$' :: name ++ (m.stop.rest ++ tail) = '$' :: name' ++ m'.stop.rest :=
      hall.symm.trans hu'.ahead.rest
    obtain ⟨rfl, -⟩ := CharSet.run_unique (List.cons.inj hsame).2 hu.word hu'.word hstops hu'.stops
    refine ⟨m', hm', ?_, .inl (hu'.ahead.offset.trans hu.ahead.offset.symm)⟩
    rw [hu.group, hu.text, hu'.group, hu'.text]

theorem matchAt_use_eq_none {size offset : Nat} {before : Option Char} {cs : List Char}
    (hsize : cs.length ≤ size) (hsign : '$' ∉ cs) :
    variableUse.matchAt size ⟨offset, before, cs⟩ = none := by
  refine Option.eq_none_iff_forall_ne_some.2 fun m h => ?_
  obtain ⟨name, hu⟩ := isUse_of_matchAt hsize h
  have hrest : cs = '$' :: name ++ m.stop.rest := hu.ahead.rest
  rw [hrest] at hsign
  exact hsign List.mem_cons_self

theorem itemsFrom_use {size offset : Nat} {before : Option Char} {cs : List Char}
    (hsize : cs.length ≤ size) (hsign : '$' ∉ cs) :
    variableUse.itemsFrom size offset before 0 cs = cs.map .inl := by
  induction cs generalizing offset before with
  | nil =>
    rw [Pattern.itemsFrom, matchAt_use_eq_none hsize hsign]
    rfl
  | cons c cs ih =>
    rw [Pattern.itemsFrom, matchAt_use_eq_none hsize hsign, List.map_cons]
    dsimp only
    rw [ih (Nat.le_of_succ_le hsize) fun h => hsign (List.mem_cons_of_mem c h)]

/-! ## Declarations -/

/-- A text that gives a variable the value `value`, up to its semicolon. -/
structure Declares (name : List Char) (value : Char) (t : List Char) : Prop where
  ne_nil : name ≠ []
  word : ∀ c ∈ name, Unicode.wordChars.contains c = true
  wordValue : Unicode.wordChars.contains value = true
  quoted : ∃ q q' : List Char, q.length ≤ 1 ∧ (∀ c ∈ q, quotes.contains c = true) ∧
    q'.length ≤ 1 ∧ (∀ c ∈ q', quotes.contains c = true) ∧
    t = name ++ '=' :: (q ++ value :: (q' ++ [';']))

namespace Declares

variable {name name' t t' rest rest' : List Char} {value value' : Char}

theorem exists_cons (h : Declares name value t) :
    ∃ c t', t = c :: t' ∧ Unicode.wordChars.contains c = true := by
  obtain ⟨q, q', -, -, -, -, rfl⟩ := h.quoted
  obtain ⟨c, name, rfl⟩ := List.exists_cons_of_ne_nil h.ne_nil
  exact ⟨c, _, rfl, h.word c List.mem_cons_self⟩

theorem space_not_mem (h : Declares name value t) : ' ' ∉ t := by
  intro hspace
  obtain ⟨q, q', -, hq, -, hq', rfl⟩ := h.quoted
  have hword (hspace : Unicode.wordChars.contains ' ' = true) : False :=
    absurd (le_of_word hspace) (by decide)
  have hquote (hspace : quotes.contains ' ' = true) : False := absurd hspace (by decide)
  simp only [List.mem_append, List.mem_cons, List.not_mem_nil, or_false] at hspace
  rcases hspace with hspace | hspace | hspace | hspace | hspace | hspace
  · exact hword (h.word _ hspace)
  · exact absurd hspace (by decide)
  · exact hquote (hq _ hspace)
  · exact hword (hspace ▸ h.wordValue)
  · exact hquote (hq' _ hspace)
  · exact absurd hspace (by decide)

/-- A text begins with one declaration only. -/
theorem unique (h : Declares name value t) (h' : Declares name' value' t')
    (hsame : t ++ rest = t' ++ rest') : name = name' ∧ value = value' ∧ rest = rest' := by
  obtain ⟨q, p, -, hq, -, hp, rfl⟩ := h.quoted
  obtain ⟨q', p', -, hq', -, hp', rfl⟩ := h'.quoted
  simp only [List.append_assoc, List.cons_append, List.nil_append] at hsame
  have hequals : Unicode.wordChars.contains '=' = false := by decide +kernel
  have hsemicolon : quotes.contains ';' = false := by decide
  obtain ⟨rfl, hassign⟩ := CharSet.run_unique hsame h.word h'.word (CharSet.outside_head hequals)
    (CharSet.outside_head hequals)
  obtain ⟨-, hopen⟩ := List.cons.inj hassign
  obtain ⟨rfl, hvalue⟩ := CharSet.run_unique hopen hq hq'
    (CharSet.outside_head (not_quote_of_word h.wordValue))
    (CharSet.outside_head (not_quote_of_word h'.wordValue))
  obtain ⟨rfl, hclose⟩ := List.cons.inj hvalue
  obtain ⟨rfl, hend⟩ := CharSet.run_unique hclose hp hp' (CharSet.outside_head hsemicolon)
    (CharSet.outside_head hsemicolon)
  exact ⟨rfl, rfl, (List.cons.inj hend).2⟩

end Declares

/-- A match of a declaration: what it declares, and the blanks behind. -/
structure IsDeclaration (place : Place) (m : Match) (name : List Char) (value : Char)
    (t blanks : List Char) : Prop where
  boundary : Anchor.holds (.word .boundary false) place = true
  declares : Declares name value t
  blank : ∀ c ∈ blanks, CharSet.blanks.contains c = true
  ahead : place.Ahead (t ++ blanks) m.stop
  stops : Pattern.StopsAt CharSet.blanks m.stop
  name : m.group 1 = name
  value : m.group 2 = [value]

theorem declaration_exhausts : declaration.Exhausts CharSet.blanks := by
  have hblanks : (Pattern.many .blank).Exhausts CharSet.blanks := Pattern.exhausts_repeat _ 0
  exact ((((((hblanks.seq _).seq _).seq _).seq _).seq _).seq _).seq _

theorem isDeclaration_of_matchAt {size : Nat} {place : Place} {m : Match}
    (hsize : place.rest.length ≤ size) (h : declaration.matchAt size place = some m) :
    ∃ name value t blanks, IsDeclaration place m name value t blanks := by
  obtain ⟨w, ⟨-, ⟨hboundary, rfl⟩, -, ⟨w₁, hname, rfl⟩, w₂, hequals, w₃, hopen, -,
    ⟨w₄, ⟨value, hvalue, hread⟩, rfl⟩, w₅, hclose, w₆, hsemicolon, hblanks⟩, hstops, rfl⟩ :=
    declaration_exhausts.matchAt hsize h
  obtain ⟨name, hlength, -, hword, hnread⟩ := Pattern.goes_repeat_chars.1 hname
  obtain ⟨q, -, hq, hqall, hqread⟩ := Pattern.goes_repeat_chars.1 hopen
  obtain ⟨q', -, hq', hqall', hqread'⟩ := Pattern.goes_repeat_chars.1 hclose
  obtain ⟨blanks, -, -, hblank, hbread⟩ := Pattern.goes_repeat_chars.1 hblanks
  have hahead : place.Ahead (name ++ '=' :: (q ++ value :: (q' ++ [';'])) ++ blanks) w.place := by
    have hall := ((((((hnread.place.trans hequals.place).trans hqread.place).trans
      hread.place).trans hqread'.place).trans hsemicolon.place).trans hbread.place)
    simpa only [List.append_assoc, List.cons_append, List.nil_append] using hall
  have hgroups : w.groups = [(2, w₃.place, w₄.place), (1, place, w₁.place)] := by
    rw [hbread.groups, Way.Reads.groups hsemicolon, hqread'.groups]
    show (2, w₃.place, w₄.place) :: w₄.groups = _
    rw [hread.groups, hqread.groups, Way.Reads.groups hequals]
    show _ :: (1, place, w₁.place) :: w₁.groups = _
    rw [hnread.groups]
  refine ⟨name, value, _, blanks, hboundary, ⟨List.ne_nil_of_length_pos hlength, hword, hvalue,
    q, q', hq 1 rfl, hqall, hq' 1 rfl, hqall', rfl⟩, hblank, hahead, hstops, ?_, ?_⟩
  · show ((w.groups.lookup 1).map _).getD [] = name
    rw [hgroups]
    exact hnread.place.textTo
  · show ((w.groups.lookup 2).map _).getD [] = [value]
    rw [hgroups]
    exact hread.place.textTo

theorem matchAt_declaration {size : Nat} {place : Place} {name t rest : List Char} {value : Char}
    (hboundary : Anchor.holds (.word .boundary false) place = true) (h : Declares name value t)
    (hrest : place.rest = t ++ rest) (hsize : place.rest.length ≤ size) :
    (declaration.matchAt size place).isSome = true := by
  obtain ⟨q, q', hlength, hq, hlength', hq', rfl⟩ := h.quoted
  have hname (rest : List Char) : (Pattern.some1 .wordChar).Takes name rest :=
    Pattern.takes_repeat_chars (List.length_pos_iff.2 h.ne_nil) (by simp) h.word
  have hquote {q : List Char} (hlength : q.length ≤ 1) (hq : ∀ c ∈ q, quotes.contains c = true)
      (rest : List Char) : quoteMark.Takes q rest :=
    Pattern.takes_repeat_chars (Nat.zero_le _) (by simpa using hlength) hq
  have hvalue (rest : List Char) : Pattern.wordChar.Takes [value] rest := by
    intro w hw
    obtain ⟨v, hv, -⟩ := Way.exists_reads hw
    exact ⟨v, ⟨value, h.wordValue, hv⟩, hv.place⟩
  have hblanks (rest : List Char) : (Pattern.many .blank).Takes [] rest :=
    Pattern.takes_repeat_chars (Nat.zero_le _) (by simp) (by simp)
  have htakes := ((hname _).group 1).seq ((Pattern.takes_literal ['='] _).seq
    ((hquote hlength hq _).seq (((hvalue _).group 2).seq ((hquote hlength' hq' _).seq
      ((Pattern.takes_literal [';'] _).seq (hblanks rest))))))
  obtain ⟨w, hw, -⟩ := htakes ⟨place, []⟩ (by simpa using hrest)
  exact Pattern.matchAt_isSome ⟨⟨place, []⟩, ⟨hboundary, rfl⟩, hw⟩ hsize

/-! ## One more declaration -/

/-- A declaration to be put behind a command, of a name that a shell takes. -/
structure LateDeclaration where
  name : List Char
  value : Char
  ne_nil : name ≠ []
  ascii : ∀ c ∈ name, Anchor.isWord true c = true
  word : Unicode.isWord value = true

namespace LateDeclaration

variable (late : LateDeclaration)

/-- The declaration without quotes, a space before it. -/
def text : List Char :=
  ' ' :: (late.name ++ ['=', late.value, ';'])

/-- The variable with its value. -/
def entry : List Char × List Char :=
  (late.name, [late.value])

theorem declares : Declares late.name late.value (late.name ++ ['=', late.value, ';']) :=
  ⟨late.ne_nil, fun c hc => (word_of_ascii (late.ascii c hc)).1, late.word, [], [], by simp⟩

theorem sign_not_mem : '$' ∉ late.text := by
  intro hsign
  have hnot (hword : Unicode.wordChars.contains '$' = true) : False :=
    absurd (le_of_word hword) (by decide)
  simp only [text, List.mem_cons, List.mem_append, List.not_mem_nil, or_false] at hsign
  rcases hsign with hsign | hsign | hsign | hsign | hsign
  · exact absurd hsign (by decide)
  · exact hnot (late.declares.word _ hsign)
  · exact absurd hsign (by decide)
  · exact hnot (hsign ▸ late.word)
  · exact absurd hsign (by decide)

/-- The blanks behind a declaration stay as they are, or they come last and take in the space before
the new declaration. -/
theorem blanks_before_text {blanks blanks' rest rest' : List Char}
    (h : blanks ++ (rest ++ late.text) = blanks' ++ rest')
    (hblank : ∀ c ∈ blanks, CharSet.blanks.contains c = true)
    (hblank' : ∀ c ∈ blanks', CharSet.blanks.contains c = true)
    (hstops : ∀ c ∈ rest.head?, CharSet.blanks.contains c = false)
    (hstops' : ∀ c ∈ rest'.head?, CharSet.blanks.contains c = false) :
    blanks' = blanks ∨ rest = [] ∧ blanks' = blanks ++ [' '] := by
  cases rest with
  | nil =>
    right
    obtain ⟨c, name, hname⟩ := List.exists_cons_of_ne_nil late.ne_nil
    have hhead := (word_of_ascii (late.ascii c (by simp [hname]))).2
    rw [List.nil_append, text, List.append_cons, hname] at h
    have hspace : ∀ c ∈ blanks ++ [' '], CharSet.blanks.contains c = true := by
      intro c hc
      rcases List.mem_append.1 hc with hc | hc
      · exact hblank c hc
      · rw [List.mem_singleton.1 hc]
        decide
    exact ⟨rfl, (CharSet.run_unique h hspace hblank' (CharSet.outside_head hhead) hstops').1.symm⟩
  | cons c rest => exact .inl (CharSet.run_unique h hblank hblank' hstops hstops').1.symm

/-- In front of more text, a declaration reads on over one space, if it comes last. -/
theorem declaration_follows :
    declaration.Follows (fun m => (m.group 1, m.group 2)) 1 late.text where
  advances hsize h := by
    obtain ⟨_, _, t, blanks, hd⟩ := isDeclaration_of_matchAt hsize h
    obtain ⟨c, t, rfl, -⟩ := hd.declares.exists_cons
    rw [hd.ahead.offset, List.cons_append, List.length_cons]
    omega
  found := by
    intro size size' offset before cs m hcs hsize hsize' h
    obtain ⟨_, _, t, blanks, hd⟩ := isDeclaration_of_matchAt hsize' h
    have hrest : t ++ (blanks ++ m.stop.rest) = cs ++ late.text := by
      rw [← List.append_assoc]
      exact hd.ahead.rest.symm
    obtain ⟨rest, hcut⟩ := exists_rest_of_append hrest fun c hc => by
      rw [← Option.some.inj hc]
      exact hd.declares.space_not_mem
    obtain ⟨c, cs, rfl⟩ := List.exists_cons_of_ne_nil hcs
    exact matchAt_declaration hd.boundary hd.declares hcut hsize
  kept := by
    intro size size' offset before cs m hsize hsize' h
    obtain ⟨_, _, t, blanks, hd⟩ := isDeclaration_of_matchAt hsize h
    have hrest : cs = t ++ blanks ++ m.stop.rest := hd.ahead.rest
    have hall : cs ++ late.text = t ++ (blanks ++ (m.stop.rest ++ late.text)) := by
      rw [hrest, List.append_assoc, List.append_assoc]
    have hboundary : Anchor.holds (.word .boundary false) ⟨offset, before, cs ++ late.text⟩ =
        true := by
      have hboundary := hd.boundary
      obtain ⟨c, t, rfl, -⟩ := hd.declares.exists_cons
      rw [hrest] at hboundary ⊢
      exact hboundary
    obtain ⟨m', hm'⟩ := Option.isSome_iff_exists.1
      (matchAt_declaration hboundary hd.declares hall hsize')
    obtain ⟨_, _, t', blanks', hd'⟩ := isDeclaration_of_matchAt hsize' hm'
    have hrest' : cs ++ late.text = t' ++ (blanks' ++ m'.stop.rest) := by
      rw [← List.append_assoc]
      exact hd'.ahead.rest
    obtain ⟨hname, hvalue, hbehind⟩ := hd.declares.unique hd'.declares (hall.symm.trans hrest')
    have ht : t = t' := by
      rw [hall, hbehind] at hrest'
      exact List.append_cancel_right hrest'
    have hoffset : m.stop.offset = offset + (t ++ blanks).length := hd.ahead.offset
    have hoffset' : m'.stop.offset = offset + (t' ++ blanks').length := hd'.ahead.offset
    refine ⟨m', hm', ?_, ?_⟩
    · rw [hd.name, hd.value, hd'.name, hd'.value, hname, hvalue]
    · rw [List.length_append] at hoffset hoffset'
      rw [← ht] at hoffset'
      rcases late.blanks_before_text hbehind hd.blank hd'.blank hd.stops hd'.stops with
        hblanks | ⟨hend, hblanks⟩
      · left
        rw [hoffset, hoffset', hblanks]
      · right
        rw [hblanks, List.length_append, List.length_singleton] at hoffset'
        have hlength : cs.length = t.length + blanks.length := by
          rw [hrest, hend, List.append_nil, List.length_append]
        omega

theorem variableUse_follows : variableUse.Follows (fun u => (u.group 1, u.text)) 0 late.text :=
  Technique.variableUse_follows late.sign_not_mem (CharSet.outside_head (by decide +kernel))

/-- Behind the space there is one declaration, up to the end. -/
theorem matchAt_name {size : Nat} (offset : Nat) (hsize : late.text.length ≤ size) :
    ∃ m, declaration.matchAt size ⟨offset, some ' ', late.name ++ ['=', late.value, ';']⟩ = some m ∧
      m.stop.offset = offset + (late.name ++ ['=', late.value, ';']).length ∧
      (m.group 1, m.group 2) = late.entry := by
  have hboundary : Anchor.holds (.word .boundary false)
      ⟨offset, some ' ', late.name ++ ['=', late.value, ';']⟩ = true := by
    obtain ⟨c, name, hname⟩ := List.exists_cons_of_ne_nil late.ne_nil
    have hspace : Unicode.isWord ' ' = false := by decide +kernel
    have hc : Unicode.isWord c = true := late.declares.word c (by simp [hname])
    simp [Anchor.holds, Anchor.isWord, hname, hspace, hc]
  obtain ⟨m, hm⟩ := Option.isSome_iff_exists.1 (matchAt_declaration hboundary late.declares
    (List.append_nil _).symm (Nat.le_of_succ_le hsize))
  obtain ⟨name, value, t, blanks, hd⟩ := isDeclaration_of_matchAt (Nat.le_of_succ_le hsize) hm
  have hrest : late.name ++ ['=', late.value, ';'] ++ [] = t ++ (blanks ++ m.stop.rest) := by
    rw [List.append_nil, ← List.append_assoc]
    exact hd.ahead.rest
  obtain ⟨hname, hvalue, hbehind⟩ := late.declares.unique hd.declares hrest
  obtain ⟨hblanks, hend⟩ := List.append_eq_nil_iff.1 hbehind.symm
  rw [hblanks, hend, List.append_nil, List.append_nil, List.append_nil] at hrest
  refine ⟨m, hm, ?_, ?_⟩
  · rw [hd.ahead.offset, hblanks, List.append_nil, hrest]
  · rw [hd.name, hd.value, ← hname, ← hvalue, entry]

theorem matchesFrom_text {size offset rest : Nat} {before : Option Char}
    (hsize : late.text.length ≤ size) (hrest : rest = 0 ∨ rest = 1) :
    (declaration.matchesFrom size offset before rest late.text).map
      (fun m => (m.group 1, m.group 2)) = [late.entry] := by
  have hspace : declaration.matchesFrom size offset before rest late.text =
      declaration.matchesFrom size (offset + 1) (some ' ') 0
        (late.name ++ ['=', late.value, ';']) := by
    rcases hrest with rfl | rfl
    · have hnone : declaration.matchAt size ⟨offset, before, late.text⟩ = none := by
        refine Option.eq_none_iff_forall_ne_some.2 fun m h => ?_
        obtain ⟨_, _, t, blanks, hd⟩ := isDeclaration_of_matchAt hsize h
        obtain ⟨c, t, rfl, hc⟩ := hd.declares.exists_cons
        obtain ⟨rfl, -⟩ := List.cons.inj hd.ahead.rest
        exact absurd (le_of_word hc) (by decide)
      rw [text] at hnone ⊢
      rw [Pattern.matchesFrom, hnone]
    · rfl
  obtain ⟨m, hm, hstop, hentry⟩ := late.matchAt_name (offset + 1) hsize
  obtain ⟨c, cs, hcs⟩ :=
    List.exists_cons_of_ne_nil (show late.name ++ ['=', late.value, ';'] ≠ [] by simp)
  rw [hspace]
  rw [hcs] at hm hstop ⊢
  have hskip : m.stop.offset - (offset + 1) - 1 = cs.length := by
    rw [List.length_cons] at hstop
    omega
  rw [Pattern.matchesFrom, hm]
  dsimp only
  rw [hskip, late.declaration_follows.matchesFrom_length, List.map_singleton, hentry]

/-- A declaration behind a command is one more declaration, and the last one. -/
theorem declared_append_text (command : List Char) :
    declared (command ++ late.text) = late.entry :: declared command := by
  obtain ⟨rest, hrest, hmatches⟩ := Pattern.allMatches_append late.declaration_follows command
  rw [declared, declared, hmatches, late.matchesFrom_text (by simp) hrest, List.reverse_append]
  rfl

theorem substituteUses_append_text (values : List (List Char × List Char)) (command : List Char) :
    substituteUses values (command ++ late.text) = substituteUses values command ++ late.text := by
  have happend := Pattern.replace_append late.variableUse_follows
    (fun u => (values.lookup u.1).getD u.2) command
  rw [Pattern.replaceFrom_eq_items, itemsFrom_use (by simp) late.sign_not_mem,
    List.flatMap_map] at happend
  simp only [Sum.elim_inl, List.flatMap_singleton'] at happend
  exact happend

/-- What a command uses, it also uses with a declaration behind it. -/
theorem exists_use {command : List Char} {u : Match} (hu : u ∈ variableUse.allMatches command) :
    ∃ u' ∈ variableUse.allMatches (command ++ late.text), u'.group 1 = u.group 1 := by
  obtain ⟨rest, -, hmatches⟩ := Pattern.allMatches_append late.variableUse_follows command
  have hmem : (u.group 1, u.text) ∈
      (variableUse.allMatches (command ++ late.text)).map (fun u => (u.group 1, u.text)) := by
    rw [hmatches]
    exact List.mem_append_left _ (List.mem_map_of_mem hu)
  obtain ⟨u', hu', hsame⟩ := List.mem_map.1 hmem
  exact ⟨u', hu', (Prod.mk.inj hsame).1⟩

end LateDeclaration

/-! ## Before and behind a use -/

/-- What some declarations say, the last one first. -/
def valuesOf (ms : List Match) : List (List Char × List Char) :=
  (ms.map fun m => (m.group 1, m.group 2)).reverse

/-- The value a shell has for a use: what the nearest declaration before it says. -/
def nearestValue (command : List Char) (u : Match) : Option (List Char) :=
  (valuesOf ((declaration.allMatches command).filter (·.start.offset < u.start.offset))).lookup
    (u.group 1)

/-- What the last declaration behind a use says. -/
def laterValue (command : List Char) (u : Match) : Option (List Char) :=
  (valuesOf ((declaration.allMatches command).filter (u.start.offset ≤ ·.start.offset))).lookup
    (u.group 1)

/-- The command with every use replaced by the nearest declaration before it. -/
def readInOrder (command : List Char) : List Char :=
  variableUse.replace (fun u => (nearestValue command u).getD u.text) command

theorem lookup_declared (command : List Char) (u : Match) :
    (declared command).lookup (u.group 1) =
      (laterValue command u).or (nearestValue command u) := by
  have hordered : (declaration.allMatches command).Pairwise (·.start.offset < ·.start.offset) :=
    Pattern.matchesFrom_ordered
  have hcut := Pattern.filter_before_append hordered u.start.offset
  rw [laterValue, nearestValue, ← List.lookup_append, declared, ← hcut, List.map_append,
    List.reverse_append, hcut]
  rfl

/-- Values are single characters. -/
theorem length_of_lookup {command name value : List Char} {ms : List Match}
    (hms : ∀ m ∈ ms, m ∈ declaration.allMatches command)
    (h : (valuesOf ms).lookup name = some value) : value.length = 1 := by
  obtain ⟨front, back, hvalues, -⟩ := List.lookup_eq_some_iff.1 h
  have hmem : (name, value) ∈ valuesOf ms := by
    rw [hvalues]
    exact List.mem_append_right _ List.mem_cons_self
  obtain ⟨m, hm, hentry⟩ := List.mem_map.1 (List.mem_reverse.1 hmem)
  obtain ⟨place, -, hsize, hmatch⟩ := Pattern.mem_matchesFrom (hms m hm)
  obtain ⟨_, c, _, _, hd⟩ := isDeclaration_of_matchAt hsize hmatch
  rw [← (Prod.mk.inj hentry).2, hd.value]
  rfl

/-- A use that is replaced by a value is shorter than one that is left alone. -/
theorem length_le_getD {value : List Char} {other : Option (List Char)} {u : Match}
    {command : List Char} (hu : u ∈ variableUse.allMatches command) (hvalue : value.length = 1)
    (hother : ∀ v, other = some v → v.length = 1) : value.length ≤ (other.getD u.text).length := by
  have htext := two_le_text hu
  cases other with
  | none =>
    show value.length ≤ u.text.length
    omega
  | some v =>
    show value.length ≤ v.length
    rw [hvalue, hother v rfl]

theorem eq_getD_iff {value : List Char} {other : Option (List Char)} {u : Match}
    {command : List Char} (hu : u ∈ variableUse.allMatches command) (hvalue : value.length = 1) :
    value = other.getD u.text ↔ other = some value := by
  cases other with
  | none =>
    have htext := two_le_text hu
    have hne : value ≠ u.text := by
      intro heq
      rw [← heq] at htext
      omega
    simpa using hne
  | some v => simp [eq_comm]

/-- Reading all declarations first comes to the same as reading in order exactly if no use is
followed by a declaration of another value. -/
theorem substituteUses_eq_readInOrder_iff (command : List Char) :
    substituteUses (declared command) command = readInOrder command ↔
      ∀ u ∈ variableUse.allMatches command,
        laterValue command u = none ∨ laterValue command u = nearestValue command u := by
  have hnearest (u : Match) (v : List Char) (h : nearestValue command u = some v) :
      v.length = 1 :=
    length_of_lookup (fun m hm => (List.mem_filter.1 hm).1) h
  have hlater (u : Match) (v : List Char) (h : laterValue command u = some v) : v.length = 1 :=
    length_of_lookup (fun m hm => (List.mem_filter.1 hm).1) h
  rw [substituteUses, readInOrder, Pattern.replace_eq_iff]
  · refine forall₂_congr fun u hu => ?_
    rw [lookup_declared]
    cases hv : laterValue command u with
    | none => simp
    | some v =>
      rw [Option.some_or, Option.getD_some, eq_getD_iff hu (hlater u v hv)]
      simp [eq_comm]
  · intro u hu
    rw [lookup_declared]
    cases hv : laterValue command u with
    | none => exact Nat.le_refl _
    | some v => exact length_le_getD hu (hlater u v hv) (hnearest u)

/-- One more declaration changes the uses of its variable, unless they had its value before. -/
theorem substituteUses_entry_iff (command : List Char) (late : LateDeclaration) :
    substituteUses (late.entry :: declared command) command =
        substituteUses (declared command) command ↔
      ∀ u ∈ variableUse.allMatches command, u.group 1 = late.name →
        (declared command).lookup late.name = some [late.value] := by
  rw [LateDeclaration.entry, substituteUses, substituteUses, Pattern.replace_eq_iff]
  · refine forall₂_congr fun u hu => ?_
    by_cases hname : u.group 1 = late.name
    · rw [hname, List.lookup_cons_self, Option.getD_some, eq_getD_iff hu rfl]
      simp
    · rw [List.lookup_cons, beq_eq_false_iff_ne.2 hname]
      simp [hname]
  · intro u hu
    by_cases hname : u.group 1 = late.name
    · rw [hname, List.lookup_cons_self]
      exact length_le_getD hu rfl fun v hv => length_of_lookup (fun m hm => hm) hv
    · rw [List.lookup_cons, beq_eq_false_iff_ne.2 hname]

/-! ## What is detected -/

theorem detectVariables_eq_some_iff {command : List Char} {d : Detection} :
    detectVariables command = some d ↔
      (∃ u ∈ variableUse.allMatches command,
        ((declared command).lookup (u.group 1)).isSome = true) ∧
      d = plain (Text.trimmed (dropDeclarations (declared command)
        (substituteUses (declared command) command))) 80 := by
  rw [detectVariables]
  split
  · next hused =>
    constructor
    · intro h
      exact ⟨List.any_eq_true.1 hused, (Option.some.inj h).symm⟩
    · rintro ⟨-, rfl⟩
      rfl
  · next hused =>
    constructor
    · intro h
      cases h
    · rintro ⟨hsome, -⟩
      exact absurd (List.any_eq_true.2 hsome) hused

/-- The candidate of a command that declares and uses variables reads every use as the last
declaration of its variable says, and only in default of one behind the use as the nearest before
it.  That is what a shell reads exactly if no declaration behind a use changes the value.  A
declaration put behind the whole command decides about all uses of its variable. -/
theorem last_declaration_decides {command : List Char} {d : Detection}
    (h : detectVariables command = some d) :
    d = plain (Text.trimmed (dropDeclarations (declared command) (variableUse.replace
      (fun u => ((laterValue command u).or (nearestValue command u)).getD u.text) command))) 80 ∧
    (substituteUses (declared command) command = readInOrder command ↔
      ∀ u ∈ variableUse.allMatches command,
        laterValue command u = none ∨ laterValue command u = nearestValue command u) ∧
    ∀ late : LateDeclaration,
      detectVariables (command ++ late.text) =
        some (plain (Text.trimmed (dropDeclarations (late.entry :: declared command)
          (substituteUses (late.entry :: declared command) command ++ late.text))) 80) ∧
      (substituteUses (late.entry :: declared command) command =
          substituteUses (declared command) command ↔
        ∀ u ∈ variableUse.allMatches command, u.group 1 = late.name →
          (declared command).lookup late.name = some [late.value]) := by
  obtain ⟨⟨u, hu, hdeclared⟩, rfl⟩ := detectVariables_eq_some_iff.1 h
  refine ⟨?_, substituteUses_eq_readInOrder_iff command, fun late =>
    ⟨?_, substituteUses_entry_iff command late⟩⟩
  · simp only [substituteUses, lookup_declared]
  · obtain ⟨u', hu', hsame⟩ := late.exists_use hu
    rw [detectVariables_eq_some_iff, late.declared_append_text, late.substituteUses_append_text]
    refine ⟨⟨u', hu', ?_⟩, rfl⟩
    rw [hsame, LateDeclaration.entry, List.lookup_cons]
    split
    · rfl
    · exact hdeclared

theorem last_declaration_decides_rm :
    let command := "a=r; b=m; $a$b -rf /;".toList
    detectVariables command = some (plain "rm -rf /;".toList 80) ∧
      substituteUses (declared command) command = readInOrder command ∧
      detectVariables (command ++ " a=x;".toList) = some (plain "xm -rf /;".toList 80) := by
  have h : detectVariables "a=r; b=m; $a$b -rf /;".toList =
      some (plain "rm -rf /;".toList 80) := by
    decide +kernel
  obtain ⟨-, horder, hlate⟩ := last_declaration_decides h
  obtain ⟨hdetected, -⟩ := hlate ⟨['a'], 'x', by decide, List.forall_mem_singleton.2 (by decide),
    by decide +kernel⟩
  refine ⟨h, horder.2 (by decide +kernel), Eq.trans hdetected ?_⟩
  decide +kernel

/-- The candidate is spoilt by a declaration behind the last use, where reading in order gives what
is run. -/
theorem late_declaration_spoils_candidate :
    let command := "a=r; b=m; $a$b -rf /; a=x;".toList
    detectVariables command = some (plain "xm -rf /;".toList 80) ∧
      Text.trimmed (dropDeclarations (declared command) (readInOrder command)) =
        "rm -rf /;".toList := by
  decide +kernel

end Technique

end ShellGuard
