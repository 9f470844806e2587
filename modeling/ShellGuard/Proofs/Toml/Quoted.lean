import Mathlib
import ShellGuard.Toml.Quoted

/-!
# Reading inverts quoting

Every text can be quoted, and reading a quoted text gives the text back and leaves what follows it
(`readQuoted_quoteChars`).  What follows must not begin with a quote, since a block may end with up
to two quotes of its own.

A reader takes one character at a time, so what it does to a stretch of text is a run (`Takes`).
Writing is opened once, in `escaped_form`: a character between double quotes stands for itself or
is an escape, and what an escape means is the same on one line and in a block.
-/

namespace ShellGuard.Toml

/-! ## Runs -/

/-- From `s` a reader takes some characters, adds `out` to the text and is then at `s'`. -/
inductive Takes {σ : Type} (step : σ → Char → Step σ) : σ → List Char → List Char → σ → Prop
  | nil (s : σ) : Takes step s [] [] s
  | cons {s s' s'' : σ} {c : Char} {cs out out' : List Char} (head : step s c = .keep out s')
    (tail : Takes step s' cs out' s'') : Takes step s (c :: cs) (out ++ out') s''

namespace Takes

variable {σ : Type} {step : σ → Char → Step σ} {s s' s'' : σ} {cs ds out out' : List Char}

theorem one {c : Char} (h : step s c = .keep out s') : Takes step s [c] out s' := by
  have hrun := Takes.cons h (.nil s')
  rwa [List.append_nil] at hrun

theorem append (h : Takes step s cs out s') (h' : Takes step s' ds out' s'') :
    Takes step s (cs ++ ds) (out ++ out') s'' := by
  induction h with
  | nil => exact h'
  | cons head _ ih =>
    rw [List.append_assoc]
    exact .cons head (ih h')

theorem readWith (h : Takes step s cs out s') (atEnd : σ → Option (List Char)) (rest : List Char) :
    readWith step atEnd s (cs ++ rest) =
      (readWith step atEnd s' rest).map fun r => (out ++ r.1, r.2) := by
  induction h with
  | nil s => simp
  | cons head _ ih =>
    rw [List.cons_append, Toml.readWith, head]
    simp only [ih, Option.map_map]
    congr 1
    funext r
    simp

end Takes

/-! ## Escapes -/

/-- How a reader goes on after a backslash. -/
structure Escapes (step : BasicState → Char → Step BasicState) : Prop where
  escape : ∀ c, c ∉ [' ', '\t', '\n', '\r'] → step .escape c = escapeStep c
  code : ∀ left value c, step (.code left value) c = codeStep left value c

theorem basicStep_escapes : Escapes basicStep :=
  ⟨fun _ _ => rfl, fun _ _ _ => rfl⟩

theorem basicBlockStep_escapes : Escapes basicBlockStep := by
  refine ⟨fun c hc => ?_, fun _ _ _ => rfl⟩
  have hblank : ¬(c = ' ' ∨ c = '\t' ∨ c = '\n' ∨ c = '\r') := by simpa using hc
  rw [basicBlockStep, if_neg hblank]

theorem value?_ofValue : ∀ n < 16, Digit.value? (Digit.ofValue 'A' n) = some n := by
  decide

/-- What is written for a character between double quotes. -/
inductive EscapedForm (lines : Bool) (plain run : Nat) : Char → List Char → Prop
  | quote (h : run < plain) : EscapedForm lines plain run '"' ['"']
  | line (h : lines = true) : EscapedForm lines plain run '\n' ['\n']
  | escape {c : Char} {code : List Char} (quote : c = '"' → plain ≤ run)
    (h : ∀ step, Escapes step → Takes step .escape code [c] .plain) :
    EscapedForm lines plain run c ('\\' :: code)
  | self {c : Char} (text : isTextChar c = true) (quote : c ≠ '"') (backslash : c ≠ '\\') :
    EscapedForm lines plain run c [c]

theorem EscapedForm.letter {lines : Bool} {plain run : Nat} {c e : Char}
    (hquote : c = '"' → plain ≤ run) (hblank : e ∉ [' ', '\t', '\n', '\r'])
    (he : escapeStep e = .keep [c] .plain) : EscapedForm lines plain run c ['\\', e] :=
  .escape hquote fun _ h => .one ((h.escape e hblank).trans he)

/-- The code of a character of one byte, written with four digits. -/
theorem takes_code {step : BasicState → Char → Step BasicState} (h : Escapes step) {c : Char}
    (hc : c.toNat < 256) :
    Takes step .escape ['u', '0', '0', Digit.ofValue 'A' (c.toNat / 16), Digit.ofValue 'A' (c.toNat % 16)] [c]
      .plain := by
  have hhigh := value?_ofValue (c.toNat / 16) (by omega)
  have hlow := value?_ofValue (c.toNat % 16) (by omega)
  have hvalue : c.toNat / 16 * 16 + c.toNat % 16 = c.toNat := by omega
  have hvalid : c.toNat.isValidChar := c.valid
  have hopen : step .escape 'u' = .keep [] (.code 4 0) := h.escape 'u' (by decide)
  have hfirst : step (.code 4 0) '0' = .keep [] (.code 3 0) := h.code 4 0 '0'
  have hsecond : step (.code 3 0) '0' = .keep [] (.code 2 0) := h.code 3 0 '0'
  have hthird : step (.code 2 0) (Digit.ofValue 'A' (c.toNat / 16)) =
      .keep [] (.code 1 (c.toNat / 16)) := by
    rw [h.code, codeStep, hhigh]
    simp
  have hfourth : step (.code 1 (c.toNat / 16)) (Digit.ofValue 'A' (c.toNat % 16)) = .keep [c] .plain := by
    rw [h.code, codeStep, hlow]
    simp [hvalue, hvalid]
  exact .cons hopen (.cons hfirst (.cons hsecond (.cons hthird (.one hfourth))))

theorem isTextChar_of_not_isControl {c : Char} (h : isControl c = false) (hn : c ≠ '\n') :
    isTextChar c = true := by
  by_cases htab : c = '\t'
  · rw [htab]
    rfl
  · simp only [isControl, isTextChar, Bool.or_eq_false_iff, Bool.and_eq_false_iff] at h ⊢
    simp_all

theorem escaped_form (lines : Bool) (plain run : Nat) (c : Char) :
    EscapedForm lines plain run c (escaped lines plain run c) := by
  unfold escaped
  split
  · split
    · next hplain => exact .quote hplain
    · next hplain => exact .letter (fun _ => Nat.le_of_not_lt hplain) (by decide) rfl
  · split
    · next hlines => exact .line hlines
    · exact .letter (by simp) (by decide) rfl
  · exact .letter (by simp) (by decide) rfl
  · exact .letter (by simp) (by decide) rfl
  · exact .letter (by simp) (by decide) rfl
  · exact .letter (by simp) (by decide) rfl
  · exact .letter (by simp) (by decide) rfl
  · next hquote hline _ _ _ _ hbackslash =>
    split
    · next hcontrol =>
      refine .escape (fun hc => absurd hc hquote) fun step h => takes_code h ?_
      simp only [isControl, Bool.or_eq_true, Bool.and_eq_true, decide_eq_true_eq, beq_iff_eq]
        at hcontrol
      omega
    · next hcontrol =>
      have htext := isTextChar_of_not_isControl (Bool.eq_false_iff.2 hcontrol) hline
      exact .self htext hquote hbackslash

/-! ## Text on one line -/

theorem basicStep_self {c : Char} (text : isTextChar c = true) (quote : c ≠ '"')
    (backslash : c ≠ '\\') : basicStep .plain c = .keep [c] .plain := by
  show (if c = '"' then .close else if c = '\\' then .keep [] .escape
    else if isTextChar c then .keep [c] .plain else .reject) = Step.keep [c] BasicState.plain
  rw [if_neg quote, if_neg backslash, if_pos text]

theorem takes_basic (cs : List Char) :
    Takes basicStep .plain (escapedText false 0 0 cs) cs .plain := by
  induction cs with
  | nil => exact .nil _
  | cons c cs ih =>
    have hchar : Takes basicStep .plain (escaped false 0 0 c) [c] .plain := by
      have hform := escaped_form false 0 0 c
      generalize escaped false 0 0 c = ds at hform ⊢
      cases hform with
      | quote h => exact absurd h (Nat.lt_irrefl 0)
      | line h => cases h
      | escape _ h =>
        have hbackslash : basicStep .plain '\\' = .keep [] .escape := rfl
        exact .cons hbackslash (h _ basicStep_escapes)
      | self text quote backslash => exact .one (basicStep_self text quote backslash)
    simpa [escapedText] using hchar.append ih

theorem takes_literal {cs : List Char} (htext : ∀ c ∈ cs, isTextChar c = true)
    (hquote : '\'' ∉ cs) : Takes literalStep .plain cs cs .plain := by
  induction cs with
  | nil => exact .nil _
  | cons c cs ih =>
    have hc : c ≠ '\'' := fun hc => hquote (by rw [hc]; exact List.mem_cons_self)
    have hchar : literalStep .plain c = .keep [c] .plain := by
      rw [literalStep, if_neg hc, if_pos (htext c List.mem_cons_self)]
    have hrest := ih (fun d hd => htext d (List.mem_cons_of_mem c hd))
      fun hd => hquote (List.mem_cons_of_mem c hd)
    exact .cons hchar hrest

/-! ## Blocks -/

/-- A reader of text between tripled quotes `q`.  It keeps back the quotes it has seen until it
knows whether they close the block; everything else it leaves to `inner`. -/
structure BlockReader {σ : Type} (q : Char) (step : σ → Char → Step σ)
    (atEnd : σ → Option (List Char)) (plain : σ) (quotes : Nat → σ) (inner : Char → Step σ) :
    Prop where
  plain_step : ∀ c, step plain c = inner c
  quotes_step : ∀ n c, step (quotes n) c =
    if c = q ∧ n < 5 then .keep [] (quotes (n + 1))
    else if 3 ≤ n then .closeBefore (List.replicate (n - 3) q)
    else (inner c).after (List.replicate n q)
  opening : inner q = .keep [] (quotes 1)
  ending : ∀ n, atEnd (quotes n) = if 3 ≤ n then some (List.replicate (n - 3) q) else none

theorem basicBlock_reader :
    BlockReader '"' basicBlockStep basicBlockEnd .plain .quotes blockPlain :=
  ⟨fun _ => rfl, fun _ _ => rfl, rfl, fun _ => rfl⟩

theorem literalBlock_reader :
    BlockReader '\'' literalBlockStep literalBlockEnd .plain .quotes literalPlain :=
  ⟨fun _ => rfl, fun _ _ => rfl, rfl, fun _ => rfl⟩

theorem Step.after_nil {σ : Type} (s : Step σ) : s.after [] = s := by
  cases s <;> rfl

namespace BlockReader

variable {σ : Type} {q : Char} {step : σ → Char → Step σ} {atEnd : σ → Option (List Char)}
  {plain : σ} {quotes : Nat → σ} {inner : Char → Step σ}

/-- Where a reader is when it keeps back `run` quotes. -/
def holding (plain : σ) (quotes : Nat → σ) (run : Nat) : σ :=
  if run = 0 then plain else quotes run

variable (h : BlockReader q step atEnd plain quotes inner)
include h

theorem holding_quote {run : Nat} (hrun : run < 5) :
    step (holding plain quotes run) q = .keep [] (holding plain quotes (run + 1)) := by
  cases run with
  | zero => exact (h.plain_step q).trans h.opening
  | succ run =>
    refine (h.quotes_step (run + 1) q).trans ?_
    rw [if_pos ⟨rfl, hrun⟩]
    rfl

theorem holding_other {run : Nat} (hrun : run < 3) {c : Char} (hc : c ≠ q) :
    step (holding plain quotes run) c = (inner c).after (List.replicate run q) := by
  cases run with
  | zero => exact (h.plain_step c).trans (Step.after_nil _).symm
  | succ run =>
    refine (h.quotes_step (run + 1) c).trans ?_
    rw [if_neg (fun hq => hc hq.1), if_neg (by omega)]

/-- The closing quotes, with up to two quotes of the text before them. -/
theorem close {run : Nat} (hrun : run < 3) {rest : List Char} (hrest : rest.head? ≠ some q) :
    readWith step atEnd (holding plain quotes run) (q :: q :: q :: rest) =
      some (List.replicate run q, rest) := by
  have hclosing : Takes step (holding plain quotes run) [q, q, q] []
      (holding plain quotes (run + 3)) :=
    .cons (h.holding_quote (by omega)) (.cons (h.holding_quote (by omega))
      (.one (h.holding_quote (by omega))))
  have hread := hclosing.readWith atEnd rest
  rw [List.cons_append, List.cons_append, List.cons_append, List.nil_append] at hread
  rw [hread, holding, if_neg (by omega)]
  cases rest with
  | nil => simp [readWith, h.ending]
  | cons c cs =>
    have hc : c ≠ q := fun hc => hrest (by rw [hc]; rfl)
    rw [readWith, h.quotes_step, if_neg (fun hq => hc hq.1), if_pos (by omega)]
    simp

/-- A run through the text of a block, and then its closing quotes. -/
theorem readWith_closed {cs ds out : List Char} {run : Nat}
    (htext : Takes step plain ds out (holding plain quotes run)) (hrun : run < 3)
    (hout : out ++ List.replicate run q = cs) {rest : List Char} (hrest : rest.head? ≠ some q) :
    readWith step atEnd plain (ds ++ q :: q :: q :: rest) = some (cs, rest) := by
  rw [htext.readWith, h.close hrun hrest, Option.map_some, hout]

end BlockReader

open BlockReader

theorem ne_of_isTextChar {c d : Char} (h : isTextChar c = true) (hd : isTextChar d = false) :
    c ≠ d := by
  rintro rfl
  rw [h] at hd
  cases hd

theorem blockPlain_self {c : Char} (text : isTextChar c = true) (quote : c ≠ '"')
    (backslash : c ≠ '\\') : blockPlain c = .keep [c] .plain := by
  rw [blockPlain, if_neg quote, if_neg backslash, if_neg (ne_of_isTextChar text (by decide)),
    if_neg (ne_of_isTextChar text (by decide)), if_pos text]

/-- One character of a block between double quotes.  What was kept back before and what is kept
back after it make up for what is added late. -/
theorem takes_block_char {run : Nat} (hrun : run < 3) (c : Char) :
    ∃ out, Takes basicBlockStep (holding .plain .quotes run) (escaped true 2 run c) out
        (holding .plain .quotes (if c = '"' ∧ run < 2 then run + 1 else 0)) ∧
      out ++ List.replicate (if c = '"' ∧ run < 2 then run + 1 else 0) '"' =
        List.replicate run '"' ++ [c] := by
  have hform := escaped_form true 2 run c
  generalize escaped true 2 run c = ds at hform ⊢
  cases hform with
  | quote h =>
    refine ⟨[], ?_, ?_⟩
    · rw [if_pos ⟨rfl, h⟩]
      exact .one (basicBlock_reader.holding_quote (by omega))
    · rw [if_pos ⟨rfl, h⟩, List.nil_append, List.replicate_succ']
  | line h =>
    refine ⟨List.replicate run '"' ++ ['\n'], .one ?_, by simp⟩
    exact basicBlock_reader.holding_other hrun (by decide)
  | escape quote h =>
    have hplain : ¬(c = '"' ∧ run < 2) := fun hc => absurd (quote hc.1) (by omega)
    rw [if_neg hplain]
    refine ⟨List.replicate run '"' ++ [] ++ [c], .cons ?_ (h _ basicBlockStep_escapes), by simp⟩
    exact basicBlock_reader.holding_other hrun (by decide)
  | self text quote backslash =>
    have hplain : ¬(c = '"' ∧ run < 2) := fun hc => quote hc.1
    rw [if_neg hplain]
    refine ⟨List.replicate run '"' ++ [c], .one ?_, by simp⟩
    rw [basicBlock_reader.holding_other hrun quote, blockPlain_self text quote backslash]
    rfl

theorem takes_block (cs : List Char) {run : Nat} (hrun : run < 3) :
    ∃ out run', Takes basicBlockStep (holding .plain .quotes run) (escapedText true 2 run cs) out
        (holding .plain .quotes run') ∧ run' < 3 ∧
      out ++ List.replicate run' '"' = List.replicate run '"' ++ cs := by
  induction cs generalizing run with
  | nil => exact ⟨[], run, .nil _, hrun, by simp⟩
  | cons c cs ih =>
    obtain ⟨out, htakes, hout⟩ := takes_block_char hrun c
    have hnext : (if c = '"' ∧ run < 2 then run + 1 else 0) < 3 := by split <;> omega
    obtain ⟨out', run', htakes', hrun', hout'⟩ := ih hnext
    refine ⟨out ++ out', run', htakes.append htakes', hrun', ?_⟩
    rw [List.append_assoc, hout', ← List.append_assoc, hout, List.append_assoc]
    rfl

theorem literalPlain_self {c : Char} (text : isTextChar c = true ∨ c = '\n') (quote : c ≠ '\'') :
    literalPlain c = .keep [c] .plain := by
  rcases text with text | rfl
  · rw [literalPlain, if_neg quote, if_neg (ne_of_isTextChar text (by decide)),
      if_neg (ne_of_isTextChar text (by decide)), if_pos text]
  · rfl

theorem le_longestRun (q : Char) (run : Nat) (cs : List Char) : run ≤ longestRun q run cs := by
  induction cs generalizing run with
  | nil => exact Nat.le_refl run
  | cons c cs ih =>
    unfold longestRun
    split
    · exact Nat.le_of_succ_le (ih (run + 1))
    · exact Nat.le_max_left _ _

theorem takes_literalBlock {cs : List Char} (htext : ∀ c ∈ cs, isTextChar c = true ∨ c = '\n')
    {run : Nat} (hlongest : longestRun '\'' run cs < 3) :
    ∃ out run', Takes literalBlockStep (holding .plain .quotes run) cs out
        (holding .plain .quotes run') ∧ run' < 3 ∧
      out ++ List.replicate run' '\'' = List.replicate run '\'' ++ cs := by
  induction cs generalizing run with
  | nil => exact ⟨[], run, .nil _, hlongest, by simp⟩
  | cons c cs ih =>
    have hrest := fun d hd => htext d (List.mem_cons_of_mem c hd)
    have hrun : run < 3 := Nat.lt_of_le_of_lt (le_longestRun _ _ _) hlongest
    unfold longestRun at hlongest
    split at hlongest
    · next hc =>
      subst hc
      obtain ⟨out, run', htakes, hrun', hout⟩ := ih hrest hlongest
      refine ⟨out, run', .cons (literalBlock_reader.holding_quote (by omega)) htakes, hrun', ?_⟩
      rw [hout, List.replicate_succ', List.append_assoc]
      rfl
    · next hc =>
      have hnext : longestRun '\'' 0 cs < 3 :=
        Nat.lt_of_le_of_lt (Nat.le_max_right _ _) hlongest
      obtain ⟨out, run', htakes, hrun', hout⟩ := ih hrest hnext
      have hchar : literalBlockStep (holding .plain .quotes run) c =
          .keep (List.replicate run '\'' ++ [c]) .plain := by
        rw [literalBlock_reader.holding_other hrun hc,
          literalPlain_self (htext c List.mem_cons_self) hc]
        rfl
      refine ⟨List.replicate run '\'' ++ [c] ++ out, run', .cons hchar htakes, hrun', ?_⟩
      rw [List.append_assoc, hout]
      simp

/-! ## All forms -/

theorem not_mem_of_longestRun {q : Char} {run : Nat} {cs : List Char}
    (h : longestRun q run cs = 0) : q ∉ cs := by
  induction cs generalizing run with
  | nil => exact List.not_mem_nil
  | cons c cs ih =>
    unfold longestRun at h
    split at h
    · have hle := le_longestRun q (run + 1) cs
      omega
    · next hc =>
      have hrest : longestRun q 0 cs = 0 := by omega
      rw [List.mem_cons, not_or]
      exact ⟨Ne.symm hc, ih hrest⟩

/-- A text is written between single quotes only if it holds nothing that would need an escape. -/
theorem Traits.form_literal {cs : List Char} (h : (ofText cs).form = .literal) :
    (∀ c ∈ cs, isTextChar c = true) ∧ '\'' ∉ cs := by
  obtain ⟨hcontrol, hsingles, hnewline⟩ : cs.any isControl = false ∧
      longestRun '\'' 0 cs = 0 ∧ cs.contains '\n' = false := by
    unfold form at h
    repeat' split at h
    all_goals simp_all [ofText]
  refine ⟨fun c hc => ?_, not_mem_of_longestRun hsingles⟩
  refine isTextChar_of_not_isControl (Bool.eq_false_iff.2 (List.any_eq_false.1 hcontrol c hc)) ?_
  rintro rfl
  simp [hc] at hnewline

theorem Traits.form_literalBlock {cs : List Char} (h : (ofText cs).form = .literalBlock) :
    (∀ c ∈ cs, isTextChar c = true ∨ c = '\n') ∧ longestRun '\'' 0 cs < 3 := by
  obtain ⟨hcontrol, hsingles⟩ : cs.any isControl = false ∧ longestRun '\'' 0 cs ≤ 2 := by
    unfold form at h
    repeat' split at h
    all_goals simp_all [ofText]
  refine ⟨fun c hc => ?_, Nat.lt_succ_of_le hsingles⟩
  by_cases hline : c = '\n'
  · exact .inr hline
  · exact .inl (isTextChar_of_not_isControl (Bool.eq_false_iff.2 (List.any_eq_false.1 hcontrol c hc)) hline)

theorem escaped_head (lines : Bool) (plain run : Nat) (c : Char) :
    ∃ d ds, escaped lines plain run c = d :: ds ∧ (d = '"' → run < plain) ∧ (d = '\n' → c = '\n') ∧
      d ≠ '\r' := by
  have hform := escaped_form lines plain run c
  generalize escaped lines plain run c = ds at hform ⊢
  cases hform with
  | quote h => exact ⟨_, _, rfl, fun _ => h, by simp, by decide⟩
  | line h => exact ⟨_, _, rfl, by simp, by simp, by decide⟩
  | escape _ h => exact ⟨_, _, rfl, by simp, by simp, by decide⟩
  | self text quote =>
    exact ⟨_, _, rfl, fun hc => absurd hc quote, id, ne_of_isTextChar text (by decide)⟩

theorem readQuoted_double {cs : List Char} (h : ¬['"', '"'] <+: cs) :
    readQuoted ('"' :: cs) = readWith basicStep (fun _ => none) .plain cs := by
  rw [readQuoted]
  rintro ds rfl
  exact h ⟨ds, rfl⟩

theorem readQuoted_single {cs : List Char} (h : ¬['\'', '\''] <+: cs) :
    readQuoted ('\'' :: cs) = readWith literalStep (fun _ => none) .plain cs := by
  rw [readQuoted]
  rintro ds rfl
  exact h ⟨ds, rfl⟩

theorem dropLineEnd_of_head {cs : List Char} (hline : cs.head? ≠ some '\n')
    (hreturn : cs.head? ≠ some '\r') : dropLineEnd cs = cs := by
  unfold dropLineEnd
  split
  · simp at hline
  · simp at hreturn
  · rfl

/-- Neither empty nor other text on one line looks like the start of a block. -/
theorem not_opens_block {q : Char} {cs rest : List Char} (hcs : cs.head? ≠ some q)
    (hrest : rest.head? ≠ some q) : ¬[q, q] <+: cs ++ q :: rest := by
  rintro ⟨tail, htail⟩
  cases cs with
  | nil =>
    obtain rfl := (List.cons.inj htail).2
    exact hrest rfl
  | cons c cs => exact hcs (by rw [(List.cons.inj htail).1]; rfl)

/-- The line end that starts a block is dropped, and nothing else is. -/
theorem dropLineEnd_blockStart {cs ds : List Char}
    (h : '\n' ∉ cs → ds.head? ≠ some '\n' ∧ ds.head? ≠ some '\r') :
    dropLineEnd (blockStart (Traits.ofText cs) ++ ds) = ds := by
  unfold blockStart
  split
  · rfl
  · next hline =>
    have hnone : '\n' ∉ cs := by simpa [Traits.ofText] using hline
    exact dropLineEnd_of_head (h hnone).1 (h hnone).2

section All

variable {cs rest : List Char} (hdouble : rest.head? ≠ some '"') (hsingle : rest.head? ≠ some '\'')

include hdouble in
theorem readQuoted_basic :
    readQuoted ('"' :: escapedText false 0 0 cs ++ ['"'] ++ rest) = some (cs, rest) := by
  have hhead : (escapedText false 0 0 cs).head? ≠ some '"' := by
    cases cs with
    | nil => simp [escapedText]
    | cons c cs =>
      obtain ⟨d, ds, hd, hquote, -⟩ := escaped_head false 0 0 c
      rw [escapedText, hd]
      intro heq
      exact Nat.not_lt_zero 0 (hquote (Option.some.inj heq))
  have hopens := not_opens_block hhead hdouble
  rw [List.append_assoc, List.cons_append, List.singleton_append, readQuoted_double hopens,
    (takes_basic cs).readWith]
  simp [readWith, basicStep]

include hsingle in
theorem readQuoted_literal (h : (Traits.ofText cs).form = .literal) :
    readQuoted ('\'' :: cs ++ ['\''] ++ rest) = some (cs, rest) := by
  obtain ⟨htext, hquote⟩ := Traits.form_literal h
  have hhead : cs.head? ≠ some '\'' := fun heq => hquote (List.mem_of_mem_head? heq)
  have hopens := not_opens_block hhead hsingle
  rw [List.append_assoc, List.cons_append, List.singleton_append, readQuoted_single hopens,
    (takes_literal htext hquote).readWith]
  simp [readWith, literalStep]

include hdouble in
theorem readQuoted_basicBlock :
    readQuoted (['"', '"', '"'] ++ blockStart (Traits.ofText cs) ++ escapedText true 2 0 cs ++
      ['"', '"', '"'] ++ rest) = some (cs, rest) := by
  have hstart : '\n' ∉ cs →
      (escapedText true 2 0 cs ++ '"' :: '"' :: '"' :: rest).head? ≠ some '\n' ∧
      (escapedText true 2 0 cs ++ '"' :: '"' :: '"' :: rest).head? ≠ some '\r' := by
    intro hline
    cases cs with
    | nil => simp [escapedText]
    | cons c cs =>
      obtain ⟨d, ds, hd, -, hdline, hdreturn⟩ := escaped_head true 2 0 c
      rw [escapedText, hd]
      constructor
      · intro heq
        have hc := hdline (Option.some.inj heq)
        exact hline (by rw [hc]; exact List.mem_cons_self)
      · intro heq
        exact hdreturn (Option.some.inj heq)
  obtain ⟨out, run, htakes, hrun, hout⟩ := takes_block cs (show 0 < 3 by omega)
  simp only [List.append_assoc, List.cons_append, List.nil_append]
  rw [readQuoted, dropLineEnd_blockStart hstart]
  exact basicBlock_reader.readWith_closed htakes hrun hout hdouble

include hsingle in
theorem readQuoted_literalBlock (h : (Traits.ofText cs).form = .literalBlock) :
    readQuoted (['\'', '\'', '\''] ++ blockStart (Traits.ofText cs) ++ cs ++
      ['\'', '\'', '\''] ++ rest) = some (cs, rest) := by
  obtain ⟨htext, hlongest⟩ := Traits.form_literalBlock h
  have hstart : '\n' ∉ cs → (cs ++ '\'' :: '\'' :: '\'' :: rest).head? ≠ some '\n' ∧
      (cs ++ '\'' :: '\'' :: '\'' :: rest).head? ≠ some '\r' := by
    intro hline
    cases cs with
    | nil => simp
    | cons c cs =>
      have hc : c ≠ '\n' := fun hc => hline (by rw [hc]; exact List.mem_cons_self)
      have hreturn := ne_of_isTextChar ((htext c List.mem_cons_self).resolve_right hc)
        (show isTextChar '\r' = false by decide)
      simpa using ⟨hc, hreturn⟩
  obtain ⟨out, run, htakes, hrun, hout⟩ := takes_literalBlock htext hlongest
  simp only [List.append_assoc, List.cons_append, List.nil_append]
  rw [readQuoted, dropLineEnd_blockStart hstart]
  exact literalBlock_reader.readWith_closed htakes hrun hout hsingle

include hdouble hsingle

/-- A quoted text reads as itself, in whichever form it was written. -/
theorem readQuoted_quoteChars : readQuoted (quoteChars cs ++ rest) = some (cs, rest) := by
  unfold quoteChars
  dsimp only
  split
  · exact readQuoted_basic hdouble
  · next hform => exact readQuoted_literal hsingle hform
  · exact readQuoted_basicBlock hdouble
  · next hform => exact readQuoted_literalBlock hsingle hform

end All

end ShellGuard.Toml
