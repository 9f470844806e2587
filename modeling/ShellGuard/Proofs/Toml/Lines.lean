import Mathlib
import ShellGuard.Proofs.Toml.Quoted
import ShellGuard.Toml.Layout
import ShellGuard.Toml.Reader

/-!
# Reading inverts the layout of lines

What `Toml.entry` and its companions write is read back: a line that sets a key gives its setting,
and lines that follow one another give their settings in order.  The reader of lines counts down
from the length of the document; `Reads` hides the count, so that stretches of lines compose
(`Reads.trans`).
-/

namespace ShellGuard.Toml

/-! ## Values -/

/-- What may follow a value on its line: neither a quote nor a character that the value could take
along. -/
def endsValue : List Char → Bool
  | [] => true
  | c :: _ => c == '\n' || c == ',' || c == ']'

theorem endsValue_ne {rest : List Char} (h : endsValue rest = true) {q : Char}
    (hq : q ≠ '\n' ∧ q ≠ ',' ∧ q ≠ ']') : rest.head? ≠ some q := by
  cases rest with
  | nil => simp
  | cons c cs =>
    rintro ⟨⟩
    simp [endsValue, hq] at h

theorem quoteChars_head (cs : List Char) :
    ∃ ds, quoteChars cs = '"' :: ds ∨ quoteChars cs = '\'' :: ds := by
  unfold quoteChars
  dsimp only
  split
  · exact ⟨_, .inl rfl⟩
  · exact ⟨_, .inr rfl⟩
  · exact ⟨_, .inl rfl⟩
  · exact ⟨_, .inr rfl⟩

theorem readValue_quote (size limit : Nat) (s : String) {rest : List Char}
    (hrest : endsValue rest = true) :
    readValue size limit ((quote s).toList ++ rest) = some (string s, rest) := by
  have hread : readQuoted (quoteChars s.toList ++ rest) = some (s.toList, rest) :=
    readQuoted_quoteChars (endsValue_ne hrest (by decide)) (endsValue_ne hrest (by decide))
  rw [quote, String.toList_ofList]
  obtain ⟨ds, hds | hds⟩ := quoteChars_head s.toList
  · rw [hds, List.cons_append] at hread ⊢
    rw [readValue, hread]
    simp
  · rw [hds, List.cons_append] at hread ⊢
    rw [readValue, hread]
    simp

theorem scalarRun_line (run : List Char) (h : run.all isScalarChar = true) (rest : List Char) :
    scalarRun (run ++ '\n' :: rest) = (run, '\n' :: rest) := by
  have hrun : ∀ c ∈ run, isScalarChar c = true := List.all_eq_true.1 h
  have htake : (run ++ '\n' :: rest).takeWhile isScalarChar = run := by
    rw [List.takeWhile_append_of_pos hrun, List.takeWhile_cons_of_neg (by decide),
      List.append_nil]
  have hdrop : (run ++ '\n' :: rest).dropWhile isScalarChar = '\n' :: rest := by
    rw [List.dropWhile_append_of_pos hrun, List.dropWhile_cons_of_neg (by decide)]
  rw [scalarRun, htake, hdrop]
  rfl

theorem readValue_boolean (size limit : Nat) (b : Bool) (rest : List Char) :
    readValue size limit ((booleanText b).toList ++ '\n' :: rest) =
      some (boolean b, '\n' :: rest) := by
  cases b with
  | false =>
    have hrun : scalarRun ('f' :: 'a' :: 'l' :: 's' :: 'e' :: '\n' :: rest) =
        (['f', 'a', 'l', 's', 'e'], '\n' :: rest) := scalarRun_line ['f', 'a', 'l', 's', 'e'] (by rfl) rest
    simp [booleanText, readValue, hrun, scalar?]
  | true =>
    have hrun : scalarRun ('t' :: 'r' :: 'u' :: 'e' :: '\n' :: rest) =
        (['t', 'r', 'u', 'e'], '\n' :: rest) := scalarRun_line ['t', 'r', 'u', 'e'] (by rfl) rest
    simp [booleanText, readValue, hrun, scalar?]

/-! ### Arrays of texts -/

theorem join_toList (separator s : String) (more : List String) :
    (Text.join separator (s :: more)).toList =
      s.toList ++ more.flatMap fun t => separator.toList ++ t.toList := by
  rw [Text.join]
  induction more generalizing s with
  | nil => simp
  | cons t more ih =>
    rw [List.foldl_cons, ih]
    simp

theorem skipGap_of_head {c : Char} (h : c ∉ ['\n', '\r', ' ', '\t', '#']) (cs : List Char) :
    skipGap false (c :: cs) = c :: cs := by
  obtain ⟨hline, hreturn, hspace, htab, hcomment⟩ :
      c ≠ '\n' ∧ c ≠ '\r' ∧ c ≠ ' ' ∧ c ≠ '\t' ∧ c ≠ '#' := by simpa using h
  rw [skipGap]
  · simp [isBlank, hspace, htab, hcomment]
  · exact hline
  · exact fun _ hc => absurd hc hreturn

theorem skipGap_quote (s : String) (rest : List Char) :
    skipGap false ((quote s).toList ++ rest) = (quote s).toList ++ rest := by
  rw [quote, String.toList_ofList]
  obtain ⟨ds, hds | hds⟩ := quoteChars_head s.toList
  · rw [hds, List.cons_append, skipGap_of_head (by decide)]
  · rw [hds, List.cons_append, skipGap_of_head (by decide)]

theorem quote_append_ne (s : String) (rest cs : List Char) :
    (quote s).toList ++ rest ≠ ']' :: cs := by
  rw [quote, String.toList_ofList]
  obtain ⟨ds, hds | hds⟩ := quoteChars_head s.toList <;> simp [hds]

/-- The elements of an array after its first, each with the comma and the blank before it. -/
def furtherTexts (items : List String) : List Char :=
  items.flatMap fun s => ", ".toList ++ (quote s).toList

theorem inlineTexts_toList (s : String) (more : List String) :
    (inlineTexts (s :: more)).toList = '[' :: ((quote s).toList ++ furtherTexts more ++ [']']) := by
  rw [inlineTexts, List.map_cons, String.toList_append, String.toList_append, join_toList]
  simp [furtherTexts, List.flatMap_map]

/-- A blank before the next element changes nothing. -/
theorem readItems_blank (item : List Char → Option (Toml × List Char)) (fuel : Nat)
    (cs : List Char) : readItems item fuel (' ' :: cs) = readItems item fuel cs := by
  cases fuel with
  | zero => rfl
  | succ fuel =>
    have hskip : skipGap false (' ' :: cs) = skipGap false cs := by simp [skipGap, isBlank]
    rw [readItems, readItems, hskip]

section Items

variable {item : List Char → Option (Toml × List Char)}
  (hitem : ∀ s rest, endsValue rest = true → item ((quote s).toList ++ rest) = some (string s, rest))
include hitem

theorem readItems_quote_close (fuel : Nat) (s : String) (rest : List Char) :
    readItems item (fuel + 1) ((quote s).toList ++ ']' :: rest) = some ([string s], rest) := by
  have hclose : skipGap false (']' :: rest) = ']' :: rest := skipGap_of_head (by decide) rest
  rw [readItems, skipGap_quote]
  split
  · rename_i cs hcs
    exact absurd hcs (quote_append_ne s _ cs)
  · rw [hitem s (']' :: rest) rfl]
    simp [hclose]

theorem readItems_quote_comma (fuel : Nat) (s : String) (rest : List Char) :
    readItems item (fuel + 1) ((quote s).toList ++ ',' :: rest) =
      (readItems item fuel rest).map fun later => (string s :: later.1, later.2) := by
  have hcomma : skipGap false (',' :: rest) = ',' :: rest := skipGap_of_head (by decide) rest
  rw [readItems, skipGap_quote]
  split
  · rename_i cs hcs
    exact absurd hcs (quote_append_ne s _ cs)
  · rw [hitem s (',' :: rest) rfl]
    cases hlater : readItems item fuel rest <;> simp [hcomma, hlater]

theorem readItems_texts (s : String) (more : List String) (rest : List Char) {fuel : Nat}
    (hfuel : more.length < fuel) :
    readItems item fuel ((quote s).toList ++ (furtherTexts more ++ ']' :: rest)) =
      some (string s :: more.map string, rest) := by
  induction more generalizing s fuel with
  | nil =>
    obtain ⟨fuel, rfl⟩ := Nat.exists_eq_add_one.2 hfuel
    exact readItems_quote_close hitem fuel s rest
  | cons t more ih =>
    obtain ⟨fuel, rfl⟩ := Nat.exists_eq_add_one.2 (Nat.zero_lt_of_lt hfuel)
    have hnext : furtherTexts (t :: more) ++ ']' :: rest =
        ',' :: ' ' :: ((quote t).toList ++ (furtherTexts more ++ ']' :: rest)) := by
      simp [furtherTexts]
    rw [hnext, readItems_quote_comma hitem, readItems_blank, ih t (by simpa using hfuel)]
    rfl

end Items

theorem readValue_texts (size limit : Nat) {items : List String} (hsize : items.length < size)
    (rest : List Char) :
    readValue size (limit + 1) ((inlineTexts items).toList ++ rest) =
      some (array (items.map string), rest) := by
  cases items with
  | nil =>
    obtain ⟨size, rfl⟩ := Nat.exists_eq_add_one.2 hsize
    have hopen : (inlineTexts []).toList ++ rest = '[' :: ']' :: rest := rfl
    have hclose : skipGap false (']' :: rest) = ']' :: rest := skipGap_of_head (by decide) rest
    rw [hopen, readValue, readItems, hclose]
    rfl
  | cons s more =>
    have hopen : (inlineTexts (s :: more)).toList ++ rest =
        '[' :: ((quote s).toList ++ (furtherTexts more ++ ']' :: rest)) := by
      rw [inlineTexts_toList]
      simp
    have hitems := readItems_texts (fun t rest => readValue_quote size limit t) s more rest
      (Nat.lt_of_succ_lt hsize)
    rw [hopen, readValue, hitems]
    rfl

/-! ### Texts that stand for values -/

/-- A text that is read as a value where it ends its line. -/
structure Denotes (size : Nat) (value : String) (v : Toml) : Prop where
  read : ∀ rest, readValue size maxNesting (value.toList ++ '\n' :: rest) = some (v, '\n' :: rest)
  head : ∀ rest, skipBlanks (value.toList ++ rest) = value.toList ++ rest

theorem skipBlanks_of_head {c : Char} (h : isBlank c = false) (cs : List Char) :
    skipBlanks (c :: cs) = c :: cs :=
  List.dropWhile_cons_of_neg (by simp [h])

theorem denotes_quote (size : Nat) (s : String) : Denotes size (quote s) (string s) := by
  refine ⟨fun rest => readValue_quote size maxNesting s rfl, fun rest => ?_⟩
  rw [quote, String.toList_ofList]
  obtain ⟨ds, hds | hds⟩ := quoteChars_head s.toList
  · rw [hds, List.cons_append, skipBlanks_of_head rfl]
  · rw [hds, List.cons_append, skipBlanks_of_head rfl]

theorem denotes_boolean (size : Nat) (b : Bool) : Denotes size (booleanText b) (boolean b) := by
  refine ⟨fun rest => readValue_boolean size maxNesting b rest, fun rest => ?_⟩
  cases b
  · exact skipBlanks_of_head (show isBlank 'f' = false from rfl) _
  · exact skipBlanks_of_head (show isBlank 't' = false from rfl) _

theorem denotes_texts {size : Nat} {items : List String} (hsize : items.length < size) :
    Denotes size (inlineTexts items) (array (items.map string)) := by
  refine ⟨fun rest => readValue_texts size 78 hsize _, fun rest => ?_⟩
  rw [inlineTexts, String.toList_append, String.toList_append]
  exact skipBlanks_of_head (show isBlank '[' = false from rfl) _

/-! ## Lines -/

/-- A key that stands in a document as it is. -/
def isBareKey (key : String) : Bool :=
  !key.toList.isEmpty && key.toList.all isBareKeyChar

section Keys

variable {key : String} (hkey : isBareKey key = true)
include hkey

theorem bareKey_ne_nil : key.toList ≠ [] := by
  intro hnil
  simp [isBareKey, hnil] at hkey

theorem bareKey_all : ∀ c ∈ key.toList, isBareKeyChar c = true := by
  simp only [isBareKey, Bool.and_eq_true, List.all_eq_true] at hkey
  exact hkey.2

/-- A bare key starts with nothing that means something else at the start of a line. -/
theorem bareKey_append_ne {d : Char} (hd : isBareKeyChar d = false) (rest cs : List Char) :
    key.toList ++ rest ≠ d :: cs := by
  intro h
  obtain ⟨c, ds, hds⟩ := List.exists_cons_of_ne_nil (bareKey_ne_nil hkey)
  have hc : isBareKeyChar c = true := bareKey_all hkey c (by simp [hds])
  rw [hds, List.cons_append] at h
  obtain rfl : c = d := (List.cons.inj h).1
  simp [hc] at hd

theorem readKey_bare {d : Char} (hd : isBareKeyChar d = false) (rest : List Char) :
    readKey (key.toList ++ d :: rest) = some (key, d :: rest) := by
  have hall := bareKey_all hkey
  have htake : (key.toList ++ d :: rest).takeWhile isBareKeyChar = key.toList := by
    rw [List.takeWhile_append_of_pos hall, List.takeWhile_cons_of_neg (by simp [hd]),
      List.append_nil]
  have hdrop : (key.toList ++ d :: rest).dropWhile isBareKeyChar = d :: rest := by
    rw [List.dropWhile_append_of_pos hall, List.dropWhile_cons_of_neg (by simp [hd])]
  rw [readKey, htake, hdrop, String.ofList_toList]
  · have hnonempty := bareKey_ne_nil hkey
    simp [hnonempty]
  · exact fun cs => bareKey_append_ne hkey rfl _ cs
  · exact fun cs => bareKey_append_ne hkey rfl _ cs

theorem skipBlanks_bareKey (rest : List Char) :
    skipBlanks (key.toList ++ rest) = key.toList ++ rest := by
  obtain ⟨c, cs, hcs⟩ := List.exists_cons_of_ne_nil (bareKey_ne_nil hkey)
  have hne : ∀ d, isBareKeyChar d = false → c ≠ d := by
    rintro d hd rfl
    exact bareKey_append_ne hkey hd [] cs (by rw [hcs, List.append_nil])
  rw [hcs, List.cons_append]
  exact skipBlanks_of_head (by simp [isBlank, hne ' ' rfl, hne '\t' rfl]) _

/-- A key that no dot follows is a path by itself. -/
theorem readPath_bare (limit : Nat) {d c : Char} {rest cs : List Char}
    (hd : isBareKeyChar d = false) (hskip : skipBlanks (d :: rest) = c :: cs) (hdot : c ≠ '.') :
    readPath (limit + 1) (key.toList ++ d :: rest) = some ([key], c :: cs) := by
  rw [readPath, skipBlanks_bareKey hkey, readKey_bare hkey hd]
  simp only [bind, Option.bind, hskip]
  split
  · rename_i cs' hcs
    exact absurd (List.cons.inj hcs).1 hdot
  · rfl

theorem readLine_item (size : Nat) (rest : List Char) :
    readLine size (("[[" ++ key ++ "]]\n").toList ++ rest) = some (some (.item [key]), rest) := by
  have htext : ("[[" ++ key ++ "]]\n").toList ++ rest =
      '[' :: '[' :: (key.toList ++ ']' :: ']' :: '\n' :: rest) := by simp
  have hpath : readPath maxNesting (key.toList ++ ']' :: ']' :: '\n' :: rest) =
      some ([key], ']' :: ']' :: '\n' :: rest) :=
    readPath_bare hkey 78 rfl (skipBlanks_of_head rfl _) (by decide)
  rw [htext, readLine, hpath]
  rfl

theorem readLine_entry {size : Nat} {value : String} {v : Toml} (hvalue : Denotes size value v)
    (rest : List Char) :
    readLine size ((entry key value).toList ++ rest) =
      some (some (.setting ⟨[key], v⟩), rest) := by
  have htext : (entry key value).toList ++ rest =
      key.toList ++ ' ' :: '=' :: ' ' :: (value.toList ++ '\n' :: rest) := by simp [entry]
  have hpath :
      readPath maxNesting (key.toList ++ ' ' :: '=' :: ' ' :: (value.toList ++ '\n' :: rest)) =
        some ([key], '=' :: ' ' :: (value.toList ++ '\n' :: rest)) :=
    readPath_bare hkey 78 rfl (skipBlanks_of_head (show isBlank '=' = false from rfl) _) (by decide)
  have hblank :
      skipBlanks (' ' :: (value.toList ++ '\n' :: rest)) = value.toList ++ '\n' :: rest :=
    hvalue.head _
  have hsetting : readSetting (readValue size maxNesting)
      (key.toList ++ ' ' :: '=' :: ' ' :: (value.toList ++ '\n' :: rest)) =
        some (⟨[key], v⟩, '\n' :: rest) := by
    rw [readSetting, hpath]
    simp [expect, hblank, hvalue.read]
  rw [htext, readLine, hsetting]
  · rfl
  · exact fun cs => bareKey_append_ne hkey rfl _ cs
  · exact fun cs => bareKey_append_ne hkey rfl _ cs
  · exact fun cs => bareKey_append_ne hkey rfl _ cs
  · exact fun cs => bareKey_append_ne hkey rfl _ _
  · exact fun cs => bareKey_append_ne hkey rfl _ cs

end Keys

theorem readLine_comment (size : Nat) {remark : List Char}
    (h : ∀ c ∈ remark, isCommentChar c = true) (rest : List Char) :
    readLine size ('#' :: (remark ++ '\n' :: rest)) = some (none, rest) := by
  have hskip : skipComment (skipBlanks ('#' :: (remark ++ '\n' :: rest))) = '\n' :: rest := by
    rw [skipBlanks_of_head rfl, skipComment, List.dropWhile_append_of_pos h,
      List.dropWhile_cons_of_neg (by decide)]
  rw [readLine, lineRest?, hskip]
  rfl

/-! ## Stretches of lines -/

/-- What stands before `rest` gives `lines`, whatever the count the reader is given. -/
def Reads (size : Nat) (cs : List Char) (lines : List Line) (rest : List Char) : Prop :=
  ∀ fuel, cs.length ≤ fuel → ∃ later, rest.length ≤ later ∧
    readLines size fuel cs = (readLines size later rest).map (lines ++ ·)

theorem Reads.refl (size : Nat) (cs : List Char) : Reads size cs [] cs := by
  intro fuel hfuel
  exact ⟨fuel, hfuel, by simp⟩

theorem Reads.trans {size : Nat} {cs ds rest : List Char} {lines more : List Line}
    (h : Reads size cs lines ds) (hmore : Reads size ds more rest) :
    Reads size cs (lines ++ more) rest := by
  intro fuel hfuel
  obtain ⟨middle, hmiddle, hread⟩ := h fuel hfuel
  obtain ⟨later, hlater, hread'⟩ := hmore middle hmiddle
  refine ⟨later, hlater, ?_⟩
  rw [hread, hread', Option.map_map]
  simp [Function.comp_def]

theorem Reads.line {size : Nat} {cs rest : List Char} {line : Option Line}
    (hstart : skipBlanks cs = cs) (hread : readLine size cs = some (line, rest))
    (hless : rest.length < cs.length) : Reads size cs line.toList rest := by
  intro fuel hfuel
  obtain ⟨fuel, rfl⟩ := Nat.exists_eq_add_one.2 (Nat.zero_lt_of_lt (Nat.lt_of_lt_of_le hless hfuel))
  refine ⟨fuel, by omega, ?_⟩
  cases cs with
  | nil => simp at hless
  | cons c cs =>
    rw [readLines, hstart]
    simp only [hread, bind, Option.bind]
    cases readLines size fuel rest <;> rfl

/-- A document that is made up of lines to its end. -/
theorem Reads.document {size : Nat} {cs : List Char} {lines : List Line}
    (h : Reads size cs lines []) : readLines size cs.length cs = some lines := by
  obtain ⟨later, -, hread⟩ := h cs.length le_rfl
  have hend : readLines size later [] = some [] := by
    cases later <;> rfl
  rw [hread, hend]
  simp

theorem reads_entry {size : Nat} (key : String) {value : String} {v : Toml}
    (hkey : isBareKey key = true) (hvalue : Denotes size value v) (rest : List Char) :
    Reads size ((entry key value).toList ++ rest) [.setting ⟨[key], v⟩] rest := by
  refine Reads.line ?_ (readLine_entry hkey hvalue rest) ?_
  · simp only [entry, String.toList_append, List.append_assoc, skipBlanks_bareKey hkey]
  · simp [entry]
    omega

theorem reads_item (size : Nat) (key : String) (hkey : isBareKey key = true) (rest : List Char) :
    Reads size (("[[" ++ key ++ "]]\n").toList ++ rest) [.item [key]] rest := by
  refine Reads.line ?_ (readLine_item hkey size rest) ?_
  · simp only [String.toList_append, List.append_assoc]
    exact skipBlanks_of_head rfl _
  · simp
    omega

theorem reads_empty (size : Nat) (rest : List Char) : Reads size ('\n' :: rest) [] rest := by
  have hread : readLine size ('\n' :: rest) = some (none, rest) := rfl
  exact Reads.line (skipBlanks_of_head rfl _) hread (by simp)

theorem reads_comment (size : Nat) {remark : List Char}
    (h : ∀ c ∈ remark, isCommentChar c = true) (rest : List Char) :
    Reads size ('#' :: (remark ++ '\n' :: rest)) [] rest :=
  Reads.line (skipBlanks_of_head rfl _) (readLine_comment size h rest) (by simp; omega)

/-! ### Remarks -/

/-- Whether a text is made up of comments and empty lines, from the start of a line or from inside a
comment. -/
def isRemarks : (inside : Bool) → List Char → Bool
  | inside, [] => !inside
  | _, '\n' :: cs => isRemarks false cs
  | true, c :: cs => isCommentChar c && isRemarks true cs
  | false, c :: cs => c == '#' && isRemarks true cs

theorem isRemarks_append {inside : Bool} {cs ds : List Char} (h : isRemarks inside cs = true)
    (hds : isRemarks false ds = true) : isRemarks inside (cs ++ ds) = true := by
  fun_induction isRemarks inside cs with
  | case1 inside => simp_all
  | case2 inside cs ih => simpa [isRemarks] using ih h
  | case3 c cs hend ih => simp_all [isRemarks]
  | case4 c cs hend ih => simp_all [isRemarks]

/-- A literal need not be taken apart to be checked. -/
theorem isRemarks_ofList {cs : List Char} (h : isRemarks false cs = true) :
    isRemarks false (String.ofList cs).toList = true := by
  rwa [String.toList_ofList]

/-- A comment ends with its line. -/
theorem isRemarks_inside {cs : List Char} (h : isRemarks true cs = true) :
    ∃ remark more, cs = remark ++ '\n' :: more ∧ (∀ c ∈ remark, isCommentChar c = true) ∧
      isRemarks false more = true := by
  induction cs with
  | nil => simp [isRemarks] at h
  | cons c cs ih =>
    by_cases hend : c = '\n'
    · subst hend
      exact ⟨[], cs, rfl, by simp, h⟩
    · simp only [isRemarks, Bool.and_eq_true] at h
      obtain ⟨remark, more, rfl, hremark, hmore⟩ := ih h.2
      exact ⟨c :: remark, more, rfl, by simpa using ⟨h.1, hremark⟩, hmore⟩

theorem reads_remarks (size : Nat) {cs : List Char} (h : isRemarks false cs = true)
    (rest : List Char) : Reads size (cs ++ rest) [] rest := by
  -- A comment is skipped as a whole, so the induction is on the length of the text.
  induction hn : cs.length using Nat.strong_induction_on generalizing cs with
  | h n ih =>
    subst hn
    cases cs with
    | nil => exact .refl size rest
    | cons c cs =>
      by_cases hend : c = '\n'
      · subst hend
        exact (reads_empty size _).trans (ih cs.length (by simp) h rfl)
      · simp only [isRemarks, Bool.and_eq_true, beq_iff_eq] at h
        obtain ⟨rfl, hinside⟩ := h
        obtain ⟨remark, more, rfl, hremark, hmore⟩ := isRemarks_inside hinside
        have hfirst := reads_comment size hremark (more ++ rest)
        rw [List.cons_append, List.append_assoc, List.cons_append]
        exact hfirst.trans (ih more.length (by simp; omega) hmore rfl)

/-- Remarks do not start with a mark. -/
theorem dropMark_remarks {cs : List Char} (h : isRemarks false cs = true) (hne : cs ≠ [])
    (rest : List Char) : dropMark (cs ++ rest) = cs ++ rest := by
  obtain ⟨c, cs, rfl⟩ := List.exists_cons_of_ne_nil hne
  have hmark : c ≠ '\uFEFF' := by
    rintro rfl
    simp [isRemarks] at h
  rw [List.cons_append, dropMark]
  rintro ds hds
  exact hmark (List.cons.inj hds).1

end ShellGuard.Toml
