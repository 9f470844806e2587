import Mathlib
import ShellGuard.Proofs.Git.Rewording
import ShellGuard.Proofs.Syntax.PlainWords
import ShellGuard.Proofs.Syntax.Walk

/-!
# Plain `git` lines, with a tree and without

Where a text has no tree, its `git` command is cut out of the text at the blanks.  On a line of
plain words that gives what the tree gives: both hand the same words to the checks.
-/

namespace ShellGuard

/-! ## Cutting a line at its blanks -/

namespace Text

theorem cutBlanks_word {w : List Char} (hw : ∀ c ∈ w, isBlank c = false) (acc cs : List Char) :
    cutBlanks acc (w ++ cs) = cutBlanks (w.reverse ++ acc) cs := by
  induction w generalizing acc with
  | nil => rfl
  | cons c w ih =>
    obtain ⟨hc, hw⟩ := List.forall_mem_cons.1 hw
    rw [List.cons_append, cutBlanks, hc]
    simpa using ih hw (c :: acc)

theorem cutBlanks_dropBlanks (cs : List Char) : cutBlanks [] (dropBlanks cs) = cutBlanks [] cs := by
  induction cs with
  | nil => rfl
  | cons c cs ih =>
    by_cases hc : isBlank c = true
    · rw [dropBlanks, List.dropWhile_cons_of_pos hc, cutBlanks, if_pos hc]
      exact ih
    · rw [dropBlanks, List.dropWhile_cons_of_neg hc]

/-- Blanks end the word that is being read, and only that. -/
theorem cutBlanks_blanks {b : List Char} (hne : b ≠ []) (hb : ∀ c ∈ b, isBlank c = true)
    (acc cs : List Char) :
    cutBlanks acc (b ++ cs) = cutBlanks acc [] ++ cutBlanks [] cs := by
  obtain ⟨c, b, rfl⟩ := List.exists_cons_of_ne_nil hne
  obtain ⟨hc, hb⟩ := List.forall_mem_cons.1 hb
  have hskip : cutBlanks [] (b ++ cs) = cutBlanks [] cs := by
    rw [← cutBlanks_dropBlanks (b ++ cs), ← cutBlanks_dropBlanks cs, dropBlanks, dropBlanks,
      List.dropWhile_append_of_pos hb]
  by_cases hacc : acc = [] <;> simp [cutBlanks, hc, hskip, hacc]

end Text

theorem Blanks.isBlank_of_mem (b : Blanks) : ∀ c ∈ b.chars, Text.isBlank c = true := by
  intro c hc
  rcases b.blank_of_mem c hc with rfl | rfl <;> rfl

theorem cutBlanks_lineText (acc : List Char) (pieces : List (Blanks × PlainWord)) :
    Text.cutBlanks acc (lineText pieces) =
      Text.cutBlanks acc [] ++ pieces.map (·.2.chars) := by
  induction pieces generalizing acc with
  | nil => simp [lineText]
  | cons piece pieces ih =>
    obtain ⟨b, w⟩ := piece
    have hword : ∀ c ∈ w.chars, Text.isBlank c = false :=
      fun c hc => not_isBlank_of_isWordChar (w.isWordChar_of_mem c hc)
    have hend : Text.cutBlanks w.chars.reverse [] = [w.chars] := by simp [Text.cutBlanks, w.ne_nil]
    -- `acc` is the word left open by the piece before; the blanks of this one close it.
    calc Text.cutBlanks acc (lineText ((b, w) :: pieces))
        = Text.cutBlanks acc (b.chars ++ (w.chars ++ lineText pieces)) := by
          rw [lineText, List.flatMap_cons, List.append_assoc]
          rfl
      _ = Text.cutBlanks acc [] ++ Text.cutBlanks w.chars.reverse (lineText pieces) := by
          rw [Text.cutBlanks_blanks b.ne_nil b.isBlank_of_mem, Text.cutBlanks_word hword,
            List.append_nil]
      _ = Text.cutBlanks acc [] ++ ([w.chars] ++ pieces.map (·.2.chars)) := by
          rw [ih, hend]
      _ = Text.cutBlanks acc [] ++ ((b, w) :: pieces).map (·.2.chars) := rfl

theorem newline_notMem_lineText (pieces : List (Blanks × PlainWord)) : '\n' ∉ lineText pieces := by
  intro hmem
  obtain ⟨⟨b, w⟩, -, hmem⟩ := List.mem_flatMap.1 hmem
  rcases List.mem_append.1 hmem with hmem | hmem
  · rcases b.blank_of_mem _ hmem with h | h <;> exact absurd h (by decide)
  · exact absurd (w.isWordChar_of_mem _ hmem) (by decide)

/-! ## The two readings -/

namespace Git

/-- The word `git`. -/
def gitWord : PlainWord :=
  ⟨['g', 'i', 't'], by decide, List.all_eq_true.1 (by decide)⟩

/-- A line that runs `git` with the words of the pieces. -/
def gitLine (pieces : List (Blanks × PlainWord)) : String :=
  String.ofList (gitWord.chars ++ lineText pieces)

/-- Without blanks behind it `git` has no words, and the text is not looked at. -/
theorem rawWords_gitLine (pieces : List (Blanks × PlainWord)) :
    rawWords (gitLine pieces).toList =
      if pieces.isEmpty then Option.none else some (pieces.map (·.2.text)) := by
  have hdrop : Text.dropBlanks (gitWord.chars ++ lineText pieces) =
      'g' :: 'i' :: 't' :: lineText pieces := rfl
  have hline : '\n' ∉ Text.dropBlanks (lineText pieces) :=
    fun hmem => newline_notMem_lineText pieces ((List.dropWhile_sublist _).mem hmem)
  have hwords : Text.words (String.ofList (Text.dropBlanks (lineText pieces))) =
      pieces.map (·.2.text) := by
    rw [Text.words, String.toList_ofList, Text.cutBlanks_dropBlanks, cutBlanks_lineText]
    simp [Text.cutBlanks, PlainWord.text]
  have hblank : (lineText pieces).head?.any Text.isBlank = !pieces.isEmpty := by
    cases pieces with
    | nil => rfl
    | cons piece pieces =>
      obtain ⟨c, cs, hchars⟩ := List.exists_cons_of_ne_nil piece.1.ne_nil
      have hc : Text.isBlank c = true :=
        piece.1.isBlank_of_mem c (by rw [hchars]; exact List.mem_cons_self)
      simp [lineText, hchars, hc]
  rw [gitLine, String.toList_ofList, rawWords, hdrop]
  show (if (lineText pieces).head?.any Text.isBlank &&
      !(Text.dropBlanks (lineText pieces)).contains '\n' then _ else _) = _
  rw [hwords, hblank, List.contains_eq_mem, decide_eq_false hline]
  cases pieces <;> rfl

/-- The tree of a line holds one command, the line itself: patterns run nothing. -/
theorem requests_tree {nodes : List Node} (hnodes : ∀ n ∈ nodes, n.kind = .glob)
    (command : String) (p : Position) (words : List String) :
    requests command (some (.command p "git" words nodes)) = [words] := by
  have hnone : nodes.flatMap Node.commands = [] := by
    rw [List.flatMap_eq_nil_iff]
    intro n hn
    cases n with
    | glob => rw [Node.commands_eq_flatMap (by simp [Node.kind])]; rfl
    | _ => cases hnodes _ hn
  rw [requests, Node.commands_command, hnone]
  rfl

/-- A plain line gives the same findings whether its words are read off the tree or off the text. -/
theorem check_gitLine (branches : List String) (ctx : GitContext)
    (pieces : List (Blanks × PlainWord)) :
    ∃ tree, parse (gitLine pieces) = .ok tree ∧
      check branches (gitLine pieces) (some tree.root) ctx =
        check branches (gitLine pieces) Option.none ctx ∧
      check branches (gitLine pieces) (some tree.root) ctx =
        checkWords branches ctx (pieces.map (·.2.text)) := by
  obtain ⟨nodes, hparse, hnodes⟩ := parse_line gitWord pieces
  have htree : check branches (gitLine pieces)
      (some (.command .start gitWord.text (pieces.map (·.2.text)) nodes)) ctx =
        checkWords branches ctx (pieces.map (·.2.text)) := by
    rw [check_eq_flatMap, show gitWord.text = "git" from rfl, requests_tree hnodes,
      List.flatMap_singleton]
  have htext : check branches (gitLine pieces) Option.none ctx =
      checkWords branches ctx (pieces.map (·.2.text)) := by
    rw [check_eq_flatMap, requests, rawWords_gitLine]
    -- A bare `git` is no request in the text and an empty one in the tree; neither finds anything.
    cases pieces with
    | nil => rfl
    | cons piece pieces => exact List.flatMap_singleton ..
  exact ⟨_, hparse, htree.trans htext.symm, htree⟩

end Git

end ShellGuard
