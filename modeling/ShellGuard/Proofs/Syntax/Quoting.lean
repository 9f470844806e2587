import Mathlib
import ShellGuard.Proofs.Syntax.Nesting
import ShellGuard.Proofs.Syntax.Relocation

/-!
# Substitutions inside double quotes

A double-quoted text ends at the first double quote that no backslash protects, whether or not a
substitution is open there, and only then is the text searched for expansions.  Between `$(` and `)`
alone, quotes hide what stands in them.  So a substitution that holds a bare double quote of its own
is seen where it stands unquoted and torn apart where it stands between double quotes; every other
substitution is seen in both.

Both readers are machines that go over the body character by character.  `Lexeme.Follows` relates
their states: they agree on whether the next character is protected, except inside single quotes.
-/

namespace ShellGuard

/-! ## Machines that look for a closer -/

namespace Lexeme

section Machine

variable {σ : Type} {step : σ → Char → Option σ}

/-- A machine that goes on over a text looks for its closer behind it. -/
theorem untilClosed_of_foldlM {s s' : σ} {xs : List Char} (h : xs.foldlM step s = some s')
    (ys : List Char) :
    untilClosed step s (xs ++ ys) =
      (untilClosed step s' ys).map fun split => (xs ++ split.1, split.2) := by
  induction xs generalizing s with
  | nil =>
    obtain rfl : s = s' := Option.some.inj h
    simp
  | cons x xs ih =>
    rw [List.foldlM_cons] at h
    obtain ⟨t, ht, hxs⟩ := Option.bind_eq_some_iff.1 h
    rw [List.cons_append, untilClosed, ht]
    simp only [ih hxs, Option.map_map]
    rfl

/-- What stands before the closer is a text over which the machine goes on. -/
theorem foldlM_of_untilClosed {s : σ} {cs : List Char} {split : List Char × List Char}
    (h : untilClosed step s cs = some split) :
    ∃ s' c, split.1.foldlM step s = some s' ∧ step s' c = none ∧ cs = split.1 ++ c :: split.2 := by
  induction cs generalizing s split with
  | nil => cases h
  | cons c cs ih =>
    rw [untilClosed] at h
    cases hstep : step s c with
    | none =>
      rw [hstep] at h
      obtain rfl := Option.some.inj h
      exact ⟨s, c, rfl, hstep, rfl⟩
    | some t =>
      rw [hstep] at h
      obtain ⟨inner, hinner, rfl⟩ := Option.map_eq_some_iff.1 h
      obtain ⟨s', d, hfold, hnone, hcs⟩ := ih hinner
      refine ⟨s', d, ?_, hnone, by rw [hcs]; rfl⟩
      rw [push, List.foldlM_cons, hstep]
      exact hfold

/-- What follows a closer is not looked at. -/
theorem untilClosed_append_right {s : σ} {cs : List Char} {split : List Char × List Char}
    (h : untilClosed step s cs = some split) (ys : List Char) :
    untilClosed step s (cs ++ ys) = some (split.1, split.2 ++ ys) := by
  obtain ⟨s', c, hfold, hclose, rfl⟩ := foldlM_of_untilClosed h
  rw [List.append_assoc, untilClosed_of_foldlM hfold, List.cons_append, untilClosed, hclose]
  simp

end Machine

/-- Whether a text holds a double quote that no backslash protects. -/
def hasBareQuote : List Char → Bool
  | [] => false
  | ['\\'] => false
  | '\\' :: _ :: cs => hasBareQuote cs
  | c :: cs => c == '"' || hasBareQuote cs

theorem ne_backslash {c : Char} {cs : List Char} (hlone : c = '\\' → cs = [] → False)
    (hpair : ∀ d ds, c = '\\' → cs = d :: ds → False) : c ≠ '\\' := by
  intro hc
  cases cs with
  | nil => exact hlone hc rfl
  | cons d ds => exact hpair d ds hc rfl

theorem quoteStep_of_ne {c : Char} (hbackslash : c ≠ '\\') (hquote : c ≠ '"') :
    quoteStep '"' true false c = some false := by
  simp [quoteStep, hbackslash, hquote]

/-- Without a bare quote the reader of a quoted text goes on. -/
theorem foldlM_of_hasBareQuote_false {cs : List Char} (h : hasBareQuote cs = false) :
    ∃ shielded, cs.foldlM (quoteStep '"' true) false = some shielded := by
  fun_induction hasBareQuote cs with
  | case1 => exact ⟨false, rfl⟩
  | case2 => exact ⟨true, rfl⟩
  | case3 d cs ih => exact ih h
  | case4 c cs hlone hpair ih =>
    have hbackslash : c ≠ '\\' := ne_backslash hlone hpair
    obtain ⟨hc, hcs⟩ := Bool.or_eq_false_iff.1 h
    obtain ⟨shielded, hfold⟩ := ih hcs
    refine ⟨shielded, ?_⟩
    rw [List.foldlM_cons, quoteStep_of_ne hbackslash (by simpa using hc)]
    exact hfold

/-- At a bare quote it stops. -/
theorem delimited_of_hasBareQuote {cs : List Char} (h : hasBareQuote cs = true) :
    ∃ split, delimited '"' true cs = some split := by
  unfold delimited
  fun_induction hasBareQuote cs with
  | case1 => cases h
  | case2 => cases h
  | case3 d cs ih =>
    obtain ⟨split, hsplit⟩ := ih h
    have hgo : ['\\', d].foldlM (quoteStep '"' true) false = some false := rfl
    have hclosed := untilClosed_of_foldlM hgo cs
    rw [hsplit] at hclosed
    exact ⟨_, hclosed⟩
  | case4 c cs hlone hpair ih =>
    have hbackslash : c ≠ '\\' := ne_backslash hlone hpair
    by_cases hquote : c = '"'
    · exact ⟨([], cs), by rw [hquote]; rfl⟩
    · obtain ⟨split, hsplit⟩ := ih (by simpa [hquote] using h)
      have hgo : [c].foldlM (quoteStep '"' true) false = some false := by
        rw [List.foldlM_cons, quoteStep_of_ne hbackslash hquote]
        rfl
      have hclosed := untilClosed_of_foldlM hgo cs
      rw [hsplit] at hclosed
      exact ⟨_, hclosed⟩

/-- How the reader of a quoted text follows the reader of a substitution over the same characters:
they agree on whether the next character is protected, but for single quotes, in which only the
first lets a backslash protect. -/
def Follows (n : Nest) (shielded : Bool) : Prop :=
  if n.quote = some '\'' then n.shielded = false else shielded = n.shielded

theorem Follows.step {n n' : Nest} {shielded shielded' : Bool} {c : Char}
    (h : Follows n shielded) (hn : n.step c = some n')
    (hquote : quoteStep '"' true shielded c = some shielded') : Follows n' shielded' := by
  unfold Follows Nest.step quoteStep isQuote at *
  grind

theorem Follows.foldlM {n n' : Nest} {shielded shielded' : Bool} {cs : List Char}
    (h : Follows n shielded) (hn : cs.foldlM Nest.step n = some n')
    (hquote : cs.foldlM (quoteStep '"' true) shielded = some shielded') :
    Follows n' shielded' := by
  induction cs generalizing n shielded with
  | nil =>
    obtain rfl : n = n' := Option.some.inj hn
    obtain rfl : shielded = shielded' := Option.some.inj hquote
    exact h
  | cons c cs ih =>
    rw [List.foldlM_cons] at hn hquote
    obtain ⟨m, hm, hn⟩ := Option.bind_eq_some_iff.1 hn
    obtain ⟨s, hs, hquote⟩ := Option.bind_eq_some_iff.1 hquote
    exact ih (h.step hm hs) hn hquote

/-- Between double quotes a substitution without a bare quote is read as a whole. -/
theorem delimited_substitution {b : List Char} (hb : balanced (b ++ [')']) = some (b, []))
    (hbare : hasBareQuote b = false) :
    delimited '"' true ('$' :: '(' :: b ++ [')', '"']) = some ('$' :: '(' :: b ++ [')'], []) := by
  obtain ⟨n, c, hnest, hclose, hsplit⟩ := foldlM_of_untilClosed hb
  obtain ⟨shielded, hfold⟩ := foldlM_of_hasBareQuote_false hbare
  have hstart : Follows ⟨0, none, false⟩ false := rfl
  have hfollows := hstart.foldlM hnest hfold
  -- The closing parenthesis was neither quoted nor protected, so the closing quote is not either.
  have hshielded : shielded = false := by
    obtain rfl := Nest.step_none hclose
    unfold Follows Nest.step at *
    grind
  subst hshielded
  have hall : ('$' :: '(' :: b ++ [')']).foldlM (quoteStep '"' true) false = some false := by
    rw [List.foldlM_append]
    show (b.foldlM (quoteStep '"' true) false).bind _ = _
    rw [hfold]
    rfl
  have hquoted := untilClosed_of_foldlM hall ['"']
  rw [List.append_assoc] at hquoted
  exact hquoted.trans (by simp [untilClosed, quoteStep])

end Lexeme

/-! ## Tokens -/

/-- The text of a substitution. -/
def substitutionText (b : String) : String :=
  "$(" ++ b ++ ")"

theorem toList_substitutionText (b : String) :
    (substitutionText b).toList = '$' :: '(' :: b.toList ++ [')'] := by
  simp [substitutionText]

theorem toList_echo_quoted (b : String) :
    ("echo \"" ++ substitutionText b ++ "\"").toList =
      "echo ".toList ++ '"' :: ('$' :: '(' :: b.toList ++ [')', '"']) := by
  rw [String.toList_append, String.toList_append, toList_substitutionText]
  simp

theorem scan_double (cs : List Char) :
    Lexeme.scan '"' cs = Lexeme.quoted (.quoted .double) ['"'] '"' true cs := rfl

/-- The token of a substitution, less its place. -/
def substitutionLexeme (b : List Char) : Lexeme :=
  ⟨.substitution, b, '$' :: '(' :: b ++ [')'], []⟩

theorem Lexeme.scan_substitution {b : List Char} (h : balanced (b ++ [')']) = some (b, [])) :
    scan '$' ('(' :: b ++ [')']) = .ok (substitutionLexeme b) := by
  have hscan : scan '$' ('(' :: b ++ [')']) = substitution (b ++ [')']) := rfl
  rw [hscan, substitution, h]
  rfl

/-- The first token of a text that begins with a dollar sign. -/
theorem next_dollar (cs : List Char) :
    (Cursor.mk ('$' :: cs) .start).next.1 =
      ((Lexeme.scan '$' cs).mapError (⟨·, .start⟩)).map (·.token .start) := by
  have hgap : Cursor.gap false ('$' :: cs) = ([], '$' :: cs) := rfl
  simp only [Cursor.next, hgap]
  cases Lexeme.scan '$' cs <;> rfl

/-- A text that is one substitution is one for the reader of substitutions. -/
theorem balanced_of_tokenize {b : String} {t : Token} {more : List Token}
    (h : tokenize (substitutionText b) = .ok (t :: more)) (hvalue : t.value = b) :
    Lexeme.balanced (b.toList ++ [')']) = some (b.toList, []) := by
  have hscan : Lexeme.scan '$' ('(' :: b.toList ++ [')']) =
      Lexeme.substitution (b.toList ++ [')']) := rfl
  have hfirst := Cursor.next_of_tokens h
  rw [Cursor.ofText, toList_substitutionText, List.cons_append, next_dollar, hscan,
    Lexeme.substitution] at hfirst
  cases hb : Lexeme.balanced (b.toList ++ [')']) with
  | none =>
    rw [hb] at hfirst
    cases hfirst
  | some split =>
    rw [hb] at hfirst
    have hbody : split.1 = b.toList := by
      rw [← hvalue, ← Except.ok.inj hfirst]
      exact String.toList_ofList.symm
    have happend := Lexeme.balanced_append hb
    rw [hbody] at happend
    have hrest : split.2 = [] := by simpa using happend
    rw [← hbody, ← hrest]

/-- The word `echo` at the start of a text. -/
def echoToken : Token := ⟨.word, "echo", .start, 4⟩

/-- Where the second word of a text begins that begins with `echo` and a blank. -/
def afterEcho : Position := ⟨1, 6, 5⟩

theorem next_echo (cs : List Char) :
    (Cursor.mk ("echo ".toList ++ cs) .start).next = (.ok echoToken, ⟨' ' :: cs, ⟨1, 5, 4⟩⟩) :=
  rfl

theorem next_second {c : Char} {cs : List Char} {lx : Lexeme} (hc : c = '$' ∨ c = '"')
    (h : Lexeme.scan c cs = .ok lx) :
    (Cursor.mk (' ' :: c :: cs) ⟨1, 5, 4⟩).next =
      (.ok (lx.token afterEcho), ⟨lx.rest, afterEcho.after lx.text⟩) := by
  have hgap : Cursor.gap false (' ' :: c :: cs) = ([' '], c :: cs) := by
    rcases hc with rfl | rfl <;> rfl
  simp only [Cursor.next, hgap, h]
  rfl

theorem tokens_nil (q : Position) :
    (Cursor.mk [] q).tokens = .ok [Token.eof q q.offset] :=
  Cursor.tokens_of_eof rfl rfl

/-- The tokens of an `echo` with something behind it. -/
theorem tokenize_echo {s : String} {c : Char} {cs : List Char} {lx : Lexeme}
    (hs : s.toList = "echo ".toList ++ c :: cs) (hc : c = '$' ∨ c = '"')
    (h : Lexeme.scan c cs = .ok lx) (hkind : lx.kind ≠ .eof) :
    tokenize s = (Cursor.mk lx.rest (afterEcho.after lx.text)).tokens.map
      fun ts => echoToken :: lx.token afterEcho :: ts := by
  rw [tokenize, tokenizeAt, Cursor.ofText, hs, Cursor.tokens_of_token (next_echo _) (by decide),
    Cursor.tokens_of_token (next_second hc h) hkind]
  cases (Cursor.mk lx.rest (afterEcho.after lx.text)).tokens <;> rfl

/-! ## Trees -/

theorem read_two_words (below : Option Level) {t : Token} (ht : t.kind.isWordLike = true)
    (hplace : t.position = afterEcho) (rest : List Token) :
    Draft.read below .empty (echoToken :: t :: rest) =
      let more := Draft.read below
        ⟨[(t.part below).text, "echo"], (t.part below).node.toList, some t.stop⟩ rest
      ⟨more.value, (t.part below).notes ++ more.notes, more.rest⟩ := by
  have hecho : Draft.empty.addPart echoToken (echoToken.part below) = ⟨["echo"], [], some 4⟩ := by
    rw [Token.part_word below rfl]
    rfl
  have hapart : (⟨["echo"], [], some 4⟩ : Draft).addPart t (t.part below) =
      ⟨[(t.part below).text, "echo"], (t.part below).node.toList, some t.stop⟩ := by
    simp [Draft.addPart, hplace, afterEcho]
  rw [Draft.read_part below _ rfl, hecho, Draft.read_part below _ ht, hapart,
    Token.part_word below (t := echoToken) rfl]
  rfl

theorem parseChain_of_command {below : Option Level} {inGroup : Bool} {ts : List Token}
    {r : Parsed Node} (h : parseCommand below ts = some r)
    (hrest : Tokens.kind r.rest ∈ chainEnds) : parseChain below inGroup ts = some r := by
  have hpipes : parsePipes below inGroup r.rest = ⟨([], false), [], r.rest⟩ :=
    parsePipes_end inGroup (List.mem_cons_of_mem _ (List.mem_cons_of_mem _ hrest))
  have hpipeline : parsePipeline below inGroup ts = some r := by
    simp [parsePipeline, h, hpipes]
  simp [parseChain, hpipeline, parseChainRest_end inGroup r.value hrest]

theorem parseCommand_start {below : Option Level} {ts : List Token} {r : Parsed Node}
    (h : parseCommand below ts = some r) :
    (Tokens.kind ts).isFiller = false ∧ endsList false (Tokens.kind ts) = false := by
  cases ts with
  | nil => cases h
  | cons t ts =>
    rw [Tokens.kind_cons]
    cases hkind : t.kind with
    | newline | unknown | eof =>
      simp [parseCommand, hkind, TokenKind.isWordLike, TokenKind.isRedirect] at h
    | _ => exact ⟨rfl, rfl⟩

/-- A single command is the whole list. -/
theorem Level.above_list_command {below : Option Level} {ts : List Token} {r : Parsed Node}
    {e : Token} (h : parseCommand below ts = some r) (hrest : r.rest = [e]) (he : e.kind = .eof) :
    (Level.above below).list false ts = ⟨some r.value, r.notes, [e]⟩ := by
  obtain ⟨hfiller, hstart⟩ := parseCommand_start h
  have hkind : Tokens.kind r.rest = .eof := by rw [hrest, Tokens.kind_cons, he]
  have hchain : parseChain below false ts = some r :=
    parseChain_of_command h (by rw [hkind]; decide)
  rw [← Tokens.skipFiller_eq hfiller] at hchain hstart
  have hitems := parseItems_final (Bool.eq_false_iff.1 hstart) hchain (by simp [hkind])
    (by simp [hkind]) (by simp [hkind])
  simp only [Level.above, parseList, hitems, hkind]
  simp [listNode, endsList, hrest]

/-- An `echo` with one word behind it. -/
theorem list_two_words (n : Nat) {t e : Token} (ht : t.kind.isWordLike = true)
    (hplace : t.position = afterEcho) (he : e.kind = .eof) :
    ((level (n + 1)).list false [echoToken, t, e]).value =
      some (.command .start "echo" [(t.part (some (level n))).text]
        (t.part (some (level n))).node.toList) := by
  have hend : Tokens.kind [e] ∈ commandEnds := by
    rw [Tokens.kind_cons, he]
    decide
  have hread := read_two_words (some (level n)) ht hplace [e]
  rw [Draft.read_end _ _ hend] at hread
  have hcommand := parseCommand_word (some (level n)) (t := echoToken) rfl [t, e]
  rw [hread] at hcommand
  rw [level, Level.above_list_command hcommand rfl he]
  cases (t.part (some (level n))).node <;> rfl

/-- The reader one level below that of whole commands. -/
def innerLevel : Level := level (maxNesting - 1)

/-- A text that is an `echo` and one more token. -/
theorem parse_echo {s : String} {c : Char} {cs : List Char} {lx : Lexeme}
    (hs : s.toList = "echo ".toList ++ c :: cs) (hc : c = '$' ∨ c = '"')
    (h : Lexeme.scan c cs = .ok lx) (hword : lx.kind.isWordLike = true) (hrest : lx.rest = []) :
    ∃ q, parse s = .ok q ∧
      q.root = .command .start "echo" [((lx.token afterEcho).part (some innerLevel)).text]
        ((lx.token afterEcho).part (some innerLevel)).node.toList := by
  have hkind : lx.kind ≠ .eof := by
    intro heof
    rw [heof] at hword
    cases hword
  have htokens := tokenize_echo hs hc h hkind
  rw [hrest, tokens_nil] at htokens
  have hvalue : ((level maxNesting).list false [echoToken, lx.token afterEcho, Token.eof
      (afterEcho.after lx.text) (afterEcho.after lx.text).offset]).value = some _ :=
    list_two_words (maxNesting - 1) hword rfl rfl
  have hparse := parse_of_tokens htokens
  dsimp only at hparse
  rw [hvalue] at hparse
  exact ⟨_, hparse, rfl⟩

/-- The tree of an `echo` of a substitution whose body has the tree `body`. -/
def plainEcho (b : String) (body : Node) : Node :=
  .command .start "echo" [substitutionText b] [.subshell .start (some body) true false]

/-- The tree of an `echo` of a double-quoted substitution whose body has the tree `body`. -/
def quotedEcho (b : String) (body : Node) : Node :=
  .command .start "echo" [substitutionText b]
    [.quoted .start .double (substitutionText b) [.subshell .start (some body) true false]]

theorem commands_body (body : Node) :
    (Node.subshell .start (some body) true false).commands = body.commands := by
  rw [Node.commands_eq_flatMap (by simp [Node.kind]), Node.children, Option.toList_some,
    List.flatMap_singleton]

theorem commands_plainEcho (b : String) (body : Node) :
    (plainEcho b body).commands = plainEcho b body :: body.commands := by
  rw [plainEcho, Node.commands_command, List.flatMap_singleton, commands_body]

theorem commands_quotedEcho (b : String) (body : Node) :
    (quotedEcho b body).commands = quotedEcho b body :: body.commands := by
  rw [quotedEcho, Node.commands_command, List.flatMap_singleton,
    Node.commands_eq_flatMap (n := .quoted ..) (by simp [Node.kind]), Node.children,
    List.flatMap_singleton, commands_body]

section Body

variable {b : String} {r : Parse} (hr : parse b = .ok r) (hnotes : r.notes = [])
  (hnesting : r.root.nesting + 1 < maxNesting)

include hr hnotes hnesting

/-- One level further in, and wherever it begins, the body has the tree it has on its own. -/
theorem substitution_unplaced (inner position : Position) :
    (substitution (some innerLevel) b inner position false).1.unplaced =
      .subshell .start (some r.root.unplaced) true false := by
  obtain ⟨ts, hts, hroot, hsilent⟩ := tokens_of_parse hr
  have hshallow : ∀ n ∈ ((level maxNesting).list false ts).value,
      n.Shallow (some (maxNesting - 1)) := by
    intro n hn m hm
    obtain rfl : r.root = n := Option.some.inj (hroot.symm.trans hn)
    obtain rfl := Option.some.inj hm
    omega
  have hsame := level_agrees (.inr rfl) false ts (hsilent.trans hnotes) hshallow
  have hmoved := level_moves inner (maxNesting - 1) false ts (tokenize_proper hts)
  rw [innerLevel, substitution_ok _ (tokenizeAt_of_tokenize inner hts), hmoved.value, hsame.value,
    hroot]
  simp [Node.unplaced]

variable (hbody : Lexeme.balanced (b.toList ++ [')']) = some (b.toList, []))

include hbody

theorem echo_plain :
    ∃ q, parse ("echo " ++ substitutionText b) = .ok q ∧
      q.root.unplaced = plainEcho b r.root.unplaced := by
  have htext : ("echo " ++ substitutionText b).toList =
      "echo ".toList ++ '$' :: ('(' :: b.toList ++ [')']) := by
    rw [String.toList_append, toList_substitutionText]
    rfl
  obtain ⟨q, hq, hroot⟩ := parse_echo htext (.inl rfl) (Lexeme.scan_substitution hbody) rfl rfl
  refine ⟨q, hq, ?_⟩
  rw [hroot]
  simp [Token.part, Token.partWith, Lexeme.token, substitutionLexeme, Node.unplaced, plainEcho,
    substitution_unplaced hr hnotes hnesting, substitutionText]

theorem expansions_substitution (p : Position) :
    (expansions (some innerLevel) p (substitutionText b).toList).1.map Node.unplaced =
      [.subshell .start (some r.root.unplaced) true false] := by
  rw [toList_substitutionText]
  have hexpansion := expansions_expansion (some innerLevel) (p := p) (.inl rfl)
    (Lexeme.scan_substitution hbody)
  rw [show (substitutionLexeme b.toList).rest = [] from rfl, expansions_nil] at hexpansion
  simp only [List.cons_append] at hexpansion ⊢
  rw [hexpansion]
  simp [Token.partWith, Lexeme.token, substitutionLexeme,
    substitution_unplaced hr hnotes hnesting]

theorem echo_quoted (hbare : Lexeme.hasBareQuote b.toList = false) :
    ∃ q, parse ("echo \"" ++ substitutionText b ++ "\"") = .ok q ∧
      q.root.unplaced = quotedEcho b r.root.unplaced := by
  have hscan : Lexeme.scan '"' ('$' :: '(' :: b.toList ++ [')', '"']) =
      .ok (.between (.quoted .double) ['"'] '"' ((substitutionText b).toList, [])) := by
    rw [scan_double, Lexeme.quoted, Lexeme.delimited_substitution hbody hbare,
      toList_substitutionText]
  obtain ⟨q, hq, hroot⟩ := parse_echo (toList_echo_quoted b) (.inr rfl) hscan rfl rfl
  refine ⟨q, hq, ?_⟩
  rw [hroot]
  simp [Token.part, Token.partWith, Lexeme.token, Lexeme.between, Node.unplaced, quotedEcho,
    expansions_substitution hr hnotes hnesting hbody]

end Body

/-! ## The first command -/

/-- `c` is the first simple command of the tree `n`. -/
def Node.Opens (c n : Node) : Prop :=
  n.commands.head? = some c

theorem Node.Opens.parent {c n m : Node} {ms : List Node} (h : c.Opens m)
    (hkind : n.kind ≠ .command) (hchildren : n.children = m :: ms) : c.Opens n := by
  rw [Opens, commands_eq_flatMap hkind, hchildren, List.flatMap_cons, List.head?_append,
    show m.commands.head? = some c from h]
  rfl

section First

variable {below : Option Level} {inGroup : Bool} {c : Node}

theorem parsePipeline_opens {ts : List Token} {first : Parsed Node}
    (h : parseCommand below ts = some first) (hc : c.Opens first.value) :
    ∃ r, parsePipeline below inGroup ts = some r ∧ c.Opens r.value := by
  refine ⟨_, by rw [parsePipeline, h, Option.map_some], ?_⟩
  dsimp only
  split
  · exact hc
  · exact hc.parent (by simp [Node.kind]) rfl

theorem parseChainRest_opens {left : Node} {ts : List Token} (hc : c.Opens left) :
    c.Opens (parseChainRest below inGroup left ts).value := by
  fun_induction parseChainRest below inGroup left ts with
  | case1 | case2 | case4 => exact hc
  | case3 left t rest hop right hsome more ih =>
    refine ih ?_
    unfold chainNode
    split <;> exact hc.parent (by simp [Node.kind]) rfl

theorem parseChain_opens {ts : List Token} {first : Parsed Node}
    (h : parseCommand below ts = some first) (hc : c.Opens first.value) :
    ∃ r, parseChain below inGroup ts = some r ∧ c.Opens r.value := by
  obtain ⟨pipeline, hpipeline, hopens⟩ := parsePipeline_opens h hc
  refine ⟨_, by rw [parseChain, hpipeline, Option.map_some], ?_⟩
  exact parseChainRest_opens hopens

theorem parseItems_opens {ts : List Token} {item : Parsed Node}
    (hend : ¬endsList inGroup (Tokens.kind (Tokens.skipFiller ts)) = true)
    (h : parseChain below inGroup (Tokens.skipFiller ts) = some item) (hc : c.Opens item.value) :
    ∃ n ns, (parseItems below inGroup ts).value.1 = n :: ns ∧ c.Opens n := by
  by_cases hsemicolon : Tokens.kind item.rest = .semicolon ∨ Tokens.kind item.rest = .newline
  · rw [parseItems_semicolon hend h hsemicolon]
    exact ⟨_, _, rfl, hc⟩
  by_cases hampersand : Tokens.kind item.rest = .ampersand
  · rw [parseItems_ampersand hend h hampersand]
    exact ⟨_, _, rfl, hc.parent (by simp [Node.kind]) rfl⟩
  · rw [not_or] at hsemicolon
    rw [parseItems_final hend h hsemicolon.1 hsemicolon.2 hampersand]
    exact ⟨_, _, rfl, hc⟩

theorem listNode_opens {start : Position} {n : Node} {ns : List Node}
    {separators : List Separator} (hc : c.Opens n) :
    ∃ root, listNode start (n :: ns) separators = some root ∧ c.Opens root := by
  cases ns with
  | nil => exact ⟨n, rfl, hc⟩
  | cons m ms => exact ⟨_, rfl, hc.parent (by simp [Node.kind]) rfl⟩

/-- A text that begins with a word has the command of that word first. -/
theorem parseList_opens {t : Token} {rest : List Token} (ht : t.kind.isWordLike = true) :
    ∃ root, (parseList below inGroup (t :: rest)).value = some root ∧
      ((Draft.read below .empty (t :: rest)).value.node t.position).Opens root := by
  have hplain : t.kind.isFiller = false ∧ endsList inGroup t.kind = false := by
    revert ht
    cases t.kind <;> simp [TokenKind.isWordLike, TokenKind.isFiller, endsList]
  have hstart : Tokens.skipFiller (t :: rest) = t :: rest :=
    Tokens.skipFiller_eq (show (Tokens.kind (t :: rest)).isFiller = false from hplain.1)
  have hself : ((Draft.read below .empty (t :: rest)).value.node t.position).Opens
      ((Draft.read below .empty (t :: rest)).value.node t.position) := by
    rw [Draft.node, Node.Opens, Node.commands_command]
    rfl
  obtain ⟨item, hitem, hopens⟩ : ∃ item, parseChain below inGroup (t :: rest) = some item ∧ _ :=
    parseChain_opens (parseCommand_word below ht rest) hself
  rw [← hstart] at hitem
  obtain ⟨n, ns, hitems, hn⟩ := parseItems_opens (by simp [hstart, hplain.2]) hitem hopens
  rw [parseList, hitems]
  exact listNode_opens hn

end First

/-- Between double quotes, a substitution with a bare quote is cut off there. -/
theorem Lexeme.delimited_bareQuote {b : List Char} (h : hasBareQuote b = true) (ys : List Char) :
    ∃ front rest, delimited '"' true ('$' :: '(' :: b ++ ys) = some ('$' :: '(' :: front, rest) ∧
      front.length < b.length := by
  obtain ⟨split, hsplit⟩ := delimited_of_hasBareQuote h
  have hgo : ['$', '('].foldlM (quoteStep '"' true) false = some false := rfl
  have hclosed := untilClosed_of_foldlM hgo (b ++ ys)
  rw [untilClosed_append_right hsplit] at hclosed
  have hlength := congrArg List.length (delimited_append hsplit)
  simp only [List.length_append, List.length_cons] at hlength
  exact ⟨split.1, split.2 ++ ys, hclosed, by omega⟩

/-- The first part that a command shows stays its first child. -/
theorem Draft.reverse_children (below : Option Level) {d : Draft} {n : Node}
    (h : d.children = [n]) (ts : List Token) :
    ∃ ns, (read below d ts).value.children.reverse = n :: ns := by
  obtain ⟨ns, hns⟩ := children_suffix below d ts
  refine ⟨ns.reverse, ?_⟩
  rw [← hns, h, List.reverse_append]
  rfl

theorem read_quoted_child (below : Option Level) {t : Token} (ht : t.kind = .quoted .double)
    (hplace : t.position = afterEcho) (rest : List Token) :
    ∃ name args es ns, (Draft.read below .empty (echoToken :: t :: rest)).value.node .start =
      .command .start name args (.quoted afterEcho .double t.value es :: ns) := by
  obtain ⟨es, hes⟩ : ∃ es, (t.part below).node = some (.quoted afterEcho .double t.value es) := by
    simp [Token.part, Token.partWith, ht, hplace]
  obtain ⟨ns, hns⟩ := Draft.reverse_children below
    (d := ⟨[(t.part below).text, "echo"], (t.part below).node.toList, some t.stop⟩)
    (by rw [hes, Option.toList_some]) rest
  rw [read_two_words below (by rw [ht]; rfl) hplace]
  dsimp only
  rw [Draft.node, hns]
  exact ⟨_, _, es, ns, rfl⟩

/-- An `echo` of something double-quoted has the quoted text as its first child. -/
theorem echo_first_child {s : String} {cs value rest : List Char} {q : Parse}
    (hs : s.toList = "echo ".toList ++ '"' :: cs)
    (hcs : Lexeme.delimited '"' true cs = some (value, rest)) (hq : parse s = .ok q) :
    ∃ name args es ns, Node.Opens (.command .start name args
      (.quoted afterEcho .double (String.ofList value) es :: ns)) q.root := by
  have hscan : Lexeme.scan '"' cs =
      .ok (.between (.quoted .double) ['"'] '"' (value, rest)) := by
    rw [scan_double, Lexeme.quoted, hcs]
  obtain ⟨ts, hts, hroot, -⟩ := tokens_of_parse hq
  rw [tokenize_echo hs (.inr rfl) hscan (by simp [Lexeme.between])] at hts
  obtain ⟨us, rfl⟩ : ∃ us, ts = echoToken :: (Lexeme.between (.quoted .double) ['"'] '"'
      (value, rest)).token afterEcho :: us := by
    revert hts
    cases (Cursor.mk _ _).tokens with
    | error e =>
      intro hts
      cases hts
    | ok us => exact fun hts => ⟨us, (Except.ok.inj hts).symm⟩
  obtain ⟨root, hvalue, hopens⟩ : ∃ root,
      (parseList (some innerLevel) false (echoToken :: _ :: us)).value = some root ∧ _ :=
    parseList_opens rfl
  obtain rfl : q.root = root := Option.some.inj (hroot.symm.trans hvalue)
  obtain ⟨name, args, es, ns, hnode⟩ := read_quoted_child (some innerLevel)
    (t := (Lexeme.between (.quoted .double) ['"'] '"' (value, rest)).token afterEcho) rfl rfl us
  exact ⟨name, args, es, ns, hnode ▸ hopens⟩

theorem quoted_torn {b : String} (hbare : Lexeme.hasBareQuote b.toList = true) {q : Parse}
    (hq : parse ("echo \"" ++ substitutionText b ++ "\"") = .ok q) (body : Node)
    (more : List Node) : q.root.commands.map Node.unplaced ≠ quotedEcho b body :: more := by
  obtain ⟨front, rest, hcut, hshort⟩ := Lexeme.delimited_bareQuote hbare [')', '"']
  obtain ⟨name, args, es, ns, hopens⟩ := echo_first_child (toList_echo_quoted b) hcut hq
  intro hcommands
  have hhead := congrArg List.head? hcommands
  rw [List.head?_map, hopens, Option.map_some, List.head?_cons, quotedEcho, Node.unplaced,
    Node.unplacedAll_eq_map, List.map_cons, Node.unplaced] at hhead
  have htext : String.ofList ('$' :: '(' :: front) = substitutionText b := by
    injection Option.some.inj hhead with _ _ _ hchildren
    injection (List.cons.inj hchildren).1
  have hlength := congrArg (fun s => s.toList.length) htext
  simp only [String.toList_ofList, toList_substitutionText, List.length_append,
    List.length_cons] at hlength
  omega

/-! ## Whole commands -/

/-- A substitution shows its commands unquoted, and between double quotes exactly if it holds no
bare double quote. -/
theorem quoting_shows_substitution {b : String} {r : Parse}
    (hone : ∃ p stop e, tokenize (substitutionText b) = .ok [⟨.substitution, b, p, stop⟩, e])
    (hr : parse b = .ok r) (hnotes : r.notes = []) (hnesting : r.root.nesting + 1 < maxNesting) :
    (∃ q, parse ("echo " ++ substitutionText b) = .ok q ∧
      q.root.commands.map Node.unplaced =
        plainEcho b r.root.unplaced :: r.root.commands.map Node.unplaced) ∧
    ((∃ q, parse ("echo \"" ++ substitutionText b ++ "\"") = .ok q ∧
      q.root.commands.map Node.unplaced =
        quotedEcho b r.root.unplaced :: r.root.commands.map Node.unplaced) ↔
      Lexeme.hasBareQuote b.toList = false) := by
  obtain ⟨p, stop, e, htokens⟩ := hone
  have hbody := balanced_of_tokenize htokens rfl
  refine ⟨?_, ?_, fun hbare => ?_⟩
  · obtain ⟨q, hq, hroot⟩ := echo_plain hr hnotes hnesting hbody
    refine ⟨q, hq, ?_⟩
    rw [← Node.commands_unplaced, ← Node.commands_unplaced, hroot, commands_plainEcho]
  · rintro ⟨q, hq, hcommands⟩
    by_contra hbare
    exact quoted_torn (Bool.not_eq_false _ ▸ hbare) hq _ _ hcommands
  · obtain ⟨q, hq, hroot⟩ := echo_quoted hr hnotes hnesting hbody hbare
    refine ⟨q, hq, ?_⟩
    rw [← Node.commands_unplaced, ← Node.commands_unplaced, hroot, commands_quotedEcho]

/-- Single quotes, a backslash inside them and a substitution inside the substitution. -/
theorem quoting_shows_substitution_pipeline :
    ∃ r, parse "ls 'a\\' | grep $(id)" = .ok r ∧ r.notes = [] ∧ r.root.nesting + 1 < maxNesting ∧
      ∃ q, parse ("echo \"" ++ substitutionText "ls 'a\\' | grep $(id)" ++ "\"") = .ok q ∧
        q.root.commands.map Node.unplaced =
          quotedEcho "ls 'a\\' | grep $(id)" r.root.unplaced ::
            r.root.commands.map Node.unplaced := by
  obtain ⟨r, hr, htest⟩ := exists_of_parse_any (s := "ls 'a\\' | grep $(id)")
    (f := fun r => r.notes.isEmpty && decide (r.root.nesting + 1 < maxNesting)) (by cbv)
  rw [Bool.and_eq_true, List.isEmpty_iff, decide_eq_true_iff] at htest
  obtain ⟨hnotes, hnesting⟩ := htest
  have hone : tokenize (substitutionText "ls 'a\\' | grep $(id)") =
      .ok [⟨.substitution, "ls 'a\\' | grep $(id)", ⟨1, 1, 0⟩, 23⟩, .eof ⟨1, 24, 23⟩ 23] := by
    cbv
  exact ⟨r, hr, hnotes, hnesting,
    (quoting_shows_substitution ⟨_, _, _, hone⟩ hr hnotes hnesting).2.2 (by decide)⟩

/-- Two quotes inside a substitution end the quoted text around it and begin another, so the command
inside is seen where the substitution stands unquoted only. -/
theorem bare_quote_hides_substitution :
    ((tokenize (substitutionText "echo \"x\"")).toOption.map (·.map Token.content)) =
      some [(.substitution, "echo \"x\""), (.eof, "")] ∧
    ((parse "echo \"x\"").toOption.map fun r =>
        (r.notes.isEmpty, r.root.nesting, r.root.commands.map Node.words)) =
      some (true, 0, [["echo", "x"]]) ∧
    ((parse ("echo " ++ substitutionText "echo \"x\"")).toOption.map fun q =>
        q.root.commands.map Node.words) = some [["echo", "$(echo \"x\")"], ["echo", "x"]] ∧
    ((parse ("echo \"" ++ substitutionText "echo \"x\"" ++ "\"")).toOption.map fun q =>
        (q.notes.isEmpty, q.root.commands.map Node.words)) =
      some (true, [["echo", "$(echo x)"]]) := by
  refine ⟨?_, ?_, ?_, ?_⟩ <;> cbv

end ShellGuard
