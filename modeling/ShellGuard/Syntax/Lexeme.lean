import ShellGuard.Syntax.Token

/-!
Reading one token off the front of a text.  Each reader splits its input into what it takes and
what is left, so that a token's source text and the rest of the input concatenate to the input
(`scan_append`); positions are computed from that split and nowhere else.

Quoted texts and substitutions end where a small machine says so.  The machine sees one character
at a time and either goes on in a new state or finds that the character is the closer.
-/

namespace ShellGuard

/-- A closer that never comes. -/
inductive Unclosed
  /-- The closing quote of a text. -/
  | quote (c : Char)
  /-- The parenthesis that closes `$(`. -/
  | substitution
deriving Repr, DecidableEq, Inhabited

/-- One token read off the front of a text: its kind and value, its source text and what follows. -/
structure Lexeme where
  kind : TokenKind
  value : List Char
  text : List Char
  rest : List Char
deriving Repr, DecidableEq

namespace Lexeme

/-- Put a character back in front of what was taken. -/
def push (c : Char) (split : List Char × List Char) : List Char × List Char :=
  (c :: split.1, split.2)

/-- Read up to the character on which `step` gives no next state: what stands before that closer
and what follows it. -/
def untilClosed {σ : Type} (step : σ → Char → Option σ) :
    σ → List Char → Option (List Char × List Char)
  | _, [] => none
  | s, c :: cs =>
    match step s c with
    | none => some ([], cs)
    | some s' => (untilClosed step s' cs).map (push c)

/-- Reading up to a closer splits the input around one character that closes. -/
theorem untilClosed_append {σ : Type} {step : σ → Char → Option σ} {s : σ} {cs : List Char}
    {split : List Char × List Char} (h : untilClosed step s cs = some split) :
    ∃ s' c, step s' c = none ∧ split.1 ++ c :: split.2 = cs := by
  induction cs generalizing s split with
  | nil => simp [untilClosed] at h
  | cons c cs ih =>
    unfold untilClosed at h
    split at h
    · rename_i hc
      obtain rfl := Option.some.inj h
      exact ⟨s, c, hc, rfl⟩
    · obtain ⟨inner, hi, rfl⟩ := Option.map_eq_some_iff.1 h
      obtain ⟨s', d, hd, he⟩ := ih hi
      exact ⟨s', d, hd, by simp [push, he]⟩

/-- Inside quotes: whether the next character is protected, and whether it closes. -/
def quoteStep (close : Char) (escapes : Bool) (shielded : Bool) (c : Char) : Option Bool :=
  if shielded then some false
  else if c = '\\' ∧ escapes = true then some true
  else if c = close then none
  else some false

/-- Read up to the closing quote: what stands before it and what follows it.  Where `escapes`
holds a backslash protects the next character. -/
def delimited (close : Char) (escapes : Bool) (cs : List Char) : Option (List Char × List Char) :=
  untilClosed (quoteStep close escapes) false cs

theorem quoteStep_none {close c : Char} {escapes shielded : Bool}
    (h : quoteStep close escapes shielded c = none) : c = close := by
  unfold quoteStep at h
  repeat' split at h
  all_goals simp_all

/-- What a quoted text takes and leaves is the input around one closing quote. -/
theorem delimited_append {close : Char} {escapes : Bool} {cs : List Char}
    {split : List Char × List Char} (h : delimited close escapes cs = some split) :
    split.1 ++ close :: split.2 = cs := by
  obtain ⟨_, c, hc, he⟩ := untilClosed_append h
  rwa [quoteStep_none hc] at he

/-- Where a reader stands inside `$(...)`: the parentheses opened there, the quote it is inside
of, and whether the next character is protected. -/
structure Nest where
  depth : Nat
  quote : Option Char
  shielded : Bool
deriving Repr, DecidableEq

/-- The three quotes honoured inside a substitution. -/
def isQuote (c : Char) : Bool :=
  c == '\'' || c == '"' || c == '`'

/-- One character of a substitution's body.  A backslash protects the next character except inside
single quotes, quotes hide parentheses, and a parenthesis that nothing inside opened closes. -/
def Nest.step (n : Nest) (c : Char) : Option Nest :=
  if n.shielded then some { n with shielded := false }
  else
    match n.quote with
    | some q =>
      if c = '\\' ∧ q ≠ '\'' then some { n with shielded := true }
      else if c = q then some { n with quote := none }
      else some n
    | none =>
      if c = '\\' then some { n with shielded := true }
      else if isQuote c then some { n with quote := some c }
      else if c = '(' then some { n with depth := n.depth + 1 }
      else if c = ')' then
        match n.depth with
        | 0 => none
        | d + 1 => some { n with depth := d }
      else some n

/-- Read the body of a substitution up to the parenthesis that closes it: the body and what follows
the parenthesis. -/
def balanced (cs : List Char) : Option (List Char × List Char) :=
  untilClosed Nest.step ⟨0, none, false⟩ cs

theorem Nest.step_none {n : Nest} {c : Char} (h : n.step c = none) : c = ')' := by
  unfold Nest.step at h
  repeat' split at h
  all_goals simp_all

/-- What a substitution takes and leaves is the input around its closing parenthesis. -/
theorem balanced_append {cs : List Char} {split : List Char × List Char}
    (h : balanced cs = some split) : split.1 ++ ')' :: split.2 = cs := by
  obtain ⟨_, c, hc, he⟩ := untilClosed_append h
  rwa [Nest.step_none hc] at he

/-- Read `{...}` up to the brace that closes the first one, or to the end of the text; `depth`
counts the braces open so far. -/
def braced (depth : Nat) : List Char → List Char × List Char
  | [] => ([], [])
  | c :: cs =>
    if c = '{' then push c (braced (depth + 1) cs)
    else if c = '}' then
      if depth ≤ 1 then ([c], cs) else push c (braced (depth - 1) cs)
    else push c (braced depth cs)

theorem braced_append (depth : Nat) (cs : List Char) :
    (braced depth cs).1 ++ (braced depth cs).2 = cs := by
  induction cs generalizing depth with
  | nil => rfl
  | cons c cs ih =>
    unfold braced
    repeat' split
    all_goals simp [push, ih]

/-- How far into a word a reader stands. -/
inductive WordState
  | fresh
  | begun
  /-- The next character is protected. -/
  | shielded
deriving Repr, DecidableEq

/-- Read the characters of an unquoted word.  A backslash takes the next character along, and `#`
belongs to a word that has begun. -/
def word (state : WordState) : List Char → List Char × List Char
  | [] => ([], [])
  | c :: cs =>
    if state = .shielded then push c (word .begun cs)
    else if isWordChar c ∨ (c = '#' ∧ state = .begun) then push c (word .begun cs)
    else if c = '\\' then push c (word .shielded cs)
    else ([], c :: cs)

theorem word_append (state : WordState) (cs : List Char) :
    (word state cs).1 ++ (word state cs).2 = cs := by
  induction cs generalizing state with
  | nil => rfl
  | cons c cs ih =>
    unfold word
    repeat' split
    all_goals simp [push, ih]

/-- A token whose value is its source text. -/
def whole (kind : TokenKind) (text rest : List Char) : Lexeme :=
  ⟨kind, text, text, rest⟩

/-- A token whose value stands between an opener and a closer. -/
def between (kind : TokenKind) (opener : List Char) (closer : Char)
    (split : List Char × List Char) : Lexeme :=
  ⟨kind, split.1, opener ++ split.1 ++ [closer], split.2⟩

/-- Read what a bar starts. -/
def bar : List Char → Lexeme
  | '|' :: rest => whole .orIf ['|', '|'] rest
  | cs => whole .pipe ['|'] cs

/-- Read what an ampersand starts. -/
def ampersand : List Char → Lexeme
  | '&' :: rest => whole .andIf ['&', '&'] rest
  | '>' :: '>' :: rest => whole .redirectAppend ['&', '>', '>'] rest
  | '>' :: rest => whole .redirectOut ['&', '>'] rest
  | cs => whole .ampersand ['&'] cs

/-- Read what a less-than sign starts. -/
def lessThan : List Char → Lexeme
  | '<' :: '<' :: rest => whole .hereDoc ['<', '<', '<'] rest
  | '<' :: '-' :: rest => whole .hereDoc ['<', '<', '-'] rest
  | '<' :: rest => whole .hereDoc ['<', '<'] rest
  | cs => whole .redirectIn ['<'] cs

/-- The characters of a descriptor to copy. -/
def isDescriptorChar (c : Char) : Bool :=
  c.isDigit || c == '-'

/-- The kind of an output redirect: one that names its descriptor is of a kind of its own. -/
def redirectKind (fd : List Char) (kind : TokenKind) : TokenKind :=
  if fd.isEmpty then kind else .redirectFd

/-- Read an output redirect after its `>`; `fd` is the descriptor written before it, possibly
none. -/
def greaterThan (fd : List Char) : List Char → Lexeme
  | '>' :: rest => whole (redirectKind fd .redirectAppend) (fd ++ ['>', '>']) rest
  | '&' :: rest =>
    whole .redirectDup (fd ++ '>' :: '&' :: rest.takeWhile isDescriptorChar)
      (rest.dropWhile isDescriptorChar)
  | '|' :: rest => ⟨redirectKind fd .redirectOut, fd ++ ['>'], fd ++ ['>', '|'], rest⟩
  | cs => whole (redirectKind fd .redirectOut) (fd ++ ['>']) cs

/-- The characters of a parameter's name. -/
def isNameChar (c : Char) : Bool :=
  c.isAlphanum || c == '_'

/-- The parameters named by one character that is no letter. -/
def isSpecialParameter (c : Char) : Bool :=
  c == '?' || c == '@' || c == '*' || c == '#' || c == '$' || c == '!' || c == '-'

/-- Read a text between quotes, opened by `opener`. -/
def quoted (kind : TokenKind) (opener : List Char) (close : Char) (escapes : Bool)
    (cs : List Char) : Except Unclosed Lexeme :=
  match delimited close escapes cs with
  | none => .error (.quote close)
  | some split => .ok (between kind opener close split)

/-- Read a command substitution after its `$(`. -/
def substitution (cs : List Char) : Except Unclosed Lexeme :=
  match balanced cs with
  | none => .error .substitution
  | some split => .ok (between .substitution ['$', '('] ')' split)

/-- Read what a dollar sign starts. -/
def dollar : List Char → Except Unclosed Lexeme
  | [] => .ok (whole .word ['$'] [])
  | c :: cs =>
    if c = '{' then .ok (whole .parameter ('$' :: (braced 0 (c :: cs)).1) (braced 0 (c :: cs)).2)
    else if c = '(' then substitution cs
    else if c = '\'' then quoted (.quoted .ansiC) ['$', '\''] '\'' true cs
    else if c = '"' then quoted (.quoted .double) ['$', '"'] '"' true cs
    else if c.isAlpha || c == '_' then
      .ok (whole .parameter ('$' :: c :: cs.takeWhile isNameChar) (cs.dropWhile isNameChar))
    else if c.isDigit || isSpecialParameter c then .ok (whole .parameter ['$', c] cs)
    else .ok (whole .word ['$'] (c :: cs))

/-- Read a word, or pass over one character that starts none. -/
def wordOrUnknown (c : Char) (cs : List Char) : Lexeme :=
  let split := word .fresh (c :: cs)
  if split.1.isEmpty then whole .unknown [c] cs
  else whole (if looksLikeGlob split.1 then .glob else .word) split.1 split.2

/-- Read a redirect that begins with digits, or a word. -/
def numberOrWord (c : Char) (cs : List Char) : Lexeme :=
  let digits := (c :: cs).takeWhile Char.isDigit
  if digits.isEmpty then wordOrUnknown c cs
  else
    match (c :: cs).dropWhile Char.isDigit with
    | '<' :: rest => whole .redirectFd (digits ++ ['<']) rest
    | '>' :: rest => greaterThan digits rest
    | _ => wordOrUnknown c cs

/-- Read the token that begins with `c`. -/
def scan (c : Char) (cs : List Char) : Except Unclosed Lexeme :=
  if c = '|' then .ok (bar cs)
  else if c = '&' then .ok (ampersand cs)
  else if c = ';' then .ok (whole .semicolon [';'] cs)
  else if c = '\n' then .ok (whole .newline ['\n'] cs)
  else if c = '<' then .ok (lessThan cs)
  else if c = '>' then .ok (greaterThan [] cs)
  else if c = '"' then quoted (.quoted .double) ['"'] '"' true cs
  else if c = '\'' then quoted (.quoted .single) ['\''] '\'' false cs
  else if c = '`' then quoted .backtick ['`'] '`' true cs
  else if c = '$' then dollar cs
  else if c = '(' then .ok (whole .leftParen ['('] cs)
  else if c = ')' then .ok (whole .rightParen [')'] cs)
  else .ok (numberOrWord c cs)

/-! ## What a token can be

The two readers that choose by the first character are opened once, here; every later statement
about tokens goes through the forms. -/

/-- What can follow a dollar sign, and the token it then starts. -/
inductive DollarForm : List Char → Lexeme → Prop
  | braced (cs : List Char) :
    DollarForm ('{' :: cs)
      (whole .parameter ('$' :: (braced 0 ('{' :: cs)).1) (braced 0 ('{' :: cs)).2)
  | substitution {cs : List Char} {lx : Lexeme} (h : substitution cs = .ok lx) :
    DollarForm ('(' :: cs) lx
  | ansiC {cs : List Char} {lx : Lexeme}
    (h : quoted (.quoted .ansiC) ['$', '\''] '\'' true cs = .ok lx) : DollarForm ('\'' :: cs) lx
  | double {cs : List Char} {lx : Lexeme}
    (h : quoted (.quoted .double) ['$', '"'] '"' true cs = .ok lx) : DollarForm ('"' :: cs) lx
  | name (c : Char) (cs : List Char) (hc : (c.isAlpha || c == '_') = true) :
    DollarForm (c :: cs)
      (whole .parameter ('$' :: c :: cs.takeWhile isNameChar) (cs.dropWhile isNameChar))
  | special (c : Char) (cs : List Char) (hc : (c.isDigit || isSpecialParameter c) = true) :
    DollarForm (c :: cs) (whole .parameter ['$', c] cs)
  /-- Nothing that a dollar sign could expand. -/
  | alone (cs : List Char) : DollarForm cs (whole .word ['$'] cs)

theorem dollar_form {cs : List Char} {lx : Lexeme} (h : dollar cs = .ok lx) :
    DollarForm cs lx := by
  cases cs with
  | nil =>
    obtain rfl := Except.ok.inj h
    exact .alone []
  | cons c cs =>
    rw [dollar] at h
    split at h
    · rename_i hc
      obtain rfl := Except.ok.inj h
      subst hc
      exact .braced cs
    split at h
    · rename_i hc
      subst hc
      exact .substitution h
    split at h
    · rename_i hc
      subst hc
      exact .ansiC h
    split at h
    · rename_i hc
      subst hc
      exact .double h
    split at h
    · rename_i hc
      obtain rfl := Except.ok.inj h
      exact .name c cs hc
    split at h
    · rename_i hc
      obtain rfl := Except.ok.inj h
      exact .special c cs hc
    · obtain rfl := Except.ok.inj h
      exact .alone (c :: cs)

/-- The characters that start a token of their own. -/
def starters : List Char :=
  ['|', '&', ';', '\n', '<', '>', '"', '\'', '`', '$', '(', ')']

/-- The first character of a token, what follows it, and the token it starts. -/
inductive ScanForm : Char → List Char → Lexeme → Prop
  | bar (cs : List Char) : ScanForm '|' cs (bar cs)
  | ampersand (cs : List Char) : ScanForm '&' cs (ampersand cs)
  | semicolon (cs : List Char) : ScanForm ';' cs (whole .semicolon [';'] cs)
  | newline (cs : List Char) : ScanForm '\n' cs (whole .newline ['\n'] cs)
  | lessThan (cs : List Char) : ScanForm '<' cs (lessThan cs)
  | greaterThan (cs : List Char) : ScanForm '>' cs (greaterThan [] cs)
  | double {cs : List Char} {lx : Lexeme}
    (h : quoted (.quoted .double) ['"'] '"' true cs = .ok lx) : ScanForm '"' cs lx
  | single {cs : List Char} {lx : Lexeme}
    (h : quoted (.quoted .single) ['\''] '\'' false cs = .ok lx) : ScanForm '\'' cs lx
  | backtick {cs : List Char} {lx : Lexeme}
    (h : quoted .backtick ['`'] '`' true cs = .ok lx) : ScanForm '`' cs lx
  | dollar {cs : List Char} {lx : Lexeme} (h : DollarForm cs lx) : ScanForm '$' cs lx
  | leftParen (cs : List Char) : ScanForm '(' cs (whole .leftParen ['('] cs)
  | rightParen (cs : List Char) : ScanForm ')' cs (whole .rightParen [')'] cs)
  | number (c : Char) (cs : List Char) (hc : c ∉ starters) : ScanForm c cs (numberOrWord c cs)

theorem scan_form {c : Char} {cs : List Char} {lx : Lexeme} (h : scan c cs = .ok lx) :
    ScanForm c cs lx := by
  unfold scan at h
  by_cases h1 : c = '|'
  · subst h1; cases h; exact .bar cs
  by_cases h2 : c = '&'
  · subst h2; cases h; exact .ampersand cs
  by_cases h3 : c = ';'
  · subst h3; cases h; exact .semicolon cs
  by_cases h4 : c = '\n'
  · subst h4; cases h; exact .newline cs
  by_cases h5 : c = '<'
  · subst h5; cases h; exact .lessThan cs
  by_cases h6 : c = '>'
  · subst h6; cases h; exact .greaterThan cs
  by_cases h7 : c = '"'
  · subst h7; exact .double h
  by_cases h8 : c = '\''
  · subst h8; exact .single h
  by_cases h9 : c = '`'
  · subst h9; exact .backtick h
  by_cases h10 : c = '$'
  · subst h10; exact .dollar (dollar_form h)
  by_cases h11 : c = '('
  · subst h11; cases h; exact .leftParen cs
  by_cases h12 : c = ')'
  · subst h12; cases h; exact .rightParen cs
  rw [if_neg h1, if_neg h2, if_neg h3, if_neg h4, if_neg h5, if_neg h6, if_neg h7, if_neg h8,
    if_neg h9, if_neg h10, if_neg h11, if_neg h12] at h
  cases h
  exact .number c cs (by simp [starters, h1, h2, h3, h4, h5, h6, h7, h8, h9, h10, h11, h12])

/-! ## Nothing is lost -/

theorem bar_append (cs : List Char) : (bar cs).text ++ (bar cs).rest = '|' :: cs := by
  unfold bar
  split <;> simp [whole]

theorem ampersand_append (cs : List Char) :
    (ampersand cs).text ++ (ampersand cs).rest = '&' :: cs := by
  unfold ampersand
  split <;> simp [whole]

theorem lessThan_append (cs : List Char) :
    (lessThan cs).text ++ (lessThan cs).rest = '<' :: cs := by
  unfold lessThan
  split <;> simp [whole]

theorem greaterThan_append (fd cs : List Char) :
    (greaterThan fd cs).text ++ (greaterThan fd cs).rest = fd ++ '>' :: cs := by
  unfold greaterThan
  split <;> simp [whole]

theorem quoted_append {kind : TokenKind} {opener : List Char} {close : Char} {escapes : Bool}
    {cs : List Char} {lx : Lexeme} (h : quoted kind opener close escapes cs = .ok lx) :
    lx.text ++ lx.rest = opener ++ cs := by
  unfold quoted at h
  split at h
  · simp at h
  · rename_i split hd
    obtain rfl := Except.ok.inj h
    simp [between, delimited_append hd]

theorem substitution_append {cs : List Char} {lx : Lexeme} (h : substitution cs = .ok lx) :
    lx.text ++ lx.rest = '$' :: '(' :: cs := by
  unfold substitution at h
  split at h
  · simp at h
  · rename_i split hd
    obtain rfl := Except.ok.inj h
    simp [between, balanced_append hd]

theorem dollar_append {cs : List Char} {lx : Lexeme} (h : DollarForm cs lx) :
    lx.text ++ lx.rest = '$' :: cs := by
  cases h with
  | braced cs => simp [whole, braced_append]
  | substitution h => exact substitution_append h
  | ansiC h => exact quoted_append h
  | double h => exact quoted_append h
  | name c cs _ => simp [whole, List.takeWhile_append_dropWhile]
  | special c cs _ => rfl
  | alone cs => rfl

theorem wordOrUnknown_append (c : Char) (cs : List Char) :
    (wordOrUnknown c cs).text ++ (wordOrUnknown c cs).rest = c :: cs := by
  unfold wordOrUnknown
  dsimp only
  split
  · simp [whole]
  · simp [whole, word_append]

theorem numberOrWord_append (c : Char) (cs : List Char) :
    (numberOrWord c cs).text ++ (numberOrWord c cs).rest = c :: cs := by
  have cut := List.takeWhile_append_dropWhile (p := Char.isDigit) (l := c :: cs)
  unfold numberOrWord
  dsimp only
  split
  · exact wordOrUnknown_append c cs
  · split
    · rename_i rest hr
      rw [hr] at cut
      simpa [whole] using cut
    · rename_i rest hr
      rw [hr] at cut
      rw [greaterThan_append, cut]
    · exact wordOrUnknown_append c cs

/-- A token's source text and the rest of the input are the input. -/
theorem scan_append {c : Char} {cs : List Char} {lx : Lexeme} (h : scan c cs = .ok lx) :
    lx.text ++ lx.rest = c :: cs := by
  cases scan_form h with
  | bar => exact bar_append cs
  | ampersand => exact ampersand_append cs
  | semicolon => rfl
  | newline => rfl
  | lessThan => exact lessThan_append cs
  | greaterThan => exact greaterThan_append [] cs
  | double h => exact quoted_append h
  | single h => exact quoted_append h
  | backtick h => exact quoted_append h
  | dollar h => exact dollar_append h
  | leftParen => rfl
  | rightParen => rfl
  | number => exact numberOrWord_append c cs

/-! ## Every token takes something -/

theorem bar_text (cs : List Char) : (bar cs).text ≠ [] := by
  unfold bar
  split <;> simp [whole]

theorem ampersand_text (cs : List Char) : (ampersand cs).text ≠ [] := by
  unfold ampersand
  split <;> simp [whole]

theorem lessThan_text (cs : List Char) : (lessThan cs).text ≠ [] := by
  unfold lessThan
  split <;> simp [whole]

theorem greaterThan_text (fd cs : List Char) : (greaterThan fd cs).text ≠ [] := by
  unfold greaterThan
  split <;> simp [whole]

theorem quoted_text {kind : TokenKind} {opener : List Char} {close : Char} {escapes : Bool}
    {cs : List Char} {lx : Lexeme} (h : quoted kind opener close escapes cs = .ok lx) :
    lx.text ≠ [] := by
  unfold quoted at h
  split at h
  · simp at h
  · simp [← Except.ok.inj h, between]

theorem substitution_text {cs : List Char} {lx : Lexeme} (h : substitution cs = .ok lx) :
    lx.text ≠ [] := by
  unfold substitution at h
  split at h
  · simp at h
  · simp [← Except.ok.inj h, between]

theorem dollar_text {cs : List Char} {lx : Lexeme} (h : DollarForm cs lx) : lx.text ≠ [] := by
  cases h with
  | substitution h => exact substitution_text h
  | ansiC h => exact quoted_text h
  | double h => exact quoted_text h
  | braced | name | special | alone => simp [whole]

theorem wordOrUnknown_text (c : Char) (cs : List Char) : (wordOrUnknown c cs).text ≠ [] := by
  unfold wordOrUnknown
  dsimp only
  split
  · simp [whole]
  · rename_i h
    simpa [whole] using h

theorem numberOrWord_text (c : Char) (cs : List Char) : (numberOrWord c cs).text ≠ [] := by
  unfold numberOrWord
  dsimp only
  split
  · exact wordOrUnknown_text c cs
  · split
    · simp [whole]
    · exact greaterThan_text _ _
    · exact wordOrUnknown_text c cs

/-- A token's source text is never empty. -/
theorem scan_text {c : Char} {cs : List Char} {lx : Lexeme} (h : scan c cs = .ok lx) :
    lx.text ≠ [] := by
  cases scan_form h with
  | bar => exact bar_text cs
  | ampersand => exact ampersand_text cs
  | lessThan => exact lessThan_text cs
  | greaterThan => exact greaterThan_text [] cs
  | double h => exact quoted_text h
  | single h => exact quoted_text h
  | backtick h => exact quoted_text h
  | dollar h => exact dollar_text h
  | semicolon | newline | leftParen | rightParen => simp [whole]
  | number => exact numberOrWord_text c cs

/-- Reading a token leaves no more than what follows its first character. -/
theorem scan_rest_length {c : Char} {cs : List Char} {lx : Lexeme} (h : scan c cs = .ok lx) :
    lx.rest.length ≤ cs.length := by
  have total := congrArg List.length (scan_append h)
  have taken := List.length_pos_iff.2 (scan_text h)
  simp only [List.length_append, List.length_cons] at total
  omega

/-! ## Quoted texts are longer than what they quote -/

theorem bar_kind (cs : List Char) (style : QuoteStyle) : (bar cs).kind ≠ .quoted style := by
  unfold bar
  split <;> simp [whole]

theorem ampersand_kind (cs : List Char) (style : QuoteStyle) :
    (ampersand cs).kind ≠ .quoted style := by
  unfold ampersand
  split <;> simp [whole]

theorem lessThan_kind (cs : List Char) (style : QuoteStyle) :
    (lessThan cs).kind ≠ .quoted style := by
  unfold lessThan
  split <;> simp [whole]

theorem greaterThan_kind (fd cs : List Char) (style : QuoteStyle) :
    (greaterThan fd cs).kind ≠ .quoted style := by
  unfold greaterThan redirectKind
  cases fd <;> split <;> simp [whole]

theorem wordOrUnknown_kind (c : Char) (cs : List Char) (style : QuoteStyle) :
    (wordOrUnknown c cs).kind ≠ .quoted style := by
  unfold wordOrUnknown
  dsimp only
  split
  · simp [whole]
  · simp only [whole]
    split <;> simp

theorem numberOrWord_kind (c : Char) (cs : List Char) (style : QuoteStyle) :
    (numberOrWord c cs).kind ≠ .quoted style := by
  unfold numberOrWord
  dsimp only
  split
  · exact wordOrUnknown_kind c cs style
  · split
    · simp [whole]
    · exact greaterThan_kind _ _ style
    · exact wordOrUnknown_kind c cs style

theorem substitution_kind {cs : List Char} {lx : Lexeme} (h : substitution cs = .ok lx)
    (style : QuoteStyle) : lx.kind ≠ .quoted style := by
  unfold substitution at h
  split at h
  · simp at h
  · simp [← Except.ok.inj h, between]

theorem quoted_value_length {kind : TokenKind} {opener : List Char} {close : Char}
    {escapes : Bool} {cs : List Char} {lx : Lexeme}
    (h : quoted kind opener close escapes cs = .ok lx) : lx.value.length < cs.length := by
  unfold quoted at h
  split at h
  · simp at h
  · rename_i split hd
    have := congrArg List.length (delimited_append hd)
    simp only [List.length_append, List.length_cons] at this
    simp only [← Except.ok.inj h, between]
    omega

theorem dollar_value_length {cs : List Char} {lx : Lexeme} {style : QuoteStyle}
    (h : DollarForm cs lx) (hk : lx.kind = .quoted style) : lx.value.length < cs.length := by
  cases h with
  | substitution h => exact absurd hk (substitution_kind h style)
  | ansiC h => exact Nat.lt_succ_of_lt (quoted_value_length h)
  | double h => exact Nat.lt_succ_of_lt (quoted_value_length h)
  | braced | name | special | alone => simp [whole] at hk

/-- A quoted text is longer than its value. -/
theorem scan_value_length {c : Char} {cs : List Char} {lx : Lexeme} {style : QuoteStyle}
    (h : scan c cs = .ok lx) (hk : lx.kind = .quoted style) : lx.value.length < cs.length := by
  cases scan_form h with
  | bar => exact absurd hk (bar_kind cs style)
  | ampersand => exact absurd hk (ampersand_kind cs style)
  | lessThan => exact absurd hk (lessThan_kind cs style)
  | greaterThan => exact absurd hk (greaterThan_kind [] cs style)
  | double h => exact quoted_value_length h
  | single h => exact quoted_value_length h
  | backtick h => exact quoted_value_length h
  | dollar h => exact dollar_value_length h hk
  | semicolon | newline | leftParen | rightParen => simp [whole] at hk
  | number => exact absurd hk (numberOrWord_kind c cs style)

end Lexeme

end ShellGuard
