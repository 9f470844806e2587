import ShellGuard.Syntax.Simple

/-!
Commands, pipelines, chains and lists, read from tokens with complaints instead of failures.

Every reader gives back a tree for what it could read and the tokens it left.  What is nested sits
one `Level` further in; `level` stacks the levels, and `parse` starts with all of them above it.
-/

namespace ShellGuard

namespace Group

/-- Pass over tokens up to the parenthesis that closes an opened one, `opened` more being open
inside.  Says whether it was found; the end of the text is not passed. -/
def skip (opened : Nat) : List Token → Bool × List Token
  | [] => (false, [])
  | t :: ts =>
    if t.kind = .eof then (false, t :: ts)
    else if t.kind = .leftParen then skip (opened + 1) ts
    else if t.kind = .rightParen then
      match opened with
      | 0 => (true, ts)
      | n + 1 => skip n ts
    else skip opened ts

/-- Read what follows an opening parenthesis at `p`, up to the closing one.  Where no level is left
the group is passed over unread. -/
def read (below : Option Level) (p : Position) (ts : List Token) : Parsed Node :=
  match below with
  | none =>
    let skipped := skip 0 ts
    ⟨.subshell p none false false,
      complaint "Nesting too deep" p ::
        if skipped.1 then [] else [complaint "Missing closing parenthesis" p],
      skipped.2⟩
  | some level =>
    let body := level.list true ts
    if Tokens.kind body.rest = .rightParen then
      ⟨.subshell p body.value false false, body.notes, body.rest.tail⟩
    else
      ⟨.subshell p body.value false false,
        body.notes ++ [complaint "Missing closing parenthesis" p], body.rest⟩

theorem skip_suffix (opened : Nat) (ts : List Token) : (skip opened ts).2 <:+ ts := by
  induction ts generalizing opened with
  | nil => exact List.suffix_refl _
  | cons t ts ih =>
    unfold skip
    split
    · exact List.suffix_refl _
    split
    · exact (ih _).trans (List.suffix_cons _ _)
    split
    · split
      · exact List.suffix_cons _ _
      · exact (ih _).trans (List.suffix_cons _ _)
    · exact (ih _).trans (List.suffix_cons _ _)

theorem read_rest_suffix (below : Option Level) (p : Position) (ts : List Token) :
    (read below p ts).rest <:+ ts := by
  unfold read
  split
  · exact skip_suffix 0 ts
  · rename_i level
    dsimp only
    split
    · exact (List.tail_suffix _).trans (level.rest_suffix true ts)
    · exact level.rest_suffix true ts

end Group

/-- Read one command: a group in parentheses or a simple command.  Any other token is none. -/
def parseCommand (below : Option Level) (ts : List Token) : Option (Parsed Node) :=
  match ts with
  | [] => none
  | t :: rest =>
    if t.kind = .leftParen then some (Group.read below t.position rest)
    else if t.kind.isWordLike || t.kind.isRedirect then
      let draft := Draft.read below .empty ts
      some ⟨draft.value.node t.position, draft.notes, draft.rest⟩
    else none

/-- Reading a command takes its first token at least. -/
theorem parseCommand_rest_suffix {below : Option Level} {ts : List Token} {r : Parsed Node}
    (h : parseCommand below ts = some r) : r.rest <:+ ts.tail ∧ ts ≠ [] := by
  unfold parseCommand at h
  split at h
  · simp at h
  · rename_i t rest
    refine ⟨?_, by simp⟩
    split at h
    · rw [← Option.some.inj h]
      exact Group.read_rest_suffix below _ _
    split at h
    · rename_i hw
      rw [← Option.some.inj h]
      exact Draft.read_cons_suffix below .empty (by simpa using hw)
    · simp at h

theorem parseCommand_rest_length {below : Option Level} {ts : List Token} {r : Parsed Node}
    (h : parseCommand below ts = some r) : r.rest.length < ts.length := by
  obtain ⟨hs, hne⟩ := parseCommand_rest_suffix h
  have := hs.length_le
  have := List.length_pos_iff.2 hne
  simp only [List.length_tail] at *
  omega

/-! ## Pipelines -/

/-- Tokens after which a pipe has nothing to feed. -/
def endsPipeline (inGroup : Bool) : TokenKind → Bool
  | .eof | .semicolon | .ampersand | .andIf | .orIf | .pipe => true
  | .rightParen => inGroup
  | _ => false

/-- The command a pipe feeds, if there is one. -/
def parsePiped (below : Option Level) (inGroup : Bool) (ts : List Token) : Option (Parsed Node) :=
  if endsPipeline inGroup (Tokens.kind ts) then none else parseCommand below ts

theorem parsePiped_rest_length {below : Option Level} {inGroup : Bool} {ts : List Token}
    {r : Parsed Node} (h : parsePiped below inGroup ts = some r) : r.rest.length < ts.length := by
  unfold parsePiped at h
  split at h
  · simp at h
  · exact parseCommand_rest_length h

/-- Read the pipes that follow a command: the commands they feed, and whether the last one feeds
nothing. -/
def parsePipes (below : Option Level) (inGroup : Bool) (ts : List Token) :
    Parsed (List Node × Bool) :=
  match ts with
  | [] => ⟨([], false), [], []⟩
  | t :: rest =>
    if t.kind = .pipe then
      match _h : parsePiped below inGroup (Tokens.skipFiller rest) with
      | none =>
        let after := Tokens.skipFiller rest
        ⟨([], true), [complaint "Unexpected end of command after pipe" (Tokens.position after)],
          after⟩
      | some command =>
        let more := parsePipes below inGroup command.rest
        ⟨(command.value :: more.value.1, more.value.2), command.notes ++ more.notes, more.rest⟩
    else ⟨([], false), [], t :: rest⟩
termination_by ts.length
decreasing_by
  have := parsePiped_rest_length _h
  have := (Tokens.skipFiller_suffix rest).length_le
  simp only [List.length_cons]
  omega

theorem parsePiped_rest_suffix {below : Option Level} {inGroup : Bool} {ts : List Token}
    {r : Parsed Node} (h : parsePiped below inGroup ts = some r) : r.rest <:+ ts := by
  unfold parsePiped at h
  split at h
  · simp at h
  · exact (parseCommand_rest_suffix h).1.trans (List.tail_suffix _)

theorem parsePipes_rest_suffix (below : Option Level) (inGroup : Bool) (ts : List Token) :
    (parsePipes below inGroup ts).rest <:+ ts := by
  fun_induction parsePipes below inGroup ts with
  | case1 => exact List.suffix_refl _
  | case2 t rest _ _ after => exact (Tokens.skipFiller_suffix _).trans (List.suffix_cons _ _)
  | case3 t rest _ command h more ih =>
    exact ((ih.trans (parsePiped_rest_suffix h)).trans (Tokens.skipFiller_suffix _)).trans
      (List.suffix_cons _ _)
  | case4 => exact List.suffix_refl _

/-- Read a pipeline; a single command stands for itself. -/
def parsePipeline (below : Option Level) (inGroup : Bool) (ts : List Token) :
    Option (Parsed Node) :=
  (parseCommand below ts).map fun first =>
    let more := parsePipes below inGroup first.rest
    let node :=
      if more.value.1.isEmpty && !more.value.2 then first.value
      else .pipeline (Tokens.position ts) (first.value :: more.value.1) more.value.2
    ⟨node, first.notes ++ more.notes, more.rest⟩

theorem parsePipeline_rest_suffix {below : Option Level} {inGroup : Bool} {ts : List Token}
    {r : Parsed Node} (h : parsePipeline below inGroup ts = some r) :
    r.rest <:+ ts.tail ∧ ts ≠ [] := by
  obtain ⟨first, hf, rfl⟩ := Option.map_eq_some_iff.1 h
  obtain ⟨hs, hne⟩ := parseCommand_rest_suffix hf
  exact ⟨(parsePipes_rest_suffix below inGroup first.rest).trans hs, hne⟩

theorem parsePipeline_rest_length {below : Option Level} {inGroup : Bool} {ts : List Token}
    {r : Parsed Node} (h : parsePipeline below inGroup ts = some r) :
    r.rest.length < ts.length := by
  obtain ⟨hs, hne⟩ := parsePipeline_rest_suffix h
  have := hs.length_le
  have := List.length_pos_iff.2 hne
  simp only [List.length_tail] at *
  omega

/-! ## Chains of `&&` and `||` -/

/-- The node for two sides of an operator. -/
def chainNode (op : TokenKind) (left right : Node) : Node :=
  if op = .andIf then .both left.position left right else .either left.position left right

/-- Read the operators that follow the left side of a chain. -/
def parseChainRest (below : Option Level) (inGroup : Bool) (left : Node) (ts : List Token) :
    Parsed Node :=
  match ts with
  | [] => ⟨left, [], []⟩
  | t :: rest =>
    if t.kind = .andIf ∨ t.kind = .orIf then
      match _h : parsePipeline below inGroup (Tokens.skipFiller rest) with
      | none =>
        let after := Tokens.skipFiller rest
        ⟨left,
          [complaint ("Unexpected end of command after " ++ t.value) (Tokens.position after)],
          after⟩
      | some right =>
        let more := parseChainRest below inGroup (chainNode t.kind left right.value) right.rest
        ⟨more.value, right.notes ++ more.notes, more.rest⟩
    else ⟨left, [], t :: rest⟩
termination_by ts.length
decreasing_by
  have := parsePipeline_rest_length _h
  have := (Tokens.skipFiller_suffix rest).length_le
  simp only [List.length_cons]
  omega

theorem parseChainRest_rest_suffix (below : Option Level) (inGroup : Bool) (left : Node)
    (ts : List Token) : (parseChainRest below inGroup left ts).rest <:+ ts := by
  fun_induction parseChainRest below inGroup left ts with
  | case1 => exact List.suffix_refl _
  | case2 left t rest _ _ after => exact (Tokens.skipFiller_suffix _).trans (List.suffix_cons _ _)
  | case3 left t rest _ right h more ih =>
    exact ((ih.trans ((parsePipeline_rest_suffix h).1.trans (List.tail_suffix _))).trans
      (Tokens.skipFiller_suffix _)).trans (List.suffix_cons _ _)
  | case4 => exact List.suffix_refl _

/-- Read a chain of pipelines. -/
def parseChain (below : Option Level) (inGroup : Bool) (ts : List Token) : Option (Parsed Node) :=
  (parsePipeline below inGroup ts).map fun first =>
    let more := parseChainRest below inGroup first.value first.rest
    ⟨more.value, first.notes ++ more.notes, more.rest⟩

theorem parseChain_rest_suffix {below : Option Level} {inGroup : Bool} {ts : List Token}
    {r : Parsed Node} (h : parseChain below inGroup ts = some r) :
    r.rest <:+ ts.tail ∧ ts ≠ [] := by
  obtain ⟨first, hf, rfl⟩ := Option.map_eq_some_iff.1 h
  obtain ⟨hs, hne⟩ := parsePipeline_rest_suffix hf
  exact ⟨(parseChainRest_rest_suffix below inGroup first.value first.rest).trans hs, hne⟩

theorem parseChain_rest_length {below : Option Level} {inGroup : Bool} {ts : List Token}
    {r : Parsed Node} (h : parseChain below inGroup ts = some r) : r.rest.length < ts.length := by
  obtain ⟨hs, hne⟩ := parseChain_rest_suffix h
  have := hs.length_le
  have := List.length_pos_iff.2 hne
  simp only [List.length_tail] at *
  omega

/-! ## Lists -/

/-- Tokens that end a list: the end of the text and, inside parentheses, the closing one. -/
def endsList (inGroup : Bool) : TokenKind → Bool
  | .eof => true
  | .rightParen => inGroup
  | _ => false

/-- The complaint about a token that fits nowhere. -/
def unexpected (ts : List Token) : Finding :=
  complaint ("Unexpected token: " ++ (Tokens.current ts).text) (Tokens.position ts)

/-- Read the items of a list and the separators after them. -/
def parseItems (below : Option Level) (inGroup : Bool) (ts : List Token) :
    Parsed (List Node × List Separator) :=
  let start := Tokens.skipFiller ts
  if endsList inGroup (Tokens.kind start) then ⟨([], []), [], start⟩
  else
    match _h : parseChain below inGroup start with
    | none => ⟨([], []), [unexpected start], start⟩
    | some item =>
      match Tokens.kind item.rest with
      | .semicolon | .newline =>
        let more := parseItems below inGroup item.rest.tail
        ⟨(item.value :: more.value.1, .semicolon :: more.value.2), item.notes ++ more.notes,
          more.rest⟩
      | .ampersand =>
        let more := parseItems below inGroup item.rest.tail
        ⟨(.background item.value.position item.value :: more.value.1,
          .ampersand :: more.value.2), item.notes ++ more.notes, more.rest⟩
      | kind =>
        ⟨([item.value], []),
          item.notes ++ if endsList inGroup kind then [] else [unexpected item.rest], item.rest⟩
termination_by ts.length
decreasing_by
  all_goals
    have := parseChain_rest_length _h
    have := (Tokens.skipFiller_suffix ts).length_le
    have := (List.tail_suffix item.rest).length_le
    simp only [start] at *
    omega

theorem parseItems_rest_suffix (below : Option Level) (inGroup : Bool) (ts : List Token) :
    (parseItems below inGroup ts).rest <:+ ts := by
  fun_induction parseItems below inGroup ts with
  | case1 ts start _ => exact Tokens.skipFiller_suffix ts
  | case2 ts start _ _ => exact Tokens.skipFiller_suffix ts
  | case3 ts start _ item h _ more ih =>
    exact ((ih.trans (List.tail_suffix _)).trans
      ((parseChain_rest_suffix h).1.trans (List.tail_suffix _))).trans
      (Tokens.skipFiller_suffix ts)
  | case4 ts start _ item h _ more ih =>
    exact ((ih.trans (List.tail_suffix _)).trans
      ((parseChain_rest_suffix h).1.trans (List.tail_suffix _))).trans
      (Tokens.skipFiller_suffix ts)
  | case5 ts start _ item h _ more ih =>
    exact ((ih.trans (List.tail_suffix _)).trans
      ((parseChain_rest_suffix h).1.trans (List.tail_suffix _))).trans
      (Tokens.skipFiller_suffix ts)
  | case6 ts start _ item h _ _ _ =>
    exact ((parseChain_rest_suffix h).1.trans (List.tail_suffix _)).trans
      (Tokens.skipFiller_suffix ts)

/-- The node for some items: none for none, a single item as it is, else a list with the separators
between its items. -/
def listNode (start : Position) (items : List Node) (separators : List Separator) : Option Node :=
  match items with
  | [] => none
  | [item] => some item
  | _ => some (.list start items (separators.take (items.length - 1)))

/-- Read a list of commands separated by `;`, `&` or line ends. -/
def parseList (below : Option Level) (inGroup : Bool) (ts : List Token) : Parsed (Option Node) :=
  let items := parseItems below inGroup ts
  ⟨listNode (Tokens.position ts) items.value.1 items.value.2, items.notes, items.rest⟩

/-! ## Levels -/

/-- The reader of commands above another one. -/
def Level.above (below : Option Level) : Level where
  list := parseList below
  rest_suffix inGroup ts := parseItems_rest_suffix below inGroup ts

/-- The reader with `n` levels below it. -/
def level : Nat → Level
  | 0 => .above none
  | n + 1 => .above (some (level n))

/-- How deep groups and substitutions may nest. -/
def maxNesting : Nat := 32

/-- The reader at a nesting depth. -/
def levelAt (depth : Nat) : Level :=
  level (maxNesting - depth)

/-! ## Whole commands -/

/-- A parsed command and the complaints about it. -/
structure Parse where
  root : Node
  notes : List Finding

/-- Why a text is no command. -/
inductive SyntaxError
  /-- It cannot be cut into tokens. -/
  | lex (cause : LexError)
  /-- It holds no command. -/
  | noCommands (notes : List Finding)

/-- The complaint about a text that is no command. -/
def SyntaxError.message : SyntaxError → String
  | lex cause => "lexing failed: " ++ cause.message
  | noCommands _ => "parsing failed: empty command"

/-- The complaints gathered before a text turned out to be no command. -/
def SyntaxError.notes : SyntaxError → List Finding
  | lex _ => []
  | noCommands notes => notes

/-- Parse a text that begins at `p`, at a nesting depth. -/
def parseAt (p : Position) (depth : Nat) (s : String) : Except SyntaxError Parse :=
  match tokenizeAt p s with
  | .error e => .error (.lex e)
  | .ok ts =>
    let parsed := (levelAt depth).list false ts
    match parsed.value with
    | some root => .ok ⟨root, parsed.notes⟩
    | none => .error (.noCommands parsed.notes)

/-- Parse a command. -/
def parse (s : String) : Except SyntaxError Parse :=
  parseAt .start 0 s

end ShellGuard
