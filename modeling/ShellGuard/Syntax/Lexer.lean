import ShellGuard.Syntax.Lexeme

/-!
Cutting a text into tokens.  A cursor is the text still to be read and the place where it stands;
`Cursor.next` passes over blanks and comments and reads one token.  A token that is never closed
takes the whole text with it, so the cursor then stands at the end.
-/

namespace ShellGuard

/-- Why a text cannot be cut into tokens, and where the token that is never closed begins. -/
structure LexError where
  cause : Unclosed
  position : Position
deriving Repr, DecidableEq

/-- The complaint about a token that is never closed. -/
def LexError.message (e : LexError) : String :=
  match e.cause with
  | .quote c => "unterminated " ++ String.singleton c ++ " string starting at " ++ e.position.text
  | .substitution => "unterminated command substitution starting at " ++ e.position.text

/-- The text still to be read and the place of its first character. -/
structure Cursor where
  rest : List Char
  position : Position
deriving Repr, DecidableEq

namespace Cursor

/-- A cursor at the front of a text that begins at `p`. -/
def ofText (s : String) (p : Position) : Cursor :=
  ⟨s.toList, p⟩

/-- The blanks between tokens. -/
def isGap (c : Char) : Bool :=
  c == ' ' || c == '\t' || c == '\r'

/-- Read what stands before the next token: blanks, joined lines and comments, which run up to a
line feed. -/
def gap (inComment : Bool) : List Char → List Char × List Char
  | [] => ([], [])
  | '\\' :: '\n' :: cs =>
    if inComment then ([ '\\' ], '\n' :: cs)
    else Lexeme.push '\\' (Lexeme.push '\n' (gap false cs))
  | c :: cs =>
    if inComment && c != '\n' then Lexeme.push c (gap true cs)
    else if isGap c then Lexeme.push c (gap false cs)
    else if c = '#' then Lexeme.push c (gap true cs)
    else ([], c :: cs)

/-- Read one token, or the reason why there is none, and move on. -/
def next (cur : Cursor) : Except LexError Token × Cursor :=
  let start := cur.position.after (gap false cur.rest).1
  match (gap false cur.rest).2 with
  | [] => (.ok (Token.eof start start.offset), ⟨[], start⟩)
  | c :: cs =>
    match Lexeme.scan c cs with
    | .error cause => (.error ⟨cause, start⟩, ⟨[], start.after (c :: cs)⟩)
    | .ok lx =>
      let stop := start.after lx.text
      (.ok ⟨lx.kind, String.ofList lx.value, start, stop.offset⟩, ⟨lx.rest, stop⟩)

/-- What is passed over and what is left are the input. -/
theorem gap_append (inComment : Bool) (cs : List Char) :
    (gap inComment cs).1 ++ (gap inComment cs).2 = cs := by
  fun_induction gap inComment cs <;> simp_all [Lexeme.push]

/-- Reading a token other than the last leaves less to read. -/
theorem next_rest_length {cur cur' : Cursor} {t : Token} (h : cur.next = (.ok t, cur'))
    (ht : t.kind ≠ .eof) : cur'.rest.length < cur.rest.length := by
  have cut := congrArg List.length (gap_append false cur.rest)
  unfold next at h
  dsimp only at h
  split at h
  · obtain ⟨h1, rfl⟩ := Prod.mk.inj h
    exact absurd (by rw [← Except.ok.inj h1]; rfl) ht
  · rename_i c cs hr
    split at h
    · simp at h
    · rename_i lx hs
      obtain ⟨_, rfl⟩ := Prod.mk.inj h
      have := Lexeme.scan_rest_length hs
      simp only [hr, List.length_append, List.length_cons] at cut ⊢
      omega

/-- All tokens from a cursor on, up to the one that ends the text. -/
def tokens (cur : Cursor) : Except LexError (List Token) :=
  match _h : cur.next with
  | (.error e, _) => .error e
  | (.ok t, cur') => if _ht : t.kind = .eof then .ok [t] else (tokens cur').map (t :: ·)
termination_by cur.rest.length
decreasing_by exact next_rest_length _h _ht

end Cursor

/-- The tokens of a text that begins at a place. -/
def tokenizeAt (p : Position) (s : String) : Except LexError (List Token) :=
  (Cursor.ofText s p).tokens

/-- The tokens of a command. -/
def tokenize (s : String) : Except LexError (List Token) :=
  tokenizeAt .start s

end ShellGuard
