import ShellGuard.Syntax.Parsed

/-!
Parts of words: what a token adds to the word it stands in, and the node that records its inner
structure.  A double-quoted text is read again for the expansions inside it, and a substitution is
parsed as a command of its own, one level further in.
-/

namespace ShellGuard

/-- What a token adds to a word: its text, the node for its structure if it has any, and the
complaints about what is inside. -/
structure WordPart where
  text : String
  node : Option Node
  notes : List Finding

/-- Parse the body of a substitution that begins at `inner`, one level further in.  Without such a
level the body is left unread. -/
def substitution (below : Option Level) (body : String) (inner position : Position)
    (backtick : Bool) : Node × List Finding :=
  match below with
  | none =>
    (.subshell position none true backtick,
      [complaint "Command substitution nested too deeply" position])
  | some level =>
    match tokenizeAt inner body with
    | .error e => (.subshell position none true backtick, [complaint e.message e.position])
    | .ok ts =>
      let parsed := level.list false ts
      (.subshell position parsed.value true backtick, parsed.notes)

/-- What a token adds to a word, given the expansions and complaints found inside it in case it is
a double-quoted text. -/
def Token.partWith (below : Option Level) (t : Token) (inside : List Node × List Finding) :
    WordPart :=
  match t.kind with
  | .glob => ⟨t.value, some (.glob t.position t.value), []⟩
  | .quoted .double => ⟨t.value, some (.quoted t.position .double t.value inside.1), inside.2⟩
  | .quoted style => ⟨t.value, some (.quoted t.position style t.value []), []⟩
  | .parameter => ⟨t.value, some (.parameter t.position (Parameter.ofText t.value)), []⟩
  | .substitution =>
    let sub := substitution below t.value (t.position.shift 2) t.position false
    ⟨"$(" ++ t.value ++ ")", some sub.1, sub.2⟩
  | .backtick =>
    let sub := substitution below t.value (t.position.shift 1) t.position true
    ⟨"`" ++ t.value ++ "`", some sub.1, sub.2⟩
  | _ => ⟨t.value, none, []⟩

/-- The token a lexeme makes when it begins at `p`. -/
def Lexeme.token (lx : Lexeme) (p : Position) : Token :=
  ⟨lx.kind, String.ofList lx.value, p, (p.after lx.text).offset⟩

/-- The expansions inside a double-quoted text whose first character stands at `p`.  A backslash
protects the next character, and a dollar sign or backtick that starts no complete token stands for
itself. -/
def expansions (below : Option Level) (p : Position) (cs : List Char) :
    List Node × List Finding :=
  match cs with
  | [] => ([], [])
  | c :: rest =>
    if c = '\\' then
      match rest with
      | [] => ([], [])
      | d :: after => expansions below (p.after [c, d]) after
    else if c = '$' ∨ c = '`' then
      match _h : Lexeme.scan c rest with
      | .error _ => expansions below (p.advance c) rest
      | .ok lx =>
        let inside :=
          if _k : lx.kind = .quoted .double then expansions below (p.shift 1) lx.value else ([], [])
        let part := (lx.token p).partWith below inside
        let after := expansions below (p.after lx.text) lx.rest
        (part.node.toList ++ after.1, part.notes ++ after.2)
    else expansions below (p.advance c) rest
termination_by cs.length
decreasing_by
  · exact Nat.lt_succ_of_le (Nat.le_succ _)
  · exact Nat.lt_succ_self _
  · exact Nat.lt_succ_of_lt (Lexeme.scan_value_length _h _k)
  · exact Nat.lt_succ_of_le (Lexeme.scan_rest_length _h)
  · exact Nat.lt_succ_self _

/-- What a token adds to a word. -/
def Token.part (below : Option Level) (t : Token) : WordPart :=
  t.partWith below
    (if t.kind = .quoted .double then expansions below (t.position.shift 1) t.value.toList
     else ([], []))

end ShellGuard
