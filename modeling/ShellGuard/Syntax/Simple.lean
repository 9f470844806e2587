import ShellGuard.Syntax.Word
import ShellGuard.Text.Digit

/-!
Simple commands: words, redirects and what is glued together.  Two tokens belong to one word when
the second begins where the first stops.
-/

namespace ShellGuard

namespace Redirect

/-- The largest descriptor a redirect can name. -/
def maxFd : Nat := 2147483647

/-- The descriptor written in front of a redirect, if there is one and it is not too large. -/
def explicitFd (value : List Char) : Option Int :=
  let digits := value.takeWhile Char.isDigit
  if digits.isEmpty ∨ maxFd < Digit.number 10 digits then none else some (Digit.number 10 digits)

/-- What a redirect token does, and the descriptor it means when it names none. -/
def shape (kind : TokenKind) (value : List Char) : RedirectKind × Int :=
  match kind with
  | .redirectIn => (.input, 0)
  | .hereDoc => (.here, 0)
  | .redirectAppend => (.append, 1)
  | .redirectFd =>
    if ['>', '>'].isSuffixOf value then (.append, 2)
    else if ['<'].isSuffixOf value then (.input, 0)
    else (.error, 2)
  | .redirectDup => (.duplicate, 1)
  | _ => (.output, 1)

/-- The descriptor a copying redirect names after its `&`. -/
def embeddedTarget (kind : TokenKind) (value : List Char) : List Char :=
  match kind with
  | .redirectDup => (value.dropWhile (· != '&')).drop 1
  | _ => []

/-- The tokens that make up one word, when the last one taken stopped at `last`. -/
def targetSpan (last : Option Nat) : List Token → List Token × List Token
  | [] => ([], [])
  | t :: ts =>
    if t.kind.isWordLike = true ∧ (last = none ∨ last = some t.position.offset) then
      let span := targetSpan (some t.stop) ts
      (t :: span.1, span.2)
    else ([], t :: ts)

/-- The word a redirect points to: the text of its parts and the complaints about them.  The parts'
structure is not kept. -/
def readTarget (below : Option Level) (ts : List Token) : Parsed String :=
  let span := targetSpan none ts
  let parts := span.1.map (Token.part below)
  ⟨String.join (parts.map (·.text)), parts.flatMap (·.notes), span.2⟩

/-- Read a redirect whose operator `op` has been taken. -/
def parse (below : Option Level) (op : Token) (ts : List Token) : Parsed Redirect :=
  let value := op.value.toList
  let shape := shape op.kind value
  let fd := (explicitFd value).getD shape.2
  let embedded := embeddedTarget op.kind value
  if embedded.isEmpty then
    let word := readTarget below ts
    ⟨⟨shape.1, fd, word.value⟩, word.notes, word.rest⟩
  else ⟨⟨shape.1, fd, String.ofList embedded⟩, [], ts⟩

theorem targetSpan_append (last : Option Nat) (ts : List Token) :
    (targetSpan last ts).1 ++ (targetSpan last ts).2 = ts := by
  induction ts generalizing last with
  | nil => rfl
  | cons t ts ih =>
    unfold targetSpan
    split <;> simp [ih]

theorem parse_rest_suffix (below : Option Level) (op : Token) (ts : List Token) :
    (parse below op ts).rest <:+ ts := by
  unfold parse
  dsimp only
  split
  · exact ⟨_, targetSpan_append none ts⟩
  · exact List.suffix_refl ts

end Redirect

/-- A simple command being read: its words so far and its children, the latest first, and where the
last part of a word stopped, if nothing has come between. -/
structure Draft where
  words : List String
  children : List Node
  lastStop : Option Nat

namespace Draft

/-- A command of which nothing has been read. -/
def empty : Draft := ⟨[], [], none⟩

/-- Add a part of a word: to the last word when it begins where that one stopped, else as a word of
its own. -/
def addPart (d : Draft) (t : Token) (part : WordPart) : Draft :=
  { words :=
      match d.words with
      | [] => [part.text]
      | w :: ws =>
        if d.lastStop = some t.position.offset then (w ++ part.text) :: ws
        else part.text :: w :: ws
    children := part.node.toList ++ d.children
    lastStop := some t.stop }

/-- Add a redirect. -/
def addRedirect (d : Draft) (p : Position) (r : Redirect) : Draft :=
  { d with children := .redirect p r :: d.children, lastStop := none }

/-- Add the parentheses that make the command a function definition. -/
def addParens (d : Draft) : Draft :=
  { d with words := "()" :: d.words, lastStop := none }

/-- Whether exactly one word has been read. -/
def hasOneWord (d : Draft) : Bool :=
  match d.words with
  | [_] => true
  | _ => false

/-- The command as a node. -/
def node (d : Draft) (p : Position) : Node :=
  .command p (d.words.reverse.headD "") d.words.reverse.tail d.children.reverse

/-- The tokens left after an optional closing parenthesis. -/
def dropClosing (ts : List Token) : List Token :=
  match ts with
  | [] => []
  | t :: rest => if t.kind = .rightParen then rest else ts

theorem dropClosing_suffix (ts : List Token) : dropClosing ts <:+ ts := by
  unfold dropClosing
  split
  · exact List.suffix_refl _
  · split
    · exact List.suffix_cons _ _
    · exact List.suffix_refl _

/-- Read a simple command to its end.  A parenthesis after the first word makes the command a
function definition; characters that start no token are passed over but keep words apart. -/
def read (below : Option Level) (d : Draft) (ts : List Token) : Parsed Draft :=
  match ts with
  | [] => ⟨d, [], []⟩
  | t :: rest =>
    if t.kind.isWordLike then
      let part := t.part below
      let more := read below (d.addPart t part) rest
      ⟨more.value, part.notes ++ more.notes, more.rest⟩
    else if t.kind.isRedirect then
      let r := Redirect.parse below t rest
      let more := read below (d.addRedirect t.position r.value) r.rest
      ⟨more.value, r.notes ++ more.notes, more.rest⟩
    else if t.kind = .leftParen ∧ d.hasOneWord then read below d.addParens (dropClosing rest)
    else if t.kind = .unknown then read below { d with lastStop := none } rest
    else ⟨d, [], t :: rest⟩
termination_by ts.length
decreasing_by
  · exact Nat.lt_succ_self _
  · exact Nat.lt_succ_of_le (Redirect.parse_rest_suffix below _ _).length_le
  · exact Nat.lt_succ_of_le (dropClosing_suffix _).length_le
  · exact Nat.lt_succ_self _

theorem read_rest_suffix (below : Option Level) (d : Draft) (ts : List Token) :
    (read below d ts).rest <:+ ts := by
  fun_induction read below d ts with
  | case1 => exact List.suffix_refl _
  | case2 d t rest _ part more ih => exact ih.trans (List.suffix_cons _ _)
  | case3 d t rest _ _ r more ih =>
    exact (ih.trans (Redirect.parse_rest_suffix below _ _)).trans (List.suffix_cons _ _)
  | case4 d t rest _ _ _ ih => exact (ih.trans (dropClosing_suffix _)).trans (List.suffix_cons _ _)
  | case5 d t rest _ _ _ _ ih => exact ih.trans (List.suffix_cons _ _)
  | case6 => exact List.suffix_refl _

/-- A first token that can be part of a command is taken. -/
theorem read_cons_suffix (below : Option Level) (d : Draft) {t : Token} {ts : List Token}
    (h : t.kind.isWordLike = true ∨ t.kind.isRedirect = true) :
    (read below d (t :: ts)).rest <:+ ts := by
  rw [read]
  split
  · exact read_rest_suffix below _ ts
  · rename_i hw
    rw [if_pos (h.resolve_left hw)]
    exact (read_rest_suffix below _ _).trans (Redirect.parse_rest_suffix below _ _)

end Draft

end ShellGuard
