import ShellGuard.Position

/-!
Tokens of a command text.
-/

namespace ShellGuard

/-- How a piece of text is quoted. -/
inductive QuoteStyle
  /-- `'...'`: nothing inside is special. -/
  | single
  /-- `"..."` and `$"..."`: a backslash protects, expansions happen. -/
  | double
  /-- `$'...'`: a backslash protects, no expansions. -/
  | ansiC
deriving Repr, DecidableEq, Inhabited

/-- What a token is. -/
inductive TokenKind
  | word
  | glob
  | quoted (style : QuoteStyle)
  /-- `$NAME`, `${...}` or a special parameter; the value is the whole text. -/
  | parameter
  /-- `$(...)`; the value is the text inside. -/
  | substitution
  /-- `` `...` ``; the value is the text inside. -/
  | backtick
  | pipe
  | orIf
  | ampersand
  | andIf
  | semicolon
  | newline
  | redirectIn
  | hereDoc
  | redirectOut
  | redirectAppend
  /-- A redirect that names its descriptor, such as `2>` or `2>>`. -/
  | redirectFd
  /-- A copy of a descriptor, such as `2>&1` or `>&2`. -/
  | redirectDup
  | leftParen
  | rightParen
  /-- A character that starts no token; it is passed over. -/
  | unknown
  | eof
deriving Repr, DecidableEq, Inhabited

namespace TokenKind

/-- Operators between commands. -/
def isOperator : TokenKind → Bool
  | pipe | orIf | ampersand | andIf | semicolon => true
  | _ => false

/-- Redirects of every form. -/
def isRedirect : TokenKind → Bool
  | redirectIn | hereDoc | redirectOut | redirectAppend | redirectFd | redirectDup => true
  | _ => false

/-- Tokens that end a command. -/
def isDelimiter : TokenKind → Bool
  | newline | eof | semicolon => true
  | _ => false

/-- Tokens that can be part of a word. -/
def isWordLike : TokenKind → Bool
  | word | glob | quoted _ | parameter | substitution | backtick => true
  | _ => false

/-- Tokens passed over where a command may begin. -/
def isFiller : TokenKind → Bool
  | newline | unknown => true
  | _ => false

end TokenKind

/-- One token: what it is, its value, where it starts and the byte offset just past it. -/
structure Token where
  kind : TokenKind
  value : String
  position : Position
  stop : Nat
deriving Repr, DecidableEq, Inhabited

namespace Token

/-- The token that ends every text. -/
def eof (p : Position) (stop : Nat) : Token :=
  ⟨.eof, "", p, stop⟩

/-- How a complaint names a token. -/
def text (t : Token) : String :=
  match t.kind with
  | .eof => "end of input"
  | .newline => "newline"
  | _ => t.value

end Token

/-- The characters that make a word a pattern. -/
def isGlobChar (c : Char) : Bool :=
  c == '*' || c == '?' || c == '[' || c == ']'

/-- The characters an unquoted word may hold. -/
def isWordChar (c : Char) : Bool :=
  c.isAlphanum || c == '_' || c == '-' || c == '.' || c == '/' || c == '=' || c == ':' ||
    c == ',' || c == '@' || c == '%' || c == '+' || c == '~' || isGlobChar c

/-- Whether a word is a pattern: it holds `*` or `?`, or a `[` with a `]` after it that does not
follow directly. -/
def looksLikeGlob (w : List Char) : Bool :=
  w.any (fun c => c == '*' || c == '?') ||
    match w.dropWhile (· != '[') with
    | _ :: _ :: rest => rest.contains ']'
    | _ => false

end ShellGuard
