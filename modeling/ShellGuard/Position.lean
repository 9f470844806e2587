/-!
Places in a command text.  A place is told by line and column, both from one, for people, and by
its byte offset for everything that compares places.  `Position.after` reads a text and says where
the reader then stands, so positions of tokens and of tree nodes are statements about one function.
-/

namespace ShellGuard

/-- Where a character stands: its line, its column within the line counted in characters, and its
offset in bytes of UTF-8. -/
structure Position where
  line : Nat
  column : Nat
  offset : Nat
deriving Repr, DecidableEq, Inhabited

namespace Position

/-- The place of the first character of a text. -/
def start : Position := ⟨1, 1, 0⟩

/-- The place after reading one character: a line feed opens the next line, any other character
moves one column on. -/
def advance (p : Position) (c : Char) : Position :=
  if c = '\n' then ⟨p.line + 1, 1, p.offset + c.utf8Size⟩
  else ⟨p.line, p.column + 1, p.offset + c.utf8Size⟩

/-- The place after reading a text. -/
def after (p : Position) (cs : List Char) : Position :=
  cs.foldl advance p

/-- The place `width` columns on, for openers that hold no line feed and one byte a column. -/
def shift (p : Position) (width : Nat) : Position :=
  ⟨p.line, p.column + width, p.offset + width⟩

/-- Positions are shown as `line:column`. -/
def text (p : Position) : String :=
  toString p.line ++ ":" ++ toString p.column

@[simp] theorem after_nil (p : Position) : p.after [] = p := rfl

@[simp] theorem after_cons (p : Position) (c : Char) (cs : List Char) :
    p.after (c :: cs) = (p.advance c).after cs := rfl

/-- Reading two texts one after the other is reading their concatenation. -/
theorem after_append (p : Position) (xs ys : List Char) :
    p.after (xs ++ ys) = (p.after xs).after ys := by
  simp [after, List.foldl_append]

end Position

end ShellGuard
