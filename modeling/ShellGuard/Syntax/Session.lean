import ShellGuard.Syntax.Parser

/-!
A parser that is asked for one list of commands after the other.  Between two calls it keeps its
depth, the tokens it has not read and the complaints so far.
-/

namespace ShellGuard

/-- A parser between two calls. -/
structure Parser where
  /-- How deep in other commands its tokens stand. -/
  depth : Nat
  rest : List Token
  notes : List Finding

namespace Parser

/-- A parser of some tokens that stand at a depth. -/
def ofTokens (ts : List Token) (depth : Nat) : Parser :=
  ⟨depth, Tokens.close ts, []⟩

/-- Read a list of commands. -/
def list (p : Parser) (inGroup : Bool) : Option Node × Parser :=
  let parsed := (levelAt p.depth).list inGroup p.rest
  (parsed.value, { p with rest := parsed.rest, notes := p.notes ++ parsed.notes })

/-- What some calls give one after the other, each with the parser it leaves. -/
def lists (p : Parser) : List Bool → List (Option Node × Parser)
  | [] => []
  | inGroup :: calls =>
    let result := p.list inGroup
    result :: result.2.lists calls

end Parser

end ShellGuard
