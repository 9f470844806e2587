import ShellGuard.Pattern.Basic

/-!
Patterns in their simplest form.  Sequences and alternatives are flat, texts that follow each other
are one text, alternatives between characters are one set, and repetitions of what matches nothing
but the empty text are dropped.  A pattern matches the same texts before and after, in the same
order of preference.
-/

namespace ShellGuard

namespace Pattern

/-- A set as a pattern; a set of one character is a text. -/
def ofSet (s : CharSet) : Pattern :=
  match s.only? with
  | some n => literal [Char.ofNat n]
  | none => chars s

/-- The parts of a sequence. -/
def parts : Pattern → List Pattern
  | empty => []
  | seq p q => p.parts ++ q.parts
  | p => [p]

/-- Put a part in front of others, joining two texts into one. -/
def consPart : Pattern → List Pattern → List Pattern
  | literal cs, literal ds :: ps => literal (cs ++ ds) :: ps
  | p, ps => p :: ps

/-- Patterns one after the other, in their simplest form. -/
def sequence (ps : List Pattern) : Pattern :=
  seqs ((ps.flatMap parts).foldr consPart [])

/-- The branches of alternatives. -/
def branches : Pattern → List Pattern
  | alt p q => p.branches ++ q.branches
  | p => [p]

/-- The character of a text of one character. -/
def singleChar? : Pattern → Option Nat
  | literal [c] => some c.toNat
  | _ => none

/-- The set of a pattern that is one. -/
def charSet? : Pattern → Option CharSet
  | chars s => some s
  | _ => none

/-- The parts with which all of some sequences begin. -/
def commonStart : List (List Pattern) → List Pattern
  | [] => []
  | [ps] => ps
  | ps :: rest =>
    let common := commonStart rest
    ((ps.zip common).takeWhile fun (p, q) => p == q).map (·.1)

/-- The number of parts of a pattern, counted all the way down. -/
def size : Pattern → Nat
  | group _ p => p.size + 1
  | seq p q => p.size + q.size + 1
  | alt p q => p.size + q.size + 1
  | .repeat p _ _ _ => p.size + 1
  | _ => 1

/-- One of some patterns, in the simplest form.  Branches that begin alike share their beginning if
all of them are sequences.  `fuel` bounds how often that happens. -/
def choice : (fuel : Nat) → List Pattern → Pattern
  | fuel, ps =>
    let bs := ps.flatMap branches
    match bs with
    | [] => never
    | [p] => p
    | _ =>
      match bs.mapM singleChar?, bs.mapM charSet? with
      | some codes, _ => ofSet (.ofCodes codes)
      | _, some sets => ofSet (.unions sets)
      | none, none =>
        let sequences := bs.map parts
        let start := if sequences.all (2 ≤ ·.length) then commonStart sequences else []
        match fuel, start with
        | fuel + 1, _ :: _ =>
          sequence (start ++
            [choice fuel (sequences.map fun ps => sequence (ps.drop start.length))])
        | _, _ => alts bs

/-- One of some patterns, in the simplest form. -/
def alternatives (ps : List Pattern) : Pattern :=
  choice ((ps.map size).foldl (· + ·) 0) ps

/-- Whether a pattern matches the empty text at most. -/
def emptyOnly : Pattern → Bool
  | empty => true
  | literal cs => cs.isEmpty
  | chars _ => false
  | look _ => true
  | group _ p => p.emptyOnly
  | seq p q => p.emptyOnly && q.emptyOnly
  | alt p q => p.emptyOnly && q.emptyOnly
  | .repeat p _ max _ => max.isSome && p.emptyOnly

/-- A repetition in its simplest form: what matches the empty text at most is repeated once at
most. -/
def repeated (p : Pattern) (min : Nat) (max : Option Nat) (greedy : Bool) : Pattern :=
  let (min, max) :=
    if p.emptyOnly then (Nat.min min 1, some (Nat.min (max.getD 1) 1)) else (min, max)
  if max = some 0 then empty
  else if min = 1 ∧ max = some 1 then p
  else .repeat p min max greedy

end Pattern

end ShellGuard
