import ShellGuard.Pattern.Build
import ShellGuard.Pattern.Bytes

/-!
The memory a pattern takes once it is prepared for searching.  A pattern becomes an automaton over
bytes, and a second one that reads backwards; each may take a fixed amount of memory at most.  An
automaton is only counted here: how many states it has, and how many bytes its states keep beside
themselves.  Sets of characters share states as far as a table of bounded size remembers them, so
their states are counted one by one.
-/

namespace ShellGuard

namespace Pattern

/-- A count of states and of the bytes they keep beside themselves. -/
structure Tally where
  states : Nat
  extra : Nat
deriving Repr, DecidableEq, Inhabited

namespace Tally

/-- The memory of an automaton. -/
def bytes (t : Tally) : Nat :=
  32 * t.states + t.extra

/-- The memory an automaton may take. -/
def limit : Nat := 10485760

/-- Two counts together. -/
def add (t u : Tally) : Tally :=
  ⟨t.states + u.states, t.extra + u.extra⟩

/-- Some states that keep nothing beside themselves. -/
def plain (t : Tally) (n : Nat) : Tally :=
  { t with states := t.states + n }

/-- A state that goes on to one of some others. -/
def fork (t : Tally) (n : Nat) : Tally :=
  ⟨t.states + 1, t.extra + 4 * n⟩

/-- A state that goes on by the byte it reads, with `n` ranges of bytes. -/
def sparse (t : Tally) (n : Nat) : Tally :=
  ⟨t.states + 1, t.extra + 8 * n⟩

/-- Count the same part several times.  Counting ends where the limit is passed. -/
def copies (part : Tally → Tally) : Nat → Tally → Tally
  | 0, t => t
  | n + 1, t => if limit < t.bytes then t else copies part n (part t)

end Tally

/-! ## Sets of characters -/

/-- Mix a number into a hash. -/
def mix (h : UInt64) (n : Nat) : UInt64 :=
  (h ^^^ n.toUInt64) * 1099511628211

/-- The hash of nothing. -/
def hashStart : UInt64 := 14695981039346656037

/-- A step to a state on a byte of a range. -/
structure Arc where
  range : Span
  target : Nat
deriving DecidableEq

/-- Mix the steps of a state into a hash. -/
def mixArcs (h : UInt64) : List Arc → UInt64
  | [] => h
  | a :: arcs => mixArcs (mix (mix (mix h a.range.first) a.range.last) a.target) arcs

/-- A count with the states that are remembered for sharing.  A state is remembered with what
describes it, at the place its hash has in a table of fixed size. -/
structure Sharing (α : Type) where
  tally : Tally
  table : Array (Option (α × Nat))

namespace Sharing

/-- A count with nothing remembered in a table of the given size. -/
def start {α : Type} (size : Nat) (t : Tally) : Sharing α :=
  ⟨t, .replicate size none⟩

/-- The state remembered at a place, if `key` describes it. -/
def known? {α : Type} [DecidableEq α] (s : Sharing α) (place : Nat) (key : α) : Option Nat :=
  match s.table[place]? with
  | some (some (known, id)) => if known = key then some id else none
  | _ => none

/-- The state that `key` describes: the one remembered at its place or else a new one, which is
remembered instead. -/
def state {α : Type} [DecidableEq α] (s : Sharing α) (hash : UInt64) (key : α)
    (grow : Tally → Tally) : Nat × Sharing α :=
  let place := (hash % s.table.size.toUInt64).toNat
  match s.known? place key with
  | some id => (id, s)
  | none =>
    let id := s.tally.states
    (id, ⟨grow s.tally, s.table.setIfInBounds place (some (key, id))⟩)

end Sharing

/-- Sequences with the same first range next to each other, as that range and what follows it. -/
def grouped : List (List Span) → List (Span × List (List Span))
  | [] => []
  | [] :: rest => grouped rest
  | (r :: rs) :: rest =>
    match grouped rest with
    | (r', tails) :: groups =>
      if r = r' then (r, rs :: tails) :: groups else (r, [rs]) :: (r', tails) :: groups
    | [] => [(r, [rs])]

/-- Sequences of byte ranges, those that begin alike together. -/
inductive ByteTree
  | node (branches : List (Span × ByteTree))

/-- The tree of some sequences; `depth` is the length of the longest. -/
def ByteTree.ofSequences : (depth : Nat) → List (List Span) → ByteTree
  | 0, _ => node []
  | depth + 1, sequences =>
    node ((grouped sequences).map fun (r, tails) => (r, ofSequences depth tails))

/-- The state that reads one of the sequences of a tree and goes on to `target`.  The states behind
it are counted first.  `depth` is the length of the longest sequence. -/
def treeState (target : Nat) : (depth : Nat) → ByteTree → Sharing (List Arc) →
    Nat × Sharing (List Arc)
  | 0, _, s => (target, s)
  | _ + 1, .node [], s => (target, s)
  | depth + 1, .node branches, s =>
    let (arcs, s) := branches.foldl
      (fun ((arcs, s) : List Arc × Sharing (List Arc)) (r, tree) =>
        let (id, s) := treeState target depth tree s
        (⟨r, id⟩ :: arcs, s))
      ([], s)
    let arcs := arcs.reverse
    s.state (mixArcs hashStart arcs) arcs (·.sparse arcs.length)

/-- The states that read a sequence of byte ranges from its last one on and end at `target`. -/
def suffixState (target : Nat) (s : Sharing (Nat × Span)) :
    List Span → Sharing (Nat × Span)
  | [] => s
  | r :: rs =>
    let next := s.state (mix (mix (mix hashStart target) r.first) r.last) (target, r) (·.plain 1)
    suffixState next.1 next.2 rs

/-- A set prepared for counting. -/
inductive Reading
  /-- A set of ASCII characters, by the number of its ranges. -/
  | ascii (ranges : Nat)
  /-- Any other set, read forwards. -/
  | forward (tree : ByteTree)
  /-- Any other set, read backwards. -/
  | backward (sequences : List (List Span))

/-- Prepare a set for counting. -/
def Reading.ofSet (back : Bool) (s : CharSet) : Reading :=
  if s.isAscii then ascii s.spans.length
  else if back then backward s.byteRanges
  else forward (.ofSequences 4 s.byteRanges)

/-- Count the states for a set.  Forwards, sequences share their ends; backwards, there is a fork
with one way for each sequence, and sequences share their beginnings. -/
def Reading.tally (t : Tally) : Reading → Tally
  | ascii ranges => (t.plain 1).sparse ranges
  | forward tree => (treeState t.states 4 tree (.start 10000 (t.plain 1))).2.tally
  | backward sequences =>
    (sequences.foldl (suffixState (t.states + 1))
      (.start 1000 ((t.fork sequences.length).plain 1))).tally

/-! ## Alternatives between texts -/

/-- A state that has read the beginning of a text.  What can follow is kept in chunks: a text that
ends here closes the chunk before it, so that the order of the texts is kept.  A way on is a byte
and the number of the state behind it. -/
structure TrieNode where
  closed : List (List (Nat × Nat))
  active : List (Nat × Nat)
deriving Inhabited

namespace TrieNode

def isLeaf (n : TrieNode) : Bool :=
  n.active.isEmpty && n.closed.all (·.isEmpty)

/-- The state, with a text that ends here. -/
def addEnd (n : TrieNode) : TrieNode :=
  if n.isLeaf && !n.closed.isEmpty then n else ⟨n.active :: n.closed, []⟩

/-- Count a chunk. -/
def addChunk (t : Tally) (chunk : List (Nat × Nat)) : Tally :=
  match chunk with
  | [] => t
  | [_] => { t.plain 1 with extra := t.extra + 4 }
  | _ => { t.sparse chunk.length with extra := t.extra + 8 * chunk.length + 4 }

/-- Count a state: its chunks and the fork between them and the ends. -/
def count (t : Tally) (n : TrieNode) : Tally :=
  if n.isLeaf then t else ((n.active :: n.closed).foldl addChunk t).fork n.closed.length

end TrieNode

/-- Add a text to a trie, from the state with the number `i` on. -/
def trieInsert (trie : Array TrieNode) (i : Nat) : List Nat → Array TrieNode
  | [] => trie.modify i TrieNode.addEnd
  | b :: bs =>
    match (trie.getD i default).active.lookup b with
    | some j => trieInsert trie j bs
    | none =>
      let j := trie.size
      trieInsert ((trie.modify i fun n => { n with active := (b, j) :: n.active }).push default) j bs

/-- The states for alternatives between texts, one of them where all ways meet. -/
def trieTally (texts : List (List Nat)) : Tally :=
  let trie := texts.foldl (fun trie bs => trieInsert trie 0 bs) #[default]
  trie.foldl TrieNode.count ⟨1, 0⟩

/-- The bytes of a pattern that is a text. -/
def literalBytes? : Pattern → Option (List Nat)
  | literal cs => some (Utf8.encode cs)
  | _ => none

/-! ## Patterns -/

/-- The fewest bytes a pattern reads.  None if a part of it can never match. -/
def minBytes? : Pattern → Option Nat
  | empty => some 0
  | literal cs => some (Utf8.encode cs).length
  | chars s => s.spans.head?.map fun t => (Utf8.encodeCode t.first).length
  | look _ => some 0
  | group _ p => p.minBytes?
  | seq p q => do return (← p.minBytes?) + (← q.minBytes?)
  | alt p q => do return Nat.min (← p.minBytes?) (← q.minBytes?)
  | .repeat p min _ _ => p.minBytes?.map (· * min)

/-- Count a repetition. -/
def repeatTally (part : Tally → Tally) (readsAlways : Bool) (min : Nat) (max : Option Nat)
    (t : Tally) : Tally :=
  match min, max with
  | 0, some 1 => (part (t.fork 2)).plain 1
  | 0, none => if readsAlways then part (t.fork 2) else (((part t).fork 2).fork 2).plain 1
  | min, none => (Tally.copies part min t).fork 2
  | min, some max =>
    let t := if min = 0 then t.plain 1 else Tally.copies part min t
    if min = max then t
    else Tally.copies (fun t => part (t.fork 2)) (max - min) (t.plain 1)

/-- The fork of alternatives has one more way.  With the second one come the fork itself and the
state where all ways meet. -/
def addBranch (branch : Nat) (t : Tally) : Tally :=
  let t := { t with extra := t.extra + 4 }
  if branch = 1 then t.plain 2 else t

/-- Finish the branch with a number, zero for a pattern that is no branch. -/
def closeBranch (branch : Nat) (t : Tally) : Tally :=
  if branch = 0 then t else addBranch branch t

/-- A pattern prepared for counting in one direction. -/
inductive Blueprint
  /-- Parts with a fixed count. -/
  | fixed (t : Tally)
  | set (r : Reading)
  | seq (p q : Blueprint)
  | alt (p q : Blueprint)
  /-- A repetition; `readsAlways` tells that its part never matches the empty text. -/
  | repeat (p : Blueprint) (min : Nat) (max : Option Nat) (readsAlways : Bool)

/-- Prepare a pattern for counting; `back` tells that it is read backwards, where groups leave no
states but still keep what is in them apart from alternatives around them.  Alternatives between
texts are counted as a trie, unless they are only the last ones of some alternatives, which `inner`
tells. -/
def blueprint (back : Bool) : Pattern → (inner : Bool) → Blueprint
  | empty, _ => .fixed ⟨1, 0⟩
  | literal cs, _ => .fixed ⟨(Utf8.encode cs).length, 0⟩
  | chars s, _ => .set (.ofSet back s)
  | look _, _ => .fixed ⟨1, 0⟩
  | group _ p, _ =>
    let mark := Blueprint.fixed ⟨if back then 0 else 1, 0⟩
    .seq mark (.seq (p.blueprint back false) mark)
  | seq p q, _ =>
    let first := p.blueprint back false
    let second := q.blueprint back false
    if back then .seq second first else .seq first second
  | alt p q, inner =>
    match if inner then none else (alt p q).branches.mapM literalBytes? with
    | some texts => .fixed (trieTally (if back then texts.map List.reverse else texts))
    | none => .alt (p.blueprint back false) (q.blueprint back true)
  | .repeat p min max _, _ =>
    .repeat (p.blueprint back false) min max (p.minBytes?.any (0 < ·))

/-- Count the states for a prepared pattern.  `branch` is the number of branches counted before
where the pattern is among the last of some alternatives, and zero elsewhere. -/
def Blueprint.tally : Blueprint → (branch : Nat) → Tally → Tally
  | fixed u, branch, t => closeBranch branch (t.add u)
  | set r, branch, t => closeBranch branch (r.tally t)
  | seq p q, branch, t => closeBranch branch (q.tally 0 (p.tally 0 t))
  | alt p q, branch, t => q.tally (branch + 1) (addBranch branch (p.tally 0 t))
  | .repeat p min max readsAlways, branch, t =>
    closeBranch branch (repeatTally (p.tally 0) readsAlways min max t)

/-- Whether every match begins with a place where a condition holds. -/
def leads (a : Anchor) : Pattern → Bool
  | look b => a == b
  | group _ p => p.leads a
  | seq p q => p.leads a || (p.emptyOnly && q.leads a)
  | alt p q => p.leads a && q.leads a
  | .repeat p min _ _ => 0 < min && p.leads a
  | _ => false

/-- Whether every match ends with a place where a condition holds. -/
def trails (a : Anchor) : Pattern → Bool
  | look b => a == b
  | group _ p => p.trails a
  | seq p q => q.trails a || (q.emptyOnly && p.trails a)
  | alt p q => p.trails a && q.trails a
  | .repeat p min _ _ => 0 < min && p.trails a
  | _ => false

/-- The states in front of an automaton: those that pass over the text before a match, or a single
one where a match can only begin at the end the automaton starts from. -/
def entry (anchored : Bool) : Tally :=
  if anchored then ⟨1, 0⟩ else ⟨3, 16⟩

/-- The memory of the automaton that reads forwards. -/
def forwardBytes (p : Pattern) : Nat :=
  (((p.blueprint false false).tally 0 ((entry (p.leads .textStart)).plain 1)).plain 2).bytes

/-- The memory of the automaton that reads backwards. -/
def backwardBytes (p : Pattern) : Nat :=
  (((p.blueprint true false).tally 0 (entry (p.trails .textEnd))).plain 1).bytes

/-- Whether a pattern is a choice between so many texts that it is searched for without an
automaton. -/
def isLongList (p : Pattern) : Bool :=
  3000 ≤ p.branches.length && p.branches.all fun b => b.literalBytes?.isSome

/-- Whether a pattern can be prepared for searching in the memory there is for it. -/
def fits (p : Pattern) : Bool :=
  p.isLongList || (p.forwardBytes ≤ Tally.limit && p.backwardBytes ≤ Tally.limit)

end Pattern

end ShellGuard
