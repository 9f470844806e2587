import Mathlib
import ShellGuard.Syntax.Tree

/-!
Scripts: the command trees that can be written with plain words, operators and parentheses alone.

They are given as a grammar, so that every value of it is well formed.  A script has a tree, in which
all places are the same, and a printed form, whose tokens have no places yet.  What may stand between
parentheses is a `Language` of its own, and `language n` nests them at most `n` deep.
-/

namespace ShellGuard

/-! ## Trees without places -/

namespace Node

mutual

/-- A tree with all its places forgotten. -/
def unplaced : Node → Node
  | command _ name args cs => .command .start name args (unplacedAll cs)
  | pipeline _ cs trailingPipe => .pipeline .start (unplacedAll cs) trailingPipe
  | redirect _ r => .redirect .start r
  | subshell _ body isCommand backtick => .subshell .start (unplacedOption body) isCommand backtick
  | parameter _ v => .parameter .start v
  | quoted _ style value es => .quoted .start style value (unplacedAll es)
  | glob _ pattern => .glob .start pattern
  | background _ b => .background .start b.unplaced
  | list _ is separators => .list .start (unplacedAll is) separators
  | both _ l r => .both .start l.unplaced r.unplaced
  | either _ l r => .either .start l.unplaced r.unplaced

def unplacedAll : List Node → List Node
  | [] => []
  | n :: ns => n.unplaced :: unplacedAll ns

def unplacedOption : Option Node → Option Node
  | none => none
  | some n => some n.unplaced

end

@[simp] theorem unplacedAll_eq_map (ns : List Node) : unplacedAll ns = ns.map unplaced := by
  induction ns with
  | nil => rfl
  | cons n ns ih => rw [unplacedAll, ih, List.map_cons]

@[simp] theorem unplacedOption_eq_map (n : Option Node) : unplacedOption n = n.map unplaced := by
  cases n <;> rfl

end Node

/-! ## Printed forms -/

/-- A token without its place. -/
abbrev Content := TokenKind × String

def Token.content (t : Token) : Content :=
  (t.kind, t.value)

/-- Two tokens that are no parts of one word. -/
def Token.Apart (t u : Token) : Prop :=
  t.kind = .word → u.kind = .word → t.stop ≠ u.position.offset

/-- Tokens that print some contents, with all words apart. -/
structure Written (cs : List Content) (ts : List Token) : Prop where
  contents : ts.map Token.content = cs
  apart : ts.IsChain Token.Apart

namespace Written

theorem eq_nil {ts : List Token} (h : Written [] ts) : ts = [] :=
  List.map_eq_nil_iff.1 h.contents

theorem cons {c : Content} {cs : List Content} {ts : List Token} (h : Written (c :: cs) ts) :
    ∃ t us, ts = t :: us ∧ t.content = c ∧ Written cs us ∧ ∀ u ∈ us.head?, t.Apart u := by
  obtain ⟨t, us, rfl, ht, hus⟩ := List.map_eq_cons_iff.1 h.contents
  exact ⟨t, us, rfl, ht, ⟨hus, h.apart.tail⟩, (List.isChain_cons.1 h.apart).1⟩

theorem append {cs ds : List Content} {ts : List Token} (h : Written (cs ++ ds) ts) :
    ∃ us vs, ts = us ++ vs ∧ Written cs us ∧ Written ds vs := by
  obtain ⟨us, vs, rfl, hus, hvs⟩ := List.map_eq_append_iff.1 h.contents
  exact ⟨us, vs, rfl, ⟨hus, h.apart.left_of_append⟩, ⟨hvs, h.apart.right_of_append⟩⟩

end Written

/-- Tokens with given contents, each followed by a blank. -/
def spaced (offset : Nat) : List Content → List Token
  | [] => []
  | c :: cs =>
    let stop := offset + c.2.utf8ByteSize
    ⟨c.1, c.2, ⟨1, offset + 1, offset⟩, stop⟩ :: spaced (stop + 1) cs

theorem spaced_written (offset : Nat) (cs : List Content) : Written cs (spaced offset cs) := by
  induction cs generalizing offset with
  | nil => exact ⟨rfl, .nil⟩
  | cons c cs ih =>
    obtain ⟨hcontents, hapart⟩ := ih (offset + c.2.utf8ByteSize + 1)
    constructor
    · rw [spaced, List.map_cons, hcontents]
      rfl
    · cases cs with
      | nil => exact .singleton _
      | cons d cs =>
        refine .cons_cons ?_ hapart
        intro _ _
        show offset + c.2.utf8ByteSize ≠ offset + c.2.utf8ByteSize + 1
        omega

/-! ## The grammar -/

/-- What can stand between parentheses: how it is printed, and its tree unless it is empty. -/
structure Language where
  Body : Type
  print : Body → List Content
  tree : Body → Option Node

namespace Script

/-- The redirects that leave their descriptor unsaid: `<`, `>` and `>>`. -/
inductive Arrow
  | input
  | output
  | append

/-- A redirect to or from one word. -/
structure Flow where
  arrow : Arrow
  target : String

/-- A simple command: words, then redirects. -/
structure Simple where
  name : String
  args : List String
  flows : List Flow

/-- What a pipe can feed. -/
inductive Atom (inner : Language)
  | simple (c : Simple)
  | group (body : inner.Body)

/-- Commands joined by pipes, or a single one. -/
structure Pipeline (inner : Language) where
  first : Atom inner
  more : List (Atom inner)

/-- `&&` and `||`. -/
inductive Connective
  | both
  | either

/-- Pipelines joined from the left. -/
inductive Chain (inner : Language)
  | single (p : Pipeline inner)
  | join (left : Chain inner) (op : Connective) (right : Pipeline inner)

/-- A chain, perhaps in the background. -/
structure Item (inner : Language) where
  chain : Chain inner
  background : Bool

/-! ### Trees -/

def Arrow.redirect (target : String) : Arrow → Redirect
  | input => ⟨.input, 0, target⟩
  | output => ⟨.output, 1, target⟩
  | append => ⟨.append, 1, target⟩

def Flow.tree (f : Flow) : Node :=
  .redirect .start (f.arrow.redirect f.target)

variable {inner : Language}

def Atom.tree : Atom inner → Node
  | simple c => .command .start c.name c.args (c.flows.map Flow.tree)
  | group body => .subshell .start (inner.tree body) false false

def Pipeline.tree (p : Pipeline inner) : Node :=
  match p.more with
  | [] => p.first.tree
  | _ => .pipeline .start (p.first.tree :: p.more.map Atom.tree) false

def Chain.tree : Chain inner → Node
  | single p => p.tree
  | join left .both right => .both .start left.tree right.tree
  | join left .either right => .either .start left.tree right.tree

def Item.tree (i : Item inner) : Node :=
  if i.background then .background .start i.chain.tree else i.chain.tree

/-- What stands between an item and the next one. -/
def Item.separator (i : Item inner) : Separator :=
  if i.background then .ampersand else .semicolon

/-- The tree of some items: a single one stands for itself. -/
def itemsTree : List (Item inner) → Option Node
  | [] => none
  | [i] => some i.tree
  | is => some (.list .start (is.map Item.tree) (is.dropLast.map Item.separator))

/-! ### Printed forms -/

def word (w : String) : Content :=
  (.word, w)

def Arrow.content : Arrow → Content
  | input => (.redirectIn, "<")
  | output => (.redirectOut, ">")
  | append => (.redirectAppend, ">>")

def Flow.print (f : Flow) : List Content :=
  [f.arrow.content, word f.target]

def Simple.print (c : Simple) : List Content :=
  (c.name :: c.args).map word ++ c.flows.flatMap Flow.print

def Atom.print : Atom inner → List Content
  | simple c => c.print
  | group body => (.leftParen, "(") :: (inner.print body ++ [(.rightParen, ")")])

def Pipeline.print (p : Pipeline inner) : List Content :=
  p.first.print ++ p.more.flatMap fun a => (.pipe, "|") :: a.print

def Connective.content : Connective → Content
  | both => (.andIf, "&&")
  | either => (.orIf, "||")

def Chain.print : Chain inner → List Content
  | single p => p.print
  | join left op right => left.print ++ op.content :: right.print

def ampersand : Content :=
  (.ampersand, "&")

def semicolon : Content :=
  (.semicolon, ";")

/-- Items one after the other.  The `&` of an item in the background also separates it from the next
one. -/
def printItems : List (Item inner) → List Content
  | [] => []
  | [i] => i.chain.print ++ if i.background then [ampersand] else []
  | i :: is => i.chain.print ++ (if i.background then ampersand else semicolon) :: printItems is

end Script

namespace Language

/-- The language without a word. -/
def nothing : Language :=
  ⟨Empty, nofun, nofun⟩

/-- Scripts with groups of another language. -/
def above (inner : Language) : Language :=
  ⟨List (Script.Item inner), Script.printItems, Script.itemsTree⟩

end Language

/-- Scripts whose groups nest at most so deep. -/
def language : Nat → Language
  | 0 => .above .nothing
  | n + 1 => .above (language n)

/-! ## No printed token ends the text -/

def Language.NeverEnds (lang : Language) : Prop :=
  ∀ body, ∀ c ∈ lang.print body, c.1 ≠ .eof

namespace Script

theorem Flow.ne_eof (f : Flow) : ∀ c ∈ f.print, c.1 ≠ .eof := by
  obtain ⟨arrow, target⟩ := f
  cases arrow <;> simp [print, word, Arrow.content]

theorem Simple.ne_eof (s : Simple) : ∀ c ∈ s.print, c.1 ≠ .eof := by
  intro c hc
  rcases List.mem_append.1 hc with hc | hc
  · obtain ⟨w, -, rfl⟩ := List.mem_map.1 hc
    simp [word]
  · obtain ⟨f, -, hc⟩ := List.mem_flatMap.1 hc
    exact f.ne_eof c hc

variable {inner : Language} (hinner : inner.NeverEnds)
include hinner

theorem Atom.ne_eof (a : Atom inner) : ∀ c ∈ a.print, c.1 ≠ .eof := by
  cases a with
  | simple s => exact s.ne_eof
  | group body =>
    intro c hc
    rcases List.mem_cons.1 hc with rfl | hc
    · simp
    rcases List.mem_append.1 hc with hc | hc
    · exact hinner body c hc
    · simp [List.mem_singleton.1 hc]

theorem Pipeline.ne_eof (p : Pipeline inner) : ∀ c ∈ p.print, c.1 ≠ .eof := by
  intro c hc
  rcases List.mem_append.1 hc with hc | hc
  · exact p.first.ne_eof hinner c hc
  · obtain ⟨a, -, hc⟩ := List.mem_flatMap.1 hc
    rcases List.mem_cons.1 hc with rfl | hc
    · simp
    · exact a.ne_eof hinner c hc

theorem Chain.ne_eof (chain : Chain inner) : ∀ c ∈ chain.print, c.1 ≠ .eof := by
  induction chain with
  | single p => exact p.ne_eof hinner
  | join left op right ih =>
    intro c hc
    rcases List.mem_append.1 hc with hc | hc
    · exact ih c hc
    rcases List.mem_cons.1 hc with rfl | hc
    · cases op <;> simp [Connective.content]
    · exact right.ne_eof hinner c hc

theorem printItems_ne_eof (items : List (Item inner)) : ∀ c ∈ printItems items, c.1 ≠ .eof := by
  fun_induction printItems items with
  | case1 => simp
  | case2 i =>
    intro c hc
    rcases List.mem_append.1 hc with hc | hc
    · exact i.chain.ne_eof hinner c hc
    · split at hc <;> simp_all [ampersand]
  | case3 i items _ ih =>
    intro c hc
    rcases List.mem_append.1 hc with hc | hc
    · exact i.chain.ne_eof hinner c hc
    rcases List.mem_cons.1 hc with rfl | hc
    · split <;> simp [ampersand, semicolon]
    · exact ih c hc

end Script

theorem language_neverEnds (n : Nat) : (language n).NeverEnds := by
  induction n with
  | zero => exact Script.printItems_ne_eof nofun
  | succ n ih => exact Script.printItems_ne_eof ih

end ShellGuard
