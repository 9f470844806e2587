import Mathlib
import ShellGuard.Proofs.Syntax.Readers
import ShellGuard.Proofs.Syntax.Walk

/-!
# Reading a text elsewhere

A text gives the same tokens and the same tree wherever it begins, only the places are others.
`Position.moved p q` is where the place `q` of a text comes to stand when the text begins at `p`
instead of at the start; tokens and trees are moved place by place, and every reader carries moved
tokens to the moved tree.

Complaints name places in their texts, so of them only the number is kept (`Parsed.Moved`); that is
enough to know that a text read without complaint is read without complaint everywhere.
-/

namespace ShellGuard

/-! ## Places -/

namespace Position

/-- A place of a text, whose lines and columns count from one. -/
def Proper (q : Position) : Prop :=
  1 ≤ q.line ∧ 1 ≤ q.column

/-- Where the place `q` of a text comes to stand when the text begins at `p`. -/
def moved (p q : Position) : Position :=
  ⟨p.line + (q.line - 1), if q.line = 1 then p.column + (q.column - 1) else q.column,
    p.offset + q.offset⟩

theorem proper_start : start.Proper :=
  ⟨Nat.le_refl 1, Nat.le_refl 1⟩

theorem moved_start (p : Position) : p.moved start = p := rfl

theorem Proper.advance {q : Position} (h : q.Proper) (c : Char) : (q.advance c).Proper := by
  obtain ⟨hline, hcolumn⟩ := h
  unfold Position.advance
  split
  · exact ⟨Nat.le_succ_of_le hline, Nat.le_refl 1⟩
  · exact ⟨hline, Nat.le_succ_of_le hcolumn⟩

theorem Proper.shift {q : Position} (h : q.Proper) (width : Nat) : (q.shift width).Proper :=
  ⟨h.1, Nat.le_add_right_of_le h.2⟩

theorem Proper.after {q : Position} (h : q.Proper) (cs : List Char) : (q.after cs).Proper := by
  induction cs generalizing q with
  | nil => exact h
  | cons c cs ih => exact ih (h.advance c)

theorem moved_advance (p : Position) {q : Position} (h : q.Proper) (c : Char) :
    p.moved (q.advance c) = (p.moved q).advance c := by
  obtain ⟨hline, hcolumn⟩ := h
  have hdown : p.line + q.line = p.line + (q.line - 1) + 1 := by omega
  unfold Position.advance
  split
  · have hbelow : q.line + 1 ≠ 1 := by omega
    simp only [moved, hbelow, if_false, Nat.add_sub_cancel, mk.injEq]
    exact ⟨hdown, trivial, (Nat.add_assoc ..).symm⟩
  · simp only [moved, mk.injEq, true_and]
    refine ⟨?_, (Nat.add_assoc ..).symm⟩
    split <;> omega

theorem moved_shift (p : Position) {q : Position} (h : q.Proper) (width : Nat) :
    p.moved (q.shift width) = (p.moved q).shift width := by
  obtain ⟨-, hcolumn⟩ := h
  simp only [moved, shift, mk.injEq, true_and]
  refine ⟨?_, (Nat.add_assoc ..).symm⟩
  by_cases hfirst : q.line = 1
  · simp only [hfirst, if_true]
    omega
  · simp only [hfirst, if_false]

theorem moved_after (p : Position) {q : Position} (h : q.Proper) (cs : List Char) :
    p.moved (q.after cs) = (p.moved q).after cs := by
  induction cs generalizing q with
  | nil => rfl
  | cons c cs ih => rw [after_cons, after_cons, ih (h.advance c), moved_advance p h]

end Position

/-! ## Tokens -/

/-- A token of a text that begins at `p`, told by the token at the start. -/
def Token.moved (p : Position) (t : Token) : Token :=
  ⟨t.kind, t.value, p.moved t.position, p.offset + t.stop⟩

namespace Token

variable (p : Position) (t : Token)

@[simp] theorem kind_moved : (t.moved p).kind = t.kind := rfl

@[simp] theorem value_moved : (t.moved p).value = t.value := rfl

@[simp] theorem stop_moved : (t.moved p).stop = p.offset + t.stop := rfl

@[simp] theorem offset_moved : (t.moved p).position.offset = p.offset + t.position.offset := rfl

end Token

namespace Tokens

/-- Tokens whose places are places of a text. -/
def Proper (ts : List Token) : Prop :=
  ∀ t ∈ ts, t.position.Proper

theorem Proper.tail {t : Token} {ts : List Token} (h : Proper (t :: ts)) : Proper ts :=
  fun u hu => h u (List.mem_cons_of_mem t hu)

theorem Proper.suffix {ts us : List Token} (h : Proper ts) (hus : us <:+ ts) : Proper us :=
  fun u hu => h u (hus.subset hu)

variable (p : Position)

@[simp] theorem kind_moved (ts : List Token) : kind (ts.map (Token.moved p)) = kind ts := by
  cases ts <;> rfl

theorem position_moved {ts : List Token} (h : ts ≠ []) :
    position (ts.map (Token.moved p)) = p.moved (position ts) := by
  cases ts with
  | nil => exact absurd rfl h
  | cons t ts => rfl

theorem skipFiller_moved (ts : List Token) :
    skipFiller (ts.map (Token.moved p)) = (skipFiller ts).map (Token.moved p) :=
  List.dropWhile_map

theorem kind_skipFiller_moved (ts : List Token) :
    kind (skipFiller (ts.map (Token.moved p))) = kind (skipFiller ts) := by
  rw [skipFiller_moved, kind_moved]

end Tokens

/-- Why a text that begins at `p` cannot be cut into tokens. -/
def LexError.moved (p : Position) (e : LexError) : LexError :=
  ⟨e.cause, p.moved e.position⟩

namespace Cursor

/-- The cursor in a text that begins at `p`. -/
def moved (p : Position) (cur : Cursor) : Cursor :=
  ⟨cur.rest, p.moved cur.position⟩

theorem next_moved (p : Position) {cur : Cursor} (h : cur.position.Proper) :
    (cur.moved p).next =
      ((cur.next.1.mapError (LexError.moved p)).map (Token.moved p), cur.next.2.moved p) := by
  obtain ⟨rest, q⟩ := cur
  have hstart := h.after (gap false rest).1
  simp only [next, moved, ← Position.moved_after p h]
  split
  · rfl
  · split
    · rw [← Position.moved_after p hstart]
      rfl
    · rw [← Position.moved_after p hstart]
      rfl

theorem next_proper {cur : Cursor} (h : cur.position.Proper) :
    cur.next.2.position.Proper ∧ ∀ t, cur.next.1 = .ok t → t.position.Proper := by
  have hstart := h.after (gap false cur.rest).1
  simp only [next]
  split
  · exact ⟨hstart, fun t ht => Except.ok.inj ht ▸ hstart⟩
  · split
    · exact ⟨hstart.after _, fun t ht => by cases ht⟩
    · exact ⟨hstart.after _, fun t ht => Except.ok.inj ht ▸ hstart⟩

theorem tokens_moved (p : Position) {cur : Cursor} (h : cur.position.Proper) :
    (cur.moved p).tokens =
      (cur.tokens.mapError (LexError.moved p)).map (List.map (Token.moved p)) := by
  fun_induction tokens cur with
  | case1 cur e cur' hnext =>
    have hmoved := next_moved p h
    rw [hnext] at hmoved
    exact tokens_of_error hmoved
  | case2 cur t cur' hnext ht =>
    have hmoved := next_moved p h
    rw [hnext] at hmoved
    exact tokens_of_eof hmoved ht
  | case3 cur t cur' hnext ht ih =>
    have hmoved := next_moved p h
    have hproper := (next_proper h).1
    rw [hnext] at hmoved hproper
    rw [tokens_of_token hmoved ht, ih hproper]
    cases cur'.tokens <;> rfl

theorem tokens_proper {cur : Cursor} {ts : List Token} (h : cur.position.Proper)
    (hts : cur.tokens = .ok ts) : Tokens.Proper ts := by
  refine tokens_forall (fun cur => cur.position.Proper) (fun cur cur' t hcur hnext => ?_) h hts
  have hproper := next_proper hcur
  rw [hnext] at hproper
  exact ⟨hproper.2 t rfl, hproper.1⟩

end Cursor

/-- A text that begins at a moved place is cut into the moved tokens. -/
theorem tokenizeAt_moved (p : Position) {q : Position} (h : q.Proper) (s : String) :
    tokenizeAt (p.moved q) s =
      ((tokenizeAt q s).mapError (LexError.moved p)).map (List.map (Token.moved p)) :=
  Cursor.tokens_moved p (show (Cursor.ofText s q).position.Proper from h)

theorem tokenizeAt_of_tokenize (p : Position) {s : String} {ts : List Token}
    (h : tokenize s = .ok ts) : tokenizeAt p s = .ok (ts.map (Token.moved p)) := by
  have hmoved := tokenizeAt_moved p Position.proper_start s
  rwa [← tokenize, h] at hmoved

theorem tokenize_of_tokenizeAt {p : Position} {s : String} {ts : List Token}
    (h : tokenizeAt p s = .ok ts) : ∃ us, tokenize s = .ok us ∧ ts = us.map (Token.moved p) := by
  have hmoved := tokenizeAt_moved p Position.proper_start s
  rw [Position.moved_start, h, ← tokenize] at hmoved
  cases hus : tokenize s with
  | error e => rw [hus] at hmoved; cases hmoved
  | ok us =>
    rw [hus] at hmoved
    exact ⟨us, rfl, Except.ok.inj hmoved⟩

theorem tokenize_proper {s : String} {ts : List Token} (h : tokenize s = .ok ts) :
    Tokens.Proper ts :=
  Cursor.tokens_proper Position.proper_start h

/-! ## Trees -/

namespace Node

mutual

/-- A tree with another place for each of its places. -/
def mapPlaces (f : Position → Position) : Node → Node
  | command p name args cs => .command (f p) name args (mapPlacesAll f cs)
  | pipeline p cs trailingPipe => .pipeline (f p) (mapPlacesAll f cs) trailingPipe
  | redirect p r => .redirect (f p) r
  | subshell p body isCommand backtick =>
    .subshell (f p) (mapPlacesOption f body) isCommand backtick
  | parameter p v => .parameter (f p) v
  | quoted p style value es => .quoted (f p) style value (mapPlacesAll f es)
  | glob p pattern => .glob (f p) pattern
  | background p b => .background (f p) (b.mapPlaces f)
  | list p is separators => .list (f p) (mapPlacesAll f is) separators
  | both p l r => .both (f p) (l.mapPlaces f) (r.mapPlaces f)
  | either p l r => .either (f p) (l.mapPlaces f) (r.mapPlaces f)

def mapPlacesAll (f : Position → Position) : List Node → List Node
  | [] => []
  | n :: ns => n.mapPlaces f :: mapPlacesAll f ns

def mapPlacesOption (f : Position → Position) : Option Node → Option Node
  | none => none
  | some n => some (n.mapPlaces f)

end

variable (f : Position → Position)

@[simp] theorem mapPlacesAll_eq_map (ns : List Node) :
    mapPlacesAll f ns = ns.map (mapPlaces f) := by
  induction ns with
  | nil => rfl
  | cons n ns ih => rw [mapPlacesAll, ih, List.map_cons]

@[simp] theorem mapPlacesOption_eq_map (n : Option Node) :
    mapPlacesOption f n = n.map (mapPlaces f) := by
  cases n <;> rfl

@[simp] theorem position_mapPlaces (n : Node) : (n.mapPlaces f).position = f n.position := by
  cases n <;> rfl

theorem mapPlaces_chainNode (op : TokenKind) (left right : Node) :
    (chainNode op left right).mapPlaces f =
      chainNode op (left.mapPlaces f) (right.mapPlaces f) := by
  unfold chainNode
  split <;> simp [mapPlaces]

theorem listNode_mapPlaces (start : Position) (items : List Node) (separators : List Separator) :
    listNode (f start) (items.map (mapPlaces f)) separators =
      (listNode start items separators).map (mapPlaces f) := by
  match items with
  | [] => rfl
  | [item] => rfl
  | _ :: _ :: _ => simp [listNode, mapPlaces]

/-- Places are all that changes. -/
@[simp] theorem unplaced_mapPlaces (n : Node) : (n.mapPlaces f).unplaced = n.unplaced := by
  induction n using children_induction with
  | step n ih =>
    have hall : n.children.map (unplaced ∘ mapPlaces f) = n.children.map unplaced :=
      List.map_congr_left ih
    cases n with
    | subshell p body isCommand backtick =>
      cases body with
      | none => rfl
      | some b => simpa [mapPlaces, unplaced, children] using hall
    | _ => simp_all [mapPlaces, unplaced, children]

end Node

/-! ## Readers -/

/-- What is read from some tokens, and what is read from them when they have moved. -/
structure Parsed.Moved {α : Type} (p : Position) (f : α → α) (r r' : Parsed α) : Prop where
  value : r'.value = f r.value
  notes : r'.notes.length = r.notes.length
  rest : r'.rest = r.rest.map (Token.moved p)

theorem eq_none_of_rel {α β : Type} {R : α → β → Prop} {o : Option β} (h : Option.Rel R none o) :
    o = none := by
  cases h
  rfl

theorem exists_of_rel_some {α β : Type} {R : α → β → Prop} {a : α} {o : Option β}
    (h : Option.Rel R (some a) o) : ∃ b, o = some b ∧ R a b := by
  cases h with
  | some h => exact ⟨_, rfl, h⟩

/-- A level that reads moved tokens as the moved tree. -/
def Level.Moves (p : Position) (l : Level) : Prop :=
  ∀ inGroup ts, Tokens.Proper ts →
    (l.list inGroup ts).Moved p (Option.map (Node.mapPlaces p.moved))
      (l.list inGroup (ts.map (Token.moved p)))

/-- The nodes and complaints found in a text, and those found in it when it has moved. -/
structure FoundMoved (p : Position) (found found' : List Node × List Finding) : Prop where
  nodes : found'.1 = found.1.map (Node.mapPlaces p.moved)
  notes : found'.2.length = found.2.length

/-- What a token adds to a word, and what it adds when it has moved. -/
structure WordPart.Moved (p : Position) (part part' : WordPart) : Prop where
  text : part'.text = part.text
  node : part'.node = part.node.map (Node.mapPlaces p.moved)
  notes : part'.notes.length = part.notes.length

theorem FoundMoved.nil (p : Position) : FoundMoved p ([], []) ([], []) :=
  ⟨rfl, rfl⟩

theorem Lexeme.token_moved (p : Position) {q : Position} (h : q.Proper) (lx : Lexeme) :
    (lx.token q).moved p = lx.token (p.moved q) := by
  unfold Lexeme.token
  rw [← Position.moved_after p h]
  rfl

/-- The command being read, when its tokens have moved. -/
def Draft.moved (p : Position) (d : Draft) : Draft :=
  ⟨d.words, d.children.map (Node.mapPlaces p.moved), d.lastStop.map (p.offset + ·)⟩

section Readers

variable {p : Position} {below : Option Level} (hb : ∀ l ∈ below, l.Moves p)

include hb

theorem substitution_moved (body : String) {inner : Position} (h : inner.Proper)
    (position : Position) (backtick : Bool) :
    (substitution below body (p.moved inner) (p.moved position) backtick).1 =
        (substitution below body inner position backtick).1.mapPlaces p.moved ∧
      (substitution below body (p.moved inner) (p.moved position) backtick).2.length =
        (substitution below body inner position backtick).2.length := by
  cases below with
  | none => exact ⟨rfl, rfl⟩
  | some level =>
    simp only [substitution, tokenizeAt_moved p h]
    cases hts : tokenizeAt inner body with
    | error e => exact ⟨rfl, rfl⟩
    | ok ts =>
      have hlist := hb level rfl false ts (Cursor.tokens_proper h hts)
      simp only [Except.mapError, Except.map, Node.mapPlaces, hlist.value]
      exact ⟨by simp, hlist.notes⟩

theorem partWith_moved {t : Token} (h : t.position.Proper)
    {inside inside' : List Node × List Finding} (hin : FoundMoved p inside inside') :
    (t.partWith below inside).Moved p ((t.moved p).partWith below inside') := by
  unfold Token.partWith
  simp only [Token.moved, ← Position.moved_shift p h]
  split
  · exact ⟨rfl, rfl, rfl⟩
  · exact ⟨rfl, by simp [Node.mapPlaces, hin.nodes], hin.notes⟩
  · exact ⟨rfl, rfl, rfl⟩
  · exact ⟨rfl, rfl, rfl⟩
  · obtain ⟨hnode, hnotes⟩ := substitution_moved hb t.value (h.shift 2) t.position false
    exact ⟨rfl, congrArg some hnode, hnotes⟩
  · obtain ⟨hnode, hnotes⟩ := substitution_moved hb t.value (h.shift 1) t.position true
    exact ⟨rfl, congrArg some hnode, hnotes⟩
  · exact ⟨rfl, rfl, rfl⟩

theorem expansions_moved {q : Position} (h : q.Proper) (cs : List Char) :
    FoundMoved p (expansions below q cs) (expansions below (p.moved q) cs) := by
  fun_induction expansions below q cs with
  | case1 =>
    rw [expansions_nil]
    exact .nil p
  | case2 =>
    rw [expansions_lone_backslash]
    exact .nil p
  | case3 q d after ih =>
    rw [expansions_escape, ← Position.moved_after p h]
    exact ih (h.after _)
  | case4 q c rest hc hd e he ih =>
    rw [expansions_unclosed below hd he, ← Position.moved_advance p h]
    exact ih (h.advance c)
  | case5 q c rest hc hd lx hlx inside part after ihin ihafter =>
    have hin : FoundMoved p inside
        (if lx.kind = .quoted .double then
          expansions below ((p.moved q).shift 1) lx.value else ([], [])) := by
      by_cases hk : lx.kind = .quoted .double
      · simpa only [inside, dif_pos hk, if_pos hk, Position.moved_shift p h]
          using ihin hk (h.shift 1)
      · simpa only [inside, dif_neg hk, if_neg hk] using FoundMoved.nil p
    have hpart := partWith_moved hb (show (lx.token q).position.Proper from h) hin
    rw [Lexeme.token_moved p h] at hpart
    have hafter := ihafter (h.after lx.text)
    rw [expansions_expansion below hd hlx, ← Position.moved_after p h]
    constructor
    · simp only [hpart.node, hafter.nodes, List.map_append]
      cases part.node <;> rfl
    · simp only [List.length_append, hpart.notes, hafter.notes]
      rfl
  | case6 q c rest hc hd ih =>
    rw [expansions_plain below hc hd, ← Position.moved_advance p h]
    exact ih (h.advance c)

theorem part_moved {t : Token} (h : t.position.Proper) :
    (t.part below).Moved p ((t.moved p).part below) := by
  refine partWith_moved hb h ?_
  simp only [Token.moved, ← Position.moved_shift p h]
  split
  · exact expansions_moved hb (h.shift 1) _
  · exact .nil p

/-! ### Simple commands -/

omit hb in
theorem Redirect.targetSpan_moved (last : Option Nat) (ts : List Token) :
    targetSpan (last.map (p.offset + ·)) (ts.map (Token.moved p)) =
      ((targetSpan last ts).1.map (Token.moved p), (targetSpan last ts).2.map (Token.moved p)) := by
  induction ts generalizing last with
  | nil => rfl
  | cons t ts ih =>
    have hglued : (last.map (p.offset + ·) = none ∨
        last.map (p.offset + ·) = some (p.offset + t.position.offset)) ↔
        (last = none ∨ last = some t.position.offset) := by
      cases last <;> simp
    have hnext := ih (some t.stop)
    simp only [Option.map_some] at hnext
    simp only [List.map_cons, targetSpan, Token.kind_moved, Token.offset_moved, Token.stop_moved,
      hglued]
    split
    · rw [hnext]
      rfl
    · rfl

theorem readTarget_moved {ts : List Token} (h : Tokens.Proper ts) :
    (Redirect.readTarget below ts).Moved p id
      (Redirect.readTarget below (ts.map (Token.moved p))) := by
  have hspan := Redirect.targetSpan_moved (p := p) none ts
  rw [Option.map_none] at hspan
  have hproper : Tokens.Proper (Redirect.targetSpan none ts).1 := fun t ht =>
    h t (Redirect.targetSpan_append none ts ▸ List.mem_append_left _ ht)
  have hparts : ∀ t ∈ (Redirect.targetSpan none ts).1,
      (t.part below).Moved p ((t.moved p).part below) := fun t ht => part_moved hb (hproper t ht)
  unfold Redirect.readTarget
  rw [hspan]
  refine ⟨?_, ?_, rfl⟩
  · have htexts : ((Redirect.targetSpan none ts).1.map fun t => ((t.moved p).part below).text) =
        (Redirect.targetSpan none ts).1.map fun t => (t.part below).text :=
      List.map_congr_left fun t ht => (hparts t ht).text
    simpa [Function.comp_def] using congrArg String.join htexts
  · have hlengths : ((Redirect.targetSpan none ts).1.map
        fun t => ((t.moved p).part below).notes.length) =
          (Redirect.targetSpan none ts).1.map fun t => (t.part below).notes.length :=
      List.map_congr_left fun t ht => (hparts t ht).notes
    simpa [List.length_flatMap, Function.comp_def] using congrArg List.sum hlengths

theorem redirect_moved (op : Token) {ts : List Token} (h : Tokens.Proper ts) :
    (Redirect.parse below op ts).Moved p id
      (Redirect.parse below (op.moved p) (ts.map (Token.moved p))) := by
  obtain ⟨hvalue, hnotes, hrest⟩ := readTarget_moved hb h
  unfold Redirect.parse
  dsimp only [Token.kind_moved, Token.value_moved]
  split
  · rw [hvalue]
    exact ⟨rfl, hnotes, hrest⟩
  · exact ⟨rfl, rfl, rfl⟩

omit hb in
theorem Draft.addPart_moved (d : Draft) (t : Token) {part part' : WordPart}
    (h : part.Moved p part') :
    (d.moved p).addPart (t.moved p) part' = (d.addPart t part).moved p := by
  have hglued : d.lastStop.map (p.offset + ·) = some (p.offset + t.position.offset) ↔
      d.lastStop = some t.position.offset := by
    cases d.lastStop <;> simp
  have hchildren : part'.node.toList ++ d.children.map (Node.mapPlaces p.moved) =
      (part.node.toList ++ d.children).map (Node.mapPlaces p.moved) := by
    rw [h.node, List.map_append]
    cases part.node <;> rfl
  simp only [Draft.moved, addPart, Token.offset_moved, Token.stop_moved, hglued, h.text, hchildren]
  rfl

omit hb in
theorem Draft.dropClosing_moved (ts : List Token) :
    dropClosing (ts.map (Token.moved p)) = (dropClosing ts).map (Token.moved p) := by
  cases ts with
  | nil => rfl
  | cons t ts =>
    simp only [List.map_cons, dropClosing, Token.moved]
    split <;> rfl

theorem draft_moved (d : Draft) {ts : List Token} (h : Tokens.Proper ts) :
    (Draft.read below d ts).Moved p (Draft.moved p)
      (Draft.read below (d.moved p) (ts.map (Token.moved p))) := by
  fun_induction Draft.read below d ts with
  | case1 d =>
    rw [List.map_nil, Draft.read]
    exact ⟨rfl, rfl, rfl⟩
  | case2 d t rest hword part more ih =>
    have hpart : part.Moved p ((t.moved p).part below) :=
      part_moved hb (h t List.mem_cons_self)
    rw [List.map_cons, Draft.read_part below _ (show (t.moved p).kind.isWordLike = true from hword),
      Draft.addPart_moved d t hpart]
    obtain ⟨hvalue, hnotes, hrest⟩ := ih h.tail
    exact ⟨hvalue, by simp only [List.length_append, hpart.notes, hnotes]; rfl, hrest⟩
  | case3 d t rest _ hredirect r more ih =>
    have hr := redirect_moved hb t h.tail
    rw [List.map_cons,
      Draft.read_redirect below _ (show (t.moved p).kind.isRedirect = true from hredirect)]
    obtain ⟨hvalue, hnotes, hrest⟩ :=
      ih (h.tail.suffix (Redirect.parse_rest_suffix below t rest))
    simp only [hr.value, hr.rest]
    exact ⟨hvalue, by simp only [List.length_append, hr.notes]; exact congrArg _ hnotes, hrest⟩
  | case4 d t rest _ _ hparens ih =>
    rw [List.map_cons, Draft.read_parens below _ (show (t.moved p).kind = .leftParen from hparens.1)
      (show (d.moved p).hasOneWord = true from hparens.2), Draft.dropClosing_moved]
    exact ih (h.tail.suffix (Draft.dropClosing_suffix rest))
  | case5 d t rest _ _ _ hunknown ih =>
    rw [List.map_cons, Draft.read_unknown below _ (show (t.moved p).kind = .unknown from hunknown)]
    exact ih h.tail
  | case6 d t rest hword hredirect hparens hunknown =>
    rw [List.map_cons, Draft.read_stop below (d.moved p) (t := t.moved p) hword hredirect hparens
      hunknown]
    exact ⟨rfl, rfl, rfl⟩

/-! ### Commands, pipelines, chains and lists -/

omit hb in
theorem Group.skip_moved (opened : Nat) (ts : List Token) :
    skip opened (ts.map (Token.moved p)) =
      ((skip opened ts).1, (skip opened ts).2.map (Token.moved p)) := by
  induction ts generalizing opened with
  | nil => rfl
  | cons t ts ih =>
    simp only [List.map_cons, skip, Token.moved]
    split
    · rfl
    split
    · exact ih _
    split
    · cases opened with
      | zero => rfl
      | succ n => exact ih n
    · exact ih _

theorem group_moved (q : Position) {ts : List Token} (h : Tokens.Proper ts) :
    (Group.read below q ts).Moved p (Node.mapPlaces p.moved)
      (Group.read below (p.moved q) (ts.map (Token.moved p))) := by
  cases below with
  | none =>
    simp only [Group.read, Group.skip_moved]
    refine ⟨rfl, ?_, rfl⟩
    cases (Group.skip 0 ts).1 <;> rfl
  | some level =>
    obtain ⟨hvalue, hnotes, hrest⟩ := hb level rfl true ts h
    simp only [Group.read, hrest, Tokens.kind_moved]
    split
    · exact ⟨by simp [Node.mapPlaces, hvalue], hnotes, by simp [List.map_tail]⟩
    · exact ⟨by simp [Node.mapPlaces, hvalue], by simp [hnotes], rfl⟩

omit hb in
theorem Draft.node_moved (d : Draft) (q : Position) :
    (d.moved p).node (p.moved q) = (d.node q).mapPlaces p.moved := by
  simp [Draft.node, Draft.moved, Node.mapPlaces, List.map_reverse]

theorem parseCommand_moved {ts : List Token} (h : Tokens.Proper ts) :
    Option.Rel (Parsed.Moved p (Node.mapPlaces p.moved)) (parseCommand below ts)
      (parseCommand below (ts.map (Token.moved p))) := by
  cases ts with
  | nil => exact .none
  | cons t rest =>
    simp only [List.map_cons, parseCommand, Token.kind_moved]
    split
    · exact .some (group_moved hb t.position h.tail)
    split
    · obtain ⟨hvalue, hnotes, hrest⟩ := draft_moved hb .empty h
      refine .some ⟨?_, hnotes, hrest⟩
      exact (congrArg (Draft.node · (p.moved t.position)) hvalue).trans
        (Draft.node_moved _ t.position)
    · exact .none

theorem parsePiped_moved (inGroup : Bool) {ts : List Token} (h : Tokens.Proper ts) :
    Option.Rel (Parsed.Moved p (Node.mapPlaces p.moved)) (parsePiped below inGroup ts)
      (parsePiped below inGroup (ts.map (Token.moved p))) := by
  simp only [parsePiped, Tokens.kind_moved]
  split
  · exact .none
  · exact parseCommand_moved hb h

theorem parsePipes_moved (inGroup : Bool) {ts : List Token} (h : Tokens.Proper ts) :
    (parsePipes below inGroup ts).Moved p
      (fun value => (value.1.map (Node.mapPlaces p.moved), value.2))
      (parsePipes below inGroup (ts.map (Token.moved p))) := by
  fun_induction parsePipes below inGroup ts with
  | case1 =>
    rw [List.map_nil, parsePipes]
    exact ⟨rfl, rfl, rfl⟩
  | case2 t rest hpipe hnone after =>
    have hpiped := parsePiped_moved hb inGroup (h.tail.suffix (Tokens.skipFiller_suffix rest))
    rw [hnone, ← Tokens.skipFiller_moved] at hpiped
    replace hpiped := eq_none_of_rel hpiped
    rw [List.map_cons, parsePipes_none (t := t.moved p) hpipe hpiped, Tokens.skipFiller_moved]
    exact ⟨rfl, rfl, rfl⟩
  | case3 t rest hpipe command hsome more ih =>
    have hpiped := parsePiped_moved hb inGroup (h.tail.suffix (Tokens.skipFiller_suffix rest))
    rw [hsome, ← Tokens.skipFiller_moved] at hpiped
    obtain ⟨command', hsome', hvalue, hnotes, hrest⟩ := exists_of_rel_some hpiped
    have hproper : Tokens.Proper command.rest :=
      (h.tail.suffix (Tokens.skipFiller_suffix rest)).suffix (parsePiped_rest_suffix hsome)
    obtain ⟨hmvalue, hmnotes, hmrest⟩ := ih hproper
    rw [List.map_cons, parsePipes_pipe (t := t.moved p) hpipe hsome', hrest]
    exact ⟨by simp only [hvalue, hmvalue]; rfl,
      by simp only [List.length_append, hnotes, hmnotes]; rfl, hmrest⟩
  | case4 t rest hpipe =>
    rw [List.map_cons, parsePipes_of_ne (t := t.moved p) hpipe]
    exact ⟨rfl, rfl, rfl⟩

theorem parsePipeline_moved (inGroup : Bool) {ts : List Token} (h : Tokens.Proper ts) :
    Option.Rel (Parsed.Moved p (Node.mapPlaces p.moved)) (parsePipeline below inGroup ts)
      (parsePipeline below inGroup (ts.map (Token.moved p))) := by
  have hfirst := parseCommand_moved hb h
  unfold parsePipeline
  cases hcommand : parseCommand below ts with
  | none =>
    rw [hcommand] at hfirst
    rw [eq_none_of_rel hfirst]
    exact .none
  | some first =>
    rw [hcommand] at hfirst
    obtain ⟨first', hcommand', hvalue, hnotes, hrest⟩ := exists_of_rel_some hfirst
    obtain ⟨hsuffix, hne⟩ := parseCommand_rest_suffix hcommand
    obtain ⟨hmvalue, hmnotes, hmrest⟩ := parsePipes_moved hb inGroup
      (h.suffix (hsuffix.trans (List.tail_suffix _)))
    rw [hcommand']
    simp only [Option.map_some, hrest, hmvalue, hvalue, Tokens.position_moved p hne,
      List.isEmpty_map]
    refine .some ⟨?_, by simp [hnotes, hmnotes], hmrest⟩
    dsimp only
    split
    · rfl
    · simp [Node.mapPlaces]

theorem parseChainRest_moved (inGroup : Bool) (left : Node) {ts : List Token}
    (h : Tokens.Proper ts) :
    (parseChainRest below inGroup left ts).Moved p (Node.mapPlaces p.moved)
      (parseChainRest below inGroup (left.mapPlaces p.moved) (ts.map (Token.moved p))) := by
  fun_induction parseChainRest below inGroup left ts with
  | case1 left =>
    rw [List.map_nil, parseChainRest]
    exact ⟨rfl, rfl, rfl⟩
  | case2 left t rest hop hnone after =>
    have hright := parsePipeline_moved hb inGroup (h.tail.suffix (Tokens.skipFiller_suffix rest))
    rw [hnone, ← Tokens.skipFiller_moved] at hright
    replace hright := eq_none_of_rel hright
    rw [List.map_cons, parseChainRest_none _ (t := t.moved p) hop hright, Tokens.skipFiller_moved]
    exact ⟨rfl, rfl, rfl⟩
  | case3 left t rest hop right hsome more ih =>
    have hright := parsePipeline_moved hb inGroup (h.tail.suffix (Tokens.skipFiller_suffix rest))
    rw [hsome, ← Tokens.skipFiller_moved] at hright
    obtain ⟨right', hsome', hvalue, hnotes, hrest⟩ := exists_of_rel_some hright
    have hproper : Tokens.Proper right.rest :=
      (h.tail.suffix (Tokens.skipFiller_suffix rest)).suffix
        ((parsePipeline_rest_suffix hsome).1.trans (List.tail_suffix _))
    obtain ⟨hmvalue, hmnotes, hmrest⟩ := ih hproper
    rw [List.map_cons, parseChainRest_operator _ (t := t.moved p) hop hsome', hrest, hvalue,
      Token.kind_moved, ← Node.mapPlaces_chainNode]
    exact ⟨hmvalue, by simp only [List.length_append, hnotes, hmnotes]; rfl, hmrest⟩
  | case4 left t rest hop =>
    rw [List.map_cons, parseChainRest_of_ne (t := t.moved p) hop]
    exact ⟨rfl, rfl, rfl⟩

theorem parseChain_moved (inGroup : Bool) {ts : List Token} (h : Tokens.Proper ts) :
    Option.Rel (Parsed.Moved p (Node.mapPlaces p.moved)) (parseChain below inGroup ts)
      (parseChain below inGroup (ts.map (Token.moved p))) := by
  have hfirst := parsePipeline_moved hb inGroup h
  unfold parseChain
  cases hpipeline : parsePipeline below inGroup ts with
  | none =>
    rw [hpipeline] at hfirst
    rw [eq_none_of_rel hfirst]
    exact .none
  | some first =>
    rw [hpipeline] at hfirst
    obtain ⟨first', hpipeline', hvalue, hnotes, hrest⟩ := exists_of_rel_some hfirst
    obtain ⟨hmvalue, hmnotes, hmrest⟩ := parseChainRest_moved hb inGroup first.value
      (h.suffix ((parsePipeline_rest_suffix hpipeline).1.trans (List.tail_suffix _)))
    rw [hpipeline']
    simp only [Option.map_some, hrest, hvalue]
    exact .some ⟨hmvalue, by simp [hnotes, hmnotes], hmrest⟩

/-- The first item of a list, when its tokens have moved. -/
theorem firstItem_moved (inGroup : Bool) {ts : List Token} (h : Tokens.Proper ts)
    {item : Parsed Node} (hitem : parseChain below inGroup (Tokens.skipFiller ts) = some item) :
    Tokens.Proper item.rest ∧
      ∃ item', parseChain below inGroup (Tokens.skipFiller (ts.map (Token.moved p))) = some item' ∧
        item.Moved p (Node.mapPlaces p.moved) item' := by
  have hstart : Tokens.Proper (Tokens.skipFiller ts) := h.suffix (Tokens.skipFiller_suffix ts)
  have hchain := parseChain_moved hb inGroup hstart
  rw [hitem, ← Tokens.skipFiller_moved] at hchain
  exact ⟨hstart.suffix ((parseChain_rest_suffix hitem).1.trans (List.tail_suffix _)),
    exists_of_rel_some hchain⟩

theorem parseItems_moved (inGroup : Bool) {ts : List Token} (h : Tokens.Proper ts) :
    (parseItems below inGroup ts).Moved p
      (fun value => (value.1.map (Node.mapPlaces p.moved), value.2))
      (parseItems below inGroup (ts.map (Token.moved p))) := by
  fun_induction parseItems below inGroup ts with
  | case1 ts start hend =>
    rw [parseItems_stop (by rwa [Tokens.kind_skipFiller_moved]), Tokens.skipFiller_moved]
    exact ⟨rfl, rfl, rfl⟩
  | case2 ts start hend hnone =>
    have hchain := parseChain_moved hb inGroup (h.suffix (Tokens.skipFiller_suffix ts))
    rw [hnone, ← Tokens.skipFiller_moved] at hchain
    rw [parseItems_none (by rwa [Tokens.kind_skipFiller_moved]) (eq_none_of_rel hchain),
      Tokens.skipFiller_moved]
    exact ⟨rfl, rfl, rfl⟩
  | case3 ts start hend item hsome hk more ih | case4 ts start hend item hsome hk more ih =>
    obtain ⟨hproper, item', hsome', hvalue, hnotes, hrest⟩ := firstItem_moved hb inGroup h hsome
    obtain ⟨hmvalue, hmnotes, hmrest⟩ := ih (hproper.suffix (List.tail_suffix _))
    rw [parseItems_semicolon (by rwa [Tokens.kind_skipFiller_moved]) hsome' (by simp [hrest, hk]),
      hrest, ← List.map_tail]
    exact ⟨by simp only [hvalue, hmvalue]; rfl,
      by simp only [List.length_append, hnotes, hmnotes]; rfl, hmrest⟩
  | case5 ts start hend item hsome hk more ih =>
    obtain ⟨hproper, item', hsome', hvalue, hnotes, hrest⟩ := firstItem_moved hb inGroup h hsome
    obtain ⟨hmvalue, hmnotes, hmrest⟩ := ih (hproper.suffix (List.tail_suffix _))
    rw [parseItems_ampersand (by rwa [Tokens.kind_skipFiller_moved]) hsome' (by simp [hrest, hk]),
      hrest, ← List.map_tail]
    exact ⟨by simp only [hvalue, hmvalue, Node.position_mapPlaces]; rfl,
      by simp only [List.length_append, hnotes, hmnotes]; rfl, hmrest⟩
  | case6 ts start hend item hsome hsemicolon hnewline hampersand =>
    obtain ⟨hproper, item', hsome', hvalue, hnotes, hrest⟩ := firstItem_moved hb inGroup h hsome
    rw [parseItems_final (by rwa [Tokens.kind_skipFiller_moved]) hsome'
      (by simpa [hrest] using hsemicolon) (by simpa [hrest] using hnewline)
      (by simpa [hrest] using hampersand), hrest, Tokens.kind_moved]
    refine ⟨by simp [hvalue], ?_, rfl⟩
    simp only [List.length_append, hnotes]
    split <;> rfl

/-- A level above levels that read moved tokens as the moved tree does so too. -/
theorem Level.above_moves : (Level.above below).Moves p := by
  intro inGroup ts h
  obtain ⟨hvalue, hnotes, hrest⟩ := parseItems_moved hb inGroup h
  refine ⟨?_, hnotes, hrest⟩
  simp only [Level.above, parseList, hvalue]
  cases ts with
  | nil =>
    -- Nothing is read, so it does not matter that an empty stretch has no place to move.
    rw [parseItems_end rfl]
    rfl
  | cons t ts =>
    rw [Tokens.position_moved p (List.cons_ne_nil t ts), Node.listNode_mapPlaces]

end Readers

theorem level_moves (p : Position) (n : Nat) : (level n).Moves p := by
  induction n with
  | zero => exact Level.above_moves (by simp)
  | succ n ih =>
    refine Level.above_moves fun l hl => ?_
    rw [← Option.some.inj hl]
    exact ih

end ShellGuard
