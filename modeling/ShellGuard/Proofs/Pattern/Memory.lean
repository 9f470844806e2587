import Mathlib
import ShellGuard.Pattern.Reader

/-!
What sharing can save is not needed to know that a pattern is small.  A pattern is counted here
with no state shared, which is an upper bound for its memory and needs no table; a pattern that
fits even so is read, and the table is never filled.
-/

namespace ShellGuard

namespace Pattern

/-- A fold whose steps each add at most the weight of an element adds at most all the weights. -/
theorem foldl_le_add_sum {α β : Type} {f : β → α → β} (measure : β → Nat) {weight : α → Nat}
    (h : ∀ b a, measure (f b a) ≤ measure b + weight a) (l : List α) (b : β) :
    measure (l.foldl f b) ≤ measure b + (l.map weight).sum := by
  induction l generalizing b with
  | nil => simp
  | cons a l ih =>
    have h1 := h b a
    have h2 := ih (f b a)
    simp only [List.foldl_cons, List.map_cons, List.sum_cons]
    omega

namespace Tally

theorem bytes_add (t u : Tally) : (t.add u).bytes = t.bytes + u.bytes := by
  simp only [add, bytes]
  omega

theorem bytes_plain (t : Tally) (n : Nat) : (t.plain n).bytes = t.bytes + 32 * n := by
  simp only [plain, bytes]
  omega

theorem bytes_fork (t : Tally) (n : Nat) : (t.fork n).bytes = t.bytes + (32 + 4 * n) := by
  simp only [fork, bytes]
  omega

theorem bytes_sparse (t : Tally) (n : Nat) : (t.sparse n).bytes = t.bytes + (32 + 8 * n) := by
  simp only [sparse, bytes]
  omega

/-- Counting a part adds at most `n` bytes. -/
def Adds (part : Tally → Tally) (n : Nat) : Prop :=
  ∀ t : Tally, (part t).bytes ≤ t.bytes + n

theorem Adds.mono {part : Tally → Tally} {m n : Nat} (h : Adds part m) (hmn : m ≤ n) :
    Adds part n :=
  fun t => le_trans (h t) (Nat.add_le_add_left hmn _)

theorem Adds.comp {first second : Tally → Tally} {m n : Nat} (hf : Adds first m)
    (hs : Adds second n) : Adds (fun t => second (first t)) (m + n) := by
  intro t
  calc (second (first t)).bytes ≤ (first t).bytes + n := hs (first t)
    _ ≤ t.bytes + m + n := Nat.add_le_add_right (hf t) n
    _ = t.bytes + (m + n) := Nat.add_assoc _ _ _

theorem Adds.copies {part : Tally → Tally} {n : Nat} (h : Adds part n) (k : Nat) :
    Adds (Tally.copies part k) (k * n) := by
  induction k with
  | zero =>
    intro t
    simp [Tally.copies]
  | succ k ih =>
    intro t
    rw [Tally.copies, Nat.succ_mul]
    split
    · omega
    · have h1 := h t
      have h2 := ih (part t)
      omega

end Tally

/-! ## Sets -/

theorem Sharing.start_tally {α : Type} (size : Nat) (t : Tally) :
    (Sharing.start size t : Sharing α).tally = t :=
  rfl

theorem Sharing.state_bytes {α : Type} [DecidableEq α] {grow : Tally → Tally} {n : Nat}
    (h : Tally.Adds grow n) (s : Sharing α) (hash : UInt64) (key : α) :
    (s.state hash key grow).2.tally.bytes ≤ s.tally.bytes + n := by
  rw [Sharing.state]
  split
  · exact Nat.le_add_right _ _
  · exact h s.tally

/-- The bytes for a tree with no state shared. -/
def ByteTree.unshared : (depth : Nat) → ByteTree → Nat
  | 0, _ => 0
  | depth + 1, .node branches =>
    32 + 8 * branches.length + (branches.map fun b => unshared depth b.2).sum

/-- Count one more branch of a tree: its own tree first, then the step to it. -/
def addArc (target depth : Nat) (q : List Arc × Sharing (List Arc)) (b : Span × ByteTree) :
    List Arc × Sharing (List Arc) :=
  let r := treeState target depth b.2 q.2
  (⟨b.1, r.1⟩ :: q.1, r.2)

theorem treeState_node {target depth : Nat} {b : Span × ByteTree} {bs : List (Span × ByteTree)}
    {s : Sharing (List Arc)} {q : List Arc × Sharing (List Arc)}
    (h : (b :: bs).foldl (addArc target depth) ([], s) = q) :
    treeState target (depth + 1) (.node (b :: bs)) s =
      q.2.state (mixArcs hashStart q.1.reverse) q.1.reverse (·.sparse q.1.reverse.length) := by
  subst h
  rfl

theorem treeState_bytes (target depth : Nat) (tree : ByteTree) (s : Sharing (List Arc)) :
    (treeState target depth tree s).2.tally.bytes ≤ s.tally.bytes + tree.unshared depth := by
  induction depth generalizing tree s with
  | zero => exact Nat.le_add_right _ _
  | succ depth ih =>
    have fold : ∀ (bs : List (Span × ByteTree)) (q : List Arc × Sharing (List Arc)),
        (bs.foldl (addArc target depth) q).1.length = q.1.length + bs.length ∧
          (bs.foldl (addArc target depth) q).2.tally.bytes ≤
            q.2.tally.bytes + (bs.map fun b => b.2.unshared depth).sum := by
      intro bs
      induction bs with
      | nil => simp
      | cons b bs ihb =>
        intro q
        have h1 : (addArc target depth q b).2.tally.bytes ≤ _ := ih b.2 q.2
        have h2 : (addArc target depth q b).1.length = q.1.length + 1 := rfl
        have h3 := ihb (addArc target depth q b)
        simp only [List.foldl_cons, List.length_cons, List.map_cons, List.sum_cons]
        omega
    obtain ⟨branches⟩ := tree
    cases branches with
    | nil => exact Nat.le_add_right _ _
    | cons b bs =>
      obtain ⟨hlength, hbytes⟩ := fold (b :: bs) ([], s)
      obtain ⟨q, hq⟩ : ∃ q, (b :: bs).foldl (addArc target depth) ([], s) = q := ⟨_, rfl⟩
      rw [hq] at hlength hbytes
      rw [treeState_node hq, ByteTree.unshared]
      have h := Sharing.state_bytes (fun t => (Tally.bytes_sparse t q.1.reverse.length).le) q.2
        (mixArcs hashStart q.1.reverse) q.1.reverse
      refine le_trans h ?_
      rw [List.length_reverse, hlength, List.length_nil]
      dsimp only at hbytes
      omega

theorem suffixState_bytes (target : Nat) (s : Sharing (Nat × Span)) (rs : List Span) :
    (suffixState target s rs).tally.bytes ≤ s.tally.bytes + 32 * rs.length := by
  induction rs generalizing target s with
  | nil => exact Nat.le_add_right _ _
  | cons r rs ih =>
    have h := Sharing.state_bytes (fun t => (Tally.bytes_plain t 1).le) s
      (mix (mix (mix hashStart target) r.first) r.last) (target, r)
    have hrest := ih (s.state (mix (mix (mix hashStart target) r.first) r.last) (target, r)
      (·.plain 1)).1 (s.state (mix (mix (mix hashStart target) r.first) r.last) (target, r)
      (·.plain 1)).2
    rw [suffixState, List.length_cons]
    refine le_trans hrest ?_
    omega

theorem suffixState_foldl_bytes (target : Nat) (seqs : List (List Span))
    (s : Sharing (Nat × Span)) :
    (seqs.foldl (suffixState target) s).tally.bytes ≤
      s.tally.bytes + 32 * (seqs.map List.length).sum := by
  rw [← List.sum_map_mul_left]
  exact foldl_le_add_sum (·.tally.bytes) (suffixState_bytes target) seqs s

/-! Grouping takes a range off every sequence and keeps one of those that are alike. -/

theorem grouped_sizes (seqs : List (List Span)) :
    (grouped seqs).length + ((grouped seqs).map fun g => (g.2.map List.length).sum).sum ≤
      (seqs.map List.length).sum := by
  fun_induction grouped seqs <;> simp_all <;> omega

theorem ByteTree.unshared_ofSequences (depth : Nat) (seqs : List (List Span)) :
    (ofSequences depth seqs).unshared depth ≤ 32 + 40 * (seqs.map List.length).sum := by
  induction depth generalizing seqs with
  | zero => exact Nat.zero_le _
  | succ depth ih =>
    have hbranches : ∀ groups : List (Span × List (List Span)),
        (groups.map fun g => (ofSequences depth g.2).unshared depth).sum ≤
          32 * groups.length + 40 * (groups.map fun g => (g.2.map List.length).sum).sum := by
      intro groups
      induction groups with
      | nil => simp
      | cons g groups ihg =>
        have hg := ih g.2
        simp only [List.map_cons, List.sum_cons, List.length_cons]
        omega
    have h1 := hbranches (grouped seqs)
    have h2 := grouped_sizes seqs
    rw [ofSequences, unshared, List.map_map, List.length_map]
    simp only [Function.comp_def]
    omega

theorem length_encodeCode_le (n : Nat) : (Utf8.encodeCode n).length ≤ 4 := by
  rw [Utf8.encodeCode]
  split_ifs <;> simp

/-- Every piece of a set is a sequence of at most four ranges. -/
theorem sum_length_byteRanges_le (s : CharSet) :
    (s.byteRanges.map List.length).sum ≤ 4 * s.byteRanges.length := by
  have h : ∀ seq ∈ s.byteRanges, seq.length ≤ 4 := by
    intro seq hseq
    obtain ⟨t, -, rfl⟩ := List.mem_map.mp hseq
    rw [List.length_map, List.length_zip]
    exact le_trans (Nat.min_le_left _ _) (length_encodeCode_le t.first)
  have hsum := List.sum_le_card_nsmul (s.byteRanges.map List.length) 4 (by simpa using h)
  simpa [Nat.mul_comm] using hsum

/-- The bytes for a set with no state shared, in either direction. -/
def setBytes (s : CharSet) : Nat :=
  64 + 8 * s.spans.length + 164 * (s.spans.flatMap CharSet.pieces).length

theorem adds_setTally (back : Bool) (s : CharSet) :
    Tally.Adds (Reading.tally · (.ofSet back s)) (setBytes s) := by
  intro t
  have hpieces : s.byteRanges.length = (s.spans.flatMap CharSet.pieces).length := by
    rw [CharSet.byteRanges, List.length_map]
  have hsum := sum_length_byteRanges_le s
  dsimp only
  rw [setBytes, ← hpieces, Reading.ofSet]
  split_ifs
  · rw [Reading.tally, Tally.bytes_sparse, Tally.bytes_plain]
    omega
  · have h := suffixState_foldl_bytes (t.states + 1) s.byteRanges
      (.start 1000 ((t.fork s.byteRanges.length).plain 1))
    rw [Sharing.start_tally, Tally.bytes_plain, Tally.bytes_fork] at h
    rw [Reading.tally]
    omega
  · have h1 := treeState_bytes t.states 4 (.ofSequences 4 s.byteRanges)
      (.start 10000 (t.plain 1))
    have h2 := ByteTree.unshared_ofSequences 4 s.byteRanges
    rw [Sharing.start_tally, Tally.bytes_plain] at h1
    rw [Reading.tally]
    omega

/-! ## Alternatives between texts -/

namespace TrieNode

/-- The bytes for a state of a trie: itself and every chunk. -/
def size (n : TrieNode) : Nat :=
  32 + 4 * n.closed.length +
    ((n.active :: n.closed).map fun chunk => 36 + 16 * chunk.length).sum

theorem addChunk_bytes (t : Tally) (chunk : List (Nat × Nat)) :
    (addChunk t chunk).bytes ≤ t.bytes + (36 + 16 * chunk.length) := by
  rw [addChunk.eq_def]
  split <;> simp only [Tally.plain, Tally.sparse, Tally.bytes, List.length_cons] <;> omega

theorem count_bytes (t : Tally) (n : TrieNode) : (count t n).bytes ≤ t.bytes + n.size := by
  rw [count, size]
  split
  · omega
  · have h := foldl_le_add_sum Tally.bytes addChunk_bytes (n.active :: n.closed) t
    rw [Tally.bytes_fork]
    omega

theorem size_addEnd (n : TrieNode) : n.addEnd.size ≤ n.size + 40 := by
  rw [addEnd]
  split
  · omega
  · simp only [size, List.map_cons, List.sum_cons, List.length_cons, List.length_nil]
    omega

end TrieNode

/-- The bytes for the states of a trie. -/
def trieSize (trie : Array TrieNode) : Nat :=
  (trie.toList.map TrieNode.size).sum

theorem trieSize_push (trie : Array TrieNode) (n : TrieNode) :
    trieSize (trie.push n) = trieSize trie + n.size := by
  simp [trieSize]

theorem trieSize_modify {f : TrieNode → TrieNode} {k : Nat} (h : ∀ n, (f n).size ≤ n.size + k)
    (trie : Array TrieNode) (i : Nat) : trieSize (trie.modify i f) ≤ trieSize trie + k := by
  rw [trieSize, trieSize, Array.toList_modify]
  generalize trie.toList = nodes
  induction nodes generalizing i with
  | nil => simp
  | cons n nodes ih =>
    cases i with
    | zero =>
      have hn := h n
      simp only [List.modify_zero_cons, List.map_cons, List.sum_cons]
      omega
    | succ i =>
      have hi := ih i
      simp only [List.modify_succ_cons, List.map_cons, List.sum_cons]
      omega

/-- A text adds at most a state and a way on for each of its bytes, and one end. -/
theorem trieSize_trieInsert (trie : Array TrieNode) (i : Nat) (bs : List Nat) :
    trieSize (trieInsert trie i bs) ≤ trieSize trie + (40 + 88 * bs.length) := by
  induction bs generalizing trie i with
  | nil =>
    rw [trieInsert]
    exact trieSize_modify TrieNode.size_addEnd trie i
  | cons b bs ih =>
    rw [trieInsert, List.length_cons]
    split
    · refine le_trans (ih _ _) ?_
      omega
    · refine le_trans (ih _ _) ?_
      have hway : ∀ n : TrieNode,
          ({ n with active := (b, trie.size) :: n.active } : TrieNode).size ≤ n.size + 16 := by
        intro n
        simp only [TrieNode.size, List.map_cons, List.sum_cons, List.length_cons]
        omega
      have h1 := trieSize_modify hway trie i
      have h2 : (default : TrieNode).size = 68 := rfl
      rw [trieSize_push, h2]
      omega

/-- The bytes for alternatives between texts, which may be a branch themselves. -/
def textsBytes (texts : List (List Nat)) : Nat :=
  172 + (texts.map fun bs => 40 + 88 * bs.length).sum

theorem trieTally_bytes (texts : List (List Nat)) :
    (trieTally texts).bytes + 68 ≤ textsBytes texts := by
  let trie := texts.foldl (fun trie bs => trieInsert trie 0 bs) #[default]
  have hbuild : trieSize trie ≤ 68 + (texts.map fun bs => 40 + 88 * bs.length).sum :=
    foldl_le_add_sum trieSize (fun trie bs => trieSize_trieInsert trie 0 bs) texts #[default]
  have hcount : (trie.toList.foldl TrieNode.count ⟨1, 0⟩).bytes ≤ 32 + trieSize trie :=
    foldl_le_add_sum Tally.bytes TrieNode.count_bytes trie.toList ⟨1, 0⟩
  rw [trieTally, ← Array.foldl_toList, textsBytes]
  change (trie.toList.foldl TrieNode.count ⟨1, 0⟩).bytes + 68 ≤ _
  omega

/-! ## Patterns -/

theorem adds_addBranch (branch : Nat) : Tally.Adds (addBranch branch) 68 := by
  intro t
  simp only [addBranch]
  split <;> simp only [Tally.plain, Tally.bytes] <;> omega

theorem adds_closeBranch (branch : Nat) : Tally.Adds (closeBranch branch) 68 := by
  intro t
  rw [closeBranch]
  split
  · omega
  · exact adds_addBranch branch t

/-- The bytes for a repetition of a part that takes `n` bytes: its copies, each with a fork. -/
def repeatBytes (n min : Nat) (max : Option Nat) : Nat :=
  112 + (1 + min + max.getD 0) * (n + 40)

theorem adds_repeatTally {part : Tally → Tally} {n : Nat} (h : Tally.Adds part n)
    (readsAlways : Bool) (min : Nat) (max : Option Nat) :
    Tally.Adds (repeatTally part readsAlways min max) (repeatBytes n min max) := by
  have hforked : Tally.Adds (fun t => part (t.fork 2)) (n + 40) := by
    intro t
    calc (part (t.fork 2)).bytes ≤ (t.fork 2).bytes + n := h (t.fork 2)
      _ = t.bytes + (n + 40) := by rw [Tally.bytes_fork]; omega
  have hcopies : Tally.Adds (Tally.copies part min) (min * (n + 40)) :=
    (h.copies min).mono (Nat.mul_le_mul_left _ (by omega))
  have hbytes : repeatBytes n min max =
      112 + (n + 40) + min * (n + 40) + max.getD 0 * (n + 40) := by
    rw [repeatBytes]
    ring
  intro t
  have h1 : (part (t.fork 2)).bytes ≤ t.bytes + (n + 40) := hforked t
  have h2 := hcopies t
  rw [hbytes, repeatTally.eq_def]
  split
  · rw [Tally.bytes_plain]
    omega
  · have h3 := h t
    split
    · omega
    · simp only [Tally.bytes_plain, Tally.bytes_fork]
      omega
  · rw [Tally.bytes_fork]
    omega
  · rename_i max _
    have hmost : (max - min) * (n + 40) ≤ max * (n + 40) := Nat.mul_le_mul_right _ (by omega)
    have hstart : (if min = 0 then t.plain 1 else Tally.copies part min t).bytes ≤
        t.bytes + 32 + min * (n + 40) := by
      have h3 := Tally.bytes_plain t 1
      split <;> omega
    have h4 := hforked.copies (max - min)
      ((if min = 0 then t.plain 1 else Tally.copies part min t).plain 1)
    rw [Tally.bytes_plain] at h4
    simp only [Option.getD_some]
    split <;> omega

/-- The bytes for a pattern with no state shared, in either direction. -/
def unshared : Pattern → Nat
  | empty => 100
  | literal cs => textsBytes [Utf8.encode cs]
  | chars s => setBytes s + 68
  | look _ => 100
  | group _ p => p.unshared + 336
  | seq p q => p.unshared + q.unshared + 68
  | alt p q => p.unshared + q.unshared + 68
  | .repeat p min max _ => repeatBytes p.unshared min max + 68

theorem textsBytes_append (texts others : List (List Nat)) :
    textsBytes (texts ++ others) + 172 = textsBytes texts + textsBytes others := by
  simp only [textsBytes, List.map_append, List.sum_append]
  omega

theorem textsBytes_map_reverse (texts : List (List Nat)) :
    textsBytes (texts.map List.reverse) = textsBytes texts := by
  simp [textsBytes, Function.comp_def]

/-- The texts of a pattern that is a choice between texts take no more than the pattern. -/
theorem textsBytes_le_unshared {p : Pattern} {texts : List (List Nat)}
    (h : p.branches.mapM literalBytes? = some texts) : textsBytes texts ≤ p.unshared := by
  induction p generalizing texts with
  | alt p q ihp ihq =>
    rw [branches, List.mapM_append] at h
    obtain ⟨ps, hps, h⟩ := Option.bind_eq_some_iff.mp h
    obtain ⟨qs, hqs, h⟩ := Option.bind_eq_some_iff.mp h
    obtain rfl := Option.some.inj h
    have happend := textsBytes_append ps qs
    have hp := ihp hps
    have hq := ihq hqs
    rw [unshared]
    omega
  | literal cs =>
    obtain rfl : [Utf8.encode cs] = texts := by simpa [branches, literalBytes?] using h
    exact le_refl _
  | _ => simp [branches, literalBytes?] at h

theorem adds_fixed (u : Tally) (branch : Nat) :
    Tally.Adds ((Blueprint.fixed u).tally branch) (u.bytes + 68) := by
  have h : Tally.Adds (·.add u) u.bytes := fun t => (Tally.bytes_add t u).le
  exact h.comp (adds_closeBranch branch)

theorem adds_seq {p q : Blueprint} {m n : Nat} (hp : Tally.Adds (p.tally 0) m)
    (hq : Tally.Adds (q.tally 0) n) (branch : Nat) :
    Tally.Adds ((Blueprint.seq p q).tally branch) (m + n + 68) :=
  (hp.comp hq).comp (adds_closeBranch branch)

theorem adds_blueprint (back : Bool) (p : Pattern) (inner : Bool) (branch : Nat) :
    Tally.Adds ((p.blueprint back inner).tally branch) p.unshared := by
  induction p generalizing inner branch with
  | empty => exact adds_fixed ⟨1, 0⟩ branch
  | literal cs =>
    refine (adds_fixed ⟨(Utf8.encode cs).length, 0⟩ branch).mono ?_
    simp only [Tally.bytes, unshared, textsBytes, List.map_cons, List.sum_cons]
    omega
  | chars s => exact (adds_setTally back s).comp (adds_closeBranch branch)
  | look a => exact adds_fixed ⟨1, 0⟩ branch
  | group i p ih =>
    have hmark : Tally.Adds ((Blueprint.fixed ⟨if back then 0 else 1, 0⟩).tally 0) 100 := by
      refine (adds_fixed _ 0).mono ?_
      cases back <;> simp [Tally.bytes]
    refine (adds_seq hmark (adds_seq (ih false 0) hmark 0) branch).mono ?_
    rw [unshared]
    omega
  | seq p q ihp ihq =>
    rw [blueprint]
    split
    · refine (adds_seq (ihq false 0) (ihp false 0) branch).mono ?_
      rw [unshared]
      omega
    · exact adds_seq (ihp false 0) (ihq false 0) branch
  | alt p q ihp ihq =>
    rw [blueprint]
    split
    · rename_i texts htexts
      have hbranches : (alt p q).branches.mapM literalBytes? = some texts := by
        cases inner <;> simp_all
      have hback : textsBytes (if back then texts.map List.reverse else texts) =
          textsBytes texts := by
        split
        · exact textsBytes_map_reverse texts
        · rfl
      refine (adds_fixed _ branch).mono (le_trans (trieTally_bytes _) ?_)
      rw [hback]
      exact textsBytes_le_unshared hbranches
    · refine (((ihp false 0).comp (adds_addBranch branch)).comp (ihq true (branch + 1))).mono ?_
      rw [unshared]
      omega
  | «repeat» p min max greedy ihp =>
    exact (adds_repeatTally (ihp false 0) _ min max).comp (adds_closeBranch branch)

/-- Whether a pattern keeps within the memory there is for it with no state shared.  An automaton
has at most six states around those of its pattern. -/
def isModest (p : Pattern) : Bool :=
  p.unshared + 208 ≤ Tally.limit

theorem entry_bytes (anchored : Bool) : (entry anchored).bytes ≤ 112 := by
  cases anchored <;> decide

theorem fits_of_isModest {p : Pattern} (h : p.isModest = true) : p.fits = true := by
  rw [isModest, decide_eq_true_eq] at h
  have hforward : p.forwardBytes ≤ p.unshared + 208 := by
    have h1 := entry_bytes (p.leads .textStart)
    have h2 := adds_blueprint false p false 0 ((entry (p.leads .textStart)).plain 1)
    rw [Tally.bytes_plain] at h2
    rw [forwardBytes, Tally.bytes_plain]
    omega
  have hbackward : p.backwardBytes ≤ p.unshared + 208 := by
    have h1 := entry_bytes (p.trails .textEnd)
    have h2 := adds_blueprint true p false 0 (entry (p.trails .textEnd))
    rw [backwardBytes, Tally.bytes_plain]
    omega
  simp only [fits, Bool.or_eq_true, Bool.and_eq_true, decide_eq_true_eq]
  exact .inr ⟨le_trans hforward h, le_trans hbackward h⟩

/-- Whether a text writes a pattern that is modest. -/
def readsModest (text : String) : Bool :=
  ((Reader.alternation (2 * text.toList.length + 2) []).run ⟨text.toList, .initial, 0, []⟩).any
    fun r => r.2.rest.isEmpty && r.1.depth ≤ maxDepth && r.1.value.isModest

theorem ofText?_isSome_of_readsModest {text : String} (h : readsModest text = true) :
    (ofText? text).isSome = true := by
  obtain ⟨r, hr, hm⟩ := (Option.any_eq_true _ _).mp h
  simp only [Bool.and_eq_true, decide_eq_true_eq] at hm
  obtain ⟨⟨hrest, hdepth⟩, hmodest⟩ := hm
  rw [List.isEmpty_iff] at hrest
  simp [ofText?, hr, hrest, hdepth, fits_of_isModest hmodest]

end Pattern

end ShellGuard
