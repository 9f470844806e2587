import Mathlib
import ShellGuard.Proofs.Syntax.Script

/-!
Walks over command trees.  `Node.walkOnto` hands on what comes after a node, so it is opened once,
in `Node.walkWhere_eq`: a walk is the node and, where it is entered, the walks of its children.
Statements about all nodes of a tree go by `Node.children_induction` and that equation.
-/

namespace ShellGuard

namespace Node

/-! ## Going down a tree -/

theorem sizeOf_child {n c : Node} (h : c ∈ n.children) : sizeOf c < sizeOf n := by
  cases n with
  | command _ _ _ cs | pipeline _ cs _ | quoted _ _ _ cs | list _ cs _ =>
    have hlt : sizeOf c < sizeOf cs := List.sizeOf_lt_of_mem h
    simp only [command.sizeOf_spec, pipeline.sizeOf_spec, quoted.sizeOf_spec, list.sizeOf_spec]
    omega
  | subshell _ body _ _ =>
    obtain rfl : body = some c := by simpa [children] using h
    simp only [subshell.sizeOf_spec, Option.some.sizeOf_spec]
    omega
  | background _ b =>
    obtain rfl : c = b := by simpa [children] using h
    simp only [background.sizeOf_spec]
    omega
  | both _ l r | either _ l r =>
    have hside : c = l ∨ c = r := by simpa [children] using h
    simp only [both.sizeOf_spec, either.sizeOf_spec]
    rcases hside with rfl | rfl <;> omega
  | redirect | parameter | glob => cases h

/-- What passes from the children of every node to the node holds of every tree. -/
theorem children_induction {P : Node → Prop} (step : ∀ n, (∀ c ∈ n.children, P c) → P n)
    (n : Node) : P n :=
  step n fun c _ => children_induction step c
termination_by sizeOf n
decreasing_by exact sizeOf_child ‹_›

/-! ## Walks -/

section Walk

variable (enter : Node → Bool)

mutual

theorem walkOnto_append (n : Node) (after rest : List Node) :
    n.walkOnto enter (after ++ rest) = n.walkOnto enter after ++ rest := by
  cases n <;>
    simp only [walkOnto, walkOnto_append, walkAllOnto_append, walkOptionOnto_append] <;>
    split <;> rfl

theorem walkAllOnto_append (ns after rest : List Node) :
    walkAllOnto enter ns (after ++ rest) = walkAllOnto enter ns after ++ rest := by
  cases ns with
  | nil => rfl
  | cons n ns => rw [walkAllOnto, walkAllOnto, walkAllOnto_append, walkOnto_append]

theorem walkOptionOnto_append (n : Option Node) (after rest : List Node) :
    walkOptionOnto enter n (after ++ rest) = walkOptionOnto enter n after ++ rest := by
  cases n with
  | none => rfl
  | some n => rw [walkOptionOnto, walkOptionOnto, walkOnto_append]

end

theorem walkOnto_eq (n : Node) (after : List Node) :
    n.walkOnto enter after = n.walkWhere enter ++ after :=
  walkOnto_append enter n [] after

theorem walkAllOnto_eq (ns after : List Node) :
    walkAllOnto enter ns after = ns.flatMap (walkWhere enter) ++ after := by
  induction ns with
  | nil => rfl
  | cons n ns ih => rw [walkAllOnto, ih, walkOnto_eq, List.flatMap_cons, List.append_assoc]

/-- A walk is the node and, where it is entered, the walks of its children. -/
theorem walkWhere_eq (n : Node) :
    n.walkWhere enter = n :: if enter n then n.children.flatMap (walkWhere enter) else [] := by
  rw [walkWhere]
  cases n with
  | subshell p body isCommand backtick =>
    cases body <;> simp [walkOnto, walkOptionOnto, children, walkWhere]
  | _ => simp [walkOnto, children, walkAllOnto_eq, walkOnto_eq]

end Walk

theorem walk_eq (n : Node) : n.walk = n :: n.children.flatMap walk := by
  rw [walk, walkWhere_eq]
  rfl

/-- The nodes that any walk reaches are nodes of the whole tree, and what stands below them stands
together. -/
theorem walk_infix {enter : Node → Bool} {n m : Node} (h : m ∈ n.walkWhere enter) :
    m.walk <:+: n.walk := by
  induction n using children_induction with
  | step n ih =>
    rw [walkWhere_eq] at h
    rcases List.mem_cons.1 h with rfl | h
    · exact List.infix_refl _
    split at h
    · obtain ⟨c, hc, hm⟩ := List.mem_flatMap.1 h
      have hchild : c.walk <:+: n.children.flatMap walk := by
        obtain ⟨front, back, hcs⟩ := List.append_of_mem hc
        rw [hcs, List.flatMap_append, List.flatMap_cons]
        exact ⟨front.flatMap walk, back.flatMap walk, by simp⟩
      rw [walk_eq n]
      exact ((ih c hc hm).trans hchild).trans (List.infix_cons (List.infix_refl _))
    · cases h

/-- A node of the tree that a walk does not reach stands below one that the walk does not enter. -/
theorem mem_walkWhere_or {n m : Node} (enter : Node → Bool) (h : m ∈ n.walk) :
    m ∈ n.walkWhere enter ∨
      ∃ q ∈ n.walkWhere enter, enter q = false ∧ m ∈ q.children.flatMap walk := by
  induction n using children_induction with
  | step n ih =>
    rw [walk_eq] at h
    rw [walkWhere_eq]
    rcases List.mem_cons.1 h with rfl | h
    · exact .inl List.mem_cons_self
    cases henter : enter n with
    | false => exact .inr ⟨n, List.mem_cons_self, henter, h⟩
    | true =>
      obtain ⟨c, hc, hm⟩ := List.mem_flatMap.1 h
      rw [if_pos rfl]
      have hbelow {k : Node} (hk : k ∈ c.walkWhere enter) :
          k ∈ n :: n.children.flatMap (walkWhere enter) :=
        List.mem_cons_of_mem n (List.mem_flatMap.2 ⟨c, hc, hk⟩)
      rcases ih c hc hm with hm | ⟨q, hq, hclosed, hm⟩
      · exact .inl (hbelow hm)
      · exact .inr ⟨q, hbelow hq, hclosed, hm⟩

/-- A simple command comes before the commands inside its parts. -/
theorem commands_command (p : Position) (name : String) (args : List String) (cs : List Node) :
    (command p name args cs).commands = command p name args cs :: cs.flatMap commands := by
  rw [commands, find, walk_eq, List.filter_cons_of_pos rfl, List.filter_flatMap]
  rfl

/-- Every other node has the commands of its children. -/
theorem commands_eq_flatMap {n : Node} (h : n.kind ≠ .command) :
    n.commands = n.children.flatMap commands := by
  rw [commands, find, walk_eq, List.filter_cons_of_neg (by simpa using h), List.filter_flatMap]
  rfl

/-! ## Walks and places -/

theorem kind_unplaced (n : Node) : n.unplaced.kind = n.kind := by
  cases n <;> rfl

theorem children_unplaced (n : Node) : n.unplaced.children = n.children.map unplaced := by
  cases n with
  | subshell p body isCommand backtick => cases body <;> rfl
  | _ => simp [unplaced, children]

theorem walk_unplaced (n : Node) : n.unplaced.walk = n.walk.map unplaced := by
  induction n using children_induction with
  | step n ih =>
    rw [walk_eq, walk_eq, children_unplaced, List.map_cons, List.flatMap_map, List.map_flatMap]
    rw [List.flatMap_congr ih]

/-- The commands of a tree do not depend on its places. -/
theorem commands_unplaced (n : Node) : n.unplaced.commands = n.commands.map unplaced := by
  rw [commands, commands, find, find, walk_unplaced, List.filter_map]
  simp only [Function.comp_def, kind_unplaced]

end Node

end ShellGuard
