import Mathlib
import ShellGuard.Syntax.Parser

/-!
# What the readers of tokens note

Reading never fails: what is wrong with a command is noted on the way.  Every note is a complaint,
that is a flaw of the form at a place, whichever reader made it and however deep it stood.  The
readers of one level pass on the notes of the level below them, so the statement for a level
(`Level.Complains`) is what the induction over levels carries.
-/

namespace ShellGuard

/-- A finding made by `complaint`. -/
def IsComplaint (f : Finding) : Prop :=
  ∃ message p, f = complaint message p

/-- Findings all of which are complaints. -/
def Complaints (fs : List Finding) : Prop :=
  ∀ f ∈ fs, IsComplaint f

namespace Complaints

theorem nil : Complaints [] := by
  intro f hf
  simp at hf

theorem cons {fs : List Finding} (message : String) (p : Position) (h : Complaints fs) :
    Complaints (complaint message p :: fs) :=
  List.forall_mem_cons.2 ⟨⟨message, p, rfl⟩, h⟩

theorem one (message : String) (p : Position) : Complaints [complaint message p] :=
  cons message p nil

theorem append {fs gs : List Finding} (hf : Complaints fs) (hg : Complaints gs) :
    Complaints (fs ++ gs) :=
  List.forall_mem_append.2 ⟨hf, hg⟩

end Complaints

/-- A level whose readers note complaints only. -/
def Level.Complains (l : Level) : Prop :=
  ∀ inGroup ts, Complaints (l.list inGroup ts).notes

section Readers

variable {below : Option Level} (hb : ∀ l ∈ below, l.Complains)

include hb

/-! ## Words -/

theorem substitution_notes (body : String) (inner position : Position) (backtick : Bool) :
    Complaints (substitution below body inner position backtick).2 := by
  unfold substitution
  split
  · exact .one _ _
  · rename_i level
    split
    · exact .one _ _
    · exact hb level rfl false _

theorem partWith_notes (t : Token) {inside : List Node × List Finding}
    (hin : Complaints inside.2) : Complaints (t.partWith below inside).notes := by
  unfold Token.partWith
  split
  · exact .nil
  · exact hin
  · exact .nil
  · exact .nil
  · exact substitution_notes hb _ _ _ _
  · exact substitution_notes hb _ _ _ _
  · exact .nil

theorem expansions_notes (p : Position) (cs : List Char) :
    Complaints (expansions below p cs).2 := by
  fun_induction expansions below p cs with
  | case1 => exact .nil
  | case2 => exact .nil
  | case3 p d after ih => exact ih
  | case4 p c rest hc hd e he ih => exact ih
  | case5 p c rest hc hd lx h inside part after ihin ihafter =>
    refine Complaints.append (partWith_notes hb _ ?_) ihafter
    by_cases hk : lx.kind = .quoted .double
    · simpa only [inside, dif_pos hk] using ihin hk
    · simpa only [inside, dif_neg hk] using Complaints.nil
  | case6 p c rest hc hd ih => exact ih

theorem part_notes (t : Token) : Complaints (t.part below).notes := by
  refine partWith_notes hb t ?_
  split
  · exact expansions_notes hb _ _
  · exact .nil

/-! ## Simple commands -/

theorem readTarget_notes (ts : List Token) : Complaints (Redirect.readTarget below ts).notes := by
  intro f hf
  obtain ⟨part, hpart, hf⟩ := List.mem_flatMap.1 hf
  obtain ⟨t, _, rfl⟩ := List.mem_map.1 hpart
  exact part_notes hb t f hf

theorem redirect_notes (op : Token) (ts : List Token) :
    Complaints (Redirect.parse below op ts).notes := by
  unfold Redirect.parse
  dsimp only
  split
  · exact readTarget_notes hb ts
  · exact .nil

theorem draft_notes (d : Draft) (ts : List Token) : Complaints (Draft.read below d ts).notes := by
  fun_induction Draft.read below d ts with
  | case1 => exact .nil
  | case2 d t rest _ part more ih => exact (part_notes hb t).append ih
  | case3 d t rest _ _ r more ih => exact (redirect_notes hb t rest).append ih
  | case4 d t rest _ _ _ ih => exact ih
  | case5 d t rest _ _ _ _ ih => exact ih
  | case6 => exact .nil

/-! ## Commands, pipelines, chains and lists -/

theorem group_notes (p : Position) (ts : List Token) : Complaints (Group.read below p ts).notes := by
  unfold Group.read
  split
  · dsimp only
    refine .cons _ p ?_
    split
    · exact .nil
    · exact .one _ p
  · rename_i level
    have hbody : Complaints (level.list true ts).notes := hb level rfl true ts
    dsimp only
    split
    · exact hbody
    · exact hbody.append (.one _ p)

theorem parseCommand_notes {ts : List Token} {r : Parsed Node} (h : parseCommand below ts = some r) :
    Complaints r.notes := by
  unfold parseCommand at h
  split at h
  · simp at h
  · split at h
    · rw [← Option.some.inj h]
      exact group_notes hb _ _
    split at h
    · rw [← Option.some.inj h]
      exact draft_notes hb _ _
    · simp at h

theorem parsePiped_notes {inGroup : Bool} {ts : List Token} {r : Parsed Node}
    (h : parsePiped below inGroup ts = some r) : Complaints r.notes := by
  unfold parsePiped at h
  split at h
  · simp at h
  · exact parseCommand_notes hb h

theorem parsePipes_notes (inGroup : Bool) (ts : List Token) :
    Complaints (parsePipes below inGroup ts).notes := by
  fun_induction parsePipes below inGroup ts with
  | case1 => exact .nil
  | case2 t rest _ _ after => exact .one _ _
  | case3 t rest _ command h more ih => exact (parsePiped_notes hb h).append ih
  | case4 => exact .nil

theorem parsePipeline_notes {inGroup : Bool} {ts : List Token} {r : Parsed Node}
    (h : parsePipeline below inGroup ts = some r) : Complaints r.notes := by
  obtain ⟨first, hf, rfl⟩ := Option.map_eq_some_iff.1 h
  exact (parseCommand_notes hb hf).append (parsePipes_notes hb inGroup first.rest)

theorem parseChainRest_notes (inGroup : Bool) (left : Node) (ts : List Token) :
    Complaints (parseChainRest below inGroup left ts).notes := by
  fun_induction parseChainRest below inGroup left ts with
  | case1 => exact .nil
  | case2 left t rest _ _ after => exact .one _ _
  | case3 left t rest _ right h more ih => exact (parsePipeline_notes hb h).append ih
  | case4 => exact .nil

theorem parseChain_notes {inGroup : Bool} {ts : List Token} {r : Parsed Node}
    (h : parseChain below inGroup ts = some r) : Complaints r.notes := by
  obtain ⟨first, hf, rfl⟩ := Option.map_eq_some_iff.1 h
  exact (parsePipeline_notes hb hf).append (parseChainRest_notes hb inGroup first.value first.rest)

theorem parseItems_notes (inGroup : Bool) (ts : List Token) :
    Complaints (parseItems below inGroup ts).notes := by
  fun_induction parseItems below inGroup ts with
  | case1 => exact .nil
  | case2 ts start _ _ => exact .one _ _
  | case3 ts start _ item h _ more ih => exact (parseChain_notes hb h).append ih
  | case4 ts start _ item h _ more ih => exact (parseChain_notes hb h).append ih
  | case5 ts start _ item h _ more ih => exact (parseChain_notes hb h).append ih
  | case6 ts start _ item h _ _ _ =>
    refine (parseChain_notes hb h).append ?_
    split
    · exact .nil
    · exact .one _ _

/-- A level above levels that note complaints only does so too. -/
theorem Level.above_complains : (Level.above below).Complains :=
  fun inGroup ts => parseItems_notes hb inGroup ts

end Readers

/-! ## Whole commands -/

theorem level_complains (n : Nat) : (level n).Complains := by
  induction n with
  | zero => exact Level.above_complains (by simp)
  | succ n ih =>
    refine Level.above_complains fun l hl => ?_
    rw [← Option.some.inj hl]
    exact ih

/-- The notes of a parsed command are complaints. -/
theorem parse_notes {s : String} {p : Parse} (h : parse s = .ok p) : Complaints p.notes := by
  unfold parse parseAt at h
  split at h
  · simp at h
  · rename_i ts _
    dsimp only at h
    split at h
    · rw [← Except.ok.inj h]
      exact level_complains _ false ts
    · simp at h

/-- So are those gathered before a text turned out to hold no command. -/
theorem parse_noCommands_notes {s : String} {notes : List Finding}
    (h : parse s = .error (.noCommands notes)) : Complaints notes := by
  unfold parse parseAt at h
  split at h
  · simp at h
  · rename_i ts _
    dsimp only at h
    split at h
    · simp at h
    · obtain rfl := SyntaxError.noCommands.inj (Except.error.inj h)
      exact level_complains _ false ts

end ShellGuard
