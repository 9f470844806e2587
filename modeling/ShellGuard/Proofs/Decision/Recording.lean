import Mathlib
import ShellGuard.Decision.History
import ShellGuard.Files.Disk

/-!
# What recording leaves behind

A history takes a decision into memory first and writes its file second, and a write that fails takes
nothing back.  So after any calls, whichever of their writes failed, the memory holds every decision
that was handed in.  The file holds what the last successful write found in memory, which takes in the
decisions of the failed calls before it.  Memory and file agree with the calls that succeeded exactly
as far as no call before them failed.

Files are an arbitrary state with arbitrary operations on it, so that any call may fail.  What they
wrote last is watched from outside (`Files.watched`), since a write that fails may leave anything in
the file itself.
-/

namespace ShellGuard

variable {σ : Type}

/-- The same files, with the text of the last successful write beside their state. -/
def Files.watched (files : Files (StateM σ)) : Files (StateM (σ × Option String)) where
  exists? path := fun w =>
    let answer := (files.exists? path).run w.1
    (answer.1, answer.2, w.2)
  read path := fun w =>
    let answer := (files.read path).run w.1
    (answer.1, answer.2, w.2)
  write path text := fun w =>
    let answer := (files.write path text).run w.1
    (answer.1, answer.2, if answer.1.isOk then some text else w.2)

namespace History

/-! ## One call -/

/-- Memory takes the decision whatever becomes of the file. -/
theorem record_run (files : Files (StateM σ)) (h : History) (d : Decision) (w : σ) :
    (h.record files d).run w =
      let h' : History := ⟨h.path, h.entries ++ [d]⟩
      let saved := (h'.save files).run w
      ((saved.1, h'), saved.2) :=
  rfl

/-- What a write that failed is reported as. -/
def writeError (path : String) : WriteFailure → HistoryError
  | .file => .unwritable path
  | .directory reason => .directory reason

theorem save_run (files : Files (StateM σ)) (path : String) (entries : List Decision) (w : σ) :
    ((⟨some path, entries⟩ : History).save files).run w =
      let answer := (files.write path (text entries)).run w
      (answer.1.mapError (writeError path), answer.2) := by
  simp only [save, StateT.run, bind, StateT.bind]
  rcases files.write path (text entries) w with ⟨result, w'⟩
  rcases result with (reason | -) | - <;> rfl

theorem save_watched (files : Files (StateM σ)) (path : String) (entries : List Decision) (w : σ)
    (last : Option String) :
    let saved := ((⟨some path, entries⟩ : History).save files.watched).run (w, last)
    saved.2.2 = if saved.1.isOk then some (text entries) else last := by
  have hsame (r : Except WriteFailure Unit) : (r.mapError (writeError path)).isOk = r.isOk := by
    cases r <;> rfl
  rw [save_run]
  simp only [hsame]
  rfl

/-! ## Many calls -/

/-- Decisions recorded one after the other: what each call says, and the history after the last. -/
def recordAll (files : Files (StateM σ)) (h : History) :
    List Decision → StateM σ (List (Except HistoryError Unit) × History)
  | [] => return ([], h)
  | d :: ds => do
    let (result, h) ← h.record files d
    let (results, h) ← h.recordAll files ds
    return (result :: results, h)

theorem recordAll_cons (files : Files (StateM σ)) (h : History) (d : Decision) (ds : List Decision)
    (w : σ) :
    (h.recordAll files (d :: ds)).run w =
      let first := (h.record files d).run w
      let more := (first.1.2.recordAll files ds).run first.2
      ((first.1.1 :: more.1.1, more.1.2), more.2) :=
  rfl

theorem recordAll_results_length (files : Files (StateM σ)) (h : History) (ds : List Decision)
    (w : σ) : ((h.recordAll files ds).run w).1.1.length = ds.length := by
  induction ds generalizing h w with
  | nil => rfl
  | cons d ds ih =>
    rw [recordAll_cons]
    simp only [List.length_cons, ih]

theorem recordAll_history (files : Files (StateM σ)) (h : History) (ds : List Decision) (w : σ) :
    ((h.recordAll files ds).run w).1.2 = ⟨h.path, h.entries ++ ds⟩ := by
  induction ds generalizing h w with
  | nil =>
    show h = ⟨h.path, h.entries ++ []⟩
    rw [List.append_nil]
  | cons d ds ih =>
    rw [recordAll_cons]
    simp only [ih, record_run, List.append_assoc, List.singleton_append]

/-- The last text is that of the last call that succeeded, and has all decisions handed in by then. -/
theorem recordAll_written (files : Files (StateM σ)) (path : String) (start ds : List Decision)
    (w : σ) (last : Option String) :
    let run := ((⟨some path, start⟩ : History).recordAll files.watched ds).run (w, last)
    (run.2.2 = last ∧ ∀ r ∈ run.1.1, r.isOk = false) ∨
      ∃ front back, run.1.1 = front ++ .ok () :: back ∧ (∀ r ∈ back, r.isOk = false) ∧
        run.2.2 = some (text (start ++ ds.take (front.length + 1))) := by
  induction ds generalizing start w last with
  | nil => exact .inl ⟨rfl, fun r hr => absurd hr List.not_mem_nil⟩
  | cons d ds ih =>
    intro run
    have hrun : run = _ := recordAll_cons files.watched ⟨some path, start⟩ d ds (w, last)
    rw [record_run] at hrun
    have hsaved := save_watched files path (start ++ [d]) w last
    dsimp only at hrun hsaved
    -- what the first call leaves is where the others begin
    generalize ((⟨some path, start ++ [d]⟩ : History).save files.watched).run (w, last) = saved
      at hrun hsaved
    obtain ⟨result, w', last'⟩ := saved
    dsimp only at hrun hsaved
    obtain ⟨hlast, hfailed⟩ | ⟨front, back, hresults, hfailed, hwritten⟩ :=
      ih (start ++ [d]) w' last'
    · cases result with
      | ok =>
        refine .inr ⟨[], _, by rw [hrun]; rfl, hfailed, ?_⟩
        rw [hrun]
        exact hlast.trans hsaved
      | error e =>
        refine .inl ⟨?_, ?_⟩
        · rw [hrun]
          exact hlast.trans hsaved
        · rw [hrun]
          exact List.forall_mem_cons.2 ⟨rfl, hfailed⟩
    · refine .inr ⟨result :: front, back, ?_, hfailed, ?_⟩
      · rw [hrun]
        exact congrArg (result :: ·) hresults
      · rw [hrun]
        refine hwritten.trans ?_
        rw [List.append_assoc, List.singleton_append, List.length_cons, List.take_succ_cons]

/-! ## The decisions that were accepted -/

/-- The decisions whose calls succeeded. -/
def accepted (ds : List Decision) (results : List (Except HistoryError Unit)) : List Decision :=
  ((ds.zip results).filter (·.2.isOk)).map (·.1)

theorem accepted_append {ds es : List Decision} {rs ss : List (Except HistoryError Unit)}
    (h : ds.length = rs.length) :
    accepted (ds ++ es) (rs ++ ss) = accepted ds rs ++ accepted es ss := by
  rw [accepted, List.zip_append h, List.filter_append, List.map_append]
  rfl

theorem accepted_of_failed {rs : List (Except HistoryError Unit)} (h : ∀ r ∈ rs, r.isOk = false)
    (ds : List Decision) : accepted ds rs = [] := by
  have hnone : (ds.zip rs).filter (·.2.isOk) = [] := by
    refine List.filter_eq_nil_iff.2 fun x hx => ?_
    rw [h x.2 (List.of_mem_zip hx).2]
    exact Bool.false_ne_true
  rw [accepted, hnone, List.map_nil]

theorem accepted_length_le (ds : List Decision) (rs : List (Except HistoryError Unit)) :
    (accepted ds rs).length ≤ ds.length := by
  have hfilter := List.length_filter_le (fun x : Decision × Except HistoryError Unit => x.2.isOk)
    (ds.zip rs)
  have hzip : (ds.zip rs).length = min ds.length rs.length := List.length_zip
  rw [accepted, List.length_map]
  omega

/-- All decisions are accepted exactly if no call fails. -/
theorem accepted_eq_iff {ds : List Decision} {rs : List (Except HistoryError Unit)}
    (h : rs.length = ds.length) : ds = accepted ds rs ↔ ∀ r ∈ rs, r.isOk = true := by
  induction ds generalizing rs with
  | nil =>
    obtain rfl : rs = [] := List.eq_nil_of_length_eq_zero h
    simp [accepted]
  | cons d ds ih =>
    cases rs with
    | nil => cases h
    | cons r rs =>
      have htail : rs.length = ds.length := Nat.succ.inj h
      rw [List.forall_mem_cons, ← ih htail]
      cases r with
      | ok =>
        have hcons : accepted (d :: ds) (.ok () :: rs) = d :: accepted ds rs := rfl
        rw [hcons, List.cons.injEq]
        exact ⟨fun hds => ⟨rfl, hds.2⟩, fun hds => ⟨rfl, hds.2⟩⟩
      | error e =>
        have hcons : accepted (d :: ds) (.error e :: rs) = accepted ds rs := rfl
        have hshort := accepted_length_le ds rs
        rw [hcons]
        constructor
        · intro hds
          have hlong := congrArg List.length hds
          simp only [List.length_cons] at hlong
          omega
        · intro hfalse
          cases hfalse.1

/-- Memory keeps every decision, also one whose call failed, and the last successful write has every
decision handed in by then.  So memory holds the accepted decisions exactly if no call failed, and the
last text written holds them exactly if no call failed before the one that wrote it. -/
theorem recordAll_keeps_rejected (files : Files (StateM σ)) (path : String)
    (start ds : List Decision) (w : σ) :
    let run := ((⟨some path, start⟩ : History).recordAll files.watched ds).run (w, none)
    let results := run.1.1
    let entries := run.1.2.entries
    let written := run.2.2
    results.length = ds.length ∧ entries = start ++ ds ∧
      (entries = start ++ accepted ds results ↔ ∀ r ∈ results, r.isOk = true) ∧
      ((written = none ∧ ∀ r ∈ results, r.isOk = false) ∨
        ∃ front back, results = front ++ .ok () :: back ∧ (∀ r ∈ back, r.isOk = false) ∧
          written = some (text (start ++ ds.take (front.length + 1))) ∧
          (ds.take (front.length + 1) = accepted ds results ↔ ∀ r ∈ front, r.isOk = true)) := by
  intro run results entries written
  have hlength : results.length = ds.length := recordAll_results_length ..
  have hentries : entries = start ++ ds := congrArg History.entries (recordAll_history ..)
  refine ⟨hlength, hentries, ?_, ?_⟩
  · rw [hentries, List.append_cancel_left_eq, accepted_eq_iff hlength]
  · obtain hnone | ⟨front, back, hresults, hfailed, hwritten⟩ :=
      recordAll_written files path start ds w none
    · exact .inl hnone
    · refine .inr ⟨front, back, hresults, hfailed, hwritten, ?_⟩
      let done : List (Except HistoryError Unit) := front ++ [.ok ()]
      have hback : results = done ++ back := by
        rw [List.append_assoc, List.singleton_append]
        exact hresults
      have hdone : done.length = front.length + 1 := List.length_append
      have htake : done.length = (ds.take (front.length + 1)).length := by
        have hall := congrArg List.length hback
        rw [List.length_append] at hall
        rw [List.length_take]
        omega
      have haccepted : accepted ds results = accepted (ds.take (front.length + 1)) done := by
        rw [hback]
        conv => lhs; rw [← List.take_append_drop (front.length + 1) ds]
        rw [accepted_append htake.symm, accepted_of_failed hfailed, List.append_nil]
      rw [haccepted, accepted_eq_iff htake, List.forall_mem_append, List.forall_mem_singleton]
      exact and_iff_left rfl

/-- A decision to try the failed calls with. -/
def trial (command : String) : Decision :=
  ⟨command, .high, .proceed, default, false⟩

/-- The directory of a history file cannot be made, because a file stands in its place, and the call
fails.  The file is taken away, and the next call writes the decision of both. -/
theorem rejected_decision_written :
    let path := "/data/history.json"
    let calls : StateM Disk (Bool × Bool × List Decision × Option String) := do
      let (first, h) ← record Disk.files ⟨some path, []⟩ (trial "rm -rf build")
      modify fun disk => (disk.removeFile "/data").2
      let (second, h) ← h.record Disk.files (trial "ls")
      return (first.isOk, second.isOk, h.entries, ← Disk.files.read path)
    (calls.run (({} : Disk).write "/data" "").2).1 =
        (false, true, [trial "rm -rf build", trial "ls"],
          some (text [trial "rm -rf build", trial "ls"])) ∧
      text [trial "rm -rf build", trial "ls"] ≠ text [trial "ls"] := by
  constructor
  · rfl
  · decide +kernel

end History

end ShellGuard
