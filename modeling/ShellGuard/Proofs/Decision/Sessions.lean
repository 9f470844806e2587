import Mathlib
import ShellGuard.Proofs.Decision.Consent
import ShellGuard.Proofs.Decision.Recording

/-!
# The history of a session

Commands are put to the protocol one after the other, with one history for all of them.  There are
six ways for a dialogue to end, and several places where each of them is reached; a decision must be
recorded once wherever one is made, and nothing must be recorded otherwise.

What a dialogue can end with is told without its answers (`Dialogue.Ends`), so one case for each end
covers every script: an end without a decision is one of four, and a decision is about the command
that was asked about, at the risk it was assessed at, and allows what the outcome allows
(`Outcome.Fits`).  A check then appends what it decided, and the history after any number of checks
follows by induction (`Protocol.session_run`).
-/

namespace ShellGuard

/-! ## What a dialogue can end with -/

namespace Dialogue

/-- However its questions are answered, the dialogue ends with such an outcome. -/
def Ends (P : Outcome → Prop) : Dialogue → Prop
  | finish o => P o
  | present _ next => next.Ends P
  | ask next => ∀ answer, (next answer).Ends P

theorem Ends.run {P : Outcome → Prop} {d : Dialogue} (h : d.Ends P) (answers : List String) :
    P (d.run answers).outcome := by
  induction d generalizing answers with
  | finish o => exact h
  | present e next ih => exact ih h answers
  | ask next ih =>
    cases answers with
    | nil => exact ih none (h none) []
    | cons line rest => exact ih (some line) (h (some line)) rest

end Dialogue

/-- The ends without a decision. -/
def ProtocolState.undecided : List ProtocolState :=
  [.disabled, .bypassedTrusted, .skippedLowRisk, .abandoned]

/-- An outcome that fits the command it is about. -/
structure Outcome.Fits (now : Timestamp) (command : String) (assessment : Option Assessment)
    (o : Outcome) : Prop where
  undecided : o.state ∈ ProtocolState.undecided ↔ o.decision = none
  allowed : ∀ d, o.decision = some d → o.allowed = d.ruling.allows
  level : ∀ d, o.decision = some d → ∃ a, assessment = some a ∧ d.riskLevel = a.overall
  subject : ∀ d, o.decision = some d → d.command = command ∧ d.time = now
  /-- Only a command that runs is called safe. -/
  marked : ∀ d, o.decision = some d → d.learnedSafe = true → d.ruling = .proceed

namespace Outcome.Fits

variable {now : Timestamp} {command : String}

theorem without {assessment : Option Assessment} {state : ProtocolState}
    (h : state ∈ ProtocolState.undecided) (allowed : Bool) :
    Fits now command assessment ⟨state, allowed, none⟩ := by
  refine ⟨⟨fun _ => rfl, fun _ => h⟩, ?_, ?_, ?_, ?_⟩ <;>
    · intro d hd
      cases hd

theorem decided (a : Assessment) {state : ProtocolState} (h : state ∉ ProtocolState.undecided)
    (ruling : Ruling) {safe : Bool} (hsafe : safe = true → ruling = .proceed) :
    Fits now command (some a)
      ⟨state, ruling.allows, some ⟨command, a.overall, ruling, now, safe⟩⟩ := by
  constructor
  case undecided =>
    refine ⟨fun hstate => absurd hstate h, fun hnone => ?_⟩
    cases hnone
  case allowed =>
    intro d hd
    cases hd
    rfl
  case level =>
    intro d hd
    cases hd
    exact ⟨a, rfl, rfl⟩
  case subject =>
    intro d hd
    cases hd
    exact ⟨rfl, rfl⟩
  case marked =>
    intro d hd
    cases hd
    exact hsafe

end Outcome.Fits

namespace Protocol

section Ends

variable (now : Timestamp) (command : String)

theorem question_ends (a : Assessment) (attempts : Nat) :
    (question now command a attempts).Ends (Outcome.Fits now command (some a)) := by
  have hresolved : .resolved ∉ ProtocolState.undecided := by decide
  induction attempts with
  | zero => exact Outcome.Fits.without (by decide) false
  | succ n ih =>
    intro answer
    cases answer with
    | none => exact Outcome.Fits.without (by decide) false
    | some line =>
      dsimp only
      cases Choice.parse line with
      | help => exact ih
      | invalid => exact ih
      | proceed => exact .decided a hresolved .proceed fun _ => rfl
      | cancel => exact .decided a hresolved .cancel fun hfalse => by cases hfalse
      | modify => exact .decided a hresolved .modify fun hfalse => by cases hfalse
      | markSafe => exact .decided a hresolved .proceed fun _ => rfl

theorem confirm_ends (p : Protocol) (a : Assessment) :
    (p.confirm now command a).Ends (Outcome.Fits now command (some a)) := by
  unfold confirm
  dsimp only
  split
  · exact question_ends now command a p.settings.maxAttempts
  · exact question_ends now command a p.settings.maxAttempts

theorem dialogue_ends (p : Protocol) (assessment : Option Assessment) :
    (p.dialogue now command assessment).Ends (Outcome.Fits now command assessment) := by
  unfold dialogue
  cases assessment with
  | none => exact Outcome.Fits.without (by decide) true
  | some a =>
    -- switched off, denied, in a trusted directory, of low risk, and asked about
    dsimp only
    split
    · exact Outcome.Fits.without (by decide) true
    · split
      · exact Outcome.Fits.decided a (by decide) .autoDenied fun hfalse => by cases hfalse
      · split
        · exact Outcome.Fits.without (by decide) true
        · split
          · exact Outcome.Fits.without (by decide) true
          · exact confirm_ends now command p a

end Ends

/-! ## Sessions -/

/-- A command put to the protocol, and the answers that wait for its questions. -/
structure Inquiry where
  now : Timestamp
  command : String
  assessment : Option Assessment
  answers : List String

/-- How the dialogue about a command ends. -/
def outcome (p : Protocol) (q : Inquiry) : Outcome :=
  ((p.dialogue q.now q.command q.assessment).run q.answers).outcome

theorem outcome_fits (p : Protocol) (q : Inquiry) :
    (p.outcome q).Fits q.now q.command q.assessment :=
  (dialogue_ends q.now q.command p q.assessment).run q.answers

variable {σ : Type}

/-- Commands checked one after the other with one history: what each check returns, and the history
after the last. -/
def session (p : Protocol) (files : Files (StateM σ)) (h : History) :
    List Inquiry → StateM σ (List (Except HistoryError Outcome) × History)
  | [] => return ([], h)
  | q :: qs => do
    let hold := fun d : Dialogue => return (d.run q.answers).outcome
    let (result, h) ← p.check files hold h q.now q.command q.assessment
    let (results, h) ← p.session files h qs
    return (result :: results, h)

/-- What an outcome adds to the history. -/
def recorded (p : Protocol) (o : Outcome) : List Decision :=
  if p.settings.trackDecisions then o.decision.toList else []

/-- While the files are as `fit` says, the history can be written to its file, if it has one. -/
def Writable (files : Files (StateM σ)) (path : Option String) (fit : σ → Prop) : Prop :=
  ∀ file, path = some file → ∀ text w, fit w →
    ((files.write file text).run w).1 = .ok () ∧ fit ((files.write file text).run w).2

/-- A check holds its dialogue and then keeps what was decided. -/
theorem session_cons (p : Protocol) (files : Files (StateM σ)) (h : History) (q : Inquiry)
    (qs : List Inquiry) (w : σ) :
    (p.session files h (q :: qs)).run w =
      let kept := (p.keep files h (p.outcome q)).run w
      let more := (p.session files kept.1.2 qs).run kept.2
      (((kept.1.1.map fun _ => p.outcome q) :: more.1.1, more.1.2), more.2) :=
  rfl

section Session

variable (p : Protocol) {files : Files (StateM σ)} {path : Option String} {fit : σ → Prop}
  (writes : Writable files path fit)

include writes

theorem save_writable (entries : List Decision) {w : σ} (hw : fit w) :
    ∃ w', fit w' ∧ ((⟨path, entries⟩ : History).save files).run w = (.ok (), w') := by
  cases path with
  | none => exact ⟨w, hw, rfl⟩
  | some file =>
    obtain ⟨hok, hfit⟩ := writes file rfl (History.text entries) w hw
    refine ⟨_, hfit, ?_⟩
    rw [History.save_run]
    dsimp only
    rw [hok]
    rfl

theorem keep_run (entries : List Decision) (o : Outcome) {w : σ} (hw : fit w) :
    ∃ w', fit w' ∧
      (p.keep files ⟨path, entries⟩ o).run w = ((.ok (), ⟨path, entries ++ p.recorded o⟩), w') := by
  unfold keep recorded
  cases o.decision with
  | none =>
    refine ⟨w, hw, ?_⟩
    rw [Option.toList_none, ite_self, List.append_nil]
    rfl
  | some d =>
    by_cases htrack : p.settings.trackDecisions = true
    · obtain ⟨w', hw', hsaved⟩ := save_writable writes (entries ++ [d]) hw
      refine ⟨w', hw', ?_⟩
      simp only [if_pos htrack, Option.toList_some]
      rw [History.record_run]
      dsimp only
      rw [hsaved]
    · refine ⟨w, hw, ?_⟩
      simp only [if_neg htrack, List.append_nil]
      rfl

/-- A session answers every inquiry as its dialogue ends, and appends what was decided. -/
theorem session_run (entries : List Decision) (qs : List Inquiry) {w : σ} (hw : fit w) :
    ∃ w', fit w' ∧ (p.session files ⟨path, entries⟩ qs).run w =
      ((qs.map fun q => .ok (p.outcome q),
        ⟨path, entries ++ (qs.map p.outcome).flatMap p.recorded⟩), w') := by
  induction qs generalizing entries w with
  | nil =>
    refine ⟨w, hw, ?_⟩
    simp only [List.map_nil, List.flatMap_nil, List.append_nil]
    rfl
  | cons q qs ih =>
    obtain ⟨w₁, hw₁, hkeep⟩ := keep_run p writes entries (p.outcome q) hw
    obtain ⟨w₂, hw₂, hmore⟩ := ih (entries ++ p.recorded (p.outcome q)) hw₁
    refine ⟨w₂, hw₂, ?_⟩
    rw [List.append_assoc] at hmore
    rw [session_cons]
    dsimp only
    rw [hkeep]
    dsimp only
    rw [hmore]
    rfl

end Session

/-! ## The entries at every point -/

theorem recorded_length_le (p : Protocol) (o : Outcome) : (p.recorded o).length ≤ 1 := by
  unfold recorded
  split
  · cases o.decision with
    | none => exact Nat.zero_le 1
    | some d => exact Nat.le_refl 1
  · exact Nat.zero_le 1

/-- The statistics of decisions that only call safe what runs. -/
theorem stats_balance {ds : List Decision}
    (h : ∀ d ∈ ds, d.learnedSafe = true → d.ruling = .proceed) :
    let s := DecisionStats.ofDecisions ds
    s.total = s.proceed + s.cancel + s.modify + s.autoDenied ∧ s.total = ds.length ∧
      s.learnedSafe ≤ s.proceed := by
  refine ⟨?_, rfl, ?_⟩
  · simp only [DecisionStats.ofDecisions]
    clear h
    induction ds with
    | nil => rfl
    | cons d ds ih =>
      simp only [List.countP_cons, List.length_cons, ih]
      cases d.ruling <;> simp <;> omega
  · refine List.countP_mono_left fun d hd hsafe => ?_
    rw [h d hd hsafe]
    rfl

/-- The history of a session as a ledger of its outcomes: `after n` is the history once `n` of them
have been returned. -/
structure Ledger (p : Protocol) (outcomes : List Outcome) (after : Nat → History) : Prop where
  tracked : p.settings.trackDecisions = true →
    ∀ n, (after n).entries = (outcomes.take n).filterMap (·.decision)
  untracked : p.settings.trackDecisions = false → ∀ n, (after n).entries = []
  kept : ∀ n, (after n).entries <+: (after (n + 1)).entries
  single : ∀ n, (after (n + 1)).entries.length ≤ (after n).entries.length + 1
  undecided : ∀ n o, outcomes[n]? = some o → o.state ∈ ProtocolState.undecided →
    (after (n + 1)).entries = (after n).entries
  balanced : ∀ n, let s := (after n).stats
    s.total = s.proceed + s.cancel + s.modify + s.autoDenied ∧
      s.total = (after n).entries.length ∧ s.learnedSafe ≤ s.proceed

/-- A history that grows by what each outcome adds is a ledger of them. -/
theorem Ledger.of_entries {p : Protocol} {outcomes : List Outcome} {after : Nat → History}
    (hfits : ∀ o ∈ outcomes, ∃ now command assessment, o.Fits now command assessment)
    (h : ∀ n, (after n).entries = (outcomes.take n).flatMap p.recorded) :
    Ledger p outcomes after := by
  have hstep (n : Nat) :
      (after (n + 1)).entries = (after n).entries ++ outcomes[n]?.toList.flatMap p.recorded := by
    rw [h, h, List.take_add_one, List.flatMap_append]
  constructor
  case tracked =>
    intro htrack n
    have hrecorded : p.recorded = fun o => o.decision.toList := funext fun o => if_pos htrack
    rw [h, hrecorded, List.filterMap_eq_flatMap_toList]
  case untracked =>
    intro htrack n
    rw [h]
    simp [recorded, htrack]
  case kept =>
    intro n
    exact ⟨_, (hstep n).symm⟩
  case single =>
    intro n
    rw [hstep, List.length_append]
    cases outcomes[n]? with
    | none => exact Nat.le_succ _
    | some o =>
      have hone := p.recorded_length_le o
      rw [Option.toList_some, List.flatMap_singleton]
      omega
  case undecided =>
    intro n o ho hstate
    obtain ⟨_, _, _, hfit⟩ := hfits o (List.mem_of_getElem? ho)
    have hnone : p.recorded o = [] := by
      rw [recorded, hfit.undecided.1 hstate, Option.toList_none, ite_self]
    rw [hstep, ho, Option.toList_some, List.flatMap_singleton, hnone, List.append_nil]
  case balanced =>
    intro n
    refine stats_balance fun d hd => ?_
    rw [h] at hd
    obtain ⟨o, ho, hrecorded⟩ := List.mem_flatMap.1 hd
    obtain ⟨_, _, _, hfit⟩ := hfits o (List.mem_of_mem_take ho)
    refine hfit.marked d ?_
    unfold recorded at hrecorded
    split at hrecorded
    · exact Option.mem_toList.1 hrecorded
    · cases hrecorded

/-- Every check of a session returns the outcome of its dialogue, which fits its command, and the
history that began empty is the ledger of these outcomes. -/
theorem session_ledger (p : Protocol) {files : Files (StateM σ)} {path : Option String}
    {fit : σ → Prop} (writes : Writable files path fit) {w : σ} (hw : fit w) (qs : List Inquiry) :
    let after (n : Nat) := (p.session files ⟨path, []⟩ (qs.take n)).run w
    (∀ n, (after n).1.1 = (qs.take n).map fun q => .ok (p.outcome q)) ∧
      (∀ q ∈ qs, (p.outcome q).Fits q.now q.command q.assessment) ∧
      Ledger p (qs.map p.outcome) fun n => (after n).1.2 := by
  intro after
  have hafter (n : Nat) : ∃ w', after n = (((qs.take n).map fun q => .ok (p.outcome q),
      ⟨path, ((qs.map p.outcome).take n).flatMap p.recorded⟩), w') := by
    have htake : (qs.take n).map p.outcome = (qs.map p.outcome).take n := List.map_take
    obtain ⟨w', -, hrun⟩ := session_run p writes [] (qs.take n) hw
    rw [List.nil_append, htake] at hrun
    exact ⟨w', hrun⟩
  refine ⟨?_, fun q _ => p.outcome_fits q, Ledger.of_entries ?_ ?_⟩
  · intro n
    obtain ⟨w', hrun⟩ := hafter n
    rw [hrun]
  · intro o ho
    obtain ⟨q, -, rfl⟩ := List.mem_map.1 ho
    exact ⟨_, _, _, p.outcome_fits q⟩
  · intro n
    obtain ⟨w', hrun⟩ := hafter n
    rw [hrun]

/-! ## A session on a disk -/

/-- No directory stands where a history at the root would be. -/
def rootFree (disk : Disk) : Prop :=
  disk.lookup ["history.json".toList] ≠ some .directory

theorem write_of_rootFree {disk : Disk} (h : rootFree disk) (text : String) :
    disk.write "/history.json" text = (.ok (), disk.set ["history.json".toList] (.file text)) := by
  have htree : disk.makeTree ((Path.parent? "/history.json").getD "") = (.ok (), disk) := rfl
  have hplace : disk.placeFor "/history.json" = .ok ["history.json".toList] := rfl
  have htext : disk.writeText "/history.json" text =
      .ok (disk.set ["history.json".toList] (.file text)) := by
    rw [Disk.writeText, hplace]
    exact if_neg fun hor => hor.elim (by decide) h
  rw [Disk.write, htree]
  dsimp only
  rw [htext]

theorem rootFree_writable : Writable Disk.files (some "/history.json") rootFree := by
  intro file hfile text disk hfree
  obtain rfl := Option.some.inj hfile
  have hrun : (Disk.files.write "/history.json" text).run disk = _ := write_of_rootFree hfree text
  rw [hrun]
  refine ⟨rfl, ?_⟩
  have hlookup : (disk.set ["history.json".toList] (.file text)).lookup ["history.json".toList] =
      some (.file text) := by
    rw [Disk.lookup, Disk.set, List.lookup_cons_self]
    exact List.cons_ne_nil _ _
  intro hdirectory
  cases hlookup.symm.trans hdirectory

/-- A harmless command in a trusted directory, a critical one that is called safe after a look at
the help, one that gets no answer and one that is to be changed. -/
theorem session_ledger_on_disk :
    let p : Protocol := ⟨{}, some "/home/u"⟩
    let calm : Assessment := { homeAtRisk with overall := .low }
    let qs : List Inquiry := [⟨default, "ls", some calm, []⟩,
      ⟨default, "rm -rf ~", some homeAtRisk, ["?", "s"]⟩,
      ⟨default, "rm -rf ~", some homeAtRisk, []⟩,
      ⟨default, "rm -rf ~", some homeAtRisk, ["m", "y"]⟩]
    let after (n : Nat) := (p.session Disk.files ⟨some "/history.json", []⟩ (qs.take n)).run {}
    Writable Disk.files (some "/history.json") rootFree ∧ rootFree {} ∧
      qs.map (fun q => (p.outcome q).state) = [.bypassedTrusted, .resolved, .abandoned, .resolved] ∧
      (∀ n, (after n).1.1 = (qs.take n).map fun q => .ok (p.outcome q)) ∧
      (∀ q ∈ qs, (p.outcome q).Fits q.now q.command q.assessment) ∧
      Ledger p (qs.map p.outcome) fun n => (after n).1.2 := by
  intro p calm qs after
  have hfree : rootFree {} := by
    intro hdirectory
    cases hdirectory
  refine ⟨rootFree_writable, hfree, ?_, session_ledger p rootFree_writable hfree qs⟩
  unfold qs p calm
  decide +kernel

end Protocol

end ShellGuard
