import Mathlib
import ShellGuard.Decision.Protocol

/-!
What the confirmation protocol allows, and what it reads before it does.  Main statement: a command
is allowed exactly when the settings let it pass unasked or the first answer that settles the
question consents to it, and no answer is read that the question does not need.

A dialogue is run against a list of answers for the sake of such statements; what is carried out is
`Dialogue.perform`.  Where the lines that are read come from a script the two agree in all they do
(`Dialogue.perform_scripted`), and a check returns the outcome of its dialogue (`check_eq_hold`).
-/

namespace ShellGuard

namespace Choice

/-- Whether an answer ends the question. -/
def settles : Choice → Bool
  | help | invalid => false
  | _ => true

/-- Whether an answer lets the command run. -/
def consents : Choice → Bool
  | proceed | markSafe => true
  | _ => false

theorem consents_iff (c : Choice) : c.consents = true ↔ c = proceed ∨ c = markSafe := by
  cases c <;> simp [consents]

/-- Only four words consent. -/
theorem word_of_consents {line : String} (h : (parse line).consents = true) :
    Text.lower (Text.trim line) ∈ ["y", "yes", "s", "safe"] := by
  unfold parse at h
  split at h <;> simp_all [consents]

end Choice

/-! ## Reading answers -/

namespace Dialogue

/-- However the questions are answered, there are at most so many of them. -/
def AsksAtMost : Nat → Dialogue → Prop
  | _, finish _ => True
  | n, present _ next => AsksAtMost n next
  | 0, ask _ => False
  | n + 1, ask next => ∀ answer, AsksAtMost n (next answer)

/-- A run reads a prefix of the answers, one for each question at most. -/
theorem AsksAtMost.run_reads {d : Dialogue} {n : Nat} (h : d.AsksAtMost n) (answers : List String) :
    ∃ read, answers = read ++ (d.run answers).unread ∧ read.length ≤ n := by
  induction d generalizing n answers with
  | finish o => exact ⟨[], rfl, Nat.zero_le n⟩
  | present e next ih => exact ih h answers
  | ask next ih =>
    cases n with
    | zero => exact h.elim
    | succ n =>
      cases answers with
      | nil =>
        obtain ⟨read, hread, hlen⟩ := ih none (h none) []
        exact ⟨read, hread, by omega⟩
      | cons line rest =>
        obtain ⟨read, hread, hlen⟩ := ih (some line) (h (some line)) rest
        refine ⟨line :: read, ?_, ?_⟩
        · simpa [run] using hread
        · simpa using hlen

/-- A dialogue without a question leaves the answers alone. -/
theorem AsksAtMost.unread_eq {d : Dialogue} (h : d.AsksAtMost 0) (answers : List String) :
    (d.run answers).unread = answers := by
  obtain ⟨read, hread, hlen⟩ := h.run_reads answers
  have hnil : read = [] := List.eq_nil_of_length_eq_zero (by omega)
  rw [hnil] at hread
  exact hread.symm

/-! ## Carrying out a dialogue -/

/-- What has been shown so far, and the answers that wait for questions. -/
structure Script where
  shown : List Exhibit
  answers : List String

namespace Script

variable {m : Type → Type} [Monad m]

/-- Shows something by keeping it. -/
def present (e : Exhibit) : StateT Script m Unit :=
  modify fun s => { s with shown := s.shown ++ [e] }

/-- Reads the answer that comes next, of which there may be none. -/
def readLine : StateT Script m (Option String) :=
  modifyGet fun s => (s.answers.head?, { s with answers := s.answers.tail })

/-- The dialogue is carried out with the answers of the script. -/
def hold : Dialogue → StateT Script m Outcome :=
  Dialogue.perform present readLine

end Script

/-- Carried out by a script, a dialogue ends as its run does, shows the same things in the same
order and leaves the same answers. -/
theorem perform_scripted {m : Type → Type} [Monad m] [LawfulMonad m] (d : Dialogue)
    (shown : List Exhibit) (answers : List String) :
    let t := d.run answers
    (Script.hold d : StateT Script m Outcome).run ⟨shown, answers⟩ =
      pure (t.outcome, ⟨shown ++ t.exhibits, t.unread⟩) := by
  induction d generalizing shown answers with
  | finish o =>
    simp [Script.hold, perform, run]
  | present e next ih =>
    simpa [Script.hold, perform, Script.present, run] using ih (shown ++ [e]) answers
  | ask next ih =>
    cases answers with
    | nil => simpa [Script.hold, perform, Script.readLine, run] using ih none shown []
    | cons line rest =>
      simpa [Script.hold, perform, Script.readLine, run] using ih (some line) shown rest

end Dialogue

namespace Protocol

/-! ## The question -/

section Question

variable (now : Timestamp) (command : String) (a : Assessment)

theorem question_asksAtMost (attempts : Nat) :
    (question now command a attempts).AsksAtMost attempts := by
  induction attempts with
  | zero => trivial
  | succ n ih =>
    intro answer
    cases answer with
    | none => trivial
    | some line =>
      simp only
      cases Choice.parse line with
      | help | invalid => exact ih
      | proceed | cancel | modify | markSafe => exact True.intro

/-- An answer that settles the question is the last one read, and decides. -/
theorem question_run_settled {line : String} (h : (Choice.parse line).settles = true)
    (attempts : Nat) (rest : List String) :
    let t := (question now command a (attempts + 1)).run (line :: rest)
    t.unread = rest ∧ t.outcome.allowed = (Choice.parse line).consents := by
  simp only [question, Dialogue.run]
  cases hc : Choice.parse line with
  | help | invalid => simp [hc, Choice.settles] at h
  | proceed | cancel | modify | markSafe => exact ⟨rfl, rfl⟩

/-- Any other answer costs an attempt. -/
theorem question_run_unsettled {line : String} (h : (Choice.parse line).settles = false)
    (attempts : Nat) (rest : List String) :
    let t := (question now command a (attempts + 1)).run (line :: rest)
    let t' := (question now command a attempts).run rest
    t.unread = t'.unread ∧ t.outcome = t'.outcome := by
  simp only [question, Dialogue.run]
  cases hc : Choice.parse line with
  | help | invalid => exact ⟨rfl, rfl⟩
  | proceed | cancel | modify | markSafe => simp [hc, Choice.settles] at h

/-- The answer that settles a question of so many attempts, if there is one. -/
def settling (attempts : Nat) (answers : List String) : Option String :=
  (answers.take attempts).find? fun line => (Choice.parse line).settles

theorem question_allowed_iff (attempts : Nat) (answers : List String) :
    ((question now command a attempts).run answers).outcome.allowed = true ↔
      ∃ line, settling attempts answers = some line ∧ (Choice.parse line).consents = true := by
  induction attempts generalizing answers with
  | zero => simp [question, Dialogue.run, settling]
  | succ n ih =>
    cases answers with
    | nil => simp [question, Dialogue.run, settling]
    | cons line rest =>
      cases h : (Choice.parse line).settles with
      | true =>
        rw [(question_run_settled now command a h n rest).2]
        simp [settling, h]
      | false =>
        rw [(question_run_unsettled now command a h n rest).2, ih]
        simp [settling, h]

/-- The answers of a question, split where it stops reading: after the answer that settles it. -/
structure Reading (attempts : Nat) (answers read unread : List String) : Prop where
  whole : answers = read ++ unread
  bounded : read.length ≤ attempts
  unsettled : ∀ line ∈ read.dropLast, (Choice.parse line).settles = false
  settled : ∀ line, settling attempts answers = some line → read.getLast? = some line

theorem Reading.nil (answers : List String) : Reading 0 answers [] answers :=
  ⟨rfl, Nat.le_refl 0, by simp, by simp [settling]⟩

/-- Reading one more answer, which settles nothing. -/
theorem Reading.cons {attempts : Nat} {answers read unread : List String} {line : String}
    (h : (Choice.parse line).settles = false) (r : Reading attempts answers read unread) :
    Reading (attempts + 1) (line :: answers) (line :: read) unread where
  whole := by rw [List.cons_append, ← r.whole]
  bounded := Nat.succ_le_succ r.bounded
  unsettled := by
    cases read with
    | nil => simp
    | cons next read =>
      rw [List.dropLast_cons_cons]
      exact List.forall_mem_cons.2 ⟨h, r.unsettled⟩
  settled := by
    intro last hlast
    have hlast' : settling attempts answers = some last := by simpa [settling, h] using hlast
    rw [List.getLast?_cons, r.settled last hlast', Option.getD_some]

/-- The answer that settles the question is the last one read. -/
theorem Reading.split {attempts : Nat} {answers read unread : List String} {line : String}
    (r : Reading attempts answers read unread) (h : settling attempts answers = some line) :
    ∃ before, answers = before ++ line :: unread := by
  obtain ⟨before, hread⟩ := List.getLast?_eq_some_iff.1 (r.settled line h)
  refine ⟨before, ?_⟩
  rw [r.whole, hread, List.append_assoc, List.singleton_append]

theorem question_reads (attempts : Nat) (answers : List String) :
    ∃ read, Reading attempts answers read
      ((question now command a attempts).run answers).unread := by
  induction attempts generalizing answers with
  | zero => exact ⟨[], .nil answers⟩
  | succ n ih =>
    cases answers with
    | nil => exact ⟨[], rfl, Nat.zero_le _, by simp, by simp [settling]⟩
    | cons line rest =>
      cases h : (Choice.parse line).settles with
      | true =>
        rw [(question_run_settled now command a h n rest).1]
        exact ⟨[line], rfl, Nat.succ_le_succ (Nat.zero_le n), by simp, by simp [settling, h]⟩
      | false =>
        rw [(question_run_unsettled now command a h n rest).1]
        obtain ⟨read, hread⟩ := ih rest
        exact ⟨line :: read, hread.cons h⟩

end Question

/-! ## The protocol -/

/-- No limit is set below this level. -/
def Tolerates (p : Protocol) (level : RiskLevel) : Prop :=
  ∀ limit, p.settings.autoDeny = some limit → level ≤ limit

/-- The command runs in a trusted directory and is not critical. -/
def Spares (p : Protocol) (a : Assessment) : Prop :=
  p.settings.bypassTrusted = true ∧ a.overall < .critical ∧
    p.isTrusted a.environment.currentDirectory = true

/-- Nothing but an answer can decide. -/
def Prompts (p : Protocol) (a : Assessment) : Prop :=
  p.settings.enabled = true ∧ p.Tolerates a.overall ∧ ¬p.Spares a ∧ a.overall ≠ .low

/-- When a command is to be allowed. -/
def Permits (p : Protocol) (assessment : Option Assessment) (answers : List String) : Prop :=
  p.settings.enabled = false ∨ assessment = none ∨
    ∃ a, assessment = some a ∧ p.Tolerates a.overall ∧
      (p.Spares a ∨ a.overall = .low ∨
        ∃ line, settling p.settings.maxAttempts answers = some line ∧
          (Choice.parse line = .proceed ∨ Choice.parse line = .markSafe))

theorem autoDenies_eq_none {p : Protocol} {level : RiskLevel} :
    p.autoDenies level = none ↔ p.Tolerates level := by
  simp only [autoDenies, Tolerates, Option.filter_eq_none_iff, decide_eq_true_eq]
  refine forall_congr' fun limit => imp_congr_right fun _ => ?_
  exact Nat.not_lt

theorem autoDenies_eq_some {p : Protocol} {level limit : RiskLevel}
    (h : p.autoDenies level = some limit) : ¬p.Tolerates level := by
  rw [← autoDenies_eq_none, h]
  exact Option.some_ne_none limit

/-- A critical command is allowed by an answer or not at all. -/
theorem Permits.of_critical {p : Protocol} {a : Assessment} {answers : List String}
    (h : p.Permits (some a) answers) (on : p.settings.enabled = true)
    (critical : a.overall = .critical) :
    p.Prompts a ∧ ∃ line, settling p.settings.maxAttempts answers = some line ∧
      (Choice.parse line).consents = true := by
  -- Trust covers only what is below critical, so neither way around the question is open.
  have untrusted : ¬p.Spares a := by
    intro hs
    have hlt : a.overall < .critical := hs.2.1
    rw [critical] at hlt
    exact Nat.lt_irrefl _ hlt
  have notLow : a.overall ≠ .low := by simp [critical]
  rcases h with off | unassessed | ⟨b, hb, limit, hpass⟩
  · rw [on] at off; cases off
  · cases unassessed
  · cases hb
    refine ⟨⟨on, limit, untrusted, notLow⟩, ?_⟩
    obtain ⟨line, hline, hconsent⟩ := (hpass.resolve_left untrusted).resolve_left notLow
    exact ⟨line, hline, (Choice.consents_iff _).2 hconsent⟩

section Dialogue

variable (p : Protocol) (now : Timestamp) (command : String)

/-- The ways through the protocol, in the order in which they are tried. -/
inductive Route : Option Assessment → Dialogue → Prop
  | unassessed : Route none (.finish ⟨.disabled, true, none⟩)
  | disabled (a : Assessment) (off : p.settings.enabled = false) :
      Route (some a) (.finish ⟨.disabled, true, none⟩)
  | denied (a : Assessment) (on : p.settings.enabled = true) (limit : ¬p.Tolerates a.overall)
      (message : String) (d : Decision) :
      Route (some a) (.present (.notice message) (.finish ⟨.autoDenied, false, some d⟩))
  | spared (a : Assessment) (on : p.settings.enabled = true) (limit : p.Tolerates a.overall)
      (trusted : p.Spares a) :
      Route (some a) (.finish ⟨.bypassedTrusted, true, none⟩)
  | harmless (a : Assessment) (on : p.settings.enabled = true) (limit : p.Tolerates a.overall)
      (low : a.overall = .low) :
      Route (some a) (.finish ⟨.skippedLowRisk, true, none⟩)
  | asked (a : Assessment) (prompts : p.Prompts a) : Route (some a) (p.confirm now command a)

theorem dialogue_route (assessment : Option Assessment) :
    Route p now command assessment (p.dialogue now command assessment) := by
  cases assessment with
  | none => exact .unassessed
  | some a =>
    unfold dialogue
    dsimp only
    cases hon : p.settings.enabled with
    | false => exact .disabled a hon
    | true =>
      cases hdeny : p.autoDenies a.overall with
      | some limit => exact .denied a hon (autoDenies_eq_some hdeny) _ _
      | none =>
        have hlimit : p.Tolerates a.overall := autoDenies_eq_none.1 hdeny
        simp only [Bool.not_true, Bool.false_eq_true, if_false]
        split
        · next hspared => exact .spared a hon hlimit (by simpa [Spares, and_assoc] using hspared)
        · next hspared =>
          split
          · next hlow => exact .harmless a hon hlimit hlow
          · next hlow =>
            exact .asked a ⟨hon, hlimit, by simpa [Spares, and_assoc] using hspared, hlow⟩

/-- What is shown before the question changes neither its end nor its answers. -/
theorem confirm_run (a : Assessment) (answers : List String) :
    let t := (p.confirm now command a).run answers
    let t' := (question now command a p.settings.maxAttempts).run answers
    t.unread = t'.unread ∧ t.outcome = t'.outcome := by
  unfold confirm
  dsimp only
  split <;> exact ⟨rfl, rfl⟩

theorem confirm_asksAtMost (a : Assessment) :
    (p.confirm now command a).AsksAtMost p.settings.maxAttempts := by
  unfold confirm
  dsimp only
  split <;> exact question_asksAtMost now command a p.settings.maxAttempts

variable {p now command} {assessment : Option Assessment} {d : Dialogue}

namespace Route

theorem allowed_iff (r : Route p now command assessment d) (answers : List String) :
    (d.run answers).outcome.allowed = true ↔ p.Permits assessment answers := by
  cases r with
  | unassessed => simp [Dialogue.run, Permits]
  | disabled a off => simp [Dialogue.run, Permits, off]
  | denied a on limit message d => simp [Dialogue.run, Permits, on, limit]
  | spared a on limit trusted => simp [Dialogue.run, Permits, limit, trusted]
  | harmless a on limit low => exact iff_of_true rfl (.inr (.inr ⟨a, rfl, limit, .inr (.inl low)⟩))
  | asked a prompts =>
    obtain ⟨on, limit, untrusted, notLow⟩ := prompts
    rw [(confirm_run p now command a answers).2, question_allowed_iff]
    simp [Permits, on, limit, untrusted, notLow, Choice.consents_iff]

theorem asksAtMost (r : Route p now command assessment d) :
    d.AsksAtMost p.settings.maxAttempts := by
  cases r with
  | unassessed | disabled | denied | spared | harmless => exact True.intro
  | asked a prompts => exact confirm_asksAtMost p now command a

/-- Only the prompt waits for an answer. -/
theorem silent (r : Route p now command assessment d)
    (h : ∀ a, assessment = some a → ¬p.Prompts a) : d.AsksAtMost 0 := by
  cases r with
  | unassessed | disabled | denied | spared | harmless => exact True.intro
  | asked a prompts => exact absurd prompts (h a rfl)

theorem reads (r : Route p now command assessment d) {a : Assessment}
    (ha : assessment = some a) (prompts : p.Prompts a) (answers : List String) :
    ∃ read, Reading p.settings.maxAttempts answers read (d.run answers).unread := by
  obtain ⟨on, limit, untrusted, notLow⟩ := prompts
  cases r with
  | unassessed => cases ha
  | disabled _ off => rw [on] at off; cases off
  | denied b _ intolerable => cases ha; exact absurd limit intolerable
  | spared b _ _ trusted => cases ha; exact absurd trusted untrusted
  | harmless b _ _ low => cases ha; exact absurd low notLow
  | asked b _ =>
    rw [(confirm_run p now command b answers).1]
    exact question_reads now command b p.settings.maxAttempts answers

end Route

end Dialogue

/-- Where files can be written, recording a decision succeeds. -/
theorem keep_ok {m : Type → Type} [Monad m] [LawfulMonad m] (p : Protocol) (files : Files m)
    (h : History) (o : Outcome) (writes : ∀ path text, files.write path text = pure (.ok ())) :
    Prod.fst <$> p.keep files h o = pure (.ok ()) := by
  have hsave : ∀ h : History, h.save files = pure (.ok ()) := by
    intro h
    unfold History.save
    split <;> simp [writes]
  unfold keep
  split
  · split <;> simp [History.record, hsave]
  · simp

/-- Where files can be written, a check returns what its dialogue ends with, whoever holds it. -/
theorem check_eq_hold {m : Type → Type} [Monad m] [LawfulMonad m] (p : Protocol) (files : Files m)
    (hold : Dialogue → m Outcome) (h : History) (now : Timestamp) (command : String)
    (assessment : Option Assessment)
    (writes : ∀ path text, files.write path text = pure (.ok ())) :
    Prod.fst <$> p.check files hold h now command assessment =
      .ok <$> hold (p.dialogue now command assessment) := by
  unfold check
  rw [map_bind, ← bind_pure_comp]
  refine bind_congr fun o => ?_
  calc
    _ = (Except.map fun _ => o) <$> Prod.fst <$> p.keep files h o := by simp
    _ = pure (.ok o) := by
      rw [keep_ok p files h o writes, map_pure]
      rfl

/-- The protocol allows what it should and asks for no more than it needs: a command is allowed
exactly when the settings permit it or an answer does, only the prompt reads answers, it reads none
after the one that settles it, and a critical command runs only after a yes.  Where files can be
written, this is what a check returns, shows and reads. -/
theorem dialogue_allows_exactly (p : Protocol) (now : Timestamp) (command : String)
    (assessment : Option Assessment) (answers : List String) :
    let d := p.dialogue now command assessment
    let t := d.run answers
    (t.outcome.allowed = true ↔ p.Permits assessment answers) ∧
    d.AsksAtMost p.settings.maxAttempts ∧
    ((∀ a, assessment = some a → ¬p.Prompts a) → d.AsksAtMost 0 ∧ t.unread = answers) ∧
    (∀ a, assessment = some a → p.Prompts a →
      ∃ read, Reading p.settings.maxAttempts answers read t.unread) ∧
    (∀ a, assessment = some a → p.settings.enabled = true → a.overall = .critical →
      t.outcome.allowed = true → ∃ before line, answers = before ++ line :: t.unread ∧
        Text.lower (Text.trim line) ∈ ["y", "yes", "s", "safe"]) ∧
    (∀ (m : Type → Type) [Monad m] [LawfulMonad m] (files : Files m) (h : History),
      (∀ path text, files.write path text = pure (.ok ())) →
        Prod.fst <$> p.keep files h t.outcome = pure (.ok ())) ∧
    (∀ (m : Type → Type) [Monad m] [LawfulMonad m] (files : Files (StateT Dialogue.Script m))
      (h : History), (∀ path text, files.write path text = pure (.ok ())) →
        (Prod.fst <$> p.check files Dialogue.Script.hold h now command assessment).run
          ⟨[], answers⟩ = pure (.ok t.outcome, ⟨t.exhibits, t.unread⟩)) := by
  intro d t
  have route : Route p now command assessment d := dialogue_route p now command assessment
  refine ⟨route.allowed_iff answers, route.asksAtMost, ?_, ?_, ?_, ?_, ?_⟩
  · intro h
    have hsilent := route.silent h
    exact ⟨hsilent, hsilent.unread_eq answers⟩
  · intro a ha prompts
    exact route.reads ha prompts answers
  · intro a ha on critical allowed
    have permits : p.Permits assessment answers := (route.allowed_iff answers).1 allowed
    rw [ha] at permits
    obtain ⟨prompts, line, hline, hconsent⟩ := permits.of_critical on critical
    obtain ⟨read, hread⟩ := route.reads ha prompts answers
    obtain ⟨before, hbefore⟩ := hread.split hline
    exact ⟨before, line, hbefore, Choice.word_of_consents hconsent⟩
  · intro m _ _ files h writes
    exact keep_ok p files h t.outcome writes
  · intro m _ _ files h writes
    rw [check_eq_hold p files _ h now command assessment writes, StateT.run_map,
      Dialogue.perform_scripted, map_pure]
    rfl

/-- A critical command in a trusted directory. -/
def homeAtRisk : Assessment where
  overall := .critical
  factors := []
  requiresRoot := false
  affectsSystem := false
  isIrreversible := true
  environment := { Environment.unknown with currentDirectory := "/home/u/src" }

theorem homeAtRisk_prompts : Prompts ⟨{}, some "/home/u"⟩ homeAtRisk := by
  refine ⟨rfl, ?_, ?_, by decide⟩
  · intro limit hlimit
    cases hlimit
  · intro hspared
    exact absurd hspared.2.1 (by decide)

/-- Files that take every text and keep none. -/
def forgetful {m : Type → Type} [Monad m] : Files m where
  exists? _ := pure false
  read _ := pure none
  write _ _ := pure (.ok ())

/-- The third answer allows the command, and a check that has written it down returns that and
leaves the fourth answer unread. -/
theorem dialogue_allows_exactly_third_answer :
    let p : Protocol := ⟨{}, some "/home/u"⟩
    let answers := ["?", "why", " YES ", "no"]
    let t := (p.dialogue default "rm -rf ~" (some homeAtRisk)).run answers
    let checked : StateM Dialogue.Script (Except HistoryError Outcome) :=
      Prod.fst <$> p.check forgetful Dialogue.Script.hold ⟨some "/history.json", []⟩ default
        "rm -rf ~" (some homeAtRisk)
    t.outcome.allowed = true ∧ t.unread = ["no"] ∧ (∃ read, Reading 5 answers read t.unread) ∧
      (∃ before line, answers = before ++ line :: t.unread ∧
        Text.lower (Text.trim line) ∈ ["y", "yes", "s", "safe"]) ∧
      checked.run ⟨[], answers⟩ = (.ok t.outcome, ⟨t.exhibits, ["no"]⟩) := by
  intro p answers t checked
  have hallowed : t.outcome.allowed = true := by
    unfold t answers
    decide +kernel
  have hunread : t.unread = ["no"] := by
    unfold t answers
    decide +kernel
  obtain ⟨-, -, -, hreads, hconsent, -, hchecks⟩ := dialogue_allows_exactly p default "rm -rf ~"
    (some homeAtRisk) answers
  have hchecked : checked.run ⟨[], answers⟩ = (.ok t.outcome, ⟨t.exhibits, t.unread⟩) :=
    hchecks Id forgetful ⟨some "/history.json", []⟩ fun _ _ => rfl
  rw [hunread] at hchecked
  exact ⟨hallowed, hunread, hreads homeAtRisk rfl homeAtRisk_prompts,
    hconsent homeAtRisk rfl rfl rfl hallowed, hchecked⟩

end Protocol

end ShellGuard
