import BatchSync.Proofs.Group.Chronicle
import BatchSync.Proofs.Status.Lifecycle

/-!
# How attempts are settled

What the status of an attempt says at any time, by where its driver and its threads are
(`Trial.Standing`). Threads and driver fail an attempt in steps: a failure is captured before the state
changes, so whoever finds the attempt finished finds a failure in it, unless it has succeeded.

1. `ThreadStage.Moves.keeps` says this of the threads, and `Trial.Standing.advance` lifts it.
2. `Trial.Standing.tend` goes through what a driver does, from one phase to the next.
3. `Trial.Returned` reads off the status what an attempt has returned.
-/

namespace BatchSync

variable {ρ ω : Type}

/-! ## The standing of a status -/

/-- A task that has finished without success has captured a failure. -/
def TaskStatus.IsCaptured (s : TaskStatus) : Prop :=
  s.isFinished = true → s.state = .succeeded ∨ s.failure.isSome = true

namespace TaskStatus

variable {s s' : TaskStatus}

theorem state_eq_of_standing (h : s'.standing = s.standing) : s'.state = s.state :=
  congrArg Prod.fst h

theorem failure_eq_of_standing (h : s'.standing = s.standing) : s'.failure = s.failure :=
  congrArg Prod.snd h

theorem isFinished_eq_of_standing (h : s'.standing = s.standing) : s'.isFinished = s.isFinished :=
  congrArg TaskState.isFinished (state_eq_of_standing h)

theorem grows_of_standing (h : s'.standing = s.standing) : s.Grows s' where
  state := fun _ => state_eq_of_standing h
  failure := fun _ hf => (failure_eq_of_standing h).trans hf

/-- A task that has finished has failed, if it neither succeeded nor was killed. -/
theorem state_eq_failed (fin : s.isFinished = true) (succeeded : s.state ≠ .succeeded)
    (killed : s.state ≠ .killed) : s.state = .failed := by
  unfold isFinished at fin
  cases hs : s.state with
  | failed => rfl
  | succeeded => exact absurd hs succeeded
  | killed => exact absurd hs killed
  | notStarted | running => rw [hs] at fin; cases fin

theorem isFinished_of_killed (killed : s.state = .killed) : s.isFinished = true := by
  unfold isFinished
  rw [killed]
  rfl

/-- Killing a task finishes it, but makes it no success. -/
theorem state_kill (going : s.state ≠ .succeeded) :
    (s.moveTo .killed).isFinished = true ∧ (s.moveTo .killed).state ≠ .succeeded := by
  unfold isFinished
  rw [state_moveTo]
  by_cases fin : s.isFinished = true
  · rw [if_pos fin]
    exact ⟨fin, going⟩
  · rw [if_neg fin]
    exact ⟨rfl, nofun⟩

/-- A task that is not finished succeeds without a failure if it has captured none. -/
theorem standing_succeed (running : s.isFinished = false) (none_ : s.failure = none) :
    (s.moveTo .succeeded).state = .succeeded ∧ (s.moveTo .succeeded).failure = none := by
  rw [state_moveTo, failure_moveTo, if_neg (by rw [running]; exact Bool.false_ne_true)]
  exact ⟨rfl, none_⟩

end TaskStatus

/-! ## Stages -/

/-- Whoever is about to change the state, or has done so, leaves a failure behind. -/
def Failing.Backed (failure : Option Failure) : Failing → Prop
  | .settling _ => failure.isSome = true
  | .done => failure.isSome = true
  | _ => True

/-- A thread that is about to close the channel after a failure leaves one behind. -/
def ThreadStage.Backed (failure : Option Failure) : ThreadStage → Prop
  | .failing f => f.Backed failure
  | .closing => failure.isSome = true
  | _ => True

theorem Failing.Backed.mono {s s' : TaskStatus} {f : Failing} (h : f.Backed s.failure)
    (grows : s.Grows s') : f.Backed s'.failure := by
  cases f with
  | settling => exact grows.isSome h
  | done => exact grows.isSome h
  | checking | capturing => trivial

theorem ThreadStage.Backed.mono {s s' : TaskStatus} {g : ThreadStage} (h : g.Backed s.failure)
    (grows : s.Grows s') : g.Backed s'.failure := by
  cases g with
  | failing f => exact Failing.Backed.mono h grows
  | closing => exact grows.isSome h
  | working | finished => trivial

/-- A step of failing a task that has not succeeded. -/
theorem Failing.Backed.step {s : TaskStatus} {f : Failing} (h : f.Backed s.failure)
    (captured : s.IsCaptured) (going : s.state ≠ .succeeded) :
    (f.step s).2.Backed (f.step s).1.failure ∧ (f.step s).1.IsCaptured ∧
      (f.step s).1.state ≠ .succeeded := by
  cases f with
  | checking f n =>
    unfold Failing.step
    dsimp only
    split
    · rename_i fin
      exact ⟨(captured fin).resolve_left going, captured, going⟩
    · exact ⟨trivial, captured, going⟩
  | capturing f n =>
    have some_ : (s.capture f).failure.isSome = true := by
      rw [TaskStatus.failure_capture]
      cases s.failure <;> rfl
    exact ⟨some_, fun _ => .inr some_, going⟩
  | settling n =>
    have some_ : (s.settleFailed n).failure.isSome = true := by
      rw [TaskStatus.failure_settleFailed]
      exact h
    refine ⟨some_, fun _ => .inr some_, ?_⟩
    show (s.settleFailed n).state ≠ .succeeded
    rw [TaskStatus.state_settleFailed]
    split
    · exact going
    · exact nofun
  | done => exact ⟨h, captured, going⟩

/-- No step of failing a task kills it. -/
theorem Failing.killed_of_step {s : TaskStatus} (f : Failing) (h : (f.step s).1.state = .killed) :
    s.state = .killed := by
  cases f with
  | checking f n => unfold Failing.step at h; dsimp only at h; split at h <;> exact h
  | capturing f n => exact h
  | settling n =>
    have h : (s.settleFailed n).state = .killed := h
    rw [TaskStatus.state_settleFailed] at h
    split at h
    · exact h
    · cases h
  | done => exact h

namespace ThreadStage

variable {s s' : TaskStatus} {g g' : ThreadStage}

theorem Moves.grows (h : Moves s g s' g') : s.Grows s' := by
  cases h with
  | work same => exact TaskStatus.grows_of_standing same
  | step => exact Failing.grows_step _ _
  | fail | leave | failed | close => exact TaskStatus.grows_of_standing rfl

theorem Moves.killed (h : Moves s g s' g') (killed : s'.state = .killed) : s.state = .killed := by
  cases h with
  | work same => exact (TaskStatus.state_eq_of_standing same).symm.trans killed
  | step => exact Failing.killed_of_step _ killed
  | fail | leave | failed | close => exact killed

/-- A step of a thread of a task that has not succeeded. -/
theorem Moves.keeps (h : Moves s g s' g') (backed : g.Backed s.failure) (captured : s.IsCaptured)
    (going : s.state ≠ .succeeded) :
    g'.Backed s'.failure ∧ s'.IsCaptured ∧ s'.state ≠ .succeeded := by
  cases h with
  | work same =>
    unfold TaskStatus.IsCaptured
    rw [TaskStatus.isFinished_eq_of_standing same, TaskStatus.state_eq_of_standing same,
      TaskStatus.failure_eq_of_standing same]
    exact ⟨trivial, captured, going⟩
  | step => exact Failing.Backed.step backed captured going
  | failed => exact ⟨backed, captured, going⟩
  | fail | leave | close => exact ⟨trivial, captured, going⟩

end ThreadStage

/-- The stage of the thread of a side. -/
def AttemptThreads.stage (th : AttemptThreads ρ ω) : Side → ThreadStage
  | .reader => th.reader.phase.stage
  | .writer => th.writer.phase.stage

theorem ReaderThread.stage_of_isFinished {t : ReaderThread ρ} (h : t.isFinished = true) :
    t.phase.stage = .finished := by
  obtain ⟨x, k, phase⟩ := t
  cases phase <;> first | rfl | cases h

theorem WriterThread.stage_of_isFinished {t : WriterThread ω} (h : t.isFinished = true) :
    t.phase.stage = .finished := by
  obtain ⟨x, k, phase⟩ := t
  cases phase <;> first | rfl | cases h

/-- The threads of an attempt that is over have ended. -/
theorem Attempt.stage_of_isOver {t : Attempt ρ ω} {th : AttemptThreads ρ ω}
    (threads : t.threads = some th) (ended : t.isOver = true) (side : Side) :
    th.stage side = .finished := by
  unfold isOver at ended
  rw [threads] at ended
  obtain ⟨hr, hw⟩ := Bool.and_eq_true_iff.mp ended
  cases side with
  | reader => exact ReaderThread.stage_of_isFinished hr
  | writer => exact WriterThread.stage_of_isFinished hw

/-- Whether an attempt is over depends on nothing but its threads. -/
theorem Attempt.isOver_of_threads_eq {t t' : Attempt ρ ω} (threads : t'.threads = t.threads) :
    t'.isOver = t.isOver := by
  unfold isOver
  rw [threads]

/-- What a step of a thread does to an attempt, without its plugin. -/
structure Attempt.Advances (t t' : Attempt ρ ω) (th th' : AttemptThreads ρ ω) (side : Side) :
    Prop where
  before : t.threads = some th
  after : t'.threads = some th'
  moves : ThreadStage.Moves t.status (th.stage side) t'.status (th'.stage side)
  other : ∀ o, o ≠ side → th'.stage o = th.stage o

/-- The threads of an attempt that is over take no steps. -/
theorem Attempt.Advances.not_isOver {t t' : Attempt ρ ω} {th th' : AttemptThreads ρ ω} {side : Side}
    (h : t.Advances t' th th' side) : t.isOver ≠ true := by
  intro ended
  have hm := h.moves
  rw [stage_of_isOver h.before ended side] at hm
  cases hm

section Advances

variable {t : Attempt ρ ω} {th : AttemptThreads ρ ω} {s : Surroundings} {es : List AttemptEvent}
  {l : Line}

theorem Attempt.Advances.ofReader {plugin : Reader ρ} {r : ReaderThread ρ} (logged : List LogEvent)
    (threads : t.threads = some th) (h : th.reader.Moves plugin s t.line es l r) :
    t.Advances { t with line := l, threads := some { th with reader := r }, logged } th
      { th with reader := r } .reader := by
  refine ⟨threads, rfl, h.stage, ?_⟩
  intro o ho
  cases o with
  | reader => exact absurd rfl ho
  | writer => rfl

theorem Attempt.Advances.ofWriter {plugin : Writer ω} {r : WriterThread ω} (logged : List LogEvent)
    (threads : t.threads = some th) (h : th.writer.Moves plugin s t.line es l r) :
    t.Advances { t with line := l, threads := some { th with writer := r }, logged } th
      { th with writer := r } .writer := by
  refine ⟨threads, rfl, h.stage, ?_⟩
  intro o ho
  cases o with
  | reader => rfl
  | writer => exact absurd rfl ho

/-- Once its threads have ended, nothing happens to an attempt but through its driver. -/
theorem Trial.Moves.of_isOver {p : GroupPlugins ρ ω} {g : Group ρ ω} {u u' : Trial ρ ω}
    (hm : u.Moves p g es u') (ended : u.attempt.isOver = true) :
    u' = u ∨ ∃ phase t' phase', u.phase = some phase ∧ phase.Tends g u.attempt es t' phase' ∧
      u' = ⟨phase'.held, t'⟩ := by
  cases hm with
  | idle => exact .inl rfl
  | reader logged threads hm =>
    exact absurd ended (Attempt.Advances.ofReader logged threads hm).not_isOver
  | writer logged threads hm =>
    exact absurd ended (Attempt.Advances.ofWriter logged threads hm).not_isOver
  | driver ht => exact .inr ⟨_, _, _, rfl, ht, rfl⟩

end Advances

/-! ## Where an attempt stands -/

namespace Attempt

/-- The threads were started, and the attempt has not succeeded. -/
def IsGoing (t : Attempt ρ ω) : Prop := t.threads.isSome = true ∧ t.status.state ≠ .succeeded

/-- The attempt was neither started nor has anything befallen it. -/
def IsFresh (t : Attempt ρ ω) : Prop :=
  t.threads = none ∧ t.status.state = .running ∧ t.status.failure = none

/-- The attempt ends in a failure: its own, or the one that its group was stopped with. -/
def IsFailing (fatal : Option Failure) (e : Failure) (t : Attempt ρ ω) : Prop :=
  (t.status.state = .killed ∧ fatal = some e) ∨
    (t.status.state ≠ .succeeded ∧ t.status.state ≠ .killed ∧ t.status.failure = some e)

/-- The attempt has ended in a failure. -/
def HasFailed (fatal : Option Failure) (e : Failure) (t : Attempt ρ ω) : Prop :=
  (t.status.state = .killed ∧ fatal = some e) ∨
    (t.status.state = .failed ∧ t.status.failure = some e)

/-- The attempt has succeeded, and both of its threads have ended. -/
structure HasSucceeded (t : Attempt ρ ω) : Prop where
  begun : t.threads.isSome = true
  ended : t.isOver = true
  state : t.status.state = .succeeded
  failure : t.status.failure = none

end Attempt

/-- What a driver in a phase knows of the attempt that it holds. -/
def DriverPhase.Stands (fatal : Option Failure) (t : Attempt ρ ω) : DriverPhase ρ ω → Prop
  | .makingReader _ _ => t.IsFresh
  | .makingWriter _ _ _ => t.IsFresh
  | .hanging _ _ f => t.IsGoing ∧ f.Backed t.status.failure
  | .stopping _ _ f => t.IsGoing ∧ fatal = some f
  | .killing _ _ => t.IsGoing ∧ fatal.isSome = true ∧ t.status.failure.isSome = true
  | .leaving _ _ => t.IsGoing ∧ (t.isOver = true ∨ t.status.isFinished = true)
  | .joining _ _ _ => t.IsGoing ∧ (t.isOver = true ∨ t.status.isFinished = true)
  | .concluding _ _ => t.IsGoing ∧ (t.isOver = true ∨ t.status.isFinished = true)
  | .removing _ _ (.ok ()) =>
    t.IsGoing ∧ t.isOver = true ∧ t.status.isFinished = false ∧ t.status.failure = none
  | .settling _ _ (.ok ()) =>
    t.IsGoing ∧ t.isOver = true ∧ t.status.isFinished = false ∧ t.status.failure = none
  | .removing _ _ (.error e) => t.IsFailing fatal e ∨ t.IsFresh
  | .settling _ _ (.error e) => t.IsFailing fatal e ∨ t.IsFresh
  | .failing _ _ (.checking f _) r => r = .error f ∧ (t.IsFailing fatal f ∨ t.IsFresh)
  | .failing _ _ (.capturing f _) r => r = .error f ∧ (t.IsFailing fatal f ∨ t.IsFresh)
  | .failing _ _ (.settling _) r => ∃ e, r = .error e ∧ t.IsFailing fatal e
  | .failing _ _ .done r => ∃ e, r = .error e ∧ t.HasFailed fatal e
  | .sealing _ _ => t.HasSucceeded
  | _ => t.IsGoing

/-- What is known of an attempt at any time. -/
structure Trial.Standing (fatal : Option Failure) (u : Trial ρ ω) : Prop where
  captured : u.attempt.status.IsCaptured
  killed : u.attempt.status.state = .killed → fatal.isSome = true
  backed : ∀ {th : AttemptThreads ρ ω}, u.attempt.threads = some th →
    ∀ side, (th.stage side).Backed u.attempt.status.failure
  held : ∀ {phase : DriverPhase ρ ω}, u.phase = some phase → phase.Stands fatal u.attempt
  let_go : u.phase = none → u.attempt.HasSucceeded ∨ ∃ e, u.attempt.HasFailed fatal e

/-! ## Steps of threads -/

namespace Attempt

variable {fatal : Option Failure} {e : Failure} {t t' : Attempt ρ ω}

theorem HasFailed.isFinished (h : t.HasFailed fatal e) : t.status.isFinished = true := by
  unfold TaskStatus.isFinished
  rcases h with ⟨hs, -⟩ | ⟨hs, -⟩ <;> rw [hs] <;> rfl

theorem HasFailed.going (h : t.HasFailed fatal e) : t.status.state ≠ .succeeded := by
  rcases h with ⟨hs, -⟩ | ⟨hs, -⟩ <;> rw [hs] <;> exact nofun

theorem IsFailing.going (h : t.IsFailing fatal e) : t.status.state ≠ .succeeded := by
  rcases h with ⟨hs, -⟩ | ⟨hs, -⟩
  · rw [hs]; exact nofun
  · exact hs

/-- A failed attempt stays so, with the same failure. -/
theorem HasFailed.mono (h : t.HasFailed fatal e) (grows : t.status.Grows t'.status) :
    t'.HasFailed fatal e := by
  have same := grows.state h.isFinished
  rcases h with ⟨hs, hf⟩ | ⟨hs, hf⟩
  · exact .inl ⟨same.trans hs, hf⟩
  · exact .inr ⟨same.trans hs, grows.failure e hf⟩

end Attempt

section Advance

variable {fatal : Option Failure} {e : Failure} {t t' : Attempt ρ ω} {th th' : AttemptThreads ρ ω}
  {side : Side}

theorem Attempt.Advances.threads_ne_none (h : t.Advances t' th th' side) : t.threads ≠ none := by
  rw [h.before]
  exact nofun

theorem Attempt.IsFresh.going (h : t.IsFresh) : t.status.state ≠ .succeeded := by
  rw [h.2.1]
  exact nofun

/-- A driver that holds an attempt knows whether it has succeeded. -/
theorem DriverPhase.Stands.going_or {phase : DriverPhase ρ ω} (h : phase.Stands fatal t) :
    t.status.state ≠ .succeeded ∨ t.HasSucceeded := by
  have of_failing : ∀ {e}, t.IsFailing fatal e ∨ t.IsFresh → t.status.state ≠ .succeeded :=
    fun h => h.elim Attempt.IsFailing.going Attempt.IsFresh.going
  cases phase with
  | makingReader | makingWriter => exact .inl (Attempt.IsFresh.going h)
  | removing j a r | settling j a r =>
    cases r with
    | ok u => exact .inl h.1.2
    | error e => exact .inl (of_failing h)
  | failing j a f r =>
    cases f with
    | checking f n => exact .inl (of_failing h.2)
    | capturing f n => exact .inl (of_failing h.2)
    | settling n => obtain ⟨e, -, h⟩ := h; exact .inl h.going
    | done => obtain ⟨e, -, h⟩ := h; exact .inl h.going
  | sealing => exact .inr h
  | hanging | stopping | killing | leaving | joining | concluding => exact .inl h.1.2
  | _ => exact .inl h.2

/-- An attempt that has succeeded has come to a good end on both sides. -/
theorem Trial.Standing.going_or {u : Trial ρ ω} (h : u.Standing fatal) :
    u.attempt.status.state ≠ .succeeded ∨ u.attempt.HasSucceeded := by
  cases hp : u.phase with
  | some phase => exact (h.held hp).going_or
  | none =>
    rcases h.let_go hp with done | ⟨e, failed⟩
    · exact .inr done
    · exact .inl failed.going

/-- An attempt whose threads still move has not succeeded. -/
theorem Trial.Standing.going {phase : Option (DriverPhase ρ ω)}
    (h : Trial.Standing fatal ⟨phase, t⟩) (adv : t.Advances t' th th' side) :
    t.status.state ≠ .succeeded :=
  h.going_or.resolve_right fun done => absurd done.ended adv.not_isOver

/-- What a driver knows of an attempt stays true while the threads move. -/
theorem DriverPhase.Stands.advance {phase : DriverPhase ρ ω} (h : phase.Stands fatal t)
    (adv : t.Advances t' th th' side) (going : t'.status.state ≠ .succeeded) :
    phase.Stands fatal t' := by
  have grows := adv.moves.grows
  have isGoing : t.IsGoing → t'.IsGoing := by
    intro _
    exact ⟨by rw [adv.after]; rfl, going⟩
  have notOver : t.isOver = true → t'.isOver = true := fun ended => absurd ended adv.not_isOver
  have failing : ∀ {e}, t.IsFailing fatal e → t'.IsFailing fatal e := by
    rintro e (⟨hs, hf⟩ | ⟨hs, hk, hf⟩)
    · exact .inl ⟨(grows.state (TaskStatus.isFinished_of_killed hs)).trans hs, hf⟩
    · exact .inr ⟨going, fun k => hk (adv.moves.killed k), grows.failure e hf⟩
  have failing' : ∀ {e}, t.IsFailing fatal e ∨ t.IsFresh → t'.IsFailing fatal e ∨ t'.IsFresh := by
    intro e h
    exact .inl (failing (h.resolve_right fun fresh => adv.threads_ne_none fresh.1))
  cases phase with
  | makingReader | makingWriter => exact absurd h.1 adv.threads_ne_none
  | hanging j a f => exact ⟨isGoing h.1, h.2.mono grows⟩
  | stopping => exact ⟨isGoing h.1, h.2⟩
  | killing => exact ⟨isGoing h.1, h.2.1, grows.isSome h.2.2⟩
  | leaving | joining | concluding => exact ⟨isGoing h.1, h.2.imp notOver grows.isFinished⟩
  | removing j a r | settling j a r =>
    cases r with
    | ok u => exact absurd h.2.1 adv.not_isOver
    | error e => exact failing' h
  | failing j a f r =>
    cases f with
    | checking f n => exact ⟨h.1, failing' h.2⟩
    | capturing f n => exact ⟨h.1, failing' h.2⟩
    | settling n => obtain ⟨e, hr, h⟩ := h; exact ⟨e, hr, failing h⟩
    | done => obtain ⟨e, hr, h⟩ := h; exact ⟨e, hr, h.mono grows⟩
  | sealing => exact absurd h.ended adv.not_isOver
  | idle | entering | registering | watching | sleeping | stamping | reporting | judging | consulting
  | deciding | resting | exited => exact isGoing h

/-- A step of a thread. -/
theorem Trial.Standing.advance {phase : Option (DriverPhase ρ ω)}
    (h : Trial.Standing fatal ⟨phase, t⟩) (adv : t.Advances t' th th' side) :
    Trial.Standing fatal ⟨phase, t'⟩ := by
  have grows := adv.moves.grows
  obtain ⟨backed, captured, going⟩ :=
    adv.moves.keeps (h.backed adv.before side) h.captured (h.going adv)
  refine ⟨captured, fun k => h.killed (adv.moves.killed k), ?_, ?_, ?_⟩
  · intro th₁ h₁ o
    cases adv.after.symm.trans h₁
    by_cases ho : o = side
    · subst ho
      exact backed
    · rw [adv.other o ho]
      exact (h.backed adv.before o).mono grows
  · intro ph hp
    exact (h.held hp).advance adv going
  · intro hp
    rcases h.let_go hp with done | ⟨e, failed⟩
    · exact absurd done.ended adv.not_isOver
    · exact .inr ⟨e, failed.mono grows⟩

end Advance

/-! ## Steps of drivers -/

theorem DriverPhase.held_of_attempt? {phase : DriverPhase ρ ω} {a : Nat}
    (h : phase.attempt? = some a) : phase.held = some phase := by
  unfold held
  rw [h]
  rfl

section Tend

variable {fatal : Option Failure} {t t' : Attempt ρ ω}

/-- A driver that changes nothing but the status of an attempt, and goes on holding it. -/
theorem Trial.Standing.restate {phase phase' : DriverPhase ρ ω} {a : Nat}
    (h : Trial.Standing fatal ⟨some phase, t⟩) (holds : phase'.attempt? = some a)
    (threads : t'.threads = t.threads) (grows : t.status.Grows t'.status)
    (captured : t'.status.IsCaptured) (killed : t'.status.state = .killed → fatal.isSome = true)
    (knows : phase'.Stands fatal t') : Trial.Standing fatal ⟨phase'.held, t'⟩ where
  captured := captured
  killed := killed
  backed := fun hth side => (h.backed (threads.symm.trans hth) side).mono grows
  held := by
    rw [DriverPhase.held_of_attempt? holds]
    rintro _ ⟨⟩
    exact knows
  let_go := by
    rw [DriverPhase.held_of_attempt? holds]
    exact nofun

/-- A driver that changes nothing, and goes on holding the attempt. -/
theorem Trial.Standing.goOn {phase phase' : DriverPhase ρ ω} {a : Nat}
    (h : Trial.Standing fatal ⟨some phase, t⟩) (holds : phase'.attempt? = some a)
    (knows : phase'.Stands fatal t) : Trial.Standing fatal ⟨phase'.held, t⟩ :=
  h.restate holds rfl (TaskStatus.grows_of_standing rfl) h.captured h.killed knows

/-- The next step of failing an attempt. -/
theorem Trial.Standing.failOn {phase phase' : DriverPhase ρ ω} {a : Nat} {f : Failing}
    (h : Trial.Standing fatal ⟨some phase, t⟩) (holds : phase'.attempt? = some a)
    (backed : f.Backed t.status.failure) (going : t.status.state ≠ .succeeded)
    (knows : phase'.Stands fatal (t.failOn f)) :
    Trial.Standing fatal ⟨phase'.held, t.failOn f⟩ :=
  h.restate holds rfl (f.grows_step t.status) (backed.step h.captured going).2.1
    (fun k => h.killed (f.killed_of_step k)) knows

/-- An attempt that has captured no failure is not finished, unless it has succeeded. -/
theorem Trial.Standing.running {u : Trial ρ ω} (h : u.Standing fatal)
    (none_ : u.attempt.status.failure = none) (going : u.attempt.status.state ≠ .succeeded) :
    u.attempt.status.isFinished = false := by
  rw [Bool.eq_false_iff]
  intro fin
  have some_ := (h.captured fin).resolve_left going
  rw [none_] at some_
  cases some_

/-- The result of an attempt that has not succeeded, as its status says. -/
theorem Trial.Standing.stands_removing {phase : DriverPhase ρ ω} {g : Group ρ ω} (j : Job ρ ω)
    (a : Nat) (h : Trial.Standing g.fatal ⟨some phase, t⟩) (going : t.IsGoing)
    (ended : t.isOver = true ∨ t.status.isFinished = true) :
    (DriverPhase.removing j a (g.resultOf t.status)).Stands g.fatal t := by
  unfold Group.resultOf
  by_cases killed : t.status.state = .killed
  · obtain ⟨f, hf⟩ := Option.isSome_iff_exists.mp (h.killed killed)
    rw [if_pos killed]
    refine .inl (.inl ⟨killed, ?_⟩)
    unfold Group.stopFailure
    rw [hf]
    rfl
  · rw [if_neg killed]
    cases hf : t.status.failure with
    | some f => exact .inl (.inr ⟨going.2, killed, hf⟩)
    | none =>
      have running : t.status.isFinished = false := h.running hf going.2
      exact ⟨going, ended.resolve_right (by rw [running]; exact Bool.false_ne_true), running, hf⟩

/-- The next step of failing an attempt with its result. -/
theorem DriverPhase.Stands.failOn {j : Job ρ ω} {a : Nat} {f : Failing} {r : Except Failure Unit}
    (h : (DriverPhase.failing j a f r).Stands fatal t) (going : f ≠ .done) :
    (DriverPhase.failing j a (f.step t.status).2 r).Stands fatal (t.failOn f) := by
  cases f with
  | checking f n =>
    obtain ⟨hr, hf⟩ := h
    unfold Attempt.failOn Failing.step
    dsimp only
    split
    · rename_i fin
      refine ⟨f, hr, ?_⟩
      rcases hf with (⟨hs, hf⟩ | ⟨hn, hk, hf⟩) | fresh
      · exact .inl ⟨hs, hf⟩
      · refine .inr ⟨?_, hf⟩
        exact TaskStatus.state_eq_failed fin hn hk
      · unfold TaskStatus.isFinished at fin
        rw [fresh.2.1] at fin
        cases fin
    · exact ⟨hr, hf⟩
  | capturing f n =>
    obtain ⟨hr, hf⟩ := h
    refine ⟨f, hr, ?_⟩
    rcases hf with (⟨hs, hf⟩ | ⟨hn, hk, hf⟩) | fresh
    · exact .inl ⟨hs, hf⟩
    · refine .inr ⟨hn, hk, ?_⟩
      show t.status.failure.or (some f) = some f
      rw [hf]
      rfl
    · have running : (t.failOn (.capturing f n)).status.state = .running := fresh.2.1
      refine .inr ⟨by rw [running]; exact nofun, by rw [running]; exact nofun, ?_⟩
      show t.status.failure.or (some f) = some f
      rw [fresh.2.2]
      rfl
  | settling n =>
    obtain ⟨e, hr, hf⟩ := h
    refine ⟨e, hr, ?_⟩
    have hs : (t.failOn (.settling n)).status.state =
        if t.status.isFinished then t.status.state else .failed :=
      TaskStatus.state_settleFailed _ _
    have hc : (t.failOn (.settling n)).status.failure = t.status.failure :=
      TaskStatus.failure_settleFailed _ _
    unfold Attempt.HasFailed
    rw [hs, hc]
    rcases hf with ⟨hk, hf⟩ | ⟨hn, hk, hf⟩
    · have fin : t.status.isFinished = true := by unfold TaskStatus.isFinished; rw [hk]; rfl
      rw [if_pos fin]
      exact .inl ⟨hk, hf⟩
    · refine .inr ⟨?_, hf⟩
      split
      · rename_i fin
        exact TaskStatus.state_eq_failed fin hn hk
      · rfl
  | done => exact absurd rfl going

/-- A driver that fails an attempt changes its state only after it has captured the failure. -/
theorem Trial.Standing.backed_failing {j : Job ρ ω} {a : Nat} {f : Failing} {r : Except Failure Unit}
    (h : Trial.Standing fatal ⟨some (.failing j a f r), t⟩) (going : f ≠ .done) :
    f.Backed t.status.failure ∧ t.status.state ≠ .succeeded := by
  have knows := h.held rfl
  have of_failing : ∀ {e}, t.IsFailing fatal e ∨ t.IsFresh → t.status.state ≠ .succeeded :=
    fun hf => hf.elim Attempt.IsFailing.going Attempt.IsFresh.going
  cases f with
  | checking f n => exact ⟨trivial, of_failing knows.2⟩
  | capturing f n => exact ⟨trivial, of_failing knows.2⟩
  | settling n =>
    obtain ⟨e, -, hf⟩ := knows
    refine ⟨?_, hf.going⟩
    rcases hf with ⟨hk, -⟩ | ⟨-, -, hf⟩
    · refine (h.captured (TaskStatus.isFinished_of_killed hk)).resolve_left ?_
      rw [hk]
      exact nofun
    · exact Option.isSome_iff_exists.mpr ⟨e, hf⟩
  | done => exact absurd rfl going

/-- A step of a driver. -/
theorem Trial.Standing.tend {g : Group ρ ω} {phase phase' : DriverPhase ρ ω} {es : List AttemptEvent}
    (h : Trial.Standing g.fatal ⟨some phase, t⟩) (ht : phase.Tends g t es t' phase') :
    Trial.Standing g.fatal ⟨phase'.held, t'⟩ := by
  have knows := h.held rfl
  cases ht with
  | makeReader => exact h.goOn rfl knows
  | makeReaderFails => exact h.goOn rfl (.inr knows)
  | makeWriter =>
    have going : t.status.state ≠ .succeeded := Attempt.IsFresh.going knows
    refine ⟨h.captured, h.killed, ?_, ?_, nofun⟩
    · rintro _ ⟨⟩ side
      cases side <;> trivial
    · rintro _ ⟨⟩
      exact ⟨rfl, going⟩
  | makeWriterFails => exact h.goOn rfl (.inr knows)
  | register => exact h.goOn rfl knows
  | seeOver ended => exact h.goOn rfl ⟨knows, .inl ended⟩
  | doze | wake => exact h.goOn rfl knows
  | stamp =>
    exact h.restate rfl rfl (TaskStatus.grows_of_standing rfl) h.captured h.killed knows
  | findHung => exact h.goOn rfl ⟨knows, trivial⟩
  | report => exact h.goOn rfl knows
  | hang =>
    obtain ⟨backed, captured, going⟩ := knows.2.step h.captured knows.1.2
    exact h.failOn rfl knows.2 knows.1.2 ⟨⟨knows.1.1, going⟩, backed⟩
  | hanged => exact h.goOn rfl knows.1
  | seeFinished finished => exact h.goOn rfl ⟨knows, .inr finished⟩
  | judge => exact h.goOn rfl knows
  | seeStopped fatal => exact h.goOn rfl ⟨knows, fatal⟩
  | consult => exact h.goOn rfl knows
  | @stop j a t f =>
    have some_ := t.status.isSome_capture f
    have stopped : g.fatal.isSome = true := by rw [knows.2]; rfl
    exact h.restate rfl rfl (t.status.grows_capture f) (fun _ => .inr some_) h.killed
      ⟨knows.1, stopped, some_⟩
  | kill =>
    obtain ⟨going, stopped, some_⟩ := knows
    have grows := t.status.grows_moveTo .killed
    obtain ⟨ended, notSucceeded⟩ := TaskStatus.state_kill going.2
    exact h.restate rfl rfl grows (fun _ => .inr (grows.isSome some_)) (fun _ => stopped)
      ⟨⟨going.1, notSucceeded⟩, .inr ended⟩
  | shut => exact h.restate rfl rfl (TaskStatus.grows_of_standing rfl) h.captured h.killed knows
  | leave | join => exact h.goOn rfl knows
  | conclude => exact h.goOn rfl (h.stands_removing _ _ knows.1 knows.2)
  | @remove j a t r => cases r <;> exact h.goOn rfl knows
  | settle =>
    obtain ⟨going, ended, running, none_⟩ := knows
    obtain ⟨hs, hf⟩ := TaskStatus.standing_succeed running none_
    have not_killed : (t.status.moveTo .succeeded).state ≠ .killed := by rw [hs]; exact nofun
    exact h.restate rfl rfl (t.status.grows_moveTo _) (fun _ => .inl hs)
      (fun killed => absurd killed not_killed) ⟨going.1, ended, hs, hf⟩
  | settleFailed => exact h.goOn rfl ⟨rfl, knows⟩
  | @fail j a t f r going =>
    obtain ⟨backed, notSucceeded⟩ := h.backed_failing going
    exact h.failOn rfl backed notSucceeded (knows.failOn going)
  | failed =>
    obtain ⟨e, -, failed⟩ := knows
    exact ⟨h.captured, h.killed, h.backed, nofun, fun _ => .inr ⟨e, failed⟩⟩
  | sealed =>
    exact ⟨h.captured, h.killed, h.backed, nofun,
      fun _ => .inl ⟨knows.begun, knows.ended, knows.state, knows.failure⟩⟩

end Tend

/-! ## All steps -/

section Moves

variable {p : GroupPlugins ρ ω} {g : Group ρ ω} {u u' : Trial ρ ω} {es : List AttemptEvent}

/-- A new attempt. -/
theorem Trial.standing_fresh (g : Group ρ ω) (j : Job ρ ω) (a : Nat) :
    Trial.Standing none ⟨some (.makingReader j a), g.freshAttempt j.spec⟩ where
  captured := nofun
  killed := nofun
  backed := nofun
  held := by rintro _ ⟨⟩; exact ⟨rfl, rfl, rfl⟩
  let_go := nofun

theorem Trial.Standing.moves (h : u.Standing g.fatal) (hm : u.Moves p g es u') :
    u'.Standing g.fatal := by
  cases hm with
  | idle => exact h
  | driver ht => exact h.tend ht
  | reader logged threads hr =>
    exact h.advance (.ofReader logged threads hr)
  | writer logged threads hw =>
    exact h.advance (.ofWriter logged threads hw)

/-- What is known of an attempt stays so when its group is stopped. -/
theorem Trial.Standing.stop {f : Failure} (h : u.Standing none) : u.Standing (some f) := by
  have failed : ∀ {e}, u.attempt.HasFailed none e → u.attempt.HasFailed (some f) e := by
    rintro e (⟨-, hf⟩ | failed)
    · cases hf
    · exact .inr failed
  have failing : ∀ {e}, u.attempt.IsFailing none e → u.attempt.IsFailing (some f) e := by
    rintro e (⟨-, hf⟩ | failing)
    · cases hf
    · exact .inr failing
  have failing' : ∀ {e}, u.attempt.IsFailing none e ∨ u.attempt.IsFresh →
      u.attempt.IsFailing (some f) e ∨ u.attempt.IsFresh := fun h => h.imp failing id
  refine ⟨h.captured, fun _ => rfl, h.backed, ?_, fun hp => (h.let_go hp).imp id ?_⟩
  · intro phase hp
    have knows := h.held hp
    cases phase with
    | stopping => cases knows.2
    | killing => cases knows.2.1
    | removing j a r | settling j a r =>
      cases r with
      | ok u => exact knows
      | error e => exact failing' knows
    | failing j a f r =>
      cases f with
      | checking f n => exact ⟨knows.1, failing' knows.2⟩
      | capturing f n => exact ⟨knows.1, failing' knows.2⟩
      | settling n => obtain ⟨e, hr, hf⟩ := knows; exact ⟨e, hr, failing hf⟩
      | done => obtain ⟨e, hr, hf⟩ := knows; exact ⟨e, hr, failed hf⟩
    | _ => exact knows
  · rintro ⟨e, hf⟩
    exact ⟨e, failed hf⟩

/-- A status grows in every step. -/
theorem Trial.Moves.grows (hm : u.Moves p g es u') :
    u.attempt.status.Grows u'.attempt.status := by
  have same : ∀ s : TaskStatus, s.Grows s := fun s => TaskStatus.grows_of_standing rfl
  cases hm with
  | idle => exact same _
  | reader logged threads hr => exact hr.stage.grows
  | writer logged threads hw => exact hw.stage.grows
  | driver ht =>
    cases ht with
    | stamp | sealed => exact TaskStatus.grows_of_standing rfl
    | hang => exact Failing.grows_step _ _
    | fail => exact Failing.grows_step _ _
    | stop => exact TaskStatus.grows_capture _ _
    | kill | settle => exact TaskStatus.grows_moveTo _ _
    | _ => exact same _

end Moves

/-! ## What an attempt has returned -/

/-- What an attempt has come to, by its status. -/
def Attempt.Results (fatal : Option Failure) (t : Attempt ρ ω) : Except Failure Unit → Prop
  | .ok () => t.HasSucceeded
  | .error e => t.HasFailed fatal e

/-- Once an attempt has returned, no driver holds it any more, and its status says what it returned. -/
def Trial.Returned (fatal : Option Failure) (u : Trial ρ ω) (es : List AttemptEvent) : Prop :=
  ∀ r, .returned r ∈ es → u.phase = none ∧ u.attempt.Results fatal r

section Returned

variable {fatal : Option Failure} {t t' : Attempt ρ ω}

/-- What an attempt has come to stays so while its threads move. -/
theorem Attempt.Results.advance {r : Except Failure Unit} {th th' : AttemptThreads ρ ω} {side : Side}
    (h : t.Results fatal r) (adv : t.Advances t' th th' side) : t'.Results fatal r := by
  cases r with
  | ok u => exact absurd (HasSucceeded.ended h) adv.not_isOver
  | error e => exact HasFailed.mono h adv.moves.grows

theorem Trial.Returned.moves {p : GroupPlugins ρ ω} {g : Group ρ ω} {u u' : Trial ρ ω}
    {es es' : List AttemptEvent} (h : u.Returned g.fatal es) (standing : u.Standing g.fatal)
    (hm : u.Moves p g es' u') : u'.Returned g.fatal (es ++ es') := by
  intro r hr
  rw [List.mem_append] at hr
  cases hm with
  | idle => exact h r (hr.resolve_right List.not_mem_nil)
  | reader logged threads hm =>
    obtain ⟨hp, results⟩ := h r (hr.resolve_right fun hr => by cases hm.side?_eq _ hr)
    exact ⟨hp, results.advance (.ofReader logged threads hm)⟩
  | writer logged threads hm =>
    obtain ⟨hp, results⟩ := h r (hr.resolve_right fun hr => by cases hm.side?_eq _ hr)
    exact ⟨hp, results.advance (.ofWriter logged threads hm)⟩
  | driver ht =>
    have hr := hr.resolve_left fun hr => nomatch (h r hr).1
    have knows := standing.held rfl
    cases ht with
    | failed =>
      cases List.mem_singleton.mp hr
      obtain ⟨e, rfl, failed⟩ := knows
      exact ⟨rfl, failed⟩
    | sealed =>
      cases List.mem_singleton.mp hr
      exact ⟨rfl, ⟨knows.begun, knows.ended, knows.state, knows.failure⟩⟩
    | findHung | stop => cases List.mem_singleton.mp hr
    | _ => exact absurd hr List.not_mem_nil

theorem Trial.Returned.stop {f : Failure} {u : Trial ρ ω} {es : List AttemptEvent}
    (h : u.Returned none es) : u.Returned (some f) es := by
  intro r hr
  obtain ⟨hp, results⟩ := h r hr
  refine ⟨hp, ?_⟩
  cases r with
  | ok u => exact results
  | error e =>
    rcases results with ⟨-, hf⟩ | failed
    · cases hf
    · exact .inr failed

end Returned

/-! ## Runs -/

/-- What is known of every attempt, in every run. -/
theorem Chronicle.standing_of_run {p : GroupPlugins ρ ω} {config : CoreConfig} {now : Int}
    {tasks : List (TaskSpec ρ ω)} {moves : List GroupMove} {c : Chronicle ρ ω}
    (h : (start config now tasks).run p moves = some c) {a : Nat} {u : Trial ρ ω}
    (hu : c.group.trial? a = some u) :
    u.Standing c.group.fatal ∧ u.Returned c.group.fatal (c.eventsOf a) := by
  refine trial_induction
    (I := fun fatal u es => u.Standing fatal ∧ u.Returned fatal es) ?_ ?_ ?_ h hu
  · exact fun g j a => ⟨Trial.standing_fresh g j a, nofun⟩
  · exact fun hi => ⟨hi.1.stop, hi.2.stop⟩
  · exact fun hi hm => ⟨hi.1.moves hm, hi.2.moves hi.1 hm⟩

end BatchSync
