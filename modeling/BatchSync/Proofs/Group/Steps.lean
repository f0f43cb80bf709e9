import BatchSync.Group.Step
import BatchSync.Proofs.Attempt.Threads

/-!
# What can happen in a group

All that a move of a group can do, together with what is to be told of it. A driver that holds an
attempt changes nothing but that attempt, what is watched and told, and its own phase
(`DriverPhase.Tends`); the other moves of a group are named one by one (`Group.Steps`).

A driver only holds attempts that have begun (`Group.Holds`), which every move keeps.
-/

namespace BatchSync

variable {ρ ω : Type}

/-! ## Attempts in the hands of drivers -/

/-- The attempt that a driver holds. -/
def DriverPhase.attempt? : DriverPhase ρ ω → Option Nat
  | .makingReader _ a => some a
  | .makingWriter _ a _ => some a
  | .registering _ a => some a
  | .watching _ a => some a
  | .sleeping _ a _ => some a
  | .stamping _ a => some a
  | .reporting _ a => some a
  | .hanging _ a _ => some a
  | .judging _ a => some a
  | .consulting _ a => some a
  | .stopping _ a _ => some a
  | .killing _ a => some a
  | .leaving _ a => some a
  | .joining _ a _ => some a
  | .concluding _ a => some a
  | .removing _ a _ => some a
  | .settling _ a _ => some a
  | .failing _ a _ _ => some a
  | .sealing _ a => some a
  | _ => none

/-- The failure that the monitor finds in a report of an attempt, if it hangs. -/
def Group.hung? (g : Group ρ ω) (j : Job ρ ω) (t : Attempt ρ ω) : Option Failure :=
  (g.monitor.look g.now j.spec.task t.status).hung

/-- What is to be told of the next step of a driver that holds an attempt. -/
def DriverPhase.events (g : Group ρ ω) : DriverPhase ρ ω → List AttemptEvent
  | .reporting j a => ((g.attempts[a]?).bind (g.hung? j)).elim [] fun f => [.hung f]
  | .stopping _ _ f => [.stopped f]
  | .failing _ _ .done result => [.returned result]
  | .sealing _ _ => [.returned (.ok ())]
  | _ => []

/-- What is watched after the step of a driver. -/
def DriverPhase.monitor (g : Group ρ ω) : DriverPhase ρ ω → HangMonitor
  | .registering j a => (g.attempts[a]?).elim g.monitor fun t =>
      g.monitor.register g.now j.spec.task t.status
  | .reporting j a => (g.attempts[a]?).elim g.monitor fun t =>
      (g.monitor.look g.now j.spec.task t.status).monitor
  | .removing j _ _ => g.monitor.remove j.spec.task
  | _ => g.monitor

/-- What was told of plugins after the step of a driver. -/
def DriverPhase.journal (g : Group ρ ω) : DriverPhase ρ ω → List JournalEntry
  | .makingReader j a => (g.tell a .reader [.created j.readers]).journal
  | .makingWriter j a _ => (g.tell a .writer [.created j.writers]).journal
  | _ => g.journal

/-- A job with one more reader asked for. -/
def Job.askReader (j : Job ρ ω) : Job ρ ω := { j with readers := j.readers + 1 }

/-- A job with one more writer asked for. -/
def Job.askWriter (j : Job ρ ω) : Job ρ ω := { j with writers := j.writers + 1 }

/-- An attempt with the next step of failing it. -/
def Attempt.failOn (t : Attempt ρ ω) (f : Failing) : Attempt ρ ω :=
  t.mapStatus fun _ => (f.step t.status).1

/-- All that a step of a driver can do to the attempt that it holds, and what is to be told of it. -/
inductive DriverPhase.Tends (g : Group ρ ω) :
    DriverPhase ρ ω → Attempt ρ ω → List AttemptEvent → Attempt ρ ω → DriverPhase ρ ω → Prop
  | makeReader {j : Job ρ ω} {a : Nat} {t : Attempt ρ ω} {r : ρ}
      (made : j.spec.reader j.readers = .ok r) :
      Tends g (.makingReader j a) t [] t (.makingWriter j.askReader a r)
  | makeReaderFails {j : Job ρ ω} {a : Nat} {t : Attempt ρ ω} {e : PluginError}
      (failed : j.spec.reader j.readers = .error e) :
      Tends g (.makingReader j a) t [] t (.removing j.askReader a (.error (.ofPlugin e)))
  | makeWriter {j : Job ρ ω} {a : Nat} {t : Attempt ρ ω} {r : ρ} {w : ω}
      (made : j.spec.writer j.writers = .ok w) :
      Tends g (.makingWriter j a r) t []
        (t.start g.config.transport.exchanger.bufferSize g.config.statistics.maxDirtyNumber r w)
        (.registering j.askWriter a)
  | makeWriterFails {j : Job ρ ω} {a : Nat} {t : Attempt ρ ω} {r : ρ} {e : PluginError}
      (failed : j.spec.writer j.writers = .error e) :
      Tends g (.makingWriter j a r) t [] t (.removing j.askWriter a (.error (.ofPlugin e)))
  | register {j : Job ρ ω} {a : Nat} {t : Attempt ρ ω} :
      Tends g (.registering j a) t [] t (.watching j a)
  | seeOver {j : Job ρ ω} {a : Nat} {t : Attempt ρ ω} (ended : t.isOver = true) :
      Tends g (.watching j a) t [] t (.leaving j a)
  | doze {j : Job ρ ω} {a : Nat} {t : Attempt ρ ω} (going : t.isOver = false) :
      Tends g (.watching j a) t [] t
        (.sleeping j a (g.after g.config.container.taskGroup.sleepInterval))
  | wake {j : Job ρ ω} {a : Nat} {t : Attempt ρ ω} {ends : Nanos} (due : ends ≤ g.instant) :
      Tends g (.sleeping j a ends) t [] t (.stamping j a)
  | stamp {j : Job ρ ω} {a : Nat} {t : Attempt ρ ω} :
      Tends g (.stamping j a) t [] (t.mapStatus (·.stamp g.now)) (.reporting j a)
  | findHung {j : Job ρ ω} {a : Nat} {t : Attempt ρ ω} {f : Failure} (hung : g.hung? j t = some f) :
      Tends g (.reporting j a) t [.hung f] t (.hanging j a (.checking f g.now))
  | report {j : Job ρ ω} {a : Nat} {t : Attempt ρ ω} (well : g.hung? j t = none) :
      Tends g (.reporting j a) t [] t (.judging j a)
  | hang {j : Job ρ ω} {a : Nat} {t : Attempt ρ ω} {f : Failing} (going : f ≠ .done) :
      Tends g (.hanging j a f) t [] (t.failOn f) (.hanging j a (f.step t.status).2)
  | hanged {j : Job ρ ω} {a : Nat} {t : Attempt ρ ω} :
      Tends g (.hanging j a .done) t [] t (.judging j a)
  | seeFinished {j : Job ρ ω} {a : Nat} {t : Attempt ρ ω} (finished : t.status.isFinished = true) :
      Tends g (.judging j a) t [] t (.leaving j a)
  | judge {j : Job ρ ω} {a : Nat} {t : Attempt ρ ω} (going : t.status.isFinished = false) :
      Tends g (.judging j a) t [] t (.consulting j a)
  | seeStopped {j : Job ρ ω} {a : Nat} {t : Attempt ρ ω} {f : Failure} (fatal : g.fatal = some f) :
      Tends g (.consulting j a) t [] t (.stopping j a f)
  | consult {j : Job ρ ω} {a : Nat} {t : Attempt ρ ω} (going : g.fatal = none) :
      Tends g (.consulting j a) t [] t (.watching j a)
  | stop {j : Job ρ ω} {a : Nat} {t : Attempt ρ ω} {f : Failure} :
      Tends g (.stopping j a f) t [.stopped f] (t.mapStatus (·.capture f)) (.killing j a)
  | kill {j : Job ρ ω} {a : Nat} {t : Attempt ρ ω} :
      Tends g (.killing j a) t [] (t.mapStatus (·.moveTo .killed)) (.leaving j a)
  | shut {j : Job ρ ω} {a : Nat} {t : Attempt ρ ω} (finished : t.status.isFinished = true) :
      Tends g (.leaving j a) t [] { t with line := t.line.close }
        (.joining j a (g.after g.config.container.task.failover.maxWait))
  | leave {j : Job ρ ω} {a : Nat} {t : Attempt ρ ω} (going : t.status.isFinished = false) :
      Tends g (.leaving j a) t [] t
        (.joining j a (g.after g.config.container.task.failover.maxWait))
  | join {j : Job ρ ω} {a : Nat} {t : Attempt ρ ω} {ends : Nanos}
      (due : t.isOver = true ∨ ends ≤ g.instant) :
      Tends g (.joining j a ends) t [] t (.concluding j a)
  | conclude {j : Job ρ ω} {a : Nat} {t : Attempt ρ ω} :
      Tends g (.concluding j a) t [] t (.removing j a (g.resultOf t.status))
  | remove {j : Job ρ ω} {a : Nat} {t : Attempt ρ ω} {result : Except Failure Unit} :
      Tends g (.removing j a result) t [] t (.settling j a result)
  | settle {j : Job ρ ω} {a : Nat} {t : Attempt ρ ω} :
      Tends g (.settling j a (.ok ())) t [] (t.mapStatus (·.moveTo .succeeded)) (.sealing j a)
  | settleFailed {j : Job ρ ω} {a : Nat} {t : Attempt ρ ω} {f : Failure} :
      Tends g (.settling j a (.error f)) t [] t (.failing j a (.checking f g.now) (.error f))
  | fail {j : Job ρ ω} {a : Nat} {t : Attempt ρ ω} {f : Failing} {result : Except Failure Unit}
      (going : f ≠ .done) :
      Tends g (.failing j a f result) t [] (t.failOn f) (.failing j a (f.step t.status).2 result)
  | failed {j : Job ρ ω} {a : Nat} {t : Attempt ρ ω} {result : Except Failure Unit} :
      Tends g (.failing j a .done result) t [.returned result] t (.deciding j result)
  | sealed {j : Job ρ ω} {a : Nat} {t : Attempt ρ ω} :
      Tends g (.sealing j a) t [.returned (.ok ())] (t.mapStatus (·.stamp g.now))
        (.deciding j (.ok ()))

namespace Group

/-- A group after an attempt was changed, and what is watched and told. -/
def tended (g : Group ρ ω) (a : Nat) (t : Attempt ρ ω) (monitor : HangMonitor)
    (journal : List JournalEntry) : Group ρ ω :=
  { g with attempts := g.attempts.set a t, monitor, journal }

theorem modifyAttempt_eq {g : Group ρ ω} {a : Nat} {t : Attempt ρ ω} (found : g.attempts[a]? = some t)
    (f : Attempt ρ ω → Attempt ρ ω) :
    g.modifyAttempt a f = { g with attempts := g.attempts.set a (f t) } := by
  have hm : g.attempts.modify a f = g.attempts.set a (f t) := by
    apply List.ext_getElem?
    intro i
    rw [List.getElem?_modify, List.getElem?_set]
    by_cases hi : a = i
    · subst hi
      obtain ⟨lt, rfl⟩ := List.getElem?_eq_some_iff.mp found
      simp [lt]
    · simp [hi]
  unfold modifyAttempt
  rw [hm]

theorem set_attempt {g : Group ρ ω} {a : Nat} {t : Attempt ρ ω} (found : g.attempts[a]? = some t) :
    g.attempts.set a t = g.attempts := by
  obtain ⟨lt, rfl⟩ := List.getElem?_eq_some_iff.mp found
  exact List.set_getElem_self lt

/-- What a driver in a phase has come to, if all it did was to tend the attempt that it holds, and to watch
and tell. -/
def Tended (g : Group ρ ω) (phase : DriverPhase ρ ω) (a : Nat) (t : Attempt ρ ω)
    (next : Group ρ ω × DriverPhase ρ ω) : Prop :=
  ∃ t', phase.Tends g t (phase.events g) t' next.2 ∧
    next.1 = g.tended a t' (phase.monitor g) (phase.journal g)

section Tending

variable {g : Group ρ ω} {j : Job ρ ω} {a : Nat} {t : Attempt ρ ω} {next : Group ρ ω × DriverPhase ρ ω}

/-- The attempt is left as it is. -/
theorem tended_same {phase phase' : DriverPhase ρ ω} (found : g.attempts[a]? = some t)
    (tends : phase.Tends g t (phase.events g) t phase') :
    g.Tended phase a t ({ g with monitor := phase.monitor g, journal := phase.journal g }, phase') := by
  refine ⟨t, tends, ?_⟩
  unfold tended
  rw [set_attempt found]

/-- Nothing but the attempt is changed. -/
theorem tended_modified {phase phase' : DriverPhase ρ ω} {f : Attempt ρ ω → Attempt ρ ω}
    (found : g.attempts[a]? = some t) (tends : phase.Tends g t (phase.events g) (f t) phase')
    (monitor : phase.monitor g = g.monitor) (journal : phase.journal g = g.journal) :
    g.Tended phase a t (g.modifyAttempt a f, phase') := by
  refine ⟨f t, tends, ?_⟩
  rw [monitor, journal]
  exact modifyAttempt_eq found f

theorem tended_makingReader (found : g.attempts[a]? = some t)
    (h : g.stepPhase (.makingReader j a) = some next) : g.Tended (.makingReader j a) a t next := by
  unfold stepPhase at h
  simp only [makeReader] at h
  cases made : j.spec.reader j.readers with
  | ok r => rw [made] at h; cases h; exact tended_same found (.makeReader made)
  | error e => rw [made] at h; cases h; exact tended_same found (.makeReaderFails made)

theorem tended_makingWriter {r : ρ} (found : g.attempts[a]? = some t)
    (h : g.stepPhase (.makingWriter j a r) = some next) : g.Tended (.makingWriter j a r) a t next := by
  unfold stepPhase at h
  simp only [makeWriter] at h
  cases made : j.spec.writer j.writers with
  | ok w =>
    rw [made] at h
    cases h
    exact ⟨_, .makeWriter made,
      modifyAttempt_eq (g := g.tell a .writer [.created j.writers]) found _⟩
  | error e => rw [made] at h; cases h; exact tended_same found (.makeWriterFails made)

theorem tended_registering (found : g.attempts[a]? = some t)
    (h : g.stepPhase (.registering j a) = some next) : g.Tended (.registering j a) a t next := by
  have watched : (DriverPhase.registering j a).monitor g =
      g.monitor.register g.now j.spec.task t.status := by
    simp only [DriverPhase.monitor, found, Option.elim_some]
  have tended := tended_same found (.register : (DriverPhase.registering j a).Tends g t [] t _)
  rw [watched] at tended
  unfold stepPhase at h
  simp only [found] at h
  cases h
  exact tended

theorem tended_watching (found : g.attempts[a]? = some t)
    (h : g.stepPhase (.watching j a) = some next) : g.Tended (.watching j a) a t next := by
  unfold stepPhase at h
  simp only [found, Option.bind_eq_bind, Option.bind_some] at h
  cases ended : t.isOver with
  | true =>
    rw [if_pos ended] at h
    cases h
    exact tended_same found (.seeOver ended)
  | false =>
    rw [if_neg (by rw [ended]; exact Bool.false_ne_true)] at h
    cases h
    exact tended_same found (.doze ended)

theorem tended_sleeping {ends : Nanos} (found : g.attempts[a]? = some t)
    (h : g.stepPhase (.sleeping j a ends) = some next) : g.Tended (.sleeping j a ends) a t next := by
  unfold stepPhase at h
  dsimp only at h
  split at h
  · rename_i due
    cases h
    exact tended_same found (.wake due)
  · cases h

/-- A report tells that the attempt hangs just if the monitor finds so. -/
theorem tended_reporting (found : g.attempts[a]? = some t)
    (h : g.stepPhase (.reporting j a) = some next) : g.Tended (.reporting j a) a t next := by
  have told : (DriverPhase.reporting j a).events g = (g.hung? j t).elim [] fun f => [.hung f] := by
    simp only [DriverPhase.events, found, Option.bind_some]
  have watched : (DriverPhase.reporting j a).monitor g =
      (g.monitor.look g.now j.spec.task t.status).monitor := by
    simp only [DriverPhase.monitor, found, Option.elim_some]
  have same : ∀ {phase'}, (DriverPhase.reporting j a).Tends g t ((g.hung? j t).elim [] fun f => [.hung f])
      t phase' → g.Tended (.reporting j a) a t
        ({ g with monitor := (g.monitor.look g.now j.spec.task t.status).monitor }, phase') := by
    intro phase' tends
    rw [← told] at tends
    rw [← watched]
    exact tended_same found tends
  unfold stepPhase at h
  simp only [found, Option.map_some, Option.bind_eq_bind, Option.bind_some] at h
  cases h
  refine same ?_
  show (DriverPhase.reporting j a).Tends g t _ t (g.reportProgress j a t.status).2
  unfold reportProgress
  cases hung : g.hung? j t with
  | some f =>
    have finds : (g.monitor.look g.now j.spec.task t.status).hung = some f := hung
    simp only [finds]
    exact .findHung hung
  | none =>
    have finds : (g.monitor.look g.now j.spec.task t.status).hung = none := hung
    simp only [finds]
    exact .report hung

theorem tended_hanging {f : Failing} (found : g.attempts[a]? = some t)
    (h : g.stepPhase (.hanging j a f) = some next) : g.Tended (.hanging j a f) a t next := by
  cases f with
  | done => cases h; exact tended_same found .hanged
  | checking | capturing | settling =>
    unfold stepPhase at h
    simp only [found] at h
    cases h
    exact tended_modified found (.hang nofun) rfl rfl

theorem tended_judging (found : g.attempts[a]? = some t)
    (h : g.stepPhase (.judging j a) = some next) : g.Tended (.judging j a) a t next := by
  unfold stepPhase at h
  simp only [found, Option.map_some, Option.bind_eq_bind, Option.bind_some] at h
  cases h
  cases finished : t.status.isFinished with
  | true => exact tended_same found (.seeFinished finished)
  | false => exact tended_same found (.judge finished)

theorem tended_consulting (found : g.attempts[a]? = some t)
    (h : g.stepPhase (.consulting j a) = some next) : g.Tended (.consulting j a) a t next := by
  cases h
  cases fatal : g.fatal with
  | some f => exact tended_same found (.seeStopped fatal)
  | none => exact tended_same found (.consult fatal)

/-- The channel is closed just if the attempt is finished. -/
theorem tended_leaving (found : g.attempts[a]? = some t)
    (h : g.stepPhase (.leaving j a) = some next) : g.Tended (.leaving j a) a t next := by
  cases h
  refine tended_modified found ?_ rfl rfl
  cases finished : t.status.isFinished with
  | true => exact .shut finished
  | false => exact .leave finished

theorem tended_joining {ends : Nanos} (found : g.attempts[a]? = some t)
    (h : g.stepPhase (.joining j a ends) = some next) : g.Tended (.joining j a ends) a t next := by
  unfold stepPhase at h
  simp only [found, Option.bind_eq_bind, Option.bind_some] at h
  by_cases due : t.isOver = true ∨ ends ≤ g.instant
  · rw [if_pos (by simpa using due)] at h
    cases h
    exact tended_same found (.join due)
  · rw [if_neg (by simpa using due)] at h
    cases h

theorem tended_concluding (found : g.attempts[a]? = some t)
    (h : g.stepPhase (.concluding j a) = some next) : g.Tended (.concluding j a) a t next := by
  unfold stepPhase at h
  simp only [found, Option.map_some, Option.bind_eq_bind, Option.bind_some] at h
  cases h
  exact tended_same found .conclude

theorem tended_settling {result : Except Failure Unit} (found : g.attempts[a]? = some t)
    (h : g.stepPhase (.settling j a result) = some next) : g.Tended (.settling j a result) a t next := by
  cases result with
  | ok u => cases u; cases h; exact tended_modified found .settle rfl rfl
  | error f => cases h; exact tended_same found .settleFailed

theorem tended_failing {f : Failing} {result : Except Failure Unit} (found : g.attempts[a]? = some t)
    (h : g.stepPhase (.failing j a f result) = some next) : g.Tended (.failing j a f result) a t next := by
  cases f with
  | done => cases h; exact tended_same found .failed
  | checking | capturing | settling =>
    unfold stepPhase at h
    simp only [found] at h
    cases h
    exact tended_modified found (.fail nofun) rfl rfl

end Tending

/-- A step of a driver that holds an attempt tends it, and changes nothing else but what is watched and
told. -/
theorem tends_of_stepPhase {g g' : Group ρ ω} {phase phase' : DriverPhase ρ ω} {a : Nat}
    {t : Attempt ρ ω} (holds : phase.attempt? = some a) (found : g.attempts[a]? = some t)
    (h : g.stepPhase phase = some (g', phase')) :
    ∃ t', phase.Tends g t (phase.events g) t' phase' ∧
      g' = g.tended a t' (phase.monitor g) (phase.journal g) := by
  show g.Tended phase a t (g', phase')
  cases phase with
  | idle | entering | deciding | resting | exited => cases holds
  | makingReader j a => cases holds; exact tended_makingReader found h
  | makingWriter j a r => cases holds; exact tended_makingWriter found h
  | registering j a => cases holds; exact tended_registering found h
  | watching j a => cases holds; exact tended_watching found h
  | sleeping j a ends => cases holds; exact tended_sleeping found h
  | stamping j a => cases holds; cases h; exact tended_modified found .stamp rfl rfl
  | reporting j a => cases holds; exact tended_reporting found h
  | hanging j a f => cases holds; exact tended_hanging found h
  | judging j a => cases holds; exact tended_judging found h
  | consulting j a => cases holds; exact tended_consulting found h
  | stopping j a f => cases holds; cases h; exact tended_modified found .stop rfl rfl
  | killing j a => cases holds; cases h; exact tended_modified found .kill rfl rfl
  | leaving j a => cases holds; exact tended_leaving found h
  | joining j a ends => cases holds; exact tended_joining found h
  | concluding j a => cases holds; exact tended_concluding found h
  | removing j a result => cases holds; cases h; exact tended_same found .remove
  | settling j a result => cases holds; exact tended_settling found h
  | failing j a f result => cases holds; exact tended_failing found h
  | sealing j a => cases holds; cases h; exact tended_modified found .sealed rfl rfl

end Group

/-! ## All moves -/

/-- What can be told of a group: that a driver took a task, and what is told of its attempts. -/
inductive Happening where
  | taken (driver task : Nat)
  | attempt (a : Nat) (e : AttemptEvent)

namespace Group

/-- What is to be told of the next step of a driver. -/
def driverHappenings (g : Group ρ ω) (d : Nat) : DriverPhase ρ ω → List Happening
  | .idle => if g.isStopped then [] else g.queue.head?.elim [] fun spec => [.taken d spec.task]
  | phase => phase.attempt?.elim [] fun a => (phase.events g).map (.attempt a)

/-- What is to be told of a move. -/
def happenings (p : GroupPlugins ρ ω) (g : Group ρ ω) : GroupMove → List Happening
  | .reader a => (g.attempts[a]?).elim [] fun t => t.threads.elim [] fun th =>
      (th.reader.events p.reader t.task).map (.attempt a)
  | .writer a => (g.attempts[a]?).elim [] fun t => t.threads.elim [] fun th =>
      (th.writer.events p.writer t.task).map (.attempt a)
  | .driver d => (g.drivers[d]?).elim [] (g.driverHappenings d)
  | _ => []

/-- Whether there is another attempt after a failure. -/
def triesAgain (g : Group ρ ω) (j : Job ρ ω) (f : Failure) : Bool :=
  g.policy.isRetryable f.kind && j.failed + 1 < g.policy.times

/-- A group with a driver in another phase. -/
def drive (g : Group ρ ω) (d : Nat) (phase : DriverPhase ρ ω) : Group ρ ω :=
  { g with drivers := g.drivers.set d phase }

/-- A group after a thread of an attempt took a step. -/
def moved (g : Group ρ ω) (a : Nat) (t : Attempt ρ ω) (now : Int) (journal : List JournalEntry) :
    Group ρ ω :=
  { g with attempts := g.attempts.set a t, now, journal }

/-- A new attempt of a task. -/
def freshAttempt (g : Group ρ ω) (spec : TaskSpec ρ ω) : Attempt ρ ω :=
  .ofConfig spec.task spec.plain g.config.transport.channel g.now g.instant

/-- A group with one more attempt of a task. -/
def begun (g : Group ρ ω) (spec : TaskSpec ρ ω) : Group ρ ω :=
  { g with
    attempts := g.attempts ++ [g.freshAttempt spec]
    latest := insertLatest spec.task g.attempts.length g.latest }

/-- All that a move can do, and what is to be told of it. -/
inductive Steps (p : GroupPlugins ρ ω) (g : Group ρ ω) :
    GroupMove → List Happening → Group ρ ω → Prop
  | reader {a : Nat} {t : Attempt ρ ω} {th : AttemptThreads ρ ω} {es : List AttemptEvent} {l : Line}
      {r : ReaderThread ρ} (logged : List LogEvent) (now : Int) (journal : List JournalEntry)
      (found : g.attempts[a]? = some t) (threads : t.threads = some th)
      (h : th.reader.Moves p.reader (g.surroundings t.task) t.line es l r) :
      Steps p g (.reader a) (es.map (.attempt a))
        (g.moved a { t with line := l, threads := some { th with reader := r }, logged } now journal)
  | writer {a : Nat} {t : Attempt ρ ω} {th : AttemptThreads ρ ω} {es : List AttemptEvent} {l : Line}
      {r : WriterThread ω} (logged : List LogEvent) (now : Int) (journal : List JournalEntry)
      (found : g.attempts[a]? = some t) (threads : t.threads = some th)
      (h : th.writer.Moves p.writer (g.surroundings t.task) t.line es l r) :
      Steps p g (.writer a) (es.map (.attempt a))
        (g.moved a { t with line := l, threads := some { th with writer := r }, logged } now journal)
  | tend {d a : Nat} {phase phase' : DriverPhase ρ ω} {t t' : Attempt ρ ω} {es : List AttemptEvent}
      (monitor : HangMonitor) (journal : List JournalEntry) (at_ : g.drivers[d]? = some phase)
      (holds : phase.attempt? = some a) (found : g.attempts[a]? = some t)
      (h : phase.Tends g t es t' phase') :
      Steps p g (.driver d) (es.map (.attempt a)) ((g.tended a t' monitor journal).drive d phase')
  | take {d : Nat} {spec : TaskSpec ρ ω} {rest : List (TaskSpec ρ ω)}
      (at_ : g.drivers[d]? = some .idle) (going : g.fatal = none) (queue : g.queue = spec :: rest) :
      Steps p g (.driver d) [.taken d spec.task]
        (({ g with queue := rest } : Group ρ ω).drive d (.entering ⟨spec, 0, 0, 0⟩))
  | exit {d : Nat} (at_ : g.drivers[d]? = some .idle)
      (ended : g.fatal.isSome = true ∨ g.queue = []) : Steps p g (.driver d) [] (g.drive d .exited)
  | enter {d : Nat} {j : Job ρ ω} (at_ : g.drivers[d]? = some (.entering j))
      (going : g.fatal = none) :
      Steps p g (.driver d) [] ((g.begun j.spec).drive d (.makingReader j g.attempts.length))
  | enterStopped {d : Nat} {j : Job ρ ω} {f : Failure} (at_ : g.drivers[d]? = some (.entering j))
      (fatal : g.fatal = some f) : Steps p g (.driver d) [] (g.drive d (.deciding j (.error f)))
  | succeed {d : Nat} {j : Job ρ ω} (at_ : g.drivers[d]? = some (.deciding j (.ok ()))) :
      Steps p g (.driver d) [] (g.drive d .idle)
  | again {d : Nat} {j : Job ρ ω} {f : Failure} (ends : Nanos)
      (at_ : g.drivers[d]? = some (.deciding j (.error f))) (tries : g.triesAgain j f = true) :
      Steps p g (.driver d) [] (g.drive d (.resting { j with failed := j.failed + 1 } ends))
  | giveUp {d : Nat} {j : Job ρ ω} {f : Failure} (at_ : g.drivers[d]? = some (.deciding j (.error f)))
      (tries : g.triesAgain j f = false) :
      Steps p g (.driver d) []
        (({ g with failures := g.failures ++ [.taskFailed j.spec.task f] } : Group ρ ω).drive d .idle)
  | rest {d : Nat} {j : Job ρ ω} {ends : Nanos} (at_ : g.drivers[d]? = some (.resting j ends))
      (due : ends ≤ g.instant) : Steps p g (.driver d) [] (g.drive d (.entering j))
  | report (going : g.result = none) : Steps p g .report [] (g.enforce g.status)
  | tick (span : Nanos) : Steps p g (.tick span) [] { g with instant := g.instant + span }
  | pass (millis : Int) : Steps p g (.pass millis) [] { g with now := g.now + millis }
  | finish (done : g.isDone = true) (going : g.result = none) : Steps p g .finish [] g.finish

/-- Drivers hold attempts that have begun, and no two of them the same one. -/
structure Holds (g : Group ρ ω) : Prop where
  begun : ∀ {d : Nat} {phase : DriverPhase ρ ω} {a : Nat}, g.drivers[d]? = some phase →
    phase.attempt? = some a → a < g.attempts.length
  apart : ∀ {d e : Nat} {phase phase' : DriverPhase ρ ω} {a : Nat}, g.drivers[d]? = some phase →
    g.drivers[e]? = some phase' → phase.attempt? = some a → phase'.attempt? = some a → d = e

section Inversion

variable {p : GroupPlugins ρ ω} {g g' : Group ρ ω}

theorem steps_of_stepReader {a : Nat} (h : g.stepReader p a = some g') :
    Steps p g (.reader a) (g.happenings p (.reader a)) g' := by
  obtain ⟨t, found, h⟩ := Option.bind_eq_some_iff.mp h
  obtain ⟨m, hs, h⟩ := Option.bind_eq_some_iff.mp h
  obtain ⟨th, threads, hs⟩ := Option.bind_eq_some_iff.mp hs
  obtain ⟨m', hm, hs⟩ := Option.bind_eq_some_iff.mp hs
  cases hs
  cases h
  simp only [happenings, found, threads, Option.elim_some]
  exact .reader _ _ _ found threads (ReaderThread.moves_of_step hm)

theorem steps_of_stepWriter {a : Nat} (h : g.stepWriter p a = some g') :
    Steps p g (.writer a) (g.happenings p (.writer a)) g' := by
  obtain ⟨t, found, h⟩ := Option.bind_eq_some_iff.mp h
  obtain ⟨m, hs, h⟩ := Option.bind_eq_some_iff.mp h
  obtain ⟨th, threads, hs⟩ := Option.bind_eq_some_iff.mp hs
  obtain ⟨m', hm, hs⟩ := Option.bind_eq_some_iff.mp hs
  cases hs
  cases h
  simp only [happenings, found, threads, Option.elim_some]
  exact .writer _ _ _ found threads (WriterThread.moves_of_step hm)

theorem steps_of_tend {d a : Nat} {phase : DriverPhase ρ ω} (holds : g.Holds)
    (at_ : g.drivers[d]? = some phase) (ha : phase.attempt? = some a)
    (h : g.stepDriver d = some g') : Steps p g (.driver d) (g.happenings p (.driver d)) g' := by
  obtain ⟨phase₁, hp, h⟩ := Option.bind_eq_some_iff.mp h
  rw [at_] at hp
  cases hp
  obtain ⟨⟨g₁, phase'⟩, hs, h⟩ := Option.bind_eq_some_iff.mp h
  cases h
  have lt := holds.begun at_ ha
  have found : g.attempts[a]? = some g.attempts[a] := List.getElem?_eq_getElem lt
  obtain ⟨t', ht, rfl⟩ := tends_of_stepPhase ha found hs
  have he : g.happenings p (.driver d) = (phase.events g).map (.attempt a) := by
    simp only [happenings, at_, Option.elim_some]
    cases phase with
    | idle => cases ha
    | _ => simp only [driverHappenings, ha, Option.elim_some]
  rw [he]
  exact .tend _ _ at_ ha found ht

theorem steps_of_free {d : Nat} {g₁ : Group ρ ω} {phase phase' : DriverPhase ρ ω}
    (at_ : g.drivers[d]? = some phase) (free : phase.attempt? = none)
    (hs : g.stepPhase phase = some (g₁, phase')) :
    Steps p g (.driver d) (g.happenings p (.driver d)) (g₁.drive d phase') := by
  simp only [happenings, at_, Option.elim_some]
  cases phase with
  | idle =>
    simp only [stepPhase, takeTask] at hs
    simp only [driverHappenings]
    cases fatal : g.fatal with
    | some f =>
      have stopped : g.isStopped = true := by unfold isStopped; rw [fatal]; rfl
      rw [if_pos stopped] at hs ⊢
      cases hs
      exact .exit at_ (.inl stopped)
    | none =>
      have going : ¬ g.isStopped = true := by unfold isStopped; rw [fatal]; exact Bool.false_ne_true
      rw [if_neg going] at hs ⊢
      cases queue : g.queue with
      | nil => rw [queue] at hs; cases hs; exact .exit at_ (.inr queue)
      | cons spec rest => rw [queue] at hs; cases hs; exact .take at_ fatal queue
  | entering j =>
    simp only [stepPhase, enter] at hs
    cases fatal : g.fatal with
    | some f =>
      have stopped : g.isStopped = true := by unfold isStopped; rw [fatal]; rfl
      have because : g.stopFailure = f := by unfold stopFailure; rw [fatal]; rfl
      rw [if_pos stopped, because] at hs
      cases hs
      exact .enterStopped at_ fatal
    | none =>
      have going : ¬ g.isStopped = true := by unfold isStopped; rw [fatal]; exact Bool.false_ne_true
      rw [if_neg going] at hs
      cases hs
      exact .enter at_ fatal
  | deciding j result =>
    cases result with
    | ok u => cases u; cases hs; exact .succeed at_
    | error f =>
      simp only [stepPhase, conclude] at hs
      cases tries : g.triesAgain j f with
      | true =>
        rw [if_pos (by simpa [triesAgain] using tries)] at hs
        cases hs
        exact .again _ at_ tries
      | false =>
        rw [if_neg (by simpa [triesAgain] using tries)] at hs
        cases hs
        exact .giveUp at_ tries
  | resting j ends =>
    simp only [stepPhase] at hs
    split at hs
    · rename_i due; cases hs; exact .rest at_ due
    · cases hs
  | exited => cases hs
  | _ => cases free

theorem steps_of_stepDriver {d : Nat} (holds : g.Holds) (h : g.stepDriver d = some g') :
    Steps p g (.driver d) (g.happenings p (.driver d)) g' := by
  obtain ⟨phase, at_, hs⟩ := Option.bind_eq_some_iff.mp h
  cases ha : phase.attempt? with
  | some a => exact steps_of_tend holds at_ ha h
  | none =>
    obtain ⟨⟨g₁, phase'⟩, hp, h⟩ := Option.bind_eq_some_iff.mp hs
    cases h
    exact steps_of_free at_ ha hp

theorem steps_of_step {m : GroupMove} (holds : g.Holds) (h : g.step p m = some g') :
    Steps p g m (g.happenings p m) g' := by
  cases m with
  | reader a => exact steps_of_stepReader h
  | writer a => exact steps_of_stepWriter h
  | driver d => exact steps_of_stepDriver holds h
  | report =>
    simp only [step] at h
    split at h
    · cases h
    · rename_i going; cases h; exact .report (by simpa [isOver] using going)
  | tick span => cases h; exact .tick span
  | pass millis => cases h; exact .pass millis
  | finish =>
    simp only [step] at h
    split at h
    · rename_i done
      cases h
      have done : g.isDone = true ∧ g.result = none := by simpa [isOver] using done
      exact .finish done.1 done.2
    · cases h

/-! ### What is watched and told -/

theorem watched_of_free {g₁ : Group ρ ω} {phase phase' : DriverPhase ρ ω}
    (free : phase.attempt? = none) (hs : g.stepPhase phase = some (g₁, phase')) :
    g₁.monitor = phase.monitor g ∧ g₁.journal = phase.journal g := by
  cases phase with
  | idle =>
    simp only [stepPhase, takeTask] at hs
    split at hs
    · cases hs; exact ⟨rfl, rfl⟩
    · split at hs <;> cases hs <;> exact ⟨rfl, rfl⟩
  | entering j =>
    simp only [stepPhase, enter] at hs
    split at hs <;> cases hs <;> exact ⟨rfl, rfl⟩
  | deciding j result =>
    cases result with
    | ok u => cases hs; exact ⟨rfl, rfl⟩
    | error f =>
      simp only [stepPhase, conclude] at hs
      split at hs <;> cases hs <;> exact ⟨rfl, rfl⟩
  | resting j ends =>
    simp only [stepPhase] at hs
    split at hs <;> cases hs
    exact ⟨rfl, rfl⟩
  | exited => cases hs
  | _ => cases free

theorem watched_of_stepDriver {d : Nat} {phase : DriverPhase ρ ω} (holds : g.Holds)
    (at_ : g.drivers[d]? = some phase) (h : g.stepDriver d = some g') :
    g'.monitor = phase.monitor g ∧ g'.journal = phase.journal g := by
  obtain ⟨phase₁, hp, h⟩ := Option.bind_eq_some_iff.mp h
  cases at_.symm.trans hp
  obtain ⟨⟨g₁, phase'⟩, hs, h⟩ := Option.bind_eq_some_iff.mp h
  cases h
  cases ha : phase.attempt? with
  | some a =>
    have lt := holds.begun at_ ha
    obtain ⟨t', -, rfl⟩ := tends_of_stepPhase ha (List.getElem?_eq_getElem lt) hs
    exact ⟨rfl, rfl⟩
  | none =>
    have kept := watched_of_free ha hs
    exact kept

end Inversion

end Group

end BatchSync
