import BatchSync.Proofs.Group.Endings
import BatchSync.Proofs.Group.Stop
import BatchSync.Proofs.Hang.History
import Mathlib.Data.List.Perm.Subperm

/-!
# Which tasks are watched, and how they are left

A driver registers its attempt with the monitor once the threads are started, and removes the task when
the attempt has come to a result. In between it is in one of the phases of `DriverPhase.MayWatch`, and no
task is watched whose driver is not (`Group.IsWatchful`). Since no two drivers have the same task in hand
(`Group.IsApart`), an attempt that is registered finds nothing of an earlier one.

With what is known of attempts by their statuses, and of the ends of their threads, this says how
everything is left when a run returns (`Chronicle.settled_on_return`).
-/

namespace BatchSync

variable {ρ ω : Type}

/-! ## The phases in which a task may be watched -/

namespace DriverPhase

/-- Whether the task of the driver may be watched. -/
def MayWatch : DriverPhase ρ ω → Prop
  | .watching _ _ => True
  | .sleeping _ _ _ => True
  | .stamping _ _ => True
  | .reporting _ _ => True
  | .hanging _ _ _ => True
  | .judging _ _ => True
  | .consulting _ _ => True
  | .stopping _ _ _ => True
  | .killing _ _ => True
  | .leaving _ _ => True
  | .joining _ _ _ => True
  | .concluding _ _ => True
  | .removing _ _ _ => True
  | _ => False

/-- Whether the driver is about to call the monitor with its task. -/
def CallsMonitor : DriverPhase ρ ω → Prop
  | .registering _ _ => True
  | .reporting _ _ => True
  | _ => False

/-- Whether the driver is about to remove its task from the monitor. -/
def Removes : DriverPhase ρ ω → Prop
  | .removing _ _ _ => True
  | _ => False

variable {g : Group ρ ω} {t t' : Attempt ρ ω} {es : List AttemptEvent}
  {phase phase' : DriverPhase ρ ω} {k : Nat}

theorem task?_of_job? {j : Job ρ ω} (hj : phase.job? = some j) : phase.task? = some j.spec.task := by
  unfold task?
  rw [hj]
  rfl

theorem MayWatch.exists_attempt? (h : phase.MayWatch) : ∃ a, phase.attempt? = some a := by
  cases phase with
  | idle | entering | makingReader | makingWriter | registering | settling | failing | sealing | deciding
  | resting | exited => cases h
  | _ => exact ⟨_, rfl⟩

theorem CallsMonitor.exists_attempt? (h : phase.CallsMonitor) : ∃ a, phase.attempt? = some a := by
  cases phase with
  | registering | reporting => exact ⟨_, rfl⟩
  | _ => cases h

/-- A driver leaves these phases only by removing its task. -/
theorem Tends.mayWatch (h : phase.Tends g t es t' phase') (before : phase.MayWatch) :
    phase'.MayWatch ∨ phase.Removes := by
  cases h with
  | remove => exact .inr trivial
  | makeReader | makeReaderFails | makeWriter | makeWriterFails | register | settle | settleFailed | fail
  | failed | sealed => cases before
  | _ => exact .inl trivial

/-- A driver that calls the monitor is in these phases afterwards. -/
theorem Tends.mayWatch_of_callsMonitor (h : phase.Tends g t es t' phase')
    (calls : phase.CallsMonitor) : phase'.MayWatch := by
  cases h with
  | register | findHung | report => trivial
  | _ => cases calls

/-- A driver stays with its task while it tends an attempt. -/
theorem Tends.task?_eq (h : phase.Tends g t es t' phase') : phase'.task? = phase.task? := by
  obtain ⟨a, ha⟩ := h.exists_attempt?
  obtain ⟨j, hj⟩ := job?_of_attempt? ha
  obtain ⟨j', hj', spec, -⟩ := h.job_eq hj
  rw [task?_of_job? hj, task?_of_job? hj', spec]

/-- What is watched after the step of a driver was watched before, and is not what it removes, or is the
task with which it calls the monitor. -/
theorem progress?_monitor (h : ((phase.monitor g).progress? k).isSome = true) :
    ((g.monitor.progress? k).isSome = true ∧ (phase.Removes → phase.task? ≠ some k)) ∨
      (phase.CallsMonitor ∧ phase.task? = some k) := by
  cases phase with
  | registering j a =>
    by_cases hk : k = j.spec.task
    · exact .inr ⟨trivial, congrArg some hk.symm⟩
    · refine .inl ⟨?_, False.elim⟩
      simp only [monitor] at h
      cases found : g.attempts[a]? with
      | none => rw [found] at h; exact h
      | some t =>
        rw [found, Option.elim_some, HangMonitor.progress?_register_of_ne hk] at h
        exact h
  | reporting j a =>
    by_cases hk : k = j.spec.task
    · exact .inr ⟨trivial, congrArg some hk.symm⟩
    · refine .inl ⟨?_, False.elim⟩
      simp only [monitor] at h
      cases found : g.attempts[a]? with
      | none => rw [found] at h; exact h
      | some t =>
        rw [found, Option.elim_some, HangMonitor.progress?_look_of_ne hk] at h
        exact h
  | removing j a r =>
    have h : ((g.monitor.remove j.spec.task).progress? k).isSome = true := h
    by_cases hk : k = j.spec.task
    · rw [hk, HangMonitor.progress?_remove_self] at h
      cases h
    · rw [HangMonitor.progress?_remove_of_ne _ hk] at h
      exact .inl ⟨h, fun _ e => hk (Option.some.inj e).symm⟩
  | _ => exact .inl ⟨h, False.elim⟩

end DriverPhase

/-! ## Every task in one hand -/

namespace Group

/-- No task is in two hands, or in one and in the queue, or in the queue twice. -/
def IsApart (g : Group ρ ω) : Prop :=
  (g.queue.map TaskSpec.task ++ g.drivers.filterMap DriverPhase.task?).Nodup

/-- A task that is watched is in the hands of a driver that may watch it. -/
def IsWatchful (g : Group ρ ω) : Prop :=
  ∀ k, (g.monitor.progress? k).isSome = true →
    ∃ (d : Nat) (phase : DriverPhase ρ ω), g.drivers[d]? = some phase ∧ phase.task? = some k ∧
      phase.MayWatch

variable {p : GroupPlugins ρ ω} {g g' : Group ρ ω} {m : GroupMove} {hs : List Happening}

theorem isApart_start (config : CoreConfig) (now : Int) (tasks : List (TaskSpec ρ ω))
    (distinct : (tasks.map TaskSpec.task).Nodup) : (start config now tasks).IsApart := by
  unfold IsApart
  rw [filterMap_task?_start, List.append_nil]
  exact distinct

/-- A task is in one hand at most. -/
theorem IsApart.driver_eq (h : g.IsApart) {d e k : Nat} {phase phase' : DriverPhase ρ ω}
    (at_ : g.drivers[d]? = some phase) (at_' : g.drivers[e]? = some phase')
    (task : phase.task? = some k) (task' : phase'.task? = some k) : d = e := by
  obtain ⟨-, inHand, -⟩ := List.nodup_append.mp h
  have apart := List.pairwise_iff_getElem.mp (List.pairwise_filterMap.mp inHand)
  obtain ⟨ltd, rfl⟩ := List.getElem?_eq_some_iff.mp at_
  obtain ⟨lte, rfl⟩ := List.getElem?_eq_some_iff.mp at_'
  rcases Nat.lt_trichotomy d e with lt | same | lt
  · exact absurd rfl (apart d e ltd lte lt k task k task')
  · exact same
  · exact absurd rfl (apart e d lte ltd lt k task' k task)

/-- A driver moves: the task that it has in hand, if any, was in its hand before, or in the queue. -/
theorem IsApart.drive (h : g.IsApart) {d : Nat} {phase phase' : DriverPhase ρ ω}
    (at_ : g.drivers[d]? = some phase) (drivers : g'.drivers = g.drivers.set d phase')
    (less : (g'.queue.map TaskSpec.task ++ phase'.task?.toList).Subperm
      (g.queue.map TaskSpec.task ++ phase.task?.toList)) : g'.IsApart := by
  obtain ⟨others, before, after⟩ := drivers_split at_
  have before := filterMap_task?_perm before
  have after := filterMap_task?_perm (drivers ▸ after phase')
  obtain ⟨l, perm, sub⟩ := less.append (.refl (others.filterMap DriverPhase.task?))
  rw [List.append_assoc] at perm sub
  have whole := (before.append_left _).nodup_iff.mp h
  exact (after.append_left _).nodup_iff.mpr (perm.nodup_iff.mp (whole.sublist sub))

theorem Steps.isApart (h : g.Steps p m hs g') (apart : g.IsApart) : g'.IsApart := by
  have same : g'.queue = g.queue → g'.drivers = g.drivers → g'.IsApart := by
    intro queue drivers
    unfold IsApart
    rw [queue, drivers]
    exact apart
  have kept : ∀ {d : Nat} {phase phase' : DriverPhase ρ ω}, g.drivers[d]? = some phase →
      g'.queue = g.queue → g'.drivers = g.drivers.set d phase' → phase'.task? = phase.task? →
      g'.IsApart := by
    intro d phase phase' at_ queue drivers task
    refine apart.drive at_ drivers ?_
    rw [queue, task]
  have put : ∀ {d : Nat} {phase phase' : DriverPhase ρ ω}, g.drivers[d]? = some phase →
      g'.queue = g.queue → g'.drivers = g.drivers.set d phase' → phase'.task? = none →
      g'.IsApart := by
    intro d phase phase' at_ queue drivers task
    refine apart.drive at_ drivers ?_
    rw [queue, task]
    exact ((List.Sublist.refl _).append (List.nil_sublist _)).subperm
  cases h with
  | reader | writer | tick | pass => exact same rfl rfl
  | report | finish => exact same (queue_enforce _ _) (drivers_enforce _ _)
  | tend monitor journal at_ ha found ht => exact kept at_ rfl rfl ht.task?_eq
  | @take d spec rest at_ going queue =>
    refine apart.drive at_ rfl (List.Perm.subperm ?_)
    rw [queue]
    show (rest.map TaskSpec.task ++ [spec.task]).Perm (spec.task :: rest.map TaskSpec.task ++ [])
    rw [List.append_nil]
    exact List.perm_append_singleton _ _
  | enter at_ | enterStopped at_ | again _ at_ | rest at_ => exact kept at_ rfl rfl rfl
  | exit at_ | succeed at_ | giveUp at_ => exact put at_ rfl rfl rfl

/-! ## What is watched -/

/-- Only drivers call the monitor. -/
theorem Steps.monitor_eq (h : g.Steps p m hs g') (aside : ∀ d, m ≠ .driver d) :
    g'.monitor = g.monitor := by
  cases h with
  | reader | writer | tick | pass => rfl
  | report => rw [enforce_eq]
  | finish =>
    show (g.enforce g.status).monitor = g.monitor
    rw [enforce_eq]
  | tend | take | exit | enter | enterStopped | succeed | again | giveUp | rest =>
    exact absurd rfl (aside _)

end Group

namespace Chronicle

variable {p : GroupPlugins ρ ω} {c c' : Chronicle ρ ω} {m : GroupMove}

/-- Every move keeps what is watched in the hands of drivers that may watch it. -/
theorem Sound.isWatchful (sound : c.Sound) (watchful : c.group.IsWatchful)
    (goes : c.step p m = some c') : c'.group.IsWatchful := by
  have steps := sound.steps goes
  by_cases own : ∃ d, m = .driver d
  · obtain ⟨d, rfl⟩ := own
    obtain ⟨phase, at_⟩ := steps.exists_phase
    have monitor := (Group.watched_of_stepDriver sound.holds at_ (step_eq_some goes).1).1
    -- a driver that may watch its task, or watches it from now on, has it in hand afterwards
    have goesOn : ∀ {k : Nat} {a : Nat}, phase.attempt? = some a → phase.task? = some k →
        (∀ {t t' es phase'}, phase.Tends c.group t es t' phase' → phase'.MayWatch) →
        ∃ (e : Nat) (phase' : DriverPhase ρ ω), c'.group.drivers[e]? = some phase' ∧
          phase'.task? = some k ∧ phase'.MayWatch := by
      intro k a ha task may
      obtain ⟨t, t', es, phase', -, ht, at_', -⟩ := sound.tends at_ ha goes
      exact ⟨d, phase', at_', ht.task?_eq.trans task, may ht⟩
    intro k hk
    rw [monitor] at hk
    rcases DriverPhase.progress?_monitor hk with ⟨before, keeps⟩ | ⟨calls, task⟩
    · obtain ⟨e, phase₁, at₁, task, may⟩ := watchful k before
      rcases steps.driver_eq e with same | other
      · cases same
        cases at_.symm.trans at₁
        obtain ⟨a, ha⟩ := may.exists_attempt?
        exact goesOn ha task fun ht => (ht.mayWatch may).resolve_right fun removes => keeps removes task
      · exact ⟨e, phase₁, other.trans at₁, task, may⟩
    · obtain ⟨a, ha⟩ := calls.exists_attempt?
      exact goesOn ha task fun ht => ht.mayWatch_of_callsMonitor calls
  · have aside : ∀ d, m ≠ .driver d := fun d hd => own ⟨d, hd⟩
    unfold Group.IsWatchful
    rw [steps.monitor_eq aside, steps.drivers_eq aside]
    exact watchful

theorem Leads.isWatchful {config : CoreConfig} {now : Int} {tasks : List (TaskSpec ρ ω)}
    (led : (start config now tasks).Leads p c) : c.group.IsWatchful :=
  (led.keeps (P := fun c => c.group.IsWatchful) (fun steady watchful goes =>
    steady.sound.isWatchful watchful goes) (fun _ _ watchful => watchful)
    (isSteady_start config now tasks) nofun).2

theorem Leads.isApart {config : CoreConfig} {now : Int} {tasks : List (TaskSpec ρ ω)}
    (distinct : (tasks.map TaskSpec.task).Nodup) (led : (start config now tasks).Leads p c) :
    c.group.IsApart :=
  (led.keeps (P := fun c => c.group.IsApart) (fun steady apart goes =>
    (steady.sound.steps goes).isApart apart) (fun _ _ apart => apart)
    (isSteady_start config now tasks) (Group.isApart_start config now tasks distinct)).2

end Chronicle

/-! ### The task of an attempt -/

/-- An attempt is one of the task that its driver has in hand. -/
def Trial.IsOfTask (u : Trial ρ ω) : Prop :=
  ∀ {phase : DriverPhase ρ ω} {j : Job ρ ω}, u.phase = some phase → phase.job? = some j →
    u.attempt.task = j.spec.task

theorem Trial.IsOfTask.moves {p : GroupPlugins ρ ω} {g : Group ρ ω} {u u' : Trial ρ ω}
    {es : List AttemptEvent} (h : u.IsOfTask) (hm : u.Moves p g es u') : u'.IsOfTask := by
  cases hm with
  | idle => exact h
  | reader => exact h
  | writer => exact h
  | @driver phase phase' t t' es ht =>
    intro phase₁ j held hj
    obtain ⟨a, ha⟩ := ht.exists_attempt?
    obtain ⟨j₀, hj₀⟩ := DriverPhase.job?_of_attempt? ha
    obtain ⟨j', hj', spec, -⟩ := ht.job_eq hj₀
    cases DriverPhase.held_eq_some held
    cases hj'.symm.trans hj
    show t'.task = _
    rw [ht.task_eq, spec]
    exact h rfl hj₀

/-! ## How everything is left -/

/-- How an attempt is left of which some events were told, in a group that may have been stopped. -/
structure Attempt.IsSettled (fatal : Option Failure) (es : List AttemptEvent) (t : Attempt ρ ω) :
    Prop where
  finished : t.status.isFinished = true
  /-- It has succeeded only if the bodies of both plugins came to a good end and no failure was
  captured. -/
  succeeded : t.status.state = .succeeded → BodiesEndWell es ∧ t.status.failure = none
  /-- Otherwise a failure was captured. -/
  captured : t.status.state ≠ .succeeded → t.status.failure.isSome = true
  /-- It was killed only if its group was stopped. -/
  killed : t.status.state = .killed → fatal.isSome = true

namespace Chronicle

variable {p : GroupPlugins ρ ω} {c c' : Chronicle ρ ω} {config : CoreConfig} {now : Int}
  {tasks : List (TaskSpec ρ ω)} {a : Nat}

/-- What is watched at any time, and from when on. -/
structure WatchesTheGoing (p : GroupPlugins ρ ω) (c : Chronicle ρ ω) : Prop where
  /-- A task is watched only while an attempt of it is going on. -/
  going : ∀ {k : Nat}, (c.group.monitor.progress? k).isSome = true →
    ∃ d a t, c.Minds d a ∧ ¬ c.HasReturned a ∧ c.group.attempts[a]? = some t ∧ t.task = k
  /-- Nothing is known of a task whose driver has not registered its attempt yet, or has removed it. -/
  unknown : ∀ {d k : Nat} {phase : DriverPhase ρ ω}, c.group.drivers[d]? = some phase →
    phase.task? = some k → ¬ phase.MayWatch → c.group.monitor.progress? k = none
  /-- What is known of an attempt that was registered is its own. -/
  afresh : ∀ {d a : Nat} {j : Job ρ ω} {t : Attempt ρ ω} {c' : Chronicle ρ ω},
    c.group.drivers[d]? = some (.registering j a) → c.group.attempts[a]? = some t →
      c.step p (.driver d) = some c' → c'.group.monitor.progress? t.task =
        if t.status.isFinished then none
        else some ⟨t.status.recordsRead, c.group.now, c.group.now⟩

theorem Leads.task_eq (led : (start config now tasks).Leads p c) {d : Nat} {phase : DriverPhase ρ ω}
    {j : Job ρ ω} {t : Attempt ρ ω} (at_ : c.group.drivers[d]? = some phase)
    (ha : phase.attempt? = some a) (hj : phase.job? = some j)
    (found : c.group.attempts[a]? = some t) : t.task = j.spec.task := by
  have holds := (led.isSteady (isSteady_start config now tasks)).sound.holds
  refine led.trials (I := fun _ u _ => u.IsOfTask) ?_ ?_ ?_ (holds.trial?_eq at_ ha found) rfl hj
  · rintro g j a _ _ ⟨⟩ ⟨⟩
    rfl
  · exact fun hi => hi
  · exact fun hi hm => hi.moves hm

/-- Nothing is known of a task whose driver does not watch it. -/
theorem Leads.progress?_eq_none (distinct : (tasks.map TaskSpec.task).Nodup)
    (led : (start config now tasks).Leads p c) {d k : Nat} {phase : DriverPhase ρ ω}
    (at_ : c.group.drivers[d]? = some phase) (task : phase.task? = some k) (idle : ¬ phase.MayWatch) :
    c.group.monitor.progress? k = none := by
  rw [← Option.not_isSome_iff_eq_none]
  intro watched
  obtain ⟨e, phase', at_', task', may⟩ := led.isWatchful k watched
  cases (led.isApart distinct).driver_eq at_ at_' task task'
  cases at_.symm.trans at_'
  exact idle may

theorem Leads.watchesTheGoing (distinct : (tasks.map TaskSpec.task).Nodup)
    (led : (start config now tasks).Leads p c) : c.WatchesTheGoing p where
  going := by
    intro k watched
    obtain ⟨d, phase, at_, task, may⟩ := led.isWatchful k watched
    obtain ⟨a, ha⟩ := may.exists_attempt?
    obtain ⟨j, hj⟩ := DriverPhase.job?_of_attempt? ha
    have steady := led.isSteady (isSteady_start config now tasks)
    have minds : c.Minds d a := ⟨phase, at_, ha⟩
    have found := List.getElem?_eq_getElem (steady.sound.holds.begun at_ ha)
    refine ⟨d, a, _, minds, steady.not_hasReturned minds, found, ?_⟩
    rw [led.task_eq at_ ha hj found]
    exact Option.some.inj ((DriverPhase.task?_of_job? hj).symm.trans task)
  unknown := fun at_ task idle => led.progress?_eq_none distinct at_ task idle
  afresh := by
    intro d a j t c' at_ found goes
    have steady := led.isSteady (isSteady_start config now tasks)
    have unknown := led.progress?_eq_none distinct at_ (DriverPhase.task?_of_job? rfl) id
    rw [led.task_eq at_ rfl rfl found,
      (Group.watched_of_stepDriver steady.sound.holds at_ (step_eq_some goes).1).1]
    simp only [DriverPhase.monitor, found, Option.elim_some]
    cases finished : t.status.isFinished with
    | true => rw [HangMonitor.register_of_isFinished finished]; exact unknown
    | false => exact HangMonitor.progress?_register finished unknown

/-- A run returns only once all drivers have exited. -/
theorem Leads.isDone (led : (start config now tasks).Leads p c)
    (returned : c.group.result.isSome = true) : c.group.isDone = true := by
  refine (led.keeps (P := fun c => c.group.result.isSome = true → c.group.isDone = true) ?_ ?_
    (isSteady_start config now tasks) nofun).2 returned
  · intro c c' m steady before goes returned
    have steps := steady.sound.steps goes
    refine steps.isDone ?_
    generalize c.group.happenings p m = hs at steps
    generalize c'.group = g' at steps returned
    cases steps with
    | finish done => exact done
    | report going =>
      rw [Group.enforce_eq] at returned
      exact before returned
    | _ => exact before returned
  · exact fun _ _ before => before

/-- An attempt that has returned is settled. -/
theorem Leads.isSettled (led : (start config now tasks).Leads p c) (returned : c.HasReturned a)
    {t : Attempt ρ ω} (found : c.group.attempts[a]? = some t) :
    t.IsSettled c.group.fatal (c.eventsOf a) := by
  obtain ⟨standing, results⟩ :=
    (led.isSteady (isSteady_start config now tasks)).known (Group.trial?_of_attempt found)
  obtain ⟨r, hr⟩ := returned
  have finished := (results r hr).2.isFinished
  refine ⟨finished, fun succeeded => ?_, (standing.captured finished).resolve_left, standing.killed⟩
  have done : t.HasSucceeded := standing.going_or.resolve_left fun going => going succeeded
  exact ⟨led.bodiesEndWell found done.begun done.ended done.failure, done.failure⟩

/-- **How everything is left.** For every list of tasks with numbers of their own, whatever the plugins
do, and however threads, drivers, clock and stops take turns:
1. At any time a task is watched only while an attempt of it is going on, and an attempt finds nothing of
   an earlier one when it is registered.
2. Once the run has returned, every attempt is finished: it has succeeded only if the bodies of both of
   its plugins came to a good end and no failure was captured, it has captured a failure otherwise, and
   it was killed only if the group was stopped. The index of latest attempts has attempts of the tasks
   that it names, and no task is watched any more. -/
theorem settled_on_return (p : GroupPlugins ρ ω) (config : CoreConfig) (now : Int)
    (tasks : List (TaskSpec ρ ω)) (distinct : (tasks.map TaskSpec.task).Nodup) {c : Chronicle ρ ω}
    (led : (start config now tasks).Leads p c) :
    c.WatchesTheGoing p ∧
      (c.group.result.isSome = true →
        (∀ (a : Nat) (t : Attempt ρ ω), c.group.attempts[a]? = some t →
          t.IsSettled c.group.fatal (c.eventsOf a)) ∧
        (∀ k a, (k, a) ∈ c.group.latest → ∃ t, c.group.attempts[a]? = some t ∧ t.task = k) ∧
        ∀ k, c.group.monitor.progress? k = none) := by
  refine ⟨led.watchesTheGoing distinct, fun returned => ?_⟩
  have exited : ∀ {d : Nat} {phase : DriverPhase ρ ω}, c.group.drivers[d]? = some phase →
      phase = .exited :=
    fun at_ => Group.isDone_iff.mp (led.isDone returned) _ (List.mem_of_getElem? at_)
  refine ⟨fun a t found => ?_, fun k a listed => ?_, fun k => ?_⟩
  · refine led.isSettled ?_ found
    refine (led.minds_or (List.getElem?_eq_some_iff.mp found).1).resolve_left ?_
    rintro ⟨d, phase, at_, ha⟩
    cases exited at_
    cases ha
  · exact Group.mem_places.mp (List.mem_of_getLast? (led.indexed.last.mp listed))
  · rw [← Option.not_isSome_iff_eq_none]
    intro watched
    obtain ⟨d, phase, at_, task, -⟩ := led.isWatchful k watched
    cases exited at_
    cases task

/-- A group has returned that has tried one task twice and the other one once. -/
theorem settled_on_return_failover :
    (start {} 0 [flaky, hopeless]).Leads scripted returnedBoth ∧
      returnedBoth.group.result.isSome = true ∧
      (∃ t, returnedBoth.group.attempts[2]? = some t ∧ t.status.state = .succeeded ∧
        t.IsSettled returnedBoth.group.fatal (returnedBoth.eventsOf 2)) ∧
      ∀ k, returnedBoth.group.monitor.progress? k = none := by
  have led : (start {} 0 [flaky, hopeless]).Leads scripted returnedBoth :=
    (leads_of_run (Option.some_get _).symm).trans (leads_of_run (Option.some_get _).symm)
  have returned : returnedBoth.group.result.isSome = true := by decide +kernel
  have succeeded : (returnedBoth.group.attempts[2]?.any fun t => t.status.state == .succeeded) = true := by
    decide +kernel
  obtain ⟨settled, -, unwatched⟩ :=
    (settled_on_return scripted {} 0 [flaky, hopeless] (by decide) led).2 returned
  obtain ⟨t, found, state⟩ := (Option.any_eq_true _ _).mp succeeded
  exact ⟨led, returned, ⟨t, found, eq_of_beq state, settled 2 t found⟩, unwatched⟩

end Chronicle

end BatchSync
