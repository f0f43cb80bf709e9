import BatchSync.Proofs.Group.Roster
import Mathlib.Algebra.GroupWithZero.Nat

/-!
# Groups come to an end

A group whose attempts all come to an end returns, in every fair course (`Chronicle.returns`), whatever
becomes of its tasks. What is ahead of a driver is counted by `DriverPhase.ahead`: the attempts that it
may still make of its task, and the steps around them; nothing that happens adds to the sum over all
drivers and the queue (`Group.ahead`), and every step of a driver takes from it but those that tend an
attempt, which do not go on for ever.
-/

namespace BatchSync

variable {ρ ω : Type}

/-! ## What is ahead of drivers -/

/-- How much is ahead of a driver, if a task may be tried some number of times. -/
def DriverPhase.ahead (times : Nat) : DriverPhase ρ ω → Nat
  | .idle => 1
  | .exited => 0
  | .entering j => 4 * (times - j.failed) + 1
  | .resting j _ => 4 * (times - j.failed) + 2
  | .deciding j _ => 4 * (times - j.failed) - 1
  | phase => phase.job?.elim 0 fun j => 4 * (times - j.failed)

theorem DriverPhase.ahead_of_attempt? {phase : DriverPhase ρ ω} {a times : Nat} {j : Job ρ ω}
    (ha : phase.attempt? = some a) (hj : phase.job? = some j) :
    phase.ahead times = 4 * (times - j.failed) := by
  cases phase with
  | idle | entering | deciding | resting | exited => cases ha
  | _ => cases hj; rfl

namespace Group

/-- How much is ahead of a group. -/
def ahead (g : Group ρ ω) : Nat :=
  g.queue.length * (4 * g.policy.times + 1) +
    (g.drivers.map (DriverPhase.ahead g.policy.times)).sum

/-- No driver has tried its task too often. -/
def IsModest (g : Group ρ ω) : Prop :=
  0 < g.policy.times ∧ ∀ {phase : DriverPhase ρ ω} {j : Job ρ ω}, phase ∈ g.drivers →
    phase.job? = some j → j.failed < g.policy.times

section Steps

variable {p : GroupPlugins ρ ω} {g g' : Group ρ ω} {m : GroupMove} {hs : List Happening}

theorem IsModest.of_eq (h : g.IsModest) (policy : g'.policy = g.policy)
    (drivers : g'.drivers = g.drivers) : g'.IsModest := by
  unfold IsModest
  rw [policy, drivers]
  exact h

/-- What a move of one driver does to the sum. -/
theorem ahead_drive {d : Nat} {phase : DriverPhase ρ ω} (at_ : g.drivers[d]? = some phase)
    (phase' : DriverPhase ρ ω) (times : Nat) :
    ((g.drivers.set d phase').map (DriverPhase.ahead times)).sum + phase.ahead times =
      (g.drivers.map (DriverPhase.ahead times)).sum + phase'.ahead times := by
  obtain ⟨others, before, after⟩ := drivers_split at_
  rw [((after phase').map _).sum_nat, (before.map _).sum_nat, List.map_cons, List.map_cons,
    List.sum_cons, List.sum_cons]
  omega

theorem IsModest.drive (h : g.IsModest) {d : Nat} {phase' : DriverPhase ρ ω}
    (policy : g'.policy = g.policy) (drivers : g'.drivers = g.drivers.set d phase')
    (own : ∀ j, phase'.job? = some j → j.failed < g.policy.times) : g'.IsModest := by
  unfold IsModest
  rw [policy, drivers]
  refine ⟨h.1, fun hp hj => ?_⟩
  rcases List.mem_or_eq_of_mem_set hp with old | rfl
  · exact h.2 old hj
  · exact own _ hj

/-- What is ahead after a driver has gone from one phase to another. -/
theorem ahead_turn {d : Nat} {phase phase' : DriverPhase ρ ω} (at_ : g.drivers[d]? = some phase)
    (policy : g'.policy = g.policy) (queue : g'.queue = g.queue)
    (drivers : g'.drivers = g.drivers.set d phase') :
    g'.ahead + phase.ahead g.policy.times = g.ahead + phase'.ahead g.policy.times := by
  unfold ahead
  rw [policy, queue, drivers, Nat.add_assoc, ahead_drive at_, Nat.add_assoc]

/-- Only drivers change what is ahead. -/
theorem Steps.ahead_aside (h : g.Steps p m hs g') (modest : g.IsModest) (aside : ∀ d, m ≠ .driver d) :
    g'.IsModest ∧ g'.ahead = g.ahead := by
  have same : g'.policy = g.policy → g'.queue = g.queue → g'.drivers = g.drivers →
      g'.IsModest ∧ g'.ahead = g.ahead := by
    intro policy queue drivers
    refine ⟨modest.of_eq policy drivers, ?_⟩
    unfold ahead
    rw [policy, queue, drivers]
  cases h with
  | reader | writer | tick | pass => exact same rfl rfl rfl
  | report | finish => exact same (policy_enforce _ _) (queue_enforce _ _) (drivers_enforce _ _)
  | tend | take | exit | enter | enterStopped | succeed | again | giveUp | rest =>
    exact absurd rfl (aside _)

/-- A driver that has less ahead of it, and leaves the queue as it is. -/
theorem IsModest.turn_lt (modest : g.IsModest) {d : Nat} {phase phase' : DriverPhase ρ ω}
    (at_ : g.drivers[d]? = some phase) (policy : g'.policy = g.policy) (queue : g'.queue = g.queue)
    (drivers : g'.drivers = g.drivers.set d phase')
    (own : ∀ j, phase'.job? = some j → j.failed < g.policy.times)
    (falls : phase'.ahead g.policy.times < phase.ahead g.policy.times) :
    g'.IsModest ∧ g'.ahead < g.ahead := by
  have sum := ahead_turn at_ policy queue drivers
  exact ⟨modest.drive policy drivers own, by omega⟩

/-- A driver that takes a task has what was counted for it in the queue ahead of it. -/
theorem ahead_take {d : Nat} {spec : TaskSpec ρ ω} {rest : List (TaskSpec ρ ω)}
    (at_ : g.drivers[d]? = some .idle) (queue : g.queue = spec :: rest) (policy : g'.policy = g.policy)
    (queue' : g'.queue = rest) (drivers : g'.drivers = g.drivers.set d (.entering ⟨spec, 0, 0, 0⟩)) :
    g'.ahead < g.ahead := by
  have sum := ahead_drive at_ (.entering ⟨spec, 0, 0, 0⟩) g.policy.times
  have first : (DriverPhase.entering (ρ := ρ) (ω := ω) ⟨spec, 0, 0, 0⟩).ahead g.policy.times =
      4 * g.policy.times + 1 := rfl
  have one : (DriverPhase.idle (ρ := ρ) (ω := ω)).ahead g.policy.times = 1 := rfl
  unfold ahead
  rw [policy, queue', drivers, queue, List.length_cons, Nat.add_mul]
  rw [first, one] at sum
  omega

variable (g') in
/-- A driver that tends an attempt goes on with it, or takes from what is ahead. -/
theorem ahead_tend {d a : Nat} {phase phase' : DriverPhase ρ ω} {t t' : Attempt ρ ω}
    {es : List AttemptEvent} (modest : g.IsModest) (at_ : g.drivers[d]? = some phase)
    (ha : phase.attempt? = some a) (ht : phase.Tends g t es t' phase') (policy : g'.policy = g.policy)
    (queue : g'.queue = g.queue) (drivers : g'.drivers = g.drivers.set d phase') :
    g'.IsModest ∧ (g'.ahead < g.ahead ∨ (g'.ahead = g.ahead ∧ phase'.attempt? = some a)) := by
  obtain ⟨j, hj⟩ := DriverPhase.job?_of_attempt? ha
  obtain ⟨j', hj', -, failed⟩ := ht.job_eq hj
  have before : phase.ahead g.policy.times = 4 * (g.policy.times - j.failed) :=
    DriverPhase.ahead_of_attempt? ha hj
  have bound := modest.2 (List.mem_of_getElem? at_) hj
  have own : ∀ j, phase'.job? = some j → j.failed < g.policy.times := by
    intro j₁ hj₁
    cases hj'.symm.trans hj₁
    omega
  rcases ht.attempt?_or ha with ha' | ⟨j₁, x, rfl, -⟩
  · have sum := ahead_turn at_ policy queue drivers
    rw [before, DriverPhase.ahead_of_attempt? ha' hj', failed] at sum
    exact ⟨modest.drive policy drivers own, .inr ⟨by omega, ha'⟩⟩
  · cases hj'
    have falls : (DriverPhase.deciding j' x).ahead g.policy.times < phase.ahead g.policy.times := by
      rw [before]
      show 4 * (_ - _) - 1 < _
      omega
    obtain ⟨modest', less⟩ := modest.turn_lt at_ policy queue drivers own falls
    exact ⟨modest', .inl less⟩

/-- **Drivers come to an end.** Every step of a driver takes from what is ahead, but for those in which
it goes on with an attempt. -/
theorem Steps.ahead_driver {d : Nat} (h : g.Steps p (.driver d) hs g') (modest : g.IsModest)
    {phase : DriverPhase ρ ω} (at_ : g.drivers[d]? = some phase) :
    g'.IsModest ∧ (g'.ahead < g.ahead ∨ (g'.ahead = g.ahead ∧ ∃ a phase',
      phase.attempt? = some a ∧ g'.drivers[d]? = some phase' ∧ phase'.attempt? = some a)) := by
  have own : ∀ {phase : DriverPhase ρ ω} {j : Job ρ ω}, g.drivers[d]? = some phase →
      phase.job? = some j → j.failed < g.policy.times :=
    fun at_ hj => modest.2 (List.mem_of_getElem? at_) hj
  have lt := (List.getElem?_eq_some_iff.mp at_).1
  suffices next : (g'.IsModest ∧ g'.ahead < g.ahead) ∨ (g'.IsModest ∧ g'.ahead = g.ahead ∧
      ∃ a phase', phase.attempt? = some a ∧ g'.drivers[d]? = some phase' ∧ phase'.attempt? = some a) by
    exact next.elim (fun ⟨modest, less⟩ => ⟨modest, .inl less⟩) fun ⟨modest, goes⟩ => ⟨modest, .inr goes⟩
  cases h with
  | @tend _ a _ phase' t t' es monitor journal at_' ha found ht =>
    cases at_.symm.trans at_'
    obtain ⟨modest', less | ⟨same, ha'⟩⟩ :=
      ahead_tend ((g.tended a t' monitor journal).drive d phase') modest at_ ha ht rfl rfl rfl
    · exact .inl ⟨modest', less⟩
    · exact .inr ⟨modest', same, a, phase', ha, List.getElem?_set_self lt, ha'⟩
  | take at_' going queue =>
    refine .inl ⟨modest.drive rfl rfl ?_, ahead_take at_' queue rfl rfl rfl⟩
    rintro j ⟨⟩
    exact modest.1
  | exit at_' => exact .inl (modest.turn_lt at_' rfl rfl rfl nofun Nat.zero_lt_one)
  | enter at_' going =>
    refine .inl (modest.turn_lt at_' rfl rfl rfl ?_ (Nat.lt_succ_self _))
    rintro j ⟨⟩
    exact own at_' rfl
  | enterStopped at_' fatal =>
    refine .inl (modest.turn_lt at_' rfl rfl rfl ?_ ?_)
    · rintro j ⟨⟩
      exact own at_' rfl
    · show 4 * (_ - _) - 1 < 4 * (_ - _) + 1
      omega
  | @again _ j f ends at_' triesAgain =>
    obtain ⟨-, more⟩ := triesAgain_iff.mp triesAgain
    refine .inl (modest.turn_lt at_' rfl rfl rfl ?_ ?_)
    · rintro j₁ ⟨⟩
      exact more
    · show 4 * (_ - (j.failed + 1)) + 2 < 4 * (_ - j.failed) - 1
      omega
  | @succeed _ j at_'
  | @giveUp _ j f at_' triesAgain =>
    refine .inl (modest.turn_lt at_' rfl rfl rfl nofun ?_)
    have := own at_' rfl
    show 1 < 4 * (_ - j.failed) - 1
    omega
  | rest at_' due =>
    refine .inl (modest.turn_lt at_' rfl rfl rfl ?_ (Nat.lt_succ_self _))
    rintro j ⟨⟩
    exact own at_' rfl

theorem Steps.exists_phase {d : Nat} (h : g.Steps p (.driver d) hs g') :
    ∃ phase, g.drivers[d]? = some phase := by
  cases h <;> exact ⟨_, ‹_›⟩

/-- Nothing adds to what is ahead. -/
theorem Steps.ahead_le (h : g.Steps p m hs g') (modest : g.IsModest) :
    g'.IsModest ∧ g'.ahead ≤ g.ahead := by
  by_cases own : ∃ d, m = .driver d
  · obtain ⟨d, rfl⟩ := own
    obtain ⟨phase, at_⟩ := h.exists_phase
    obtain ⟨modest', less | ⟨same, -⟩⟩ := h.ahead_driver modest at_
    · exact ⟨modest', Nat.le_of_lt less⟩
    · exact ⟨modest', Nat.le_of_eq same⟩
  · obtain ⟨modest', same⟩ := h.ahead_aside modest fun d hd => own ⟨d, hd⟩
    exact ⟨modest', Nat.le_of_eq same⟩

theorem Steps.length_drivers (h : g.Steps p m hs g') : g'.drivers.length = g.drivers.length := by
  cases h with
  | reader | writer | tick | pass => rfl
  | report | finish => exact congrArg List.length (drivers_enforce _ _)
  | tend | take | exit | enter | enterStopped | succeed | again | giveUp | rest =>
    exact List.length_set

/-! ## Groups that are done -/

theorem isDone_iff : g.isDone = true ↔ ∀ phase ∈ g.drivers, phase = .exited := by
  unfold isDone
  rw [List.all_eq_true]
  refine forall₂_congr fun phase _ => ?_
  cases phase with
  | exited => exact iff_of_true rfl rfl
  | _ => exact iff_of_false nofun nofun

/-- Drivers that have exited take no steps. -/
theorem Steps.ne_driver (h : g.Steps p m hs g') (done : g.isDone = true) (d : Nat) :
    m ≠ .driver d := by
  rintro rfl
  have exited : ∀ {phase}, g.drivers[d]? = some phase → phase = .exited :=
    fun at_ => isDone_iff.mp done _ (List.mem_of_getElem? at_)
  cases h with
  | tend monitor journal at_ ha => cases exited at_; cases ha
  | take at_
  | exit at_
  | enter at_
  | enterStopped at_
  | succeed at_
  | again _ at_
  | giveUp at_
  | rest at_ => cases exited at_

theorem Steps.drivers_eq (h : g.Steps p m hs g') (aside : ∀ d, m ≠ .driver d) :
    g'.drivers = g.drivers :=
  List.ext_getElem? fun d => (h.driver_eq d).resolve_left (aside d)

theorem Steps.isDone (h : g.Steps p m hs g') (done : g.isDone = true) : g'.isDone = true := by
  rw [isDone_iff, h.drivers_eq (h.ne_driver done)]
  exact isDone_iff.mp done

end Steps

end Group

/-! ## Courses of groups -/

namespace Chronicle

variable {p : GroupPlugins ρ ω} {c c' : Chronicle ρ ω} {m : GroupMove} {turn : Nat → GroupMove}
  {n : Nat}

/-- What every move keeps, and every run of a group begins with. -/
structure IsSteady (c : Chronicle ρ ω) : Prop where
  sound : c.Sound
  modest : c.group.IsModest
  known : ∀ {a : Nat} {u : Trial ρ ω}, c.group.trial? a = some u →
    u.Standing c.group.fatal ∧ u.Returned c.group.fatal (c.eventsOf a)

theorem isSteady_start (config : CoreConfig) (now : Int) (tasks : List (TaskSpec ρ ω)) :
    (start config now tasks).IsSteady where
  sound := sound_start config now tasks
  modest := by
    refine ⟨(Group.roster_start config now tasks).tries, fun {phase j} hp hj => ?_⟩
    cases List.eq_of_mem_replicate hp
    cases hj
  known := fun hu => absurd (Group.lt_of_trial? hu) (Nat.not_lt_zero _)

theorem IsSteady.step (h : c.IsSteady) (hm : c.step p m = some c') : c'.IsSteady where
  sound := h.sound.step hm
  modest := ((h.sound.steps hm).ahead_le h.modest).1
  known := h.sound.trial_step (p := p)
    (I := fun fatal u es => u.Standing fatal ∧ u.Returned fatal es)
    (fun g j a => ⟨Trial.standing_fresh g j a, nofun⟩) (fun hi => ⟨hi.1.stop, hi.2.stop⟩)
    (fun hi hv => ⟨hi.1.moves hv, hi.2.moves hi.1 hv⟩) h.known hm

theorem IsReached.isSteady (h : c.IsReached p) : c.IsSteady := by
  obtain ⟨config, now, tasks, moves, hc⟩ := h
  exact (run_invariant (P := IsSteady) (fun _ steady hm => steady.step hm)
    (sound_start config now tasks) (isSteady_start config now tasks) hc).2

theorem IsSteady.course (h : c.IsSteady) (turn : Nat → GroupMove) (n : Nat) :
    (course p c turn n).IsSteady :=
  course_keeps (Nat.zero_le n) (fun _ _ ih goes => ih.step goes) h

theorem IsSteady.not_hasReturned (h : c.IsSteady) {d a : Nat} (minds : c.Minds d a) :
    ¬ c.HasReturned a :=
  minds.not_hasReturned_of h.sound.holds fun hu => (h.known hu).2

/-- A schedule is fair to a group with some number of drivers. -/
structure IsFairToGroup (turn : Nat → GroupMove) (drivers : Nat) : Prop where
  time : TimePasses turn
  driver : ∀ d, d < drivers → Recurs turn (.driver d)
  finish : Recurs turn .finish

theorem course_ahead_le (steady : c.IsSteady) {k : Nat} (le : n ≤ k) :
    (course p c turn k).group.ahead ≤ (course p c turn n).group.ahead := by
  refine course_keeps (P := fun x => x.group.ahead ≤ (course p c turn n).group.ahead) le ?_
    (Nat.le_refl _)
  intro i _ ih goes
  have steady := steady.course (p := p) turn i
  exact Nat.le_trans ((steady.sound.steps goes).ahead_le steady.modest).2 ih

theorem course_length_drivers (sound : c.Sound) (turn : Nat → GroupMove) (n : Nat) :
    (course p c turn n).group.drivers.length = c.group.drivers.length := by
  refine course_keeps (P := fun x => x.group.drivers.length = c.group.drivers.length)
    (Nat.zero_le n) ?_ rfl
  intro i _ ih goes
  exact ((sound.course turn i).steps goes).length_drivers.trans ih

/-- A driver that has not exited takes from what is ahead at some time, if its attempt comes to an
end. -/
theorem exists_ahead_lt (steady : c.IsSteady)
    (fair : IsFairToGroup turn c.group.drivers.length)
    (ends : ∀ n a, a < (course p c turn n).group.attempts.length →
      ∃ k, (course p c turn k).HasReturned a) {d : Nat} {phase : DriverPhase ρ ω}
    (at_ : (course p c turn n).group.drivers[d]? = some phase) (going : phase ≠ .exited) :
    ∃ k, n ≤ k ∧ (course p c turn k).group.ahead < (course p c turn n).group.ahead := by
  have lt : d < c.group.drivers.length := by
    rw [← course_length_drivers (p := p) steady.sound turn n]
    exact (List.getElem?_eq_some_iff.mp at_).1
  cases ha : phase.attempt? with
  | none =>
    obtain ⟨k, le, at_', steps⟩ := driver_steps steady.sound fair.time (fair.driver d lt) at_ going
    have steady' := steady.course (p := p) turn k
    refine ⟨k + 1, Nat.le_succ_of_le le, Nat.lt_of_lt_of_le ?_ (course_ahead_le steady le)⟩
    rcases ((steady'.sound.steps steps).ahead_driver steady'.modest at_').2 with
      less | ⟨-, a, -, ha', -⟩
    · exact less
    · cases ha.symm.trans ha'
  | some a =>
    apply Classical.byContradiction
    intro never
    obtain ⟨i, returned⟩ := ends n a ((steady.course (p := p) turn n).sound.holds.begun at_ ha)
    -- while nothing is taken from what is ahead, the driver goes on with its attempt
    have later : (course p c turn (max n i)).Minds d a := by
      refine course_keeps (P := fun x => x.Minds d a) (Nat.le_max_left n i) ?_ ⟨phase, at_, ha⟩
      rintro k le ⟨phase, at_, ha⟩ steps
      have steady' := steady.course (p := p) turn k
      have hs := steady'.sound.steps steps
      rcases hs.driver_eq d with own | same
      · rw [own] at hs
        rcases (hs.ahead_driver steady'.modest at_).2 with
          less | ⟨-, b, phase', hb, at_', hb'⟩
        · exact absurd ⟨k + 1, Nat.le_succ_of_le le,
            Nat.lt_of_lt_of_le less (course_ahead_le steady le)⟩ never
        · cases ha.symm.trans hb
          exact ⟨phase', at_', hb'⟩
      · exact ⟨phase, same.trans at_, ha⟩
    refine (steady.course turn _).not_hasReturned later ?_
    obtain ⟨x, hx⟩ := returned
    exact ⟨x, (eventsOf_course_mono p c turn a (Nat.le_max_right n i)).subset hx⟩

/-- **Groups come to an end.** If all attempts that begin come to an end, the run of the group returns,
in every schedule that is fair to the drivers and to the return. -/
theorem returns_of_isSteady (steady : c.IsSteady) (fair : IsFairToGroup turn c.group.drivers.length)
    (ends : ∀ n a, a < (course p c turn n).group.attempts.length →
      ∃ k, (course p c turn k).HasReturned a) :
    ∃ n, (course p c turn n).group.result.isSome = true := by
  have ended := exists_of_falls (P := fun r k => (course p c turn k).group.ahead = r)
    (Q := fun k => (course p c turn k).group.isDone = true) (n := 0) ?_ rfl
  · obtain ⟨n, -, done⟩ := ended
    -- the drivers have exited for good, and the run returns when that has its turn
    have returned := leads_to (p := p) (c := c) steady.sound fair.time fair.finish 0 (n := n)
      (P := fun k => (course p c turn k).group.isDone = true ∧ (course p c turn k).group.result = none)
      (Q := fun k => (course p c turn k).group.result.isSome = true) ?_ ?_
    · cases hr : (course p c turn n).group.result with
      | some r => exact ⟨n, by rw [hr]; rfl⟩
      | none =>
        obtain ⟨k, -, some_⟩ := returned ⟨done, hr⟩
        exact ⟨k, some_⟩
    · rintro k - ⟨done, going⟩
      have done' : (course p c turn (k + 1)).group.isDone = true :=
        course_keeps (P := fun x => x.group.isDone = true) (Nat.le_succ k)
          (fun i _ done goes => ((steady.course turn i).sound.steps goes).isDone done) done
      cases hr : (course p c turn (k + 1)).group.result with
      | some r => exact .inr rfl
      | none => exact .inl ⟨done', rfl⟩
    · rintro k - ⟨done, going⟩ - turns
      have can : ((course p c turn k).group.step p (turn k)).isSome = true := by
        rw [turns]
        simp [Group.step, done, Group.isOver, going]
      have hs := (steady.course turn k).sound.steps (course_step can)
      rw [turns] at hs
      generalize (course p c turn (k + 1)).group = g' at hs
      cases hs
      rfl
  · rintro r n rfl
    by_cases done : (course p c turn n).group.isDone = true
    · exact ⟨n, Nat.le_refl n, .inl done⟩
    · obtain ⟨phase, hp, going⟩ : ∃ phase ∈ (course p c turn n).group.drivers, phase ≠ .exited := by
        apply Classical.byContradiction
        intro none_
        refine done (Group.isDone_iff.mpr fun phase hp => ?_)
        exact Classical.byContradiction fun going => none_ ⟨phase, hp, going⟩
      obtain ⟨d, at_⟩ := List.mem_iff_getElem?.mp hp
      obtain ⟨k, le, less⟩ := exists_ahead_lt steady fair ends at_ going
      exact ⟨k, le, .inr ⟨_, less, rfl⟩⟩

theorem returns (reached : c.IsReached p) (fair : IsFairToGroup turn c.group.drivers.length)
    (ends : ∀ n a, a < (course p c turn n).group.attempts.length →
      ∃ k, (course p c turn k).HasReturned a) :
    ∃ n, (course p c turn n).group.result.isSome = true :=
  returns_of_isSteady reached.isSteady fair ends

end Chronicle

end BatchSync
