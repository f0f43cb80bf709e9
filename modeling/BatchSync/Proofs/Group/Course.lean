import BatchSync.Group.Schedule
import BatchSync.Proofs.Group.Settlement
import Mathlib.Algebra.Ring.Periodic

/-!
# Endless schedules

A schedule without an end gives one move its turn after the other, and a move that cannot happen is
passed over (`Chronicle.course`). It is fair to a move if this has its turn again and again, and time
never stands still for good.

`leads_to` is the rule for progress in a fair course: what can happen from some time on, and remains
possible until it does, happens. `driver_steps` is the case of a driver, and `exists_of_falls` iterates
such steps along a rank.
-/

namespace BatchSync

variable {ρ ω : Type}

/-- A rank that falls again and again comes to its end. -/
theorem exists_of_falls {P : Nat → Nat → Prop} {Q : Nat → Prop}
    (falls : ∀ {k n : Nat}, P k n → ∃ m, n ≤ m ∧ (Q m ∨ ∃ k', k' < k ∧ P k' m)) {k n : Nat}
    (h : P k n) : ∃ m, n ≤ m ∧ Q m := by
  induction k using Nat.strongRecOn generalizing n with
  | ind k ih =>
    obtain ⟨m, le, done | ⟨k', lt, h'⟩⟩ := falls h
    · exact ⟨m, le, done⟩
    · obtain ⟨m', le', done⟩ := ih k' lt h'
      exact ⟨m', Nat.le_trans le le', done⟩

/-! ## Time -/

theorem Group.Steps.instant_le {p : GroupPlugins ρ ω} {g g' : Group ρ ω} {m : GroupMove}
    {hs : List Happening} (h : g.Steps p m hs g') : g.instant ≤ g'.instant := by
  cases h with
  | report | finish => exact Nat.le_of_eq (Group.instant_enforce _ _).symm
  | tick span => exact Nat.le_add_right _ _
  | _ => exact Nat.le_refl _

/-! ## Drivers -/

namespace Group

/-- A driver keeps its phase in all moves but its own. -/
theorem Steps.driver_eq {p : GroupPlugins ρ ω} {g g' : Group ρ ω} {m : GroupMove}
    {hs : List Happening} (h : g.Steps p m hs g') (d : Nat) :
    m = .driver d ∨ g'.drivers[d]? = g.drivers[d]? := by
  have driven : ∀ (g₁ : Group ρ ω) (e : Nat) (phase : DriverPhase ρ ω), g₁.drivers = g.drivers →
      GroupMove.driver e = .driver d ∨ (g₁.drive e phase).drivers[d]? = g.drivers[d]? := by
    intro g₁ e phase same
    by_cases he : e = d
    · exact .inl (congrArg _ he)
    · refine .inr ?_
      show (g₁.drivers.set e phase)[d]? = _
      rw [List.getElem?_set_ne he, same]
  cases h with
  | reader | writer | tick | pass => exact .inr rfl
  | report | finish => exact .inr (congrArg (·[d]?) (drivers_enforce _ _))
  | tend => exact driven _ _ _ rfl
  | take | exit | enter | enterStopped | succeed | again | giveUp | rest => exact driven _ _ _ rfl

/-- A driver that has not exited can take a step, unless it sleeps. -/
theorem Holds.stepDriver_isSome {g : Group ρ ω} (holds : g.Holds) {d : Nat} {phase : DriverPhase ρ ω}
    (at_ : g.drivers[d]? = some phase) (going : phase ≠ .exited)
    (awake : ∀ ends, wakesAt? phase = some ends → ends ≤ g.instant) :
    (g.stepDriver d).isSome = true := by
  have found : ∀ a, phase.attempt? = some a → ∃ t, g.attempts[a]? = some t :=
    fun a ha => ⟨_, List.getElem?_eq_getElem (holds.begun at_ ha)⟩
  have goes : (g.stepPhase phase).isSome = true := by
    cases phase with
    | exited => exact absurd rfl going
    | sleeping j a ends => simp only [stepPhase, if_pos (awake ends rfl), Option.isSome_some]
    | resting j ends => simp only [stepPhase, if_pos (awake ends rfl), Option.isSome_some]
    | joining j a ends =>
      obtain ⟨t, ht⟩ := found a rfl
      simp [stepPhase, ht, awake ends rfl]
    | watching j a =>
      obtain ⟨t, ht⟩ := found a rfl
      cases ended : t.isOver <;> simp [stepPhase, ht, ended]
    | hanging j a f =>
      obtain ⟨t, ht⟩ := found a rfl
      cases f <;> simp [stepPhase, ht]
    | failing j a f result =>
      obtain ⟨t, ht⟩ := found a rfl
      cases f <;> simp [stepPhase, ht]
    | settling j a result => cases result <;> rfl
    | registering j a | reporting j a | judging j a | concluding j a =>
      obtain ⟨t, ht⟩ := found a rfl
      simp [stepPhase, ht]
    | _ => rfl
  obtain ⟨next, hs⟩ := Option.isSome_iff_exists.mp goes
  simp [stepDriver, at_, hs]

end Group

namespace Chronicle

variable {p : GroupPlugins ρ ω} {c c' : Chronicle ρ ω} {m : GroupMove}

/-! ## Runs that go on -/

/-- A run may be cut in two. -/
theorem run_append {a b : List GroupMove} (h : c.run p a = some c') :
    c.run p (a ++ b) = c'.run p b := by
  induction a generalizing c with
  | nil => cases h; rfl
  | cons m a ih =>
    simp only [run, List.cons_append] at *
    cases hm : c.step p m with
    | none => rw [hm] at h; cases h
    | some c₁ => rw [hm] at h; exact ih h

/-- What is told is never taken back. -/
theorem eventsOf_mono (h : c.step p m = some c') (a : Nat) : c.eventsOf a <+: c'.eventsOf a :=
  ⟨_, (eventsOf_step h a).symm⟩

/-! ## Courses -/

/-- What becomes of a chronicle when a move has its turn. One that cannot happen is passed over. -/
def next (p : GroupPlugins ρ ω) (c : Chronicle ρ ω) (m : GroupMove) : Chronicle ρ ω :=
  (c.step p m).getD c

/-- What an endless schedule leads to in some number of turns. -/
def course (p : GroupPlugins ρ ω) (c : Chronicle ρ ω) (turn : Nat → GroupMove) : Nat → Chronicle ρ ω
  | 0 => c
  | n + 1 => (course p c turn n).next p (turn n)

/-- A move has its turn again and again. -/
def Recurs (turn : Nat → GroupMove) (m : GroupMove) : Prop := ∀ n, ∃ k, n ≤ k ∧ turn k = m

/-- Time never stands still for good. -/
def TimePasses (turn : Nat → GroupMove) : Prop :=
  ∀ n, ∃ k span, n ≤ k ∧ 0 < span ∧ turn k = .tick span

/-- In a schedule that repeats itself every move recurs. -/
theorem recurs_of_periodic {turn : Nat → GroupMove} {period : Nat} (pos : 0 < period)
    (periodic : Function.Periodic turn period) (k : Nat) : Recurs turn (turn k) := fun n =>
  ⟨k + n * period, Nat.le_add_left_of_le (Nat.le_mul_of_pos_right n pos), periodic.nat_mul n k⟩

theorem next_eq (h : c.step p m = some c') : c.next p m = c' := by
  unfold next
  rw [h]
  rfl

theorem next_eq_or (p : GroupPlugins ρ ω) (c : Chronicle ρ ω) (m : GroupMove) :
    c.next p m = c ∨ c.step p m = some (c.next p m) := by
  unfold next
  cases c.step p m with
  | none => exact .inl rfl
  | some c' => exact .inr rfl

variable {turn : Nat → GroupMove}

/-- What a turn does in a course. -/
theorem course_succ (p : GroupPlugins ρ ω) (c : Chronicle ρ ω) (turn : Nat → GroupMove) (n : Nat) :
    course p c turn (n + 1) = course p c turn n ∨
      (course p c turn n).step p (turn n) = some (course p c turn (n + 1)) :=
  next_eq_or p (course p c turn n) (turn n)

/-- What the moves of a course keep from some time on holds from then on. -/
theorem course_keeps {P : Chronicle ρ ω → Prop} {n k : Nat} (le : n ≤ k)
    (keeps : ∀ i, n ≤ i → P (course p c turn i) →
      (course p c turn i).step p (turn i) = some (course p c turn (i + 1)) →
      P (course p c turn (i + 1)))
    (h : P (course p c turn n)) : P (course p c turn k) := by
  induction le with
  | refl => exact h
  | @step i le ih =>
    rcases course_succ p c turn i with same | goes
    · rw [same]
      exact ih
    · exact keeps i le ih goes

/-- Every part of a course is a run. -/
theorem exists_run_course (p : GroupPlugins ρ ω) (c : Chronicle ρ ω) (turn : Nat → GroupMove)
    (n : Nat) : ∃ moves, c.run p moves = some (course p c turn n) := by
  refine course_keeps (P := fun x => ∃ moves, c.run p moves = some x) (Nat.zero_le n) ?_ ⟨[], rfl⟩
  rintro i - ⟨moves, h⟩ goes
  refine ⟨moves ++ [turn i], ?_⟩
  rw [run_append h]
  simp only [run, goes]

theorem Sound.course (sound : c.Sound) (turn : Nat → GroupMove) (n : Nat) :
    (course p c turn n).Sound :=
  course_keeps (Nat.zero_le n) (fun _ _ ih goes => ih.step goes) sound

/-- What is told in a course is never taken back. -/
theorem eventsOf_course_mono (p : GroupPlugins ρ ω) (c : Chronicle ρ ω) (turn : Nat → GroupMove) (a : Nat)
    {n k : Nat} (le : n ≤ k) :
    (course p c turn n).eventsOf a <+: (course p c turn k).eventsOf a :=
  course_keeps (P := fun x => (course p c turn n).eventsOf a <+: x.eventsOf a) le
    (fun _ _ ih goes => ih.trans (eventsOf_mono goes a)) List.prefix_rfl

theorem course_instant_le (sound : c.Sound) (turn : Nat → GroupMove) {n k : Nat} (le : n ≤ k) :
    (course p c turn n).group.instant ≤ (course p c turn k).group.instant := by
  refine course_keeps (P := fun x => (course p c turn n).group.instant ≤ x.group.instant) le ?_
    (Nat.le_refl _)
  intro i _ ih goes
  exact Nat.le_trans ih ((sound.course turn i).steps goes).instant_le

/-- Every time comes. -/
theorem exists_instant (sound : c.Sound) (time : TimePasses turn) (since : Nanos) (n : Nat) :
    ∃ k, n ≤ k ∧ since ≤ (course p c turn k).group.instant := by
  induction since with
  | zero => exact ⟨n, Nat.le_refl n, Nat.zero_le _⟩
  | succ since ih =>
    obtain ⟨k, le, due⟩ := ih
    obtain ⟨i, span, le', pos, ticks⟩ := time k
    refine ⟨i + 1, by omega, ?_⟩
    have before := course_instant_le (p := p) sound turn le'
    have after : (course p c turn (i + 1)).group.instant =
        (course p c turn i).group.instant + span := by
      show (next p _ (turn i)).group.instant = _
      rw [ticks]
      rfl
    rw [after]
    exact Nat.add_le_add (Nat.le_trans due before) pos

/-- **Progress.** What can happen from some time on, and remains possible until it does, happens in a
course that is fair to it. -/
theorem leads_to (sound : c.Sound) (time : TimePasses turn) (fair : Recurs turn m)
    {P Q : Nat → Prop} (since : Nanos) {n : Nat}
    (stays : ∀ k, n ≤ k → P k → P (k + 1) ∨ Q (k + 1))
    (happens : ∀ k, n ≤ k → P k → since ≤ (course p c turn k).group.instant → turn k = m →
      Q (k + 1)) (h : P n) : ∃ k, n ≤ k ∧ Q k := by
  apply Classical.byContradiction
  intro never
  have always : ∀ k, n ≤ k → P k := by
    intro k le
    induction le with
    | refl => exact h
    | @step k le ih =>
      exact (stays k le ih).resolve_right fun done => never ⟨k + 1, Nat.le_succ_of_le le, done⟩
  obtain ⟨i, hi, due⟩ := exists_instant (p := p) sound time since n
  obtain ⟨k, hk, turns⟩ := fair i
  have le : n ≤ k := Nat.le_trans hi hk
  have due : since ≤ (course p c turn k).group.instant :=
    Nat.le_trans due (course_instant_le sound turn hk)
  exact never ⟨k + 1, Nat.le_succ_of_le le, happens k le (always k le) due turns⟩

/-- A move that can happen when it has its turn does so. -/
theorem course_step {n : Nat} (h : ((course p c turn n).group.step p (turn n)).isSome = true) :
    (course p c turn n).step p (turn n) = some (course p c turn (n + 1)) := by
  have goes : ((course p c turn n).step p (turn n)).isSome = true := by
    unfold step
    rw [Option.isSome_map]
    exact h
  obtain ⟨c', hs⟩ := Option.isSome_iff_exists.mp goes
  exact hs.trans (congrArg some (next_eq hs).symm)

/-- A driver that has not exited takes a step at some time, and keeps its phase until then. -/
theorem driver_steps (sound : c.Sound) (time : TimePasses turn) {d : Nat}
    (fair : Recurs turn (.driver d)) {n : Nat} {phase : DriverPhase ρ ω}
    (at_ : (course p c turn n).group.drivers[d]? = some phase) (going : phase ≠ .exited) :
    ∃ k, n ≤ k ∧ (course p c turn k).group.drivers[d]? = some phase ∧
      (course p c turn k).step p (.driver d) = some (course p c turn (k + 1)) := by
  have goes := leads_to (p := p) (c := c) sound time fair ((Group.wakesAt? phase).getD 0) (n := n)
    (P := fun k => (course p c turn k).group.drivers[d]? = some phase)
    (Q := fun m => ∃ k, n ≤ k ∧ m = k + 1 ∧ (course p c turn k).group.drivers[d]? = some phase ∧
      (course p c turn k).step p (.driver d) = some (course p c turn (k + 1)))
    ?_ ?_ at_
  · obtain ⟨-, -, k, le, -, before, steps⟩ := goes
    exact ⟨k, le, before, steps⟩
  · intro k le before
    rcases course_succ p c turn k with same | steps
    · exact .inl (by rw [same]; exact before)
    · rcases ((sound.course turn k).steps steps).driver_eq d with own | same
      · exact .inr ⟨k, le, rfl, before, own ▸ steps⟩
      · exact .inl (same.trans before)
  · intro k le before due turns
    have awake : ∀ ends, Group.wakesAt? phase = some ends →
        ends ≤ (course p c turn k).group.instant := by
      intro ends he
      rw [he] at due
      exact due
    refine ⟨k, le, rfl, before, turns ▸ course_step ?_⟩
    rw [turns]
    exact (sound.course turn k).holds.stepDriver_isSome before going awake

/-! ## Runs from the start -/

variable {a d : Nat}

/-- A chronicle of a run from the start of a group. -/
def IsReached (p : GroupPlugins ρ ω) (c : Chronicle ρ ω) : Prop :=
  ∃ config now tasks moves, (start config now tasks).run p moves = some c

theorem IsReached.run (h : c.IsReached p) (moves : List GroupMove) (hc : c.run p moves = some c') :
    c'.IsReached p := by
  obtain ⟨config, now, tasks, before, hb⟩ := h
  exact ⟨config, now, tasks, before ++ moves, (run_append hb).trans hc⟩

theorem IsReached.step (h : c.IsReached p) (hm : c.step p m = some c') : c'.IsReached p :=
  h.run [m] (by simp only [Chronicle.run, hm])

theorem IsReached.course (h : c.IsReached p) (turn : Nat → GroupMove) (n : Nat) :
    (course p c turn n).IsReached p := by
  obtain ⟨moves, hc⟩ := exists_run_course p c turn n
  exact h.run moves hc

theorem IsReached.sound (h : c.IsReached p) : c.Sound := by
  obtain ⟨config, now, tasks, moves, hc⟩ := h
  exact sound_of_run hc

/-- What is known of every attempt. -/
theorem IsReached.standing (h : c.IsReached p) {u : Trial ρ ω} (hu : c.group.trial? a = some u) :
    u.Standing c.group.fatal ∧ u.Returned c.group.fatal (c.eventsOf a) := by
  obtain ⟨config, now, tasks, moves, hc⟩ := h
  exact standing_of_run hc hu

/-! ## Attempts in the hands of drivers -/

/-- A driver holds an attempt. -/
def Minds (c : Chronicle ρ ω) (d a : Nat) : Prop :=
  ∃ phase, c.group.drivers[d]? = some phase ∧ phase.attempt? = some a

/-- An attempt has returned something. -/
def HasReturned (c : Chronicle ρ ω) (a : Nat) : Prop := ∃ x, .returned x ∈ c.eventsOf a

/-- A step of a driver that holds an attempt. -/
theorem Sound.tends (sound : c.Sound) {phase : DriverPhase ρ ω}
    (at_ : c.group.drivers[d]? = some phase) (ha : phase.attempt? = some a)
    (hm : c.step p (.driver d) = some c') :
    ∃ t t' es phase', c.group.attempts[a]? = some t ∧ phase.Tends c.group t es t' phase' ∧
      c'.group.drivers[d]? = some phase' ∧ c'.eventsOf a = c.eventsOf a ++ es := by
  have hs := sound.steps hm
  rw [eventsOf_step hm]
  generalize c.group.happenings p (.driver d) = told at hs
  generalize c'.group = g' at hs
  have lt : d < c.group.drivers.length := (List.getElem?_eq_some_iff.mp at_).1
  cases hs with
  | tend monitor journal at_' ha' found ht =>
    cases at_.symm.trans at_'
    cases ha.symm.trans ha'
    rw [filterMap_of?_map, if_pos rfl]
    exact ⟨_, _, _, _, found, ht, List.getElem?_set_self lt, rfl⟩
  | take at_'
  | exit at_'
  | enter at_'
  | enterStopped at_'
  | succeed at_'
  | again _ at_'
  | giveUp at_'
  | rest at_' => cases at_.symm.trans at_'; cases ha

theorem Minds.step (h : c.Minds d a) (sound : c.Sound) (hm : c.step p m = some c') :
    c'.Minds d a ∨ c'.HasReturned a := by
  obtain ⟨phase, at_, ha⟩ := h
  rcases (sound.steps hm).driver_eq d with rfl | same
  · obtain ⟨t, t', es, phase', -, ht, at_', told⟩ := sound.tends at_ ha hm
    rcases ht.attempt?_or ha with ha' | ⟨-, x, -, hx⟩
    · exact .inl ⟨phase', at_', ha'⟩
    · exact .inr ⟨x, by rw [told]; exact List.mem_append_right _ hx⟩
  · exact .inl ⟨phase, same.trans at_, ha⟩

/-- An attempt that is held has not returned, since no driver holds one that has. -/
theorem Minds.not_hasReturned_of (h : c.Minds d a) (holds : c.group.Holds)
    (returned : ∀ {u : Trial ρ ω}, c.group.trial? a = some u →
      u.Returned c.group.fatal (c.eventsOf a)) : ¬ c.HasReturned a := by
  rintro ⟨x, hx⟩
  obtain ⟨phase, at_, ha⟩ := h
  have hu := holds.trial?_eq at_ ha (List.getElem?_eq_getElem (holds.begun at_ ha))
  have free := (returned hu x hx).1
  cases free

theorem Minds.not_hasReturned (h : c.Minds d a) (reached : c.IsReached p) : ¬ c.HasReturned a :=
  h.not_hasReturned_of reached.sound.holds fun hu => (reached.standing hu).2

end Chronicle

end BatchSync
