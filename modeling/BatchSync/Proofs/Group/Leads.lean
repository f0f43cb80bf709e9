import BatchSync.Proofs.Group.Completion

/-!
# Groups that are stopped from outside

A look at the progress stops a group once the limit on dirty records is exceeded. It may also be stopped
from outside, at any time until it has returned, and for any reason, as it is when one of its drivers
cannot be started. What a group comes to by its own moves and by such stops (`Chronicle.Leads`) keeps
what every run keeps.
-/

namespace BatchSync

variable {ρ ω : Type}

namespace Group

/-- The first reason to stop a group remains. -/
theorem fatal_stop {g : Group ρ ω} {f : Failure} (fatal : g.fatal = some f) (f' : Failure) :
    (g.stop f').fatal = some f := by
  unfold stop
  rw [fatal]
  rfl

theorem isSome_fatal_stop (g : Group ρ ω) (f : Failure) : (g.stop f).fatal.isSome = true := by
  unfold stop
  cases g.fatal <;> rfl

end Group

namespace Chronicle

/-- A chronicle after its group was stopped from outside. -/
def stopped (c : Chronicle ρ ω) (f : Failure) : Chronicle ρ ω := { c with group := c.group.stop f }

/-- What a group comes to by its moves, and by being stopped from outside before it has returned. -/
inductive Leads (p : GroupPlugins ρ ω) (c : Chronicle ρ ω) : Chronicle ρ ω → Prop
  | refl : Leads p c c
  | move {c₁ c₂ : Chronicle ρ ω} {m : GroupMove} (h : Leads p c c₁) (goes : c₁.step p m = some c₂) :
      Leads p c c₂
  | stop {c₁ : Chronicle ρ ω} (f : Failure) (h : Leads p c c₁) (going : c₁.group.result = none) :
      Leads p c (c₁.stopped f)

variable {p : GroupPlugins ρ ω} {c c' c'' : Chronicle ρ ω} {f : Failure}

theorem Leads.trans (h : c.Leads p c') (h' : c'.Leads p c'') : c.Leads p c'' := by
  induction h' with
  | refl => exact h
  | move _ goes ih => exact .move ih goes
  | stop f _ going ih => exact .stop f ih going

/-- Runs lead on. -/
theorem leads_of_run {moves : List GroupMove} : ∀ {c : Chronicle ρ ω}, c.run p moves = some c' →
    c.Leads p c' := by
  induction moves with
  | nil => intro c h; cases h; exact .refl
  | cons m rest ih =>
    intro c h
    simp only [run] at h
    cases hm : c.step p m with
    | none => rw [hm] at h; cases h
    | some c₁ => rw [hm] at h; exact (Leads.move .refl hm).trans (ih h)

theorem leads_of_course (p : GroupPlugins ρ ω) (c : Chronicle ρ ω) (turn : Nat → GroupMove) (n : Nat) :
    c.Leads p (course p c turn n) := by
  obtain ⟨moves, h⟩ := exists_run_course p c turn n
  exact leads_of_run h

/-! ## What is kept -/

theorem Sound.stopped (sound : c.Sound) (f : Failure) : (c.stopped f).Sound where
  holds := sound.holds.of_eq rfl (Nat.le_refl _)
  untold := sound.untold

/-- What is kept when the groups of attempts are stopped holds after a stop, if it did before. -/
theorem trials_stopped {I : Option Failure → Trial ρ ω → List AttemptEvent → Prop}
    (stop : ∀ {f : Failure} {u : Trial ρ ω} {es : List AttemptEvent}, I none u es → I (some f) u es)
    (hc : ∀ {a : Nat} {u : Trial ρ ω}, c.group.trial? a = some u → I c.group.fatal u (c.eventsOf a))
    {a : Nat} {u : Trial ρ ω} (hu : (c.stopped f).group.trial? a = some u) :
    I (c.stopped f).group.fatal u ((c.stopped f).eventsOf a) := by
  have hi := hc hu
  show I (c.group.fatal.or (some f)) u (c.eventsOf a)
  cases fatal : c.group.fatal with
  | some e => rw [fatal] at hi; exact hi
  | none => rw [fatal] at hi; exact stop hi

theorem IsSteady.stopped (steady : c.IsSteady) (f : Failure) : (c.stopped f).IsSteady where
  sound := steady.sound.stopped f
  modest := steady.modest.of_eq rfl rfl
  known := trials_stopped (I := fun fatal u es => u.Standing fatal ∧ u.Returned fatal es)
    (fun hi => ⟨hi.1.stop, hi.2.stop⟩) steady.known

/-- What every move and every stop keeps holds of all that a group comes to. -/
theorem Leads.keeps {P : Chronicle ρ ω → Prop}
    (move : ∀ {c c' : Chronicle ρ ω} {m : GroupMove}, c.IsSteady → P c → c.step p m = some c' → P c')
    (stop : ∀ {c : Chronicle ρ ω} {f : Failure}, c.IsSteady → c.group.result = none → P c →
      P (c.stopped f))
    (h : c.Leads p c') (steady : c.IsSteady) (hc : P c) : c'.IsSteady ∧ P c' := by
  induction h with
  | refl => exact ⟨steady, hc⟩
  | move _ goes ih => exact ⟨ih.1.step goes, move ih.1 ih.2 goes⟩
  | stop f _ going ih => exact ⟨ih.1.stopped f, stop ih.1 going ih.2⟩

theorem Leads.isSteady (h : c.Leads p c') (steady : c.IsSteady) : c'.IsSteady :=
  (h.keeps (P := fun _ => True) (fun _ _ _ => trivial) (fun _ _ _ => trivial) steady trivial).1

/-- A group that was stopped remains so, for the same reason. -/
theorem Leads.fatal_eq (h : c.Leads p c') (steady : c.IsSteady) (fatal : c.group.fatal = some f) :
    c'.group.fatal = some f :=
  (h.keeps (P := fun c => c.group.fatal = some f) (fun steady fatal goes =>
    (steady.sound.steps goes).fatal_eq fatal) (fun _ _ fatal => Group.fatal_stop fatal _) steady fatal).2

/-- Attempts are never taken back. -/
theorem Leads.length_le (h : c.Leads p c') (steady : c.IsSteady) :
    c.group.attempts.length ≤ c'.group.attempts.length :=
  (h.keeps (P := fun c' => c.group.attempts.length ≤ c'.group.attempts.length) (fun steady le goes =>
    Nat.le_trans le (steady.sound.steps goes).length_le) (fun _ _ le => le) steady (Nat.le_refl _)).2

variable {config : CoreConfig} {now : Int} {tasks : List (TaskSpec ρ ω)}

/-- **Induction over attempts of groups that may be stopped from outside.** -/
theorem Leads.trials {I : Option Failure → Trial ρ ω → List AttemptEvent → Prop}
    (fresh : ∀ (g : Group ρ ω) (j : Job ρ ω) (a : Nat),
      I none ⟨some (.makingReader j a), g.freshAttempt j.spec⟩ [])
    (stop : ∀ {f : Failure} {u : Trial ρ ω} {es : List AttemptEvent}, I none u es → I (some f) u es)
    (move : ∀ {g : Group ρ ω} {u u' : Trial ρ ω} {es es' : List AttemptEvent}, I g.fatal u es →
      u.Moves p g es' u' → I g.fatal u' (es ++ es'))
    (h : (start config now tasks).Leads p c) {a : Nat} {u : Trial ρ ω}
    (hu : c.group.trial? a = some u) : I c.group.fatal u (c.eventsOf a) := by
  refine (h.keeps (P := fun c => ∀ {a : Nat} {u : Trial ρ ω}, c.group.trial? a = some u →
    I c.group.fatal u (c.eventsOf a)) ?_ ?_ (isSteady_start config now tasks) ?_).2 hu
  · exact fun steady hc goes => steady.sound.trial_step fresh stop move hc goes
  · exact fun _ _ hc => trials_stopped stop hc
  · exact fun hu => absurd (Group.lt_of_trial? hu) (Nat.not_lt_zero _)

theorem Leads.indexed (h : (start config now tasks).Leads p c) : c.group.Indexed := by
  refine (h.keeps (P := fun c => c.group.Indexed) ?_ ?_ (isSteady_start config now tasks) ?_).2
  · exact fun steady indexed goes => indexed.step (steady.sound.steps goes)
  · exact fun _ _ indexed => indexed.of_eq rfl rfl
  · exact ⟨.nil, fun {k a} => ⟨nofun, nofun⟩⟩

theorem Leads.policy_eq (h : (start config now tasks).Leads p c) :
    c.group.policy = Group.failoverPolicy config.container.task.failover := by
  refine (h.keeps (P := fun c => c.group.policy = _) ?_ ?_ (isSteady_start config now tasks) rfl).2
  · exact fun steady policy goes => (steady.sound.steps goes).policy_eq.trans policy
  · exact fun _ _ policy => policy

/-- As long as its group was not stopped, every task waits, or is in hand, or is settled. -/
theorem Leads.roster (distinct : (tasks.map TaskSpec.task).Nodup)
    (h : (start config now tasks).Leads p c) (calm : c.group.fatal = none) :
    ∃ settled, c.group.Roster (tasks.map TaskSpec.task) settled := by
  refine (h.keeps (P := fun c => c.group.fatal = none →
    ∃ settled, c.group.Roster (tasks.map TaskSpec.task) settled) ?_ ?_
    (isSteady_start config now tasks) fun _ => ⟨[], Group.roster_start config now tasks⟩).2 calm
  · intro c c' m steady before goes calm
    have steps := steady.sound.steps goes
    have calm' := steps.fatal_eq_none calm
    obtain ⟨settled, roster⟩ := before calm'
    obtain ⟨new, next⟩ := roster.steps distinct steady.sound.holds (fun hu => (steady.known hu).1) steps
      calm'
    exact ⟨_, next⟩
  · intro c f _ _ _ calm
    have some_ := Group.isSome_fatal_stop c.group f
    rw [show (c.group.stop f).fatal = none from calm] at some_
    cases some_

end Chronicle

end BatchSync
