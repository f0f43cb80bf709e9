import BatchSync.Proofs.Group.Leads
import BatchSync.Proofs.Group.Outcome
import BatchSync.Proofs.Group.Success

/-!
# Groups that were stopped

What a group does once it was stopped (`Chronicle.stop_settles`), wherever its drivers and threads are
at that time.

1. Nothing begins any more: a driver that is about to begin an attempt turns away
   (`Group.Steps.tasks_eq`), and nobody else makes plugins (`Group.journal_of_step`).
2. What has begun comes to an end: every step of a driver in a stopped group takes it nearer to the
   result of its attempt (`DriverPhase.toStop`).
3. What the group returns is why it was stopped (`Group.Steps.result_eq`).
4. An attempt that is followed by another has failed in a way that is tried again, stopped or not
   (`Group.OnlyRetries`), and an exceeded limit is no such way.
-/

namespace BatchSync

variable {ρ ω : Type}

/-! ## Who makes plugins -/

/-- Whether an event is told when an instance is asked for. -/
def PluginEvent.IsMaking : PluginEvent → Prop
  | .created _ => True
  | _ => False

/-- Whether a driver is about to ask for an instance. -/
def DriverPhase.IsMaking : DriverPhase ρ ω → Prop
  | .makingReader _ _ => True
  | .makingWriter _ _ _ => True
  | _ => False

theorem PluginEvent.not_isMaking_of_mem_nil : ∀ e ∈ ([] : List PluginEvent), ¬ e.IsMaking := nofun

/-- Nothing is told in a step of a call. -/
theorem ThreadStep.not_isMaking_of_quiet {α β : Type} {o : Option (Line × α)} {f : Line × α → β}
    {s : ThreadStep β} (h : (o.map fun n => ThreadStep.quiet n.1 (f n)) = some s) :
    ∀ e ∈ s.events, ¬ e.IsMaking := by
  obtain ⟨n, -, rfl⟩ := Option.map_eq_some_iff.mp h
  exact PluginEvent.not_isMaking_of_mem_nil

/-- Threads ask for no instances. -/
theorem ReaderThread.not_isMaking {plugin : Reader ρ} {w : Surroundings} {l : Line}
    {t : ReaderThread ρ} {s : ThreadStep (ReaderThread ρ)} (h : t.step plugin w l = some s) :
    ∀ e ∈ s.events, ¬ e.IsMaking := by
  obtain ⟨x, k, phase⟩ := t
  cases phase with
  | init s₀ => cases h; simp [PluginEvent.IsMaking]
  | starting s₀ => cases h; simp [PluginEvent.IsMaking]
  | running s₀ =>
    simp only [step, act] at h
    cases ha : plugin.act s₀ with
    | wait ready =>
      rw [ha] at h
      dsimp only at h
      split at h <;> cases h
      exact PluginEvent.not_isMaking_of_mem_nil
    | tell n => rw [ha] at h; cases h; simp [PluginEvent.IsMaking]
    | finish e => rw [ha] at h; cases e <;> cases h <;> exact PluginEvent.not_isMaking_of_mem_nil
    | call | collect | note | elapse => rw [ha] at h; cases h; exact PluginEvent.not_isMaking_of_mem_nil
  | calling s₀ d => cases d with
    | returned | closing => cases h; exact PluginEvent.not_isMaking_of_mem_nil
    | pushing | waiting | metering | pausing => exact ThreadStep.not_isMaking_of_quiet h
  | terminating s₀ d => cases d with
    | returned | closing => cases h; exact PluginEvent.not_isMaking_of_mem_nil
    | pushing | waiting | metering | pausing => exact ThreadStep.not_isMaking_of_quiet h
  | destroying s₀ r => cases h; simp [PluginEvent.IsMaking]
  | failing f => cases f <;> cases h <;> exact PluginEvent.not_isMaking_of_mem_nil
  | closing => cases h; exact PluginEvent.not_isMaking_of_mem_nil
  | finished => cases h

theorem WriterThread.not_isMaking {plugin : Writer ω} {w : Surroundings} {l : Line}
    {t : WriterThread ω} {s : ThreadStep (WriterThread ω)} (h : t.step plugin w l = some s) :
    ∀ e ∈ s.events, ¬ e.IsMaking := by
  obtain ⟨x, k, phase⟩ := t
  cases phase with
  | init s₀ => cases h; simp [PluginEvent.IsMaking]
  | starting s₀ => cases h; simp [PluginEvent.IsMaking]
  | running s₀ =>
    simp only [step, act] at h
    cases ha : plugin.act s₀ with
    | call c =>
      cases c
      rw [ha] at h
      dsimp only at h
      split at h <;> cases h <;> exact PluginEvent.not_isMaking_of_mem_nil
    | wait ready =>
      rw [ha] at h
      dsimp only at h
      split at h <;> cases h
      exact PluginEvent.not_isMaking_of_mem_nil
    | tell n => rw [ha] at h; cases h; simp [PluginEvent.IsMaking]
    | finish e => rw [ha] at h; cases e <;> cases h <;> exact PluginEvent.not_isMaking_of_mem_nil
    | collect | note | elapse => rw [ha] at h; cases h; exact PluginEvent.not_isMaking_of_mem_nil
  | calling s₀ d => cases d with
    | returned batch => cases h; exact PluginEvent.not_isMaking_of_mem_nil
    | taking | waiting => exact ThreadStep.not_isMaking_of_quiet h
  | destroying s₀ r => cases h; simp [PluginEvent.IsMaking]
  | failing f => cases f <;> cases h <;> exact PluginEvent.not_isMaking_of_mem_nil
  | shutting | closing => cases h; exact PluginEvent.not_isMaking_of_mem_nil
  | finished => cases h

namespace Group

variable {p : GroupPlugins ρ ω} {g g' : Group ρ ω} {m : GroupMove} {hs : List Happening}

/-- What is told in a move: instances are asked for by nobody but a driver that makes the plugins of its
attempt. -/
structure Tells (g g' : Group ρ ω) (m : GroupMove) (new : List JournalEntry) : Prop where
  journal : g'.journal = g.journal ++ new
  making : ∀ e ∈ new, e.event.IsMaking → ∃ d phase, m = .driver d ∧ g.drivers[d]? = some phase ∧
    phase.IsMaking ∧ phase.attempt? = some e.attempt

theorem tells_nothing (same : g'.journal = g.journal) : g.Tells g' m [] :=
  ⟨same.trans (List.append_nil _).symm, nofun⟩

theorem took_tells {a : Nat} {side : Side} {s : ThreadStep (Attempt ρ ω)}
    (quiet : ∀ e ∈ s.events, ¬ e.IsMaking) :
    g.Tells (g.took a side s) m (s.events.map fun e => ⟨a, side, e⟩) := by
  refine ⟨rfl, fun e he making => ?_⟩
  obtain ⟨event, hm, rfl⟩ := List.mem_map.mp he
  exact absurd making (quiet event hm)

theorem stepDriver_tells {d : Nat} (holds : g.Holds) (h : g.stepDriver d = some g') :
    ∃ new, g.Tells g' (.driver d) new := by
  obtain ⟨phase, at_, -⟩ := Option.bind_eq_some_iff.mp h
  have journal := (watched_of_stepDriver holds at_ h).2
  cases phase with
  | makingReader j a =>
    refine ⟨_, journal, fun e he _ => ⟨d, _, rfl, at_, trivial, ?_⟩⟩
    cases List.mem_singleton.mp he
    rfl
  | makingWriter j a r =>
    refine ⟨_, journal, fun e he _ => ⟨d, _, rfl, at_, trivial, ?_⟩⟩
    cases List.mem_singleton.mp he
    rfl
  | _ => exact ⟨[], tells_nothing journal⟩

theorem journal_of_step (holds : g.Holds) (h : g.step p m = some g') : ∃ new, g.Tells g' m new := by
  cases m with
  | reader a =>
    obtain ⟨t, -, h⟩ := Option.bind_eq_some_iff.mp h
    obtain ⟨s, hs, h⟩ := Option.bind_eq_some_iff.mp h
    cases h
    obtain ⟨th, -, hs⟩ := Option.bind_eq_some_iff.mp hs
    obtain ⟨s', hs', hs⟩ := Option.bind_eq_some_iff.mp hs
    cases hs
    exact ⟨_, took_tells (ReaderThread.not_isMaking hs')⟩
  | writer a =>
    obtain ⟨t, -, h⟩ := Option.bind_eq_some_iff.mp h
    obtain ⟨s, hs, h⟩ := Option.bind_eq_some_iff.mp h
    cases h
    obtain ⟨th, -, hs⟩ := Option.bind_eq_some_iff.mp hs
    obtain ⟨s', hs', hs⟩ := Option.bind_eq_some_iff.mp hs
    cases hs
    exact ⟨_, took_tells (WriterThread.not_isMaking hs')⟩
  | driver d => exact stepDriver_tells holds h
  | report =>
    simp only [step] at h
    split at h <;> cases h
    exact ⟨[], tells_nothing (by rw [enforce_eq])⟩
  | finish =>
    simp only [step] at h
    split at h <;> cases h
    refine ⟨[], tells_nothing ?_⟩
    show (g.enforce g.status).journal = g.journal
    rw [enforce_eq]
  | tick | pass => cases h; exact ⟨[], tells_nothing rfl⟩

/-! ## Nothing begins any more -/

variable {f : Failure}

/-- In a group that was stopped no attempt begins. -/
theorem Steps.tasks_eq (h : g.Steps p m hs g') (fatal : g.fatal = some f) :
    g'.tasks = g.tasks ∧ g'.latest = g.latest := by
  rcases h.tasks_eq_or with same | ⟨d, j, -, calm, -⟩
  · exact same
  · cases calm.symm.trans fatal

/-- In a group that was stopped plugins are made only by drivers that were about to do so. -/
theorem Steps.making_before (h : g.Steps p m hs g') (fatal : g.fatal = some f) {d : Nat}
    {phase' : DriverPhase ρ ω} (at_' : g'.drivers[d]? = some phase') (making : phase'.IsMaking) :
    ∃ phase, g.drivers[d]? = some phase ∧ phase.IsMaking ∧ phase.attempt? = phase'.attempt? := by
  rcases h.driver_eq d with rfl | same
  · cases h with
    | @tend _ a phase phase₁ t t' es monitor journal at_ ha found ht =>
      have hd : (g.drivers.set d phase₁)[d]? = some phase' := at_'
      rw [List.getElem?_set_self (List.getElem?_eq_some_iff.mp at_).1] at hd
      cases hd
      cases ht with
      | makeReader => exact ⟨_, at_, trivial, rfl⟩
      | _ => cases making
    | enter at_ going => cases going.symm.trans fatal
    | take at_
    | exit at_
    | enterStopped at_
    | succeed at_
    | again _ at_
    | giveUp at_
    | rest at_ =>
      rcases getElem?_drive at_' with ⟨-, rfl⟩ | ⟨ne, -⟩
      · cases making
      · exact absurd rfl ne
  · exact ⟨phase', same.symm.trans at_', making, rfl⟩

/-- What a group that was stopped returns is why it was stopped. -/
theorem Steps.result_eq (h : g.Steps p m hs g')
    (before : ∀ {f r}, g.fatal = some f → g.result = some r → r = .error f)
    {r : Except Failure TaskStatus} (fatal : g'.fatal = some f) (result : g'.result = some r) :
    r = .error f := by
  cases h with
  | report going =>
    rw [enforce_eq] at result
    cases going.symm.trans result
  | finish done going =>
    have fatal : (g.enforce g.status).fatal = some f := fatal
    have result : some ((g.enforce g.status).outcome g.status) = some r := result
    unfold outcome at result
    rw [fatal] at result
    cases result
    rfl
  | _ => exact before fatal result

end Group

/-! ## What has begun comes to an end -/

/-- A driver that tends an attempt holds it. -/
theorem DriverPhase.Tends.exists_attempt? {g : Group ρ ω} {t t' : Attempt ρ ω}
    {phase phase' : DriverPhase ρ ω} {es : List AttemptEvent} (h : phase.Tends g t es t' phase') :
    ∃ a, phase.attempt? = some a := by
  cases h <;> exact ⟨_, rfl⟩

/-- How many steps a driver takes at most until its attempt has a result, if the group was stopped. -/
def DriverPhase.toStop : DriverPhase ρ ω → Nat
  | .watching _ _ => 21
  | .registering _ _ => 22
  | .makingWriter _ _ _ => 23
  | .makingReader _ _ => 24
  | phase => phase.toEnd

theorem DriverPhase.Tends.toStop_lt {g : Group ρ ω} {t t' : Attempt ρ ω}
    {phase phase' : DriverPhase ρ ω} {es : List AttemptEvent} {f : Failure}
    (h : phase.Tends g t es t' phase') (fatal : g.fatal = some f) : phase'.toStop < phase.toStop := by
  cases h with
  | consult calm => cases calm.symm.trans fatal
  | hang going =>
    have := Failing.toEnd_step going t.status
    simp only [toStop, toEnd]
    omega
  | fail going => exact Failing.toEnd_step going t.status
  | _ => simp [toStop, toEnd, Failing.toEnd]

namespace Chronicle

variable {p : GroupPlugins ρ ω} {c c' : Chronicle ρ ω} {config : CoreConfig} {now : Int}
  {tasks : List (TaskSpec ρ ω)} {f : Failure} {turn : Nat → GroupMove} {a d : Nat}

/-- An attempt that no driver holds has returned. -/
theorem Leads.hasReturned (led : (start config now tasks).Leads p c) {u : Trial ρ ω}
    (hu : c.group.trial? a = some u) (free : u.phase = none) : c.HasReturned a := by
  refine led.trials (I := fun _ u es => u.phase = none → ∃ x, .returned x ∈ es) ?_ ?_ ?_ hu free
  · exact fun _ _ _ => nofun
  · exact fun hi => hi
  · intro g u u' es es' hi hm free
    have later : (∃ x, AttemptEvent.returned x ∈ es) → ∃ x, AttemptEvent.returned x ∈ es ++ es' :=
      fun ⟨x, hx⟩ => ⟨x, List.mem_append_left _ hx⟩
    cases hm with
    | idle => exact later (hi free)
    | reader => exact later (hi free)
    | writer => exact later (hi free)
    | driver ht =>
      obtain ⟨b, hb⟩ := ht.exists_attempt?
      rcases ht.attempt?_or hb with hb' | ⟨-, x, -, hx⟩
      · have free : DriverPhase.held _ = none := free
        rw [DriverPhase.held_of_attempt? hb'] at free
        cases free
      · exact ⟨x, List.mem_append_right _ hx⟩

/-- An attempt that has begun is in the hands of a driver, or has returned. -/
theorem Leads.minds_or (led : (start config now tasks).Leads p c)
    (begun : a < c.group.attempts.length) : (∃ d, c.Minds d a) ∨ c.HasReturned a := by
  obtain ⟨u, hu⟩ := Group.exists_trial begun
  cases hp : u.phase with
  | none => exact .inr (led.hasReturned hu hp)
  | some phase =>
    have keeper := (Group.trial?_eq_some_iff.mp hu).2
    rw [hp] at keeper
    have holds := (led.isSteady (isSteady_start config now tasks)).sound.holds
    obtain ⟨⟨d, at_⟩, ha⟩ := (Group.keeper?_eq_some_iff holds).mp keeper
    exact .inl ⟨d, phase, at_, ha⟩

/-- In a group that was stopped the attempt that a driver holds comes to its result. -/
theorem returns_when_stopped (steady : c.IsSteady) (fatal : c.group.fatal = some f)
    (time : TimePasses turn) (fair : Recurs turn (.driver d)) (minds : c.Minds d a) :
    ∃ n, (course p c turn n).HasReturned a := by
  obtain ⟨phase, at_, ha⟩ := minds
  have ended := exists_of_falls (n := 0) (P := fun r k => ∃ phase : DriverPhase ρ ω,
    (course p c turn k).group.drivers[d]? = some phase ∧ phase.attempt? = some a ∧ phase.toStop = r)
    (Q := fun k => (course p c turn k).HasReturned a) ?_ ⟨phase, at_, ha, rfl⟩
  · obtain ⟨n, -, returned⟩ := ended
    exact ⟨n, returned⟩
  rintro r n ⟨phase, at_, ha, rfl⟩
  have going : phase ≠ .exited := by rintro rfl; cases ha
  obtain ⟨k, le, at_, steps⟩ := driver_steps steady.sound time fair at_ going
  obtain ⟨t, t', es, phase', -, ht, at_', told⟩ := (steady.sound.course turn k).tends at_ ha steps
  refine ⟨k + 1, Nat.le_succ_of_le le, ?_⟩
  rcases ht.attempt?_or ha with ha' | ⟨-, x, -, hx⟩
  · have fatal' := (leads_of_course p c turn k).fatal_eq steady fatal
    exact .inr ⟨_, ht.toStop_lt fatal', phase', at_', ha', rfl⟩
  · exact .inl ⟨x, by rw [told]; exact List.mem_append_right _ hx⟩

end Chronicle

/-- An attempt that has come to a result is finished. -/
theorem Attempt.Results.isFinished {fatal : Option Failure} {t : Attempt ρ ω}
    {r : Except Failure Unit} (h : t.Results fatal r) : t.status.isFinished = true := by
  cases r with
  | ok =>
    have succeeded := HasSucceeded.state h
    unfold TaskStatus.isFinished
    rw [succeeded]
    rfl
  | error e => exact HasFailed.isFinished h

/-! ## Which failures are tried again -/

/-- A driver knows of one attempt at most that may not have been tried again. -/
theorem DriverPhase.Rest.length_le {g : Group ρ ω} {rest : List Nat} {phase : DriverPhase ρ ω}
    (h : phase.Rest g rest) : rest.length ≤ 1 := by
  cases phase with
  | entering | resting => rw [show rest = [] from h]; exact Nat.zero_le 1
  | deciding j r => obtain ⟨a, rfl, -⟩ := h; exact Nat.le_refl 1
  | _ => obtain ⟨a, rfl, -⟩ := h; exact Nat.le_refl 1

namespace Group

variable {g g' : Group ρ ω} {k : Nat}

theorem mem_places {a : Nat} :
    a ∈ g.places k ↔ ∃ t, g.attempts[a]? = some t ∧ t.task = k := by
  unfold places placesIn tasks
  rw [List.mem_filter, List.mem_range, List.length_map, List.getElem?_map, beq_iff_eq,
    Option.map_eq_some_iff]
  refine and_iff_right_of_imp ?_
  rintro ⟨t, found, -⟩
  exact (List.getElem?_eq_some_iff.mp found).1

theorem pairwise_places (g : Group ρ ω) (k : Nat) : (g.places k).Pairwise (· < ·) :=
  List.pairwise_lt_range.filter _

/-- Every attempt of a task that is followed by another has failed in a way that is tried again. -/
def OnlyRetries (g : Group ρ ω) : Prop :=
  ∀ (k : Nat) (past : List Nat) (a : Nat), g.places k = past ++ [a] → ∀ b ∈ past, g.Retried b

theorem OnlyRetries.retried (h : g.OnlyRetries) {a b : Nat} {s t : Attempt ρ ω} (lt : a < b)
    (ha : g.attempts[a]? = some s) (hb : g.attempts[b]? = some t) (same : s.task = t.task) :
    g.Retried a := by
  have first : a ∈ g.places t.task := mem_places.mpr ⟨s, ha, same⟩
  have second : b ∈ g.places t.task := mem_places.mpr ⟨t, hb, rfl⟩
  obtain ⟨past, last, whole⟩ :=
    (List.eq_nil_or_concat (g.places t.task)).resolve_left (List.ne_nil_of_mem first)
  rw [List.concat_eq_append] at whole
  have sorted := g.pairwise_places t.task
  rw [whole] at first second sorted
  obtain ⟨-, -, below⟩ := List.pairwise_append.mp sorted
  rcases List.mem_append.mp first with first | first
  · exact h _ past last whole a first
  · cases List.mem_singleton.mp first
    rcases List.mem_append.mp second with second | second
    · exact absurd (below b second a (List.mem_singleton_self a)) (Nat.lt_asymm lt)
    · cases List.mem_singleton.mp second
      exact absurd lt (Nat.lt_irrefl _)

theorem OnlyRetries.mono (h : g.OnlyRetries) (keeps : g.Keeps g') (tasks : g'.tasks = g.tasks) :
    g'.OnlyRetries := by
  intro k past a whole b hb
  have places : g'.places k = g.places k := congrArg (placesIn k) tasks
  obtain ⟨f, hf, again⟩ := h k past a (places.symm.trans whole) b hb
  exact ⟨f, keeps.failed hf, by rw [keeps.policy]; exact again⟩

/-- Wherever a task is, it was tried again only after failures that are tried again. -/
theorem Roster.exists_tried {order : List Nat} {settled : List (Nat × Except Failure Unit)}
    (h : g.Roster order settled) (k : Nat) :
    g.places k = [] ∨ ∃ failed rest, g.Tried k failed rest ∧ rest.length ≤ 1 := by
  by_cases hk : k ∈ order
  · rcases List.mem_append.mp (h.whole.mem_iff.mpr hk) with waits | goes
    · obtain ⟨spec, hs, rfl⟩ := List.mem_map.mp waits
      exact .inl (h.waiting hs)
    rcases List.mem_append.mp goes with inHand | settled_
    · obtain ⟨phase, hp, task⟩ := List.mem_filterMap.mp inHand
      obtain ⟨j, hj, rfl⟩ := Option.map_eq_some_iff.mp task
      obtain ⟨-, rest, tried, hr⟩ := h.inHand hp hj
      exact .inr ⟨_, rest, tried, hr.length_le⟩
    · obtain ⟨⟨k', r⟩, hv, rfl⟩ := List.mem_map.mp settled_
      obtain ⟨failed, a, tried, -⟩ := h.closed hv
      exact .inr ⟨failed, [a], tried, Nat.le_refl 1⟩
  · exact .inl (h.unknown hk)

theorem Roster.onlyRetries {order : List Nat} {settled : List (Nat × Except Failure Unit)}
    (h : g.Roster order settled) : g.OnlyRetries := by
  intro k past a whole b hb
  rcases h.exists_tried k with none_ | ⟨failed, rest, ⟨past', whole', -, retried⟩, short⟩
  · rw [none_] at whole
    exact absurd whole.symm (List.append_ne_nil_of_right_ne_nil _ (List.cons_ne_nil _ _))
  · refine retried b ?_
    rw [whole] at whole'
    match rest with
    | [] =>
      rw [← whole'.trans (List.append_nil _)]
      exact List.mem_append_left _ hb
    | [x] =>
      rw [← (List.append_inj' whole' rfl).1]
      exact hb

end Group

namespace Chronicle

variable {p : GroupPlugins ρ ω} {c c' : Chronicle ρ ω} {config : CoreConfig} {now : Int}
  {tasks : List (TaskSpec ρ ω)} {f : Failure} {turn : Nat → GroupMove} {a : Nat}

theorem Leads.onlyRetries (distinct : (tasks.map TaskSpec.task).Nodup)
    (led : (start config now tasks).Leads p c) : c.group.OnlyRetries := by
  induction led with
  | refl => exact (Group.roster_start config now tasks).onlyRetries
  | @move c₁ c₂ m led goes ih =>
    have steady := led.isSteady (isSteady_start config now tasks)
    have steps := steady.sound.steps goes
    cases fatal : c₁.group.fatal with
    | none =>
      obtain ⟨settled, roster⟩ := led.roster distinct fatal
      obtain ⟨new, next⟩ := roster.steps distinct steady.sound.holds (fun hu => (steady.known hu).1)
        steps fatal
      exact next.onlyRetries
    | some f => exact ih.mono (steps.keeps steady.sound.holds) (steps.tasks_eq fatal).1
  | stop f led going ih => exact ih

/-- An attempt that has ended because the limit on dirty records is exceeded is not followed by another. -/
theorem Leads.not_followed (distinct : (tasks.map TaskSpec.task).Nodup)
    (led : (start config now tasks).Leads p c) {a b : Nat} {s t : Attempt ρ ω} (lt : a < b)
    (ha : c.group.attempts[a]? = some s) (hb : c.group.attempts[b]? = some t) (same : s.task = t.task)
    {e : Failure} (returned : .returned (.error e) ∈ c.eventsOf a) :
    e.kind ≠ .errorLimitExceeded := by
  intro limit
  obtain ⟨f, ⟨s', ha', state, failure⟩, again⟩ := (led.onlyRetries distinct).retried lt ha hb same
  cases ha.symm.trans ha'
  have steady := led.isSteady (isSteady_start config now tasks)
  have results := ((steady.known (Group.trial?_of_attempt ha)).2 _ returned).2
  rw [led.policy_eq, Group.isRetryable_failoverPolicy] at again
  refine again (.inr (.inr ?_))
  rcases results with ⟨killed, -⟩ | ⟨-, failed⟩
  · cases state.symm.trans killed
  · cases failure.symm.trans failed
    exact limit

/-! ## Everything at once -/

/-- What holds at any time after a group was stopped for some reason. -/
structure IsStoppedSince (p : GroupPlugins ρ ω) (f : Failure) (c c' : Chronicle ρ ω) : Prop where
  /-- The reason remains. -/
  fatal : c'.group.fatal = some f
  /-- The run returns nothing else. -/
  result : ∀ {r}, c'.group.result = some r → r = .error f
  /-- A driver that is about to begin an attempt turns away with the reason, and does nothing else. -/
  entry : ∀ {d : Nat} {j : Job ρ ω} {c'' : Chronicle ρ ω},
    c'.group.drivers[d]? = some (.entering j) → c'.step p (.driver d) = some c'' →
      c''.group = c'.group.drive d (.deciding j (.error f))
  /-- No attempt has begun since. -/
  tasks : c'.group.tasks = c.group.tasks
  latest : c'.group.latest = c.group.latest
  /-- Instances were asked for only where they were about to be when the group was stopped. -/
  made : ∃ new, c'.group.journal = c.group.journal ++ new ∧ ∀ e ∈ new, e.event.IsMaking →
    ∃ (d : Nat) (phase : DriverPhase ρ ω), c.group.drivers[d]? = some phase ∧ phase.IsMaking ∧
      phase.attempt? = some e.attempt
  /-- An attempt that has returned is finished. If it was killed, it has captured a failure, and has
  returned the reason. -/
  ended : ∀ {a : Nat} {r : Except Failure Unit}, .returned r ∈ c'.eventsOf a →
    ∃ t, c'.group.attempts[a]? = some t ∧ t.status.isFinished = true ∧
      (t.status.state = .killed → t.status.failure.isSome = true ∧ r = .error f)

/-- An attempt that has returned is finished. If it was killed, it has captured a failure, and has
returned why its group was stopped. -/
theorem IsSteady.ended (steady : c.IsSteady) (fatal : c.group.fatal = some f)
    {r : Except Failure Unit} (returned : .returned r ∈ c.eventsOf a) :
    ∃ t, c.group.attempts[a]? = some t ∧ t.status.isFinished = true ∧
      (t.status.state = .killed → t.status.failure.isSome = true ∧ r = .error f) := by
  have begun : a < c.group.attempts.length := by
    refine Nat.lt_of_not_le fun unbegun => ?_
    rw [steady.sound.untold unbegun] at returned
    cases returned
  have found := List.getElem?_eq_getElem begun
  obtain ⟨standing, done⟩ := steady.known (Group.trial?_of_attempt found)
  have results := (done r returned).2
  refine ⟨_, found, results.isFinished, fun killed => ?_⟩
  have notSucceeded : c.group.attempts[a].status.state ≠ .succeeded := by
    rw [killed]
    exact nofun
  constructor
  · exact (standing.captured (TaskStatus.isFinished_of_killed killed)).resolve_left notSucceeded
  · cases r with
    | ok => exact absurd (Attempt.HasSucceeded.state results) notSucceeded
    | error e =>
      rcases results with ⟨-, reason⟩ | ⟨failed, -⟩
      · cases fatal.symm.trans reason
        rfl
      · cases killed.symm.trans failed

/-- A driver that is about to begin an attempt in a group that was stopped turns away. -/
theorem Sound.entry (sound : c.Sound) (fatal : c.group.fatal = some f) {d : Nat} {j : Job ρ ω}
    (at_ : c.group.drivers[d]? = some (.entering j)) (goes : c.step p (.driver d) = some c') :
    c'.group = c.group.drive d (.deciding j (.error f)) := by
  have steps := sound.steps goes
  generalize c.group.happenings p (.driver d) = hs at steps
  generalize c'.group = g' at steps
  cases steps with
  | tend monitor journal at_' ha => cases at_.symm.trans at_'; cases ha
  | enter at_' calm => cases calm.symm.trans fatal
  | enterStopped at_' fatal' =>
    cases at_.symm.trans at_'
    cases fatal.symm.trans fatal'
    rfl
  | take at_'
  | exit at_'
  | succeed at_'
  | again _ at_'
  | giveUp at_'
  | rest at_' => cases at_.symm.trans at_'

/-- What a group returns after it was stopped is the reason. -/
theorem Leads.result_eq (led : (start config now tasks).Leads p c) (fatal : c.group.fatal = some f)
    {r : Except Failure TaskStatus} (result : c.group.result = some r) : r = .error f := by
  refine (led.keeps (P := fun c => ∀ {f r}, c.group.fatal = some f → c.group.result = some r →
    r = .error f) ?_ ?_ (isSteady_start config now tasks) nofun).2 fatal result
  · exact fun steady before goes => (steady.sound.steps goes).result_eq before
  · intro c f _ going _ f' r _ result
    cases going.symm.trans result

/-- Where instances are about to be asked for, and where they were since a group was stopped, they were
about to be at that time. -/
structure MakesNothingNew (c c' : Chronicle ρ ω) : Prop where
  before : ∀ {d : Nat} {phase' : DriverPhase ρ ω}, c'.group.drivers[d]? = some phase' →
    phase'.IsMaking → ∃ phase, c.group.drivers[d]? = some phase ∧ phase.IsMaking ∧
      phase.attempt? = phase'.attempt?
  made : ∃ new, c'.group.journal = c.group.journal ++ new ∧ ∀ e ∈ new, e.event.IsMaking →
    ∃ (d : Nat) (phase : DriverPhase ρ ω), c.group.drivers[d]? = some phase ∧ phase.IsMaking ∧
      phase.attempt? = some e.attempt

theorem MakesNothingNew.step {c₁ c₂ : Chronicle ρ ω} {m : GroupMove} (h : c.MakesNothingNew c₁)
    (sound : c₁.Sound) (fatal : c₁.group.fatal = some f) (goes : c₁.step p m = some c₂) :
    c.MakesNothingNew c₂ where
  before := by
    intro d phase₂ at_₂ making₂
    obtain ⟨phase₁, at_₁, making₁, same₁⟩ := (sound.steps goes).making_before fatal at_₂ making₂
    obtain ⟨phase, at_, making, same⟩ := h.before at_₁ making₁
    exact ⟨phase, at_, making, same.trans same₁⟩
  made := by
    obtain ⟨old, whole, mine⟩ := h.made
    obtain ⟨new, tells⟩ := Group.journal_of_step sound.holds (step_eq_some goes).1
    refine ⟨old ++ new, by rw [tells.journal, whole, List.append_assoc], fun e he making => ?_⟩
    rcases List.mem_append.mp he with he | he
    · exact mine e he making
    · obtain ⟨d, phase₁, -, at_₁, making₁, ha⟩ := tells.making e he making
      obtain ⟨phase, at_, making, same⟩ := h.before at_₁ making₁
      exact ⟨d, phase, at_, making, same.trans ha⟩

theorem Leads.makesNothingNew (h : c.Leads p c') (steady : c.IsSteady)
    (fatal : c.group.fatal = some f) : c.MakesNothingNew c' := by
  refine (h.keeps (P := fun c' => c'.group.fatal = some f ∧ c.MakesNothingNew c') ?_ ?_ steady
    ⟨fatal, fun at_ making => ⟨_, at_, making, rfl⟩, [], (List.append_nil _).symm, nofun⟩).2.2
  · exact fun steady hc goes => ⟨(steady.sound.steps goes).fatal_eq hc.1, hc.2.step steady.sound hc.1 goes⟩
  · exact fun _ _ hc => ⟨Group.fatal_stop hc.1 _, hc.2.before, hc.2.made⟩

theorem Leads.begins_nothing (h : c.Leads p c') (steady : c.IsSteady)
    (fatal : c.group.fatal = some f) :
    c'.group.tasks = c.group.tasks ∧ c'.group.latest = c.group.latest := by
  refine (h.keeps (P := fun c' => c'.group.fatal = some f ∧ c'.group.tasks = c.group.tasks ∧
    c'.group.latest = c.group.latest) ?_ ?_ steady ⟨fatal, rfl, rfl⟩).2.2
  · intro c₁ c₂ m steady ⟨fatal, tasks, latest⟩ goes
    have steps := steady.sound.steps goes
    have same := steps.tasks_eq fatal
    exact ⟨steps.fatal_eq fatal, same.1.trans tasks, same.2.trans latest⟩
  · exact fun _ _ hc => ⟨Group.fatal_stop hc.1 _, hc.2⟩

theorem Leads.isStoppedSince (led : (start config now tasks).Leads p c)
    (fatal : c.group.fatal = some f) (h : c.Leads p c') : c.IsStoppedSince p f c' := by
  have steady := led.isSteady (isSteady_start config now tasks)
  have steady' := h.isSteady steady
  have fatal' := h.fatal_eq steady fatal
  have same := h.begins_nothing steady fatal
  exact ⟨fatal', (led.trans h).result_eq fatal', steady'.sound.entry fatal', same.1, same.2,
    (h.makesNothingNew steady fatal).made, steady'.ended fatal'⟩

/-- In a group that was stopped all attempts come to their results. -/
theorem Leads.ends (led : (start config now tasks).Leads p c) (fatal : c.group.fatal = some f)
    (fair : IsFairToGroup turn c.group.drivers.length) (begun : a < c.group.attempts.length) :
    ∃ n, (course p c turn n).HasReturned a := by
  rcases led.minds_or begun with ⟨d, phase, at_, ha⟩ | returned
  · have lt := (List.getElem?_eq_some_iff.mp at_).1
    exact returns_when_stopped (led.isSteady (isSteady_start config now tasks)) fatal fair.time
      (fair.driver d lt) ⟨phase, at_, ha⟩
  · exact ⟨0, returned⟩

/-- A group that was stopped returns why. -/
theorem Leads.returns (led : (start config now tasks).Leads p c) (fatal : c.group.fatal = some f)
    (fair : IsFairToGroup turn c.group.drivers.length) :
    ∃ n, (course p c turn n).group.result = some (.error f) := by
  have steady := led.isSteady (isSteady_start config now tasks)
  obtain ⟨n, returned⟩ := returns_of_isSteady (p := p) steady fair fun n a lt => by
    refine led.ends fatal fair ?_
    have tasks := (leads_of_course p c turn n).begins_nothing steady fatal |>.1
    have count := congrArg List.length tasks
    unfold Group.tasks at count
    rw [List.length_map, List.length_map] at count
    exact count ▸ lt
  obtain ⟨r, hr⟩ := Option.isSome_iff_exists.mp returned
  have since := leads_of_course p c turn n
  rw [(led.trans since).result_eq (since.fatal_eq steady fatal) hr] at hr
  exact ⟨n, hr⟩

/-- A driver gives a task up whose attempt has ended because the limit on dirty records is exceeded. -/
theorem Leads.gives_up (led : (start config now tasks).Leads p c) {d : Nat} {j : Job ρ ω} {e : Failure}
    (at_ : c.group.drivers[d]? = some (.deciding j (.error e))) (limit : e.kind = .errorLimitExceeded)
    (goes : c.step p (.driver d) = some c') : c'.group.drivers[d]? = some .idle ∧
      c'.group.failures = c.group.failures ++ [.taskFailed j.spec.task e] := by
  have steps := (led.isSteady (isSteady_start config now tasks)).sound.steps goes
  have lt := (List.getElem?_eq_some_iff.mp at_).1
  generalize c.group.happenings p (.driver d) = hs at steps
  generalize c'.group = g' at steps
  cases steps with
  | giveUp at_' =>
    cases at_.symm.trans at_'
    exact ⟨List.getElem?_set_self lt, rfl⟩
  | again _ at_' tries =>
    cases at_.symm.trans at_'
    obtain ⟨again, -⟩ := Group.triesAgain_iff.mp tries
    rw [led.policy_eq, Group.isRetryable_failoverPolicy] at again
    exact absurd (.inr (.inr limit)) again
  | tend monitor journal at_' ha => cases at_.symm.trans at_'; cases ha
  | take at_'
  | exit at_'
  | enter at_'
  | enterStopped at_'
  | succeed at_'
  | rest at_' => cases at_.symm.trans at_'

/-- **Groups that were stopped.** Wherever a group is when it is stopped, because a look at its progress
finds the limit on dirty records exceeded, or from outside:
1. The first reason is never replaced, and the run returns nothing but it. No attempt begins any more, a
   driver that is about to begin one turns away with the reason, and no plugins are made but for attempts
   whose plugins were about to be made at that time. An attempt that returns is finished, and if it was
   killed, it has captured a failure and returns the reason.
2. In every endless schedule that is fair to the drivers and to the return, whatever the threads of the
   attempts do, all attempts that have begun return, and the run returns the reason.
Whether it was stopped or not, a task of which an attempt has returned that the limit on dirty records is
exceeded is not tried again: its driver gives it up, and no attempt of it follows. -/
theorem stop_settles (p : GroupPlugins ρ ω) (config : CoreConfig) (now : Int)
    (tasks : List (TaskSpec ρ ω)) {c : Chronicle ρ ω} (led : (start config now tasks).Leads p c) :
    (∀ f, c.group.fatal = some f →
      (∀ c', c.Leads p c' → c.IsStoppedSince p f c') ∧
      (∀ turn, IsFairToGroup turn c.group.drivers.length →
        (∀ a, a < c.group.attempts.length → ∃ n, (course p c turn n).HasReturned a) ∧
        ∃ n, (course p c turn n).group.result = some (.error f))) ∧
    (∀ d j e c', c.group.drivers[d]? = some (.deciding j (.error e)) → e.kind = .errorLimitExceeded →
      c.step p (.driver d) = some c' → c'.group.drivers[d]? = some .idle ∧
        c'.group.failures = c.group.failures ++ [.taskFailed j.spec.task e]) ∧
    ((tasks.map TaskSpec.task).Nodup → ∀ a b s t, a < b → c.group.attempts[a]? = some s →
      c.group.attempts[b]? = some t → s.task = t.task →
      ∀ e, .returned (.error e) ∈ c.eventsOf a → e.kind ≠ .errorLimitExceeded) := by
  refine ⟨fun f fatal => ⟨fun c' h => led.isStoppedSince fatal h, fun turn fair => ?_⟩, ?_, ?_⟩
  · exact ⟨fun a begun => led.ends fatal fair begun, led.returns fatal fair⟩
  · exact fun d j e c' at_ limit goes => led.gives_up at_ limit goes
  · exact fun distinct a b s t lt ha hb same e => led.not_followed distinct lt ha hb same

/-! ### A group that is stopped amid its attempts -/

/-- No dirty record is allowed. -/
def strict : CoreConfig := { job := { errorLimit := some { record := some 0 } } }

/-- A task whose reader finds a dirty record, and whose writer waits for records. -/
def spoiled (task : Nat) : TaskSpec ScriptedReader ScriptedWriter :=
  .ofScripts task [.shared (.dirty .empty ScriptedWriter.violation), .stuck] [.receive none none]

/-- One driver watches its attempt, which has found its dirty record, and the other one is about to begin
its first attempt when the group looks at its progress. -/
def upToTheLook : List GroupMove :=
  List.replicate 5 (.driver 0) ++ List.replicate 3 (.reader 0) ++ [.driver 1, .report]

/-- That group, stopped. -/
def halted : Chronicle ScriptedReader ScriptedWriter :=
  ((start strict 0 [spoiled 0, spoiled 1]).run scripted upToTheLook).get (by decide +kernel)

/-- Two drivers and the return take turns, and a moment passes in between. -/
def driversInTurns (n : Nat) : GroupMove :=
  match n % 4 with
  | 0 => .driver 0
  | 1 => .driver 1
  | 2 => .tick 50000000
  | _ => .finish

theorem periodic_driversInTurns : Function.Periodic driversInTurns 4 := by
  intro n
  unfold driversInTurns
  rw [Nat.add_mod_right]

theorem isFair_driversInTurns : IsFairToGroup driversInTurns 2 where
  time := fun n =>
    have ⟨k, le, turns⟩ := recurs_of_periodic (by decide) periodic_driversInTurns 2 n
    ⟨k, 50000000, le, by decide, turns⟩
  driver d lt := by
    match d, lt with
    | 0, _ => exact recurs_of_periodic (by decide) periodic_driversInTurns 0
    | 1, _ => exact recurs_of_periodic (by decide) periodic_driversInTurns 1
  finish := recurs_of_periodic (by decide) periodic_driversInTurns 3

/-- The look stops the group, and the run returns why. -/
theorem stop_settles_amidAttempts :
    (start strict 0 [spoiled 0, spoiled 1]).run scripted upToTheLook = some halted ∧
      ∃ f, halted.group.fatal = some f ∧ f.kind = .errorLimitExceeded ∧
        halted.IsStoppedSince scripted f halted ∧
        ∃ n, (course scripted halted driversInTurns n).group.result = some (.error f) := by
  have run_ : (start strict 0 [spoiled 0, spoiled 1]).run scripted upToTheLook = some halted :=
    (Option.some_get _).symm
  have settles := (stop_settles scripted strict 0 [spoiled 0, spoiled 1] (leads_of_run run_)).1
  have stopped_ : halted.group.fatal.any (fun f => f.kind = .errorLimitExceeded) = true := by
    decide +kernel
  obtain ⟨f, fatal, kind⟩ := (Option.any_eq_true _ _).mp stopped_
  have drivers : halted.group.drivers.length = 2 := by decide +kernel
  have returns := ((settles f fatal).2 driversInTurns (drivers ▸ isFair_driversInTurns)).2
  exact ⟨run_, f, fatal, of_decide_eq_true kind, (settles f fatal).1 halted .refl, returns⟩

end Chronicle

end BatchSync
