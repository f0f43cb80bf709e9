import BatchSync.Plugin.Script
import BatchSync.Proofs.Group.Steps

/-!
# Chronicles

A chronicle is a group with everything that was told of it since its start. What concerns one attempt
is its trial: the attempt, and the phase of the driver that holds it, if one does. A move of the group
is a move of the trial (`Trial.Moves`) of each attempt that has begun, and may begin one more.

1. `Group.Steps.holds` keeps drivers to attempts that have begun, each to its own.
2. `Group.Steps.trial` says where a trial after a move comes from.
3. `Chronicle.trial_induction` is the induction over all that can happen to an attempt.
-/

namespace BatchSync

variable {ρ ω : Type}

/-! ## Who holds an attempt -/

/-- A driver goes on with its attempt, or tells what it has returned. -/
theorem DriverPhase.Tends.attempt?_or {g : Group ρ ω} {t t' : Attempt ρ ω} {es : List AttemptEvent}
    {phase phase' : DriverPhase ρ ω} (h : phase.Tends g t es t' phase') {a : Nat}
    (ha : phase.attempt? = some a) :
    phase'.attempt? = some a ∨ ∃ j x, phase' = .deciding j x ∧ .returned x ∈ es := by
  cases h with
  | failed | sealed => exact .inr ⟨_, _, rfl, List.mem_cons_self⟩
  | _ => exact .inl ha

theorem DriverPhase.Tends.attempt?_eq {g : Group ρ ω} {t t' : Attempt ρ ω} {es : List AttemptEvent}
    {phase phase' : DriverPhase ρ ω} (h : phase.Tends g t es t' phase') {a : Nat}
    (ha : phase'.attempt? = some a) : phase.attempt? = some a := by
  cases h with
  | failed | sealed => cases ha
  | _ => exact ha

namespace Group

theorem getElem?_drive {g : Group ρ ω} {d e : Nat} {phase phase' : DriverPhase ρ ω}
    (h : (g.drive d phase).drivers[e]? = some phase') :
    (e = d ∧ phase' = phase) ∨ (e ≠ d ∧ g.drivers[e]? = some phase') := by
  by_cases he : d = e
  · subst he
    have lt : d < g.drivers.length := by
      have := (List.getElem?_eq_some_iff.mp h).1
      simpa [drive] using this
    refine .inl ⟨rfl, ?_⟩
    have hs : (g.drivers.set d phase)[d]? = some phase := List.getElem?_set_self lt
    exact Option.some.inj (h.symm.trans hs)
  · refine .inr ⟨fun e => he e.symm, ?_⟩
    have hs : (g.drivers.set d phase)[e]? = g.drivers[e]? := List.getElem?_set_ne he
    rw [← hs]
    exact h

/-- A driver may go to a phase without an attempt, or with one that no other driver holds. -/
theorem Holds.drive {g : Group ρ ω} (h : g.Holds) (d : Nat) {phase : DriverPhase ρ ω}
    (own : ∀ a, phase.attempt? = some a → a < g.attempts.length ∧
      ∀ e phase', e ≠ d → g.drivers[e]? = some phase' → phase'.attempt? ≠ some a) :
    (g.drive d phase).Holds where
  begun := by
    intro e phase' a he ha
    rcases getElem?_drive he with ⟨rfl, rfl⟩ | ⟨-, he⟩
    · exact (own a ha).1
    · exact h.begun he ha
  apart := by
    intro e e' phase₁ phase₂ a he he' ha ha'
    rcases getElem?_drive he with ⟨rfl, rfl⟩ | ⟨ne, old⟩
    · rcases getElem?_drive he' with ⟨rfl, rfl⟩ | ⟨ne', old'⟩
      · rfl
      · exact absurd ha' ((own a ha).2 e' _ ne' old')
    · rcases getElem?_drive he' with ⟨rfl, rfl⟩ | ⟨ne', old'⟩
      · exact absurd ha ((own a ha').2 e _ ne old)
      · exact h.apart old old' ha ha'

theorem Holds.of_eq {g g' : Group ρ ω} (h : g.Holds) (drivers : g'.drivers = g.drivers)
    (attempts : g.attempts.length ≤ g'.attempts.length) : g'.Holds where
  begun := fun he ha => Nat.lt_of_lt_of_le (h.begun (drivers ▸ he) ha) attempts
  apart := fun he he' ha ha' => h.apart (drivers ▸ he) (drivers ▸ he') ha ha'

theorem holds_start (config : CoreConfig) (now : Int) (tasks : List (TaskSpec ρ ω)) :
    (start config now tasks).Holds := by
  have idle : ∀ {d : Nat} {phase : DriverPhase ρ ω},
      (start config now tasks).drivers[d]? = some phase → phase = .idle := by
    intro d phase h
    exact List.eq_of_mem_replicate (List.mem_of_getElem? h)
  constructor
  · intro d phase a h ha
    rw [idle h] at ha
    cases ha
  · intro d e phase phase' a h h' ha
    rw [idle h] at ha
    cases ha

section Enforce

variable (g : Group ρ ω) (s : TaskStatus)

/-- A look at the status changes nothing but why the group was stopped. -/
theorem enforce_eq : g.enforce s = { g with fatal := (g.enforce s).fatal } := by
  unfold enforce; split <;> rfl

@[simp] theorem config_enforce : (g.enforce s).config = g.config := by rw [enforce_eq]

@[simp] theorem policy_enforce : (g.enforce s).policy = g.policy := by rw [enforce_eq]

@[simp] theorem instant_enforce : (g.enforce s).instant = g.instant := by rw [enforce_eq]

@[simp] theorem queue_enforce : (g.enforce s).queue = g.queue := by rw [enforce_eq]

@[simp] theorem attempts_enforce : (g.enforce s).attempts = g.attempts := by rw [enforce_eq]

@[simp] theorem latest_enforce : (g.enforce s).latest = g.latest := by rw [enforce_eq]

@[simp] theorem drivers_enforce : (g.enforce s).drivers = g.drivers := by rw [enforce_eq]

@[simp] theorem failures_enforce : (g.enforce s).failures = g.failures := by rw [enforce_eq]

end Enforce

theorem fatal_enforce {g : Group ρ ω} {f : Failure} (h : g.fatal = some f) (s : TaskStatus) :
    (g.enforce s).fatal = some f := by
  unfold enforce
  split
  · exact h
  · unfold stop; rw [h]; rfl

variable {p : GroupPlugins ρ ω} {g g' : Group ρ ω} {m : GroupMove} {hs : List Happening}

/-- Every move keeps drivers to attempts that have begun, each to its own. -/
theorem Steps.holds (h : g.Steps p m hs g') (holds : g.Holds) : g'.Holds := by
  have free : ∀ (g₁ : Group ρ ω) (d : Nat) (phase : DriverPhase ρ ω), g₁.drivers = g.drivers →
      g₁.attempts = g.attempts → phase.attempt? = none → (g₁.drive d phase).Holds := by
    intro g₁ d phase hd ha hp
    refine (holds.of_eq hd (Nat.le_of_eq (by rw [ha]))).drive d ?_
    intro a h
    rw [hp] at h
    cases h
  cases h with
  | reader => exact holds.of_eq rfl (Nat.le_of_eq List.length_set.symm)
  | writer => exact holds.of_eq rfl (Nat.le_of_eq List.length_set.symm)
  | @tend d a phase phase' t t' es monitor journal at_ ha found ht =>
    have hg : (g.tended a t' monitor journal).Holds :=
      holds.of_eq rfl (Nat.le_of_eq List.length_set.symm)
    refine hg.drive d fun b hb => ?_
    have hb := ht.attempt?_eq hb
    refine ⟨hg.begun at_ hb, fun e phase₁ ne he h₁ => ne (holds.apart he at_ h₁ hb)⟩
  | take => exact free _ _ _ rfl rfl rfl
  | exit => exact free _ _ _ rfl rfl rfl
  | @enter d j at_ going =>
    have hl : (g.begun j.spec).attempts.length = g.attempts.length + 1 := by
      simp [Group.begun]
    have hg : (g.begun j.spec).Holds := holds.of_eq rfl (by omega)
    refine hg.drive d fun b hb => ?_
    cases hb
    refine ⟨by omega, fun e phase₁ _ he h₁ => ?_⟩
    exact Nat.lt_irrefl _ (holds.begun he h₁)
  | enterStopped => exact free _ _ _ rfl rfl rfl
  | succeed => exact free _ _ _ rfl rfl rfl
  | again => exact free _ _ _ rfl rfl rfl
  | giveUp => exact free _ _ _ rfl rfl rfl
  | rest => exact free _ _ _ rfl rfl rfl
  | report | finish =>
    exact holds.of_eq (drivers_enforce _ _) (Nat.le_of_eq (congrArg _ (attempts_enforce _ _).symm))
  | tick => exact holds.of_eq rfl (Nat.le_refl _)
  | pass => exact holds.of_eq rfl (Nat.le_refl _)

/-- A group that was stopped remains so, for the same reason. -/
theorem Steps.fatal_eq (h : g.Steps p m hs g') {f : Failure} (fatal : g.fatal = some f) :
    g'.fatal = some f := by
  cases h with
  | report => exact fatal_enforce fatal _
  | finish => exact fatal_enforce fatal _
  | _ => exact fatal

theorem Steps.fatal_eq_none (h : g.Steps p m hs g') (calm : g'.fatal = none) : g.fatal = none := by
  cases hf : g.fatal with
  | none => rfl
  | some f => exact nomatch calm.symm.trans (h.fatal_eq hf)

/-! ## Trials -/

/-- The phase of the driver that holds an attempt, if one does. -/
def keeper? (g : Group ρ ω) (a : Nat) : Option (DriverPhase ρ ω) :=
  g.drivers.find? fun phase => phase.attempt? == some a

theorem keeper?_eq_some_iff (h : g.Holds) {a : Nat} {phase : DriverPhase ρ ω} :
    g.keeper? a = some phase ↔ (∃ d : Nat, g.drivers[d]? = some phase) ∧ phase.attempt? = some a := by
  constructor
  · intro hk
    refine ⟨List.mem_iff_getElem?.mp (List.mem_of_find?_eq_some hk), ?_⟩
    have := List.find?_some hk
    exact eq_of_beq this
  · rintro ⟨⟨d, hd⟩, ha⟩
    cases hk : g.keeper? a with
    | none =>
      have := List.find?_eq_none.mp hk phase (List.mem_of_getElem? hd)
      exact absurd (beq_iff_eq.mpr ha) this
    | some phase' =>
      obtain ⟨e, he⟩ := List.mem_iff_getElem?.mp (List.mem_of_find?_eq_some hk)
      have ha' : (phase'.attempt? == some a) = true :=
        List.find?_some (p := fun phase : DriverPhase ρ ω => phase.attempt? == some a) hk
      have ha' : phase'.attempt? = some a := eq_of_beq ha'
      have := h.apart he hd ha' ha
      subst this
      rw [he] at hd
      exact hd

/-- A driver that moves from one phase to another, neither with an attempt, changes nothing about who
holds it. -/
theorem keeper?_drive {g₁ : Group ρ ω} (h : g.Holds) {a d : Nat} {phase phase' : DriverPhase ρ ω}
    (h' : (g₁.drive d phase').Holds) (same : g₁.drivers = g.drivers)
    (at_ : g.drivers[d]? = some phase) (before : phase.attempt? ≠ some a)
    (after : phase'.attempt? ≠ some a) : (g₁.drive d phase').keeper? a = g.keeper? a := by
  apply Option.ext
  intro phase₁
  rw [keeper?_eq_some_iff h', keeper?_eq_some_iff h]
  constructor
  · rintro ⟨⟨e, he⟩, ha⟩
    rcases getElem?_drive he with ⟨rfl, rfl⟩ | ⟨-, he⟩
    · exact absurd ha after
    · exact ⟨⟨e, same ▸ he⟩, ha⟩
  · rintro ⟨⟨e, he⟩, ha⟩
    refine ⟨⟨e, ?_⟩, ha⟩
    have ne : d ≠ e := by
      rintro rfl
      rw [at_] at he
      cases he
      exact before ha
    show (g₁.drivers.set d phase')[e]? = some phase₁
    rw [List.getElem?_set_ne ne, same]
    exact he

theorem keeper?_of_eq (g₁ : Group ρ ω) (same : g₁.drivers = g.drivers) (a : Nat) :
    g₁.keeper? a = g.keeper? a := by
  unfold keeper?
  rw [same]

end Group

/-- An attempt, and the phase of the driver that holds it, if one does. -/
structure Trial (ρ ω : Type) where
  phase : Option (DriverPhase ρ ω)
  attempt : Attempt ρ ω

/-- A phase, if an attempt is held in it. -/
def DriverPhase.held (phase : DriverPhase ρ ω) : Option (DriverPhase ρ ω) :=
  if phase.attempt?.isSome then some phase else none

theorem DriverPhase.held_eq_some {phase phase' : DriverPhase ρ ω} (h : phase.held = some phase') :
    phase = phase' := by
  unfold held at h
  split at h
  · exact Option.some.inj h
  · cases h

/-- All that a move of a group can do to one attempt, and what is to be told of it. -/
inductive Trial.Moves (p : GroupPlugins ρ ω) (g : Group ρ ω) :
    Trial ρ ω → List AttemptEvent → Trial ρ ω → Prop
  | idle {u : Trial ρ ω} : Moves p g u [] u
  | reader {phase : Option (DriverPhase ρ ω)} {t : Attempt ρ ω} {th : AttemptThreads ρ ω}
      {es : List AttemptEvent} {l : Line} {r : ReaderThread ρ} (logged : List LogEvent)
      (threads : t.threads = some th)
      (h : th.reader.Moves p.reader (g.surroundings t.task) t.line es l r) :
      Moves p g ⟨phase, t⟩ es
        ⟨phase, { t with line := l, threads := some { th with reader := r }, logged }⟩
  | writer {phase : Option (DriverPhase ρ ω)} {t : Attempt ρ ω} {th : AttemptThreads ρ ω}
      {es : List AttemptEvent} {l : Line} {r : WriterThread ω} (logged : List LogEvent)
      (threads : t.threads = some th)
      (h : th.writer.Moves p.writer (g.surroundings t.task) t.line es l r) :
      Moves p g ⟨phase, t⟩ es
        ⟨phase, { t with line := l, threads := some { th with writer := r }, logged }⟩
  | driver {phase phase' : DriverPhase ρ ω} {t t' : Attempt ρ ω} {es : List AttemptEvent}
      (h : phase.Tends g t es t' phase') : Moves p g ⟨some phase, t⟩ es ⟨phase'.held, t'⟩

/-- What is told of one attempt. -/
def Happening.of? (a : Nat) : Happening → Option AttemptEvent
  | .attempt b e => if b = a then some e else none
  | .taken _ _ => none

theorem filterMap_of?_map (a b : Nat) (es : List AttemptEvent) :
    (es.map (.attempt b)).filterMap (Happening.of? a) = if b = a then es else [] := by
  rw [List.filterMap_map]
  by_cases h : b = a
  · have : Happening.of? a ∘ Happening.attempt b = some := by
      funext e; simp [Happening.of?, h]
    rw [this, if_pos h, List.filterMap_some]
  · have : Happening.of? a ∘ Happening.attempt b = fun _ => none := by
      funext e; simp [Happening.of?, h]
    rw [this, if_neg h, List.filterMap_eq_nil_iff]
    exact fun _ _ => rfl

namespace Group

/-- The trial of an attempt that has begun. -/
def trial? (g : Group ρ ω) (a : Nat) : Option (Trial ρ ω) :=
  (g.attempts[a]?).map fun t => ⟨g.keeper? a, t⟩

theorem trial?_eq_some_iff {g : Group ρ ω} {a : Nat} {u : Trial ρ ω} :
    g.trial? a = some u ↔ g.attempts[a]? = some u.attempt ∧ g.keeper? a = u.phase := by
  unfold trial?
  rw [Option.map_eq_some_iff]
  constructor
  · rintro ⟨t, ht, rfl⟩
    exact ⟨ht, rfl⟩
  · rintro ⟨ht, hk⟩
    exact ⟨u.attempt, ht, by rw [hk]⟩

theorem trial?_of_attempt {g : Group ρ ω} {a : Nat} {t : Attempt ρ ω}
    (found : g.attempts[a]? = some t) : g.trial? a = some ⟨g.keeper? a, t⟩ :=
  trial?_eq_some_iff.mpr ⟨found, rfl⟩

/-- The trial of an attempt that a driver holds. -/
theorem Holds.trial?_eq {g : Group ρ ω} (holds : g.Holds) {d a : Nat} {phase : DriverPhase ρ ω}
    {t : Attempt ρ ω} (at_ : g.drivers[d]? = some phase) (ha : phase.attempt? = some a)
    (found : g.attempts[a]? = some t) : g.trial? a = some ⟨some phase, t⟩ :=
  trial?_eq_some_iff.mpr ⟨found, (keeper?_eq_some_iff holds).mpr ⟨⟨d, at_⟩, ha⟩⟩

variable {p : GroupPlugins ρ ω} {g g' : Group ρ ω} {m : GroupMove} {hs : List Happening}

/-- A trial before and after a move that concerns neither the attempt nor who holds it. -/
theorem trial_idle {a : Nat} {u : Trial ρ ω} (attempts : g'.attempts[a]? = g.attempts[a]?)
    (keeper : g'.keeper? a = g.keeper? a) (hu : g'.trial? a = some u) :
    ∃ u₀, g.trial? a = some u₀ ∧ Trial.Moves p g u₀ [] u := by
  obtain ⟨ht, hk⟩ := trial?_eq_some_iff.mp hu
  exact ⟨u, trial?_eq_some_iff.mpr ⟨attempts ▸ ht, keeper ▸ hk⟩, .idle⟩

/-- A trial after a move of a thread. -/
theorem trial_thread {a b : Nat} {t t' : Attempt ρ ω} {es : List AttemptEvent} {u : Trial ρ ω}
    {now : Int} {journal : List JournalEntry} (found : g.attempts[b]? = some t)
    (moves : ∀ phase, Trial.Moves p g ⟨phase, t⟩ es ⟨phase, t'⟩)
    (hu : (g.moved b t' now journal).trial? a = some u) :
    ∃ u₀, g.trial? a = some u₀ ∧
      Trial.Moves p g u₀ ((es.map (.attempt b)).filterMap (Happening.of? a)) u := by
  rw [filterMap_of?_map]
  have attempts : (g.moved b t' now journal).attempts = g.attempts.set b t' := rfl
  have keeper : (g.moved b t' now journal).keeper? a = g.keeper? a := keeper?_of_eq _ rfl a
  by_cases h : b = a
  · subst h
    obtain ⟨ht, hk⟩ := trial?_eq_some_iff.mp hu
    obtain ⟨lt, -⟩ := List.getElem?_eq_some_iff.mp found
    rw [attempts, List.getElem?_set_self lt] at ht
    have he : u = ⟨g.keeper? b, t'⟩ := by
      obtain ⟨phase, attempt⟩ := u
      cases ht
      rw [keeper] at hk
      cases hk
      rfl
    rw [he, if_pos rfl]
    exact ⟨⟨g.keeper? b, t⟩, trial?_of_attempt found, moves _⟩
  · rw [if_neg h]
    exact trial_idle (by rw [attempts, List.getElem?_set_ne h]) keeper hu

/-- A trial after a move of a driver that holds an attempt. -/
theorem trial_tend {a b d : Nat} {t t' : Attempt ρ ω} {es : List AttemptEvent} {u : Trial ρ ω}
    {phase phase' : DriverPhase ρ ω} {monitor : HangMonitor} {journal : List JournalEntry}
    (holds : g.Holds) (holds' : ((g.tended b t' monitor journal).drive d phase').Holds)
    (at_ : g.drivers[d]? = some phase) (hb : phase.attempt? = some b)
    (found : g.attempts[b]? = some t) (h : phase.Tends g t es t' phase')
    (hu : ((g.tended b t' monitor journal).drive d phase').trial? a = some u) :
    ∃ u₀, g.trial? a = some u₀ ∧
      Trial.Moves p g u₀ ((es.map (.attempt b)).filterMap (Happening.of? a)) u := by
  rw [filterMap_of?_map]
  obtain ⟨lt, -⟩ := List.getElem?_eq_some_iff.mp found
  obtain ⟨ltd, -⟩ := List.getElem?_eq_some_iff.mp at_
  by_cases hba : b = a
  · subst hba
    obtain ⟨ht, hk⟩ := trial?_eq_some_iff.mp hu
    have ht' : (g.attempts.set b t')[b]? = some t' := List.getElem?_set_self lt
    have hd : (g.drivers.set d phase')[d]? = some phase' := List.getElem?_set_self ltd
    have hp : u.phase = phase'.held := by
      rw [← hk]
      unfold DriverPhase.held
      cases ha : phase'.attempt? with
      | some c =>
        have hc := h.attempt?_eq ha
        rw [hb] at hc
        cases hc
        rw [Option.isSome_some, if_pos rfl]
        exact (keeper?_eq_some_iff holds').mpr ⟨⟨d, hd⟩, ha⟩
      | none =>
        rw [Option.isSome_none, if_neg Bool.false_ne_true]
        apply List.find?_eq_none.mpr
        intro phase₁ hm
        obtain ⟨e, he⟩ := List.mem_iff_getElem?.mp hm
        intro h₁
        rcases getElem?_drive he with ⟨rfl, rfl⟩ | ⟨ne, he⟩
        · rw [ha] at h₁; cases h₁
        · exact ne (holds.apart he at_ (eq_of_beq h₁) hb)
    have he : u = ⟨phase'.held, t'⟩ := by
      obtain ⟨phase₁, attempt⟩ := u
      cases hp
      cases ht'.symm.trans ht
      rfl
    rw [he, if_pos rfl]
    exact ⟨⟨some phase, t⟩, holds.trial?_eq at_ hb found, .driver h⟩
  · rw [if_neg hba]
    refine trial_idle (List.getElem?_set_ne hba) ?_ hu
    refine keeper?_drive holds holds' rfl at_ ?_ ?_
    · rw [hb]; exact fun e => hba (Option.some.inj e)
    · intro ha
      have := h.attempt?_eq ha
      rw [hb] at this
      exact hba (Option.some.inj this)

/-- Where a trial after a move comes from. -/
theorem Steps.trial (h : g.Steps p m hs g') (holds : g.Holds) {a : Nat} {u : Trial ρ ω}
    (hu : g'.trial? a = some u) :
    (∃ u₀, g.trial? a = some u₀ ∧ Trial.Moves p g u₀ (hs.filterMap (Happening.of? a)) u) ∨
      (a = g.attempts.length ∧ g.fatal = none ∧ hs = [] ∧ ∃ j : Job ρ ω,
        u = ⟨some (.makingReader j a), g.freshAttempt j.spec⟩) := by
  have holds' := h.holds holds
  have free : ∀ (g₁ : Group ρ ω) (d : Nat) (phase phase' : DriverPhase ρ ω),
      (g₁.drive d phase').Holds → g₁.drivers = g.drivers → g₁.attempts = g.attempts →
      g.drivers[d]? = some phase → phase.attempt? = none → phase'.attempt? = none →
      (g₁.drive d phase').trial? a = some u →
      ∃ u₀, g.trial? a = some u₀ ∧ Trial.Moves p g u₀ [] u := by
    intro g₁ d phase phase' h₁ hd ha at_ hp hp' hu
    refine trial_idle (by show g₁.attempts[a]? = _; rw [ha])
      (keeper?_drive holds h₁ hd at_ (by rw [hp]; exact nofun) (by rw [hp']; exact nofun)) hu
  cases h with
  | reader logged now journal found threads h =>
    exact .inl (trial_thread found (fun _ => .reader logged threads h) hu)
  | writer logged now journal found threads h =>
    exact .inl (trial_thread found (fun _ => .writer logged threads h) hu)
  | tend monitor journal at_ hb found h =>
    exact .inl (trial_tend holds holds' at_ hb found h hu)
  | take at_ => exact .inl (free _ _ _ _ holds' rfl rfl at_ rfl rfl hu)
  | exit at_ => exact .inl (free _ _ _ _ holds' rfl rfl at_ rfl rfl hu)
  | @enter d j at_ going =>
    by_cases ha : a = g.attempts.length
    · subst ha
      refine .inr ⟨rfl, going, rfl, j, ?_⟩
      obtain ⟨ht, hk⟩ := trial?_eq_some_iff.mp hu
      have ht' : (g.attempts ++ [g.freshAttempt j.spec])[g.attempts.length]? =
          some (g.freshAttempt j.spec) := by
        simp
      obtain ⟨ltd, -⟩ := List.getElem?_eq_some_iff.mp at_
      have hd : (g.drivers.set d (.makingReader j g.attempts.length))[d]? =
          some (.makingReader j g.attempts.length) := List.getElem?_set_self ltd
      have hk' := (keeper?_eq_some_iff holds').mpr ⟨⟨d, hd⟩, rfl⟩
      obtain ⟨phase, attempt⟩ := u
      cases hk.symm.trans hk'
      cases ht'.symm.trans ht
      rfl
    · refine .inl (trial_idle ?_ (keeper?_drive holds holds' rfl at_ nofun ?_) hu)
      · show (g.attempts ++ [g.freshAttempt j.spec])[a]? = g.attempts[a]?
        rw [List.getElem?_append]
        split
        · rfl
        · rename_i ge
          rw [List.getElem?_eq_none (Nat.le_of_not_lt ge)]
          apply List.getElem?_eq_none
          show 1 ≤ a - g.attempts.length
          omega
      · intro e
        exact ha (Option.some.inj e).symm
  | enterStopped at_ => exact .inl (free _ _ _ _ holds' rfl rfl at_ rfl rfl hu)
  | succeed at_ => exact .inl (free _ _ _ _ holds' rfl rfl at_ rfl rfl hu)
  | again _ at_ => exact .inl (free _ _ _ _ holds' rfl rfl at_ rfl rfl hu)
  | giveUp at_ => exact .inl (free _ _ _ _ holds' rfl rfl at_ rfl rfl hu)
  | rest at_ => exact .inl (free _ _ _ _ holds' rfl rfl at_ rfl rfl hu)
  | report | finish =>
    exact .inl (trial_idle (congrArg (·[a]?) (attempts_enforce _ _))
      (keeper?_of_eq _ (drivers_enforce _ _) a) hu)
  | tick => exact .inl (trial_idle rfl rfl hu)
  | pass => exact .inl (trial_idle rfl rfl hu)

/-- Attempts are never taken back. -/
theorem Steps.length_le (h : g.Steps p m hs g') : g.attempts.length ≤ g'.attempts.length := by
  cases h with
  | reader => exact Nat.le_of_eq List.length_set.symm
  | writer => exact Nat.le_of_eq List.length_set.symm
  | tend => exact Nat.le_of_eq List.length_set.symm
  | enter => show _ ≤ (g.attempts ++ [_]).length; rw [List.length_append]; omega
  | report | finish => exact Nat.le_of_eq (congrArg List.length (attempts_enforce _ _).symm)
  | take | exit | enterStopped | succeed | again | giveUp | rest | tick | pass =>
    exact Nat.le_refl _

theorem exists_trial {a : Nat} (lt : a < g.attempts.length) : ∃ u, g.trial? a = some u := by
  refine ⟨⟨g.keeper? a, g.attempts[a]⟩, trial?_eq_some_iff.mpr ⟨?_, rfl⟩⟩
  exact List.getElem?_eq_getElem lt

theorem lt_of_trial? {a : Nat} {u : Trial ρ ω} (h : g.trial? a = some u) :
    a < g.attempts.length :=
  (List.getElem?_eq_some_iff.mp (trial?_eq_some_iff.mp h).1).1

/-- What becomes of a trial in a move. -/
theorem Steps.trial_next (h : g.Steps p m hs g') (holds : g.Holds) {a : Nat} {u : Trial ρ ω}
    (hu : g.trial? a = some u) :
    ∃ u', g'.trial? a = some u' ∧ Trial.Moves p g u (hs.filterMap (Happening.of? a)) u' := by
  have lt := lt_of_trial? hu
  obtain ⟨u', hu'⟩ := exists_trial (Nat.lt_of_lt_of_le lt h.length_le)
  refine ⟨u', hu', ?_⟩
  rcases h.trial holds hu' with ⟨u₀, hu₀, hm⟩ | ⟨ha, -⟩
  · cases hu.symm.trans hu₀
    exact hm
  · exact absurd lt (by omega)

/-- Nothing is told of an attempt that has not begun. -/
theorem Steps.untold (h : g.Steps p m hs g') {a : Nat}
    (unbegun : g'.attempts.length ≤ a) : hs.filterMap (Happening.of? a) = [] := by
  have of_lt : ∀ {b : Nat} (es : List AttemptEvent), b < g.attempts.length →
      (es.map (.attempt b)).filterMap (Happening.of? a) = [] := by
    intro b es lt
    have := h.length_le
    rw [filterMap_of?_map, if_neg (by omega)]
  cases h with
  | reader logged now journal found => exact of_lt _ (List.getElem?_eq_some_iff.mp found).1
  | writer logged now journal found => exact of_lt _ (List.getElem?_eq_some_iff.mp found).1
  | tend monitor journal at_ ha found => exact of_lt _ (List.getElem?_eq_some_iff.mp found).1
  | _ => rfl

end Group

/-! ## Runs -/

/-- A group, and everything that was told of it. -/
structure Chronicle (ρ ω : Type) where
  group : Group ρ ω
  log : List Happening

namespace Chronicle

/-- A group that is about to run its tasks. -/
def start (config : CoreConfig) (now : Int) (tasks : List (TaskSpec ρ ω)) : Chronicle ρ ω :=
  ⟨.start config now tasks, []⟩

/-- The next chronicle, if a move can happen. -/
def step (p : GroupPlugins ρ ω) (c : Chronicle ρ ω) (m : GroupMove) : Option (Chronicle ρ ω) :=
  (c.group.step p m).map fun g => ⟨g, c.log ++ c.group.happenings p m⟩

/-- What a schedule leads to, if all of its moves can happen one after the other. -/
def run (p : GroupPlugins ρ ω) (c : Chronicle ρ ω) : List GroupMove → Option (Chronicle ρ ω)
  | [] => some c
  | m :: rest =>
    match c.step p m with
    | none => none
    | some c => c.run p rest

/-- What was told of an attempt. -/
def eventsOf (c : Chronicle ρ ω) (a : Nat) : List AttemptEvent :=
  c.log.filterMap (Happening.of? a)

/-- Drivers hold attempts that have begun, and nothing was told of the others. -/
structure Sound (c : Chronicle ρ ω) : Prop where
  holds : c.group.Holds
  untold : ∀ {a : Nat}, c.group.attempts.length ≤ a → c.eventsOf a = []

variable {p : GroupPlugins ρ ω} {c c' : Chronicle ρ ω} {m : GroupMove}

theorem step_eq_some (h : c.step p m = some c') :
    c.group.step p m = some c'.group ∧ c'.log = c.log ++ c.group.happenings p m := by
  obtain ⟨g, hg, rfl⟩ := Option.map_eq_some_iff.mp h
  exact ⟨hg, rfl⟩

/-- All that a move can do to a chronicle. -/
theorem Sound.steps (sound : c.Sound) (h : c.step p m = some c') :
    c.group.Steps p m (c.group.happenings p m) c'.group :=
  Group.steps_of_step sound.holds (step_eq_some h).1

theorem eventsOf_step (h : c.step p m = some c') (a : Nat) :
    c'.eventsOf a = c.eventsOf a ++ (c.group.happenings p m).filterMap (Happening.of? a) := by
  unfold eventsOf
  rw [(step_eq_some h).2, List.filterMap_append]

theorem sound_start (config : CoreConfig) (now : Int) (tasks : List (TaskSpec ρ ω)) :
    (start config now tasks).Sound :=
  ⟨Group.holds_start config now tasks, fun _ => rfl⟩

theorem Sound.step (sound : c.Sound) (h : c.step p m = some c') : c'.Sound where
  holds := (sound.steps h).holds sound.holds
  untold := by
    intro a unbegun
    have hs := sound.steps h
    rw [eventsOf_step h, sound.untold (Nat.le_trans hs.length_le unbegun),
      hs.untold unbegun]
    rfl

/-- What every move keeps holds after every run. -/
theorem run_invariant {P : Chronicle ρ ω → Prop}
    (step : ∀ {c c' : Chronicle ρ ω} {m : GroupMove}, c.Sound → P c → c.step p m = some c' → P c')
    {moves : List GroupMove} : ∀ {c c' : Chronicle ρ ω}, c.Sound → P c → c.run p moves = some c' →
      c'.Sound ∧ P c' := by
  induction moves with
  | nil => intro c c' sound hc h; cases h; exact ⟨sound, hc⟩
  | cons m rest ih =>
    intro c c' sound hc h
    simp only [run] at h
    cases hm : c.step p m with
    | none => rw [hm] at h; cases h
    | some c₁ => rw [hm] at h; exact ih (sound.step hm) (step sound hc hm) h

theorem sound_of_run {config : CoreConfig} {now : Int} {tasks : List (TaskSpec ρ ω)}
    {moves : List GroupMove} (h : (start config now tasks).run p moves = some c) : c.Sound :=
  (run_invariant (P := fun _ => True) (fun _ _ _ => trivial) (sound_start config now tasks)
    trivial h).1

section Trials

variable {I : Option Failure → Trial ρ ω → List AttemptEvent → Prop}
  (fresh : ∀ (g : Group ρ ω) (j : Job ρ ω) (a : Nat),
    I none ⟨some (.makingReader j a), g.freshAttempt j.spec⟩ [])
  (stop : ∀ {f : Failure} {u : Trial ρ ω} {es : List AttemptEvent}, I none u es → I (some f) u es)
  (move : ∀ {g : Group ρ ω} {u u' : Trial ρ ω} {es es' : List AttemptEvent}, I g.fatal u es →
    u.Moves p g es' u' → I g.fatal u' (es ++ es'))
include fresh stop move

/-- What holds of an attempt that begins, and is kept by everything that can happen to it, and by the
stop of its group, is kept of all attempts by every move. -/
theorem Sound.trial_step (sound : c.Sound)
    (hc : ∀ {a : Nat} {u : Trial ρ ω}, c.group.trial? a = some u → I c.group.fatal u (c.eventsOf a))
    (hm : c.step p m = some c') {a : Nat} {u : Trial ρ ω} (hu : c'.group.trial? a = some u) :
    I c'.group.fatal u (c'.eventsOf a) := by
  have hs := sound.steps hm
  have later : ∀ {es : List AttemptEvent}, I c.group.fatal u es → I c'.group.fatal u es := by
    intro es hi
    cases hf : c.group.fatal with
    | some f => rw [hs.fatal_eq hf, ← hf]; exact hi
    | none =>
      rw [hf] at hi
      cases c'.group.fatal with
      | none => exact hi
      | some f => exact stop hi
  apply later
  rw [eventsOf_step hm]
  rcases hs.trial sound.holds hu with ⟨u₀, hu₀, hmv⟩ | ⟨rfl, hf, he, j, rfl⟩
  · exact move (hc hu₀) hmv
  · rw [sound.untold (Nat.le_refl _), he, hf]
    exact fresh c.group j _

/-- **Induction over attempts.** What holds of an attempt that begins, and is kept by everything that
can happen to it, and by the stop of its group, holds of every attempt, in every run. -/
theorem trial_induction {config : CoreConfig} {now : Int} {tasks : List (TaskSpec ρ ω)}
    {moves : List GroupMove} (h : (start config now tasks).run p moves = some c) {a : Nat}
    {u : Trial ρ ω} (hu : c.group.trial? a = some u) : I c.group.fatal u (c.eventsOf a) := by
  refine (run_invariant (P := fun c => ∀ {a : Nat} {u : Trial ρ ω}, c.group.trial? a = some u →
    I c.group.fatal u (c.eventsOf a)) ?_ (sound_start config now tasks) ?_ h).2 hu
  · exact fun sound hc hm => sound.trial_step fresh stop move hc hm
  · exact fun hu => absurd (Group.lt_of_trial? hu) (Nat.not_lt_zero _)

end Trials

end Chronicle

/-! ## Groups that follow scripts -/

/-- Plugins that follow scripts. -/
def scripted : GroupPlugins ScriptedReader ScriptedWriter :=
  ⟨ScriptedReader.plugin, ScriptedWriter.plugin⟩

/-- A task whose plugins follow the same scripts in every attempt. -/
def TaskSpec.ofScripts (task : Nat) (reader : List ReaderStep) (writer : List WriterStep) :
    TaskSpec ScriptedReader ScriptedWriter :=
  ⟨task, true, fun _ => .ok ⟨none, reader, none⟩, fun _ => .ok (.make none writer)⟩

end BatchSync
