import BatchSync.Config.Validation
import BatchSync.Proofs.Group.Completion
import BatchSync.Proofs.Status.Merging

/-!
# What a group returns

Once its drivers have exited, and nothing has stopped it, every task of a group is settled, and what the
group returns is read off the verdicts and the statuses of the last attempts
(`Chronicle.outcome_of_start`). Threads that were given up may still move then, but they change nothing
about an attempt that has succeeded.
-/

namespace BatchSync

variable {ρ ω : Type}

/-! ## The end of a task -/

/-- Whether a failure of a kind is never tried again. -/
def FailureKind.IsFinal (k : FailureKind) : Prop :=
  k = .invalidArgument ∨ k = .config ∨ k = .errorLimitExceeded

namespace Group

theorem isRetryable_failoverPolicy (c : FailoverConfig) (k : FailureKind) :
    (failoverPolicy c).isRetryable k = true ↔ ¬ k.IsFinal := by
  unfold FailureKind.IsFinal
  cases k <;> simp [failoverPolicy, RetryPolicy.isRetryable, retryableKinds]

/-- The attempts of a task have come to a result: there are no more of them than allowed, every one but
the last has failed in a way that is not final, and the last has come to the result, which is final, or
there may be no more attempts. -/
def EndsWith (g : Group ρ ω) (k most : Nat) (r : Except Failure Unit) : Prop :=
  ∃ past a, g.places k = past ++ [a] ∧ (past ++ [a]).length ≤ most ∧
    (∀ b ∈ past, ∃ f, g.Failed b f ∧ ¬ f.kind.IsFinal) ∧ g.CameTo a r ∧
    ∀ f, r = .error f → f.kind.IsFinal ∨ (past ++ [a]).length = most

theorem Verdict.endsWith {g : Group ρ ω} {c : FailoverConfig} (policy : g.policy = failoverPolicy c)
    {k : Nat} {r : Except Failure Unit} (h : g.Verdict k r) :
    g.EndsWith k (failoverPolicy c).times r := by
  obtain ⟨failed, a, ⟨past, whole, rfl, retried⟩, came, lt, last⟩ := h
  rw [policy] at lt last
  have count : (past ++ [a]).length = past.length + 1 := List.length_append
  refine ⟨past, a, whole, by omega, fun b hb => ?_, came, fun f hf => (last f hf).imp ?_ ?_⟩
  · obtain ⟨f, hf, again⟩ := retried b hb
    rw [policy] at again
    exact ⟨f, hf, (isRetryable_failoverPolicy c f.kind).mp again⟩
  · intro final
    refine Classical.byContradiction fun again => ?_
    rw [(isRetryable_failoverPolicy c f.kind).mpr again] at final
    cases final
  · exact fun e => count.trans e

/-! ## Groups that are done -/

section Done

variable {g g' : Group ρ ω} {order : List Nat} {settled : List (Nat × Except Failure Unit)}

/-- When the drivers have exited, all tasks are settled. -/
theorem Roster.settled_perm (h : g.Roster order settled) (done : g.isDone = true)
    (manned : g.drivers = [] → order = []) :
    g.queue = [] ∧ (settled.map (·.1)).Perm order := by
  have exited := isDone_iff.mp done
  have none_ : g.drivers.filterMap DriverPhase.task? = [] := by
    rw [List.filterMap_eq_nil_iff]
    intro phase hp
    rw [exited phase hp]
    rfl
  have whole := h.whole
  rw [none_, List.nil_append] at whole
  have empty : g.queue = [] := by
    cases hd : g.drivers with
    | nil =>
      rw [manned hd] at whole
      exact List.map_eq_nil_iff.mp (List.append_eq_nil_iff.mp whole.eq_nil).1
    | cons phase rest =>
      have mem : phase ∈ g.drivers := by rw [hd]; exact List.mem_cons_self
      exact h.exits (exited phase mem ▸ mem)
  rw [empty] at whole
  exact ⟨empty, whole⟩

/-- When all tasks are settled, the index of latest attempts lists all of them. -/
theorem Roster.latest_eq (h : g.Roster order settled) (indexed : g.Indexed) (nodup : order.Nodup)
    (every : (settled.map (·.1)).Perm order) : g.latest.map (·.1) = order.mergeSort := by
  have sorted : (g.latest.map (·.1)).Pairwise (· < ·) := List.pairwise_map.mpr indexed.sorted
  have begun : ∀ k, k ∈ order → g.places k ≠ [] := by
    intro k hk
    obtain ⟨⟨k', r⟩, hv, rfl⟩ := List.mem_map.mp (every.mem_iff.mpr hk)
    obtain ⟨failed, a, ⟨past, whole, -⟩, -⟩ := h.closed hv
    rw [whole]
    exact List.append_ne_nil_of_right_ne_nil _ (List.cons_ne_nil _ _)
  have same : (g.latest.map (·.1)).Perm order := by
    refine (List.perm_ext_iff_of_nodup (sorted.imp Nat.ne_of_lt) nodup).mpr fun k => ?_
    constructor
    · intro hk
      obtain ⟨⟨k', a⟩, hl, rfl⟩ := List.mem_map.mp hk
      refine Classical.byContradiction fun unknown => ?_
      have last := indexed.last.mp hl
      rw [h.unknown unknown] at last
      cases last
    · intro hk
      have last := List.getLast?_eq_some_getLast (begun k hk)
      exact List.mem_map.mpr ⟨_, indexed.last.mpr last, rfl⟩
  have sorted' : order.mergeSort.Pairwise (· ≤ ·) := by
    refine (List.pairwise_mergeSort ?_ ?_ order).imp fun h => of_decide_eq_true h
    · intro a b c hab hbc
      exact decide_eq_true (Nat.le_trans (of_decide_eq_true hab) (of_decide_eq_true hbc))
    · intro a b
      simpa using Nat.le_total a b
  exact List.Perm.eq_of_pairwise (fun a b _ _ => Nat.le_antisymm) (sorted.imp Nat.le_of_lt) sorted'
    (same.trans (List.mergeSort_perm _ _).symm)

/-- The last attempts of all tasks have succeeded. -/
def AllSucceeded (g : Group ρ ω) : Prop := ∀ l ∈ g.latest, g.Succeeded l.2

theorem Roster.allSucceeded (h : g.Roster order settled) (indexed : g.Indexed)
    (every : (settled.map (·.1)).Perm order) (well : ∀ {k r}, (k, r) ∈ settled → r = .ok ()) :
    g.AllSucceeded := by
  rintro ⟨k, a⟩ hl
  have last := indexed.last.mp hl
  have known : k ∈ order := by
    refine Classical.byContradiction fun unknown => ?_
    rw [h.unknown unknown] at last
    cases last
  obtain ⟨⟨k', r⟩, hv, rfl⟩ := List.mem_map.mp (every.mem_iff.mpr known)
  obtain ⟨failed, b, ⟨past, whole, -⟩, came, -⟩ := h.closed hv
  cases well hv
  rw [whole, List.getLast?_concat] at last
  cases last
  exact came

theorem AllSucceeded.state_eq (h : g.AllSucceeded) : ∀ s ∈ g.statuses, s.state = .succeeded := by
  intro s hs
  obtain ⟨l, hl, he⟩ := List.mem_filterMap.mp hs
  obtain ⟨t, found, state⟩ := h l hl
  rw [found] at he
  cases he
  exact state

variable {p : GroupPlugins ρ ω} {m : GroupMove} {hs : List Happening}

/-- Once the drivers have exited, an attempt that has succeeded is left as it is. -/
theorem Steps.status_eq (h : g.Steps p m hs g') (holds : g.Holds) (done : g.isDone = true)
    (standing : ∀ {a : Nat} {u : Trial ρ ω}, g.trial? a = some u → u.Standing g.fatal) {a : Nat}
    (succeeded : g.Succeeded a) :
    (g'.attempts[a]?).map Attempt.status = (g.attempts[a]?).map Attempt.status := by
  obtain ⟨t, found, state⟩ := succeeded
  have hu := trial?_of_attempt found
  obtain ⟨u', hu', moves⟩ := h.trial_next holds hu
  have ended := ((standing hu).going_or.resolve_left fun going => going state).ended
  rcases moves.of_isOver ended with rfl | ⟨phase, t', phase', hp, -⟩
  · rw [found, (trial?_eq_some_iff.mp hu').1]
  · obtain ⟨⟨d, at_⟩, ha⟩ := (keeper?_eq_some_iff holds).mp hp
    cases isDone_iff.mp done _ (List.mem_of_getElem? at_)
    cases ha

theorem Steps.config_eq (h : g.Steps p m hs g') : g'.config = g.config := by
  cases h with
  | report | finish => exact config_enforce _ _
  | _ => rfl

/-- Once the drivers have exited, and the last attempts of all tasks have succeeded, the statuses of the
group stay as they are. -/
theorem Steps.statuses_eq (h : g.Steps p m hs g') (holds : g.Holds) (done : g.isDone = true)
    (standing : ∀ {a : Nat} {u : Trial ρ ω}, g.trial? a = some u → u.Standing g.fatal)
    (well : g.AllSucceeded) : g'.AllSucceeded ∧ g'.statuses = g.statuses := by
  have latest : g'.latest = g.latest := by
    rcases h.tasks_eq_or with ⟨-, latest⟩ | ⟨d, j, at_, -⟩
    · exact latest
    · cases isDone_iff.mp done _ (List.mem_of_getElem? at_)
  refine ⟨fun l hl => (h.keeps holds).succeeded (well l (latest ▸ hl)), ?_⟩
  unfold statuses
  rw [latest]
  exact List.filterMap_congr fun l hl => h.status_eq holds done standing (well l hl)

end Done

/-! ## Looks at the progress -/

/-- The failure that a look at the status finds, if the limit on dirty records is exceeded. -/
def excess? (g : Group ρ ω) : Option Failure :=
  match g.limit.check g.status with
  | .ok () => none
  | .error f => some f

theorem excess?_eq_none_iff {g : Group ρ ω} : g.excess? = none ↔ g.limit.check g.status = .ok () := by
  unfold excess?
  cases g.limit.check g.status with
  | ok => exact iff_of_true rfl rfl
  | error f => exact iff_of_false nofun nofun

/-- A look finds nothing but that the limit is exceeded. -/
theorem kind_of_excess? {g : Group ρ ω} {f : Failure} (h : g.excess? = some f) :
    f.kind = .errorLimitExceeded := by
  unfold excess? ErrorLimit.check at h
  cases hx : g.limit.excess? g.status with
  | none => rw [hx] at h; cases h
  | some reason => rw [hx] at h; cases h; rfl

theorem fatal_enforce_eq (g : Group ρ ω) : (g.enforce g.status).fatal = g.fatal.or g.excess? := by
  unfold enforce excess?
  cases g.limit.check g.status with
  | ok => exact (Option.or_none).symm
  | error f => rfl

end Group

/-- Whether the group looks at its progress in a move. -/
def GroupMove.isLook : GroupMove → Bool
  | .report => true
  | .finish => true
  | _ => false

/-- The task that a driver took. -/
def Happening.taken? : Happening → Option (Nat × Nat)
  | .taken d k => some (d, k)
  | _ => none

namespace Chronicle

variable {p : GroupPlugins ρ ω} {c c' : Chronicle ρ ω} {m : GroupMove}

/-- The drivers that took tasks, and the tasks, in the order in which they were taken. -/
def takings (c : Chronicle ρ ω) : List (Nat × Nat) := c.log.filterMap Happening.taken?

/-- The failures that the looks in a run find. -/
def looks (p : GroupPlugins ρ ω) (c : Chronicle ρ ω) : List GroupMove → List Failure
  | [] => []
  | m :: rest =>
    (if m.isLook then c.group.excess?.toList else []) ++
      match c.step p m with
      | none => []
      | some c => c.looks p rest

/-- Nothing but a look stops a group. -/
theorem Sound.fatal_eq (sound : c.Sound) (h : c.step p m = some c') :
    c'.group.fatal = c.group.fatal.or (if m.isLook then c.group.excess? else none) := by
  have steps := sound.steps h
  generalize c'.group = g' at steps
  generalize c.group.happenings p m = hs at steps
  cases steps with
  | report => exact Group.fatal_enforce_eq _
  | finish => exact Group.fatal_enforce_eq _
  | _ => exact Option.or_none.symm

/-- A group is stopped for what the first look with a finding finds. -/
theorem fatal_of_run (sound : c.Sound) {moves : List GroupMove} (h : c.run p moves = some c') :
    c'.group.fatal = c.group.fatal.or (c.looks p moves).head? := by
  induction moves generalizing c with
  | nil => cases h; exact Option.or_none.symm
  | cons m rest ih =>
    simp only [run] at h
    cases hm : c.step p m with
    | none => rw [hm] at h; cases h
    | some c₁ =>
      rw [hm] at h
      rw [ih (sound.step hm) h, sound.fatal_eq hm, Option.or_assoc]
      congr 1
      simp only [looks, hm]
      cases m.isLook with
      | false => rfl
      | true => cases c.group.excess? <;> rfl

/-- What was taken, and what waits to be taken. -/
theorem Sound.takings_eq (sound : c.Sound) (h : c.step p m = some c') :
    c'.takings.map (·.2) ++ c'.group.queue.map TaskSpec.task =
      c.takings.map (·.2) ++ c.group.queue.map TaskSpec.task := by
  have steps := sound.steps h
  have log := (step_eq_some h).2
  generalize c'.group = g' at steps
  generalize c.group.happenings p m = hs at steps log
  have told : ∀ (a : Nat) (es : List AttemptEvent),
      (es.map (Happening.attempt a)).filterMap Happening.taken? = [] := by
    intro a es
    rw [List.filterMap_eq_nil_iff]
    intro x hx
    obtain ⟨e, -, rfl⟩ := List.mem_map.mp hx
    rfl
  unfold takings
  rw [log, List.filterMap_append]
  cases steps with
  | reader | writer | tend => rw [told, List.append_nil]; rfl
  | take at_ going queue =>
    rw [queue, List.map_append, List.append_assoc]
    rfl
  | report | finish =>
    rw [List.filterMap_nil, List.append_nil]
    exact congrArg (fun q => _ ++ List.map TaskSpec.task q) (Group.queue_enforce _ _)
  | tick | pass => rw [List.filterMap_nil, List.append_nil]
  | exit | enter | enterStopped | succeed | again | giveUp | rest =>
    rw [List.filterMap_nil, List.append_nil]
    rfl

/-- What every run from the start keeps. -/
structure Keeps (config : CoreConfig) (tasks : List (TaskSpec ρ ω)) (c : Chronicle ρ ω) : Prop where
  same : c.group.config = config
  policy : c.group.policy = Group.failoverPolicy config.container.task.failover
  drivers : c.group.drivers.length = min config.container.taskGroup.channel tasks.length
  taken : c.takings.map (·.2) ++ c.group.queue.map TaskSpec.task = tasks.map TaskSpec.task

theorem keeps_of_run {config : CoreConfig} {now : Int} {tasks : List (TaskSpec ρ ω)}
    {moves : List GroupMove} (h : (start config now tasks).run p moves = some c) :
    c.Keeps config tasks := by
  refine (run_invariant (P := fun c => c.Keeps config tasks) ?_ (sound_start config now tasks) ?_ h).2
  · intro c c' m sound kept hm
    have steps := sound.steps hm
    exact ⟨steps.config_eq.trans kept.same, steps.policy_eq.trans kept.policy,
      steps.length_drivers.trans kept.drivers, (sound.takings_eq hm).trans kept.taken⟩
  · exact ⟨rfl, rfl, List.length_replicate, rfl⟩

/-! ## After the drivers have exited -/

theorem excess?_congr {g g' : Group ρ ω} (config : g'.config = g.config)
    (statuses : g'.statuses = g.statuses) : g'.excess? = g.excess? := by
  unfold Group.excess? Group.limit Group.status
  rw [config, statuses]

/-- Once the drivers have exited, and the last attempts of all tasks have succeeded, all looks see the
same. -/
theorem looks_of_allSucceeded (reached : c.IsReached p) (done : c.group.isDone = true)
    (well : c.group.AllSucceeded) {moves : List GroupMove} (h : c.run p moves = some c') :
    c'.group.excess? = c.group.excess? ∧ (c.group.excess? = none → c.looks p moves = []) := by
  induction moves generalizing c with
  | nil => cases h; exact ⟨rfl, fun _ => rfl⟩
  | cons m rest ih =>
    simp only [run] at h
    cases hm : c.step p m with
    | none => rw [hm] at h; cases h
    | some c₁ =>
      rw [hm] at h
      have steps := reached.sound.steps hm
      obtain ⟨well', statuses⟩ :=
        steps.statuses_eq reached.sound.holds done (fun hu => (reached.standing hu).1) well
      have same := excess?_congr steps.config_eq statuses
      obtain ⟨later, none_⟩ := ih (reached.step hm) (steps.isDone done) well' h
      refine ⟨later.trans same, fun calm => ?_⟩
      simp only [looks, hm]
      rw [none_ (same.trans calm), calm]
      split <;> rfl

/-- Once the drivers have exited, the settled tasks stay settled. -/
theorem roster_of_isDone {order : List Nat} {settled : List (Nat × Except Failure Unit)}
    (sound : c.Sound) (done : c.group.isDone = true) (roster : c.group.Roster order settled)
    {moves : List GroupMove} (h : c.run p moves = some c') :
    c'.group.isDone = true ∧ c'.group.Roster order settled := by
  refine (run_invariant (P := fun c => c.group.isDone = true ∧ c.group.Roster order settled) ?_ sound
    ⟨done, roster⟩ h).2
  intro c c' m sound ⟨done, roster⟩ hm
  have steps := sound.steps hm
  exact ⟨steps.isDone done, roster.aside sound.holds steps (steps.ne_driver done)⟩

/-- What the run returns: why the group was stopped, or the first failure of a task, or the status of the
group. -/
theorem result_of_finish (sound : c.Sound) (h : c.step p .finish = some c') :
    c'.group.statuses = c.group.statuses ∧
      c'.group.result = some (match c'.group.fatal.or c'.group.failures.head? with
        | some f => .error f
        | none => .ok c'.group.status) := by
  have steps := sound.steps h
  generalize c'.group = g' at steps
  generalize c.group.happenings p .finish = hs at steps
  have enforced : (c.group.enforce c.group.status).statuses = c.group.statuses := by
    rw [Group.enforce_eq]
    rfl
  cases steps with
  | finish =>
    have same : c.group.finish.status = c.group.status := congrArg TaskStatus.merge enforced
    refine ⟨enforced, ?_⟩
    rw [same]
    rfl

/-- A run that ends in a move is a run to a place in which the move happens. -/
theorem exists_of_run_concat {moves : List GroupMove} (h : c.run p (moves ++ [m]) = some c') :
    ∃ c₁, c.run p moves = some c₁ ∧ c₁.step p m = some c' := by
  induction moves generalizing c with
  | nil =>
    refine ⟨c, rfl, ?_⟩
    simp only [run, List.nil_append] at h
    cases hm : c.step p m with
    | none => rw [hm] at h; cases h
    | some c₁ => rw [hm] at h; cases h; rfl
  | cons m' rest ih =>
    simp only [run, List.cons_append] at h ⊢
    cases hm : c.step p m' with
    | none => rw [hm] at h; cases h
    | some c₁ => rw [hm] at h; exact ih h

/-- How a group that has returned has settled its tasks, with which verdicts, in the order in which they
came. -/
structure Settles (config : CoreConfig) (tasks : List (TaskSpec ρ ω)) (c : Chronicle ρ ω)
    (verdicts : List (Nat × Except Failure Unit)) : Prop where
  /-- The drivers took all tasks, one after the other. -/
  taken : c.takings.map (·.2) = tasks.map TaskSpec.task
  /-- There is a verdict about every task. -/
  every : (verdicts.map (·.1)).Perm (tasks.map TaskSpec.task)
  /-- The attempts of every task have come to its verdict. -/
  ends : ∀ {k : Nat} {r : Except Failure Unit}, (k, r) ∈ verdicts →
    c.group.EndsWith k (min (config.container.task.failover.maxRetryTimes + 1) Group.maxAttempts) r
  /-- The failures were recorded in that order. -/
  failures : c.group.failures = verdicts.filterMap Group.failureOf?
  /-- The status of the group is made of those of the last attempts. -/
  total : c.group.status =
    .merge ((tasks.map TaskSpec.task).mergeSort.filterMap c.group.lastStatus?)

theorem channel_pos_of_validate {config : CoreConfig} (valid : config.validate = .ok ()) :
    0 < config.container.taskGroup.channel := by
  refine Nat.pos_of_ne_zero fun zero => ?_
  unfold CoreConfig.validate ContainerConfig.validate TaskGroupConfig.validate requirePositive at valid
  rw [if_pos zero] at valid
  cases ht : config.transport.validate with
  | error e => rw [ht] at valid; cases valid
  | ok => rw [ht] at valid; cases valid

variable {config : CoreConfig} {now : Int} {tasks : List (TaskSpec ρ ω)} {moves : List GroupMove}
  {verdicts : List (Nat × Except Failure Unit)}

/-- Once the drivers have exited, all tasks are settled. -/
theorem settles_of_isDone (valid : config.validate = .ok ())
    (distinct : (tasks.map TaskSpec.task).Nodup)
    (h : (start config now tasks).run p moves = some c) (done : c.group.isDone = true)
    (roster : c.group.Roster (tasks.map TaskSpec.task) verdicts) :
    c.Settles config tasks verdicts := by
  have keeps := keeps_of_run h
  have indexed := indexed_of_run h
  have manned : c.group.drivers = [] → tasks.map TaskSpec.task = [] := by
    intro none_
    have crew := keeps.drivers
    have pos := channel_pos_of_validate valid
    rw [none_, List.length_nil] at crew
    rw [List.map_eq_nil_iff, ← List.length_eq_zero_iff]
    omega
  obtain ⟨empty, every⟩ := roster.settled_perm done manned
  refine ⟨?_, every, fun hv => (roster.closed hv).endsWith keeps.policy, roster.failures, ?_⟩
  · have taken := keeps.taken
    rw [empty, List.map_nil, List.append_nil] at taken
    exact taken
  · unfold Group.status
    rw [indexed.statuses_eq, roster.latest_eq indexed distinct every]

/-- The counters of the group are the sums of those of the last attempts. -/
theorem Settles.count_eq (h : c.Settles config tasks verdicts) (counter : Counter) :
    c.group.status.count counter = (((tasks.map TaskSpec.task).filterMap c.group.lastStatus?).map
      fun t => t.count counter).sum % wordLimit := by
  rw [h.total, TaskStatus.count_merge]
  congr 1
  exact (((List.mergeSort_perm _ _).filterMap _).map _).sum_nat

theorem kind_of_mem_looks {f : Failure} (h : f ∈ c.looks p moves) : f.kind = .errorLimitExceeded := by
  induction moves generalizing c with
  | nil => cases h
  | cons m rest ih =>
    simp only [looks] at h
    rcases List.mem_append.mp h with now_ | later
    · split at now_
      · exact Group.kind_of_excess? (Option.mem_toList.mp now_)
      · cases now_
    · cases hm : c.step p m with
      | none => rw [hm] at later; cases later
      | some c₁ => rw [hm] at later; exact ih later

theorem Keeps.excess?_eq_none_iff (h : c.Keeps config tasks) : c.group.excess? = none ↔
    (ErrorLimit.ofConfig config.job.errorLimit).check c.group.status = .ok () := by
  rw [Group.excess?_eq_none_iff, ← h.same]
  rfl

/-- If nothing has stopped the group on its return, the last look has found nothing. -/
theorem excess?_of_finish (sound : c.Sound) (h : c.step p .finish = some c')
    (calm : c'.group.fatal = none) : c'.group.excess? = none := by
  have look := sound.fatal_eq h
  rw [calm] at look
  have found : c.group.excess? = none := (Option.or_eq_none_iff.mp look.symm).2
  exact (excess?_congr (sound.steps h).config_eq (result_of_finish sound h).1).trans found

/-- The run returns a status exactly if all verdicts are good and the limit accepts the status. -/
theorem ok_iff {before late : List GroupMove} {c₁ c₂ : Chronicle ρ ω}
    (h₁ : (start config now tasks).run p before = some c₁) (done : c₁.group.isDone = true)
    (h₂ : c₁.run p late = some c₂) (hf : c₂.step p .finish = some c)
    (roster₁ : c₁.group.Roster (tasks.map TaskSpec.task) verdicts)
    (settles : c.Settles config tasks verdicts)
    (fatal : c.group.fatal = (c₁.looks p (late ++ [.finish])).head?) (s : TaskStatus) :
    c.group.result = some (.ok s) ↔ s = c.group.status ∧
      (∀ k r, (k, r) ∈ verdicts → r = .ok ()) ∧
      (ErrorLimit.ofConfig config.job.errorLimit).check s = .ok () := by
  have before₂ : (start config now tasks).run p (before ++ late) = some c₂ := (run_append h₁).trans h₂
  have last : c₂.run p [.finish] = some c := by simp only [run, hf]
  have h : c₁.run p (late ++ [.finish]) = some c := (run_append h₂).trans last
  have sound₂ := sound_of_run before₂
  have result := (result_of_finish sound₂ hf).2
  have accepts := (keeps_of_run ((run_append before₂).trans last)).excess?_eq_none_iff
  have well : c.group.failures = [] ↔ ∀ k r, (k, r) ∈ verdicts → r = .ok () := by
    rw [settles.failures, List.filterMap_eq_nil_iff]
    constructor
    · intro none_ k r hv
      have := none_ (k, r) hv
      cases r with
      | ok => rfl
      | error f => cases this
    · rintro ok ⟨k, r⟩ hv
      rw [ok k r hv]
      rfl
  constructor
  · intro hs
    rw [result] at hs
    cases hx : c.group.fatal.or c.group.failures.head? with
    | some f => rw [hx] at hs; cases hs
    | none =>
      rw [hx] at hs
      cases hs
      obtain ⟨none_, unfailed⟩ := Option.or_eq_none_iff.mp hx
      exact ⟨rfl, well.mp (List.head?_eq_none_iff.mp unfailed),
        accepts.mp (excess?_of_finish sound₂ hf none_)⟩
  · rintro ⟨rfl, ok, accepted⟩
    have succeeded := roster₁.allSucceeded (indexed_of_run h₁) settles.every fun hv => ok _ _ hv
    obtain ⟨later, none_⟩ := looks_of_allSucceeded ⟨config, now, tasks, before, h₁⟩ done succeeded h
    have unfailed := well.mpr ok
    rw [result, fatal, none_ (later.symm.trans (accepts.mpr accepted)), unfailed]
    rfl

/-- **The outcome of a group.** Take a group with a valid configuration and tasks with distinct numbers,
whatever its plugins do.
1. However the threads, the drivers and the clock take turns, if nothing has stopped the group when its
   drivers have exited, then on its return all tasks are settled (`Settles`): every task was taken once,
   in the order of the queue; it was tried until an attempt succeeded, or failed in a way that is final,
   or there were as many attempts as allowed; and there is a verdict about each task, whatever the
   verdicts about the others.
2. The run returns what the first look since then with a finding has found, which is that the limit on
   dirty records is exceeded, or else the failure that was recorded first, or else the status of the
   group; and if no look has found anything, the limit accepts that status. It returns a status exactly
   if all verdicts are good and the limit accepts that status, which is made of those of the last attempts
   alone: it is `succeeded`, and its counters are, as words, their sums.
3. If all attempts that begin come to an end, the run does return, in every endless schedule that is fair
   to the drivers and to the return. -/
theorem outcome_of_start (p : GroupPlugins ρ ω) (config : CoreConfig) (now : Int)
    (tasks : List (TaskSpec ρ ω)) (valid : config.validate = .ok ())
    (distinct : (tasks.map TaskSpec.task).Nodup) :
    (∀ before late c₁ c, (start config now tasks).run p before = some c₁ → c₁.group.isDone = true →
      c₁.group.fatal = none → c₁.run p (late ++ [.finish]) = some c →
      ∃ verdicts, c.Settles config tasks verdicts ∧
        c.group.result = some (match
          (c₁.looks p (late ++ [.finish])).head?.or c.group.failures.head? with
            | some f => .error f
            | none => .ok c.group.status) ∧
        (∀ f ∈ c₁.looks p (late ++ [.finish]), f.kind = .errorLimitExceeded) ∧
        (c₁.looks p (late ++ [.finish]) = [] →
          (ErrorLimit.ofConfig config.job.errorLimit).check c.group.status = .ok ()) ∧
        (∀ s, c.group.result = some (.ok s) ↔ s = c.group.status ∧
          (∀ k r, (k, r) ∈ verdicts → r = .ok ()) ∧
          (ErrorLimit.ofConfig config.job.errorLimit).check s = .ok ()) ∧
        (∀ s, c.group.result = some (.ok s) → s.state = .succeeded ∧ ∀ counter, s.count counter =
          (((tasks.map TaskSpec.task).filterMap c.group.lastStatus?).map
            fun t => t.count counter).sum % wordLimit)) ∧
    (∀ turn, IsFairToGroup turn (min config.container.taskGroup.channel tasks.length) →
      (∀ n a, a < (course p (start config now tasks) turn n).group.attempts.length →
        ∃ k, (course p (start config now tasks) turn k).HasReturned a) →
      ∃ n, (course p (start config now tasks) turn n).group.result.isSome = true) := by
  refine ⟨fun before late c₁ c h₁ done calm h => ?_, fun turn fair ends => ?_⟩
  · obtain ⟨verdicts, roster₁⟩ := roster_of_run distinct h₁ calm
    obtain ⟨done', roster⟩ := roster_of_isDone (sound_of_run h₁) done roster₁ h
    have whole : (start config now tasks).run p (before ++ (late ++ [.finish])) = some c :=
      (run_append h₁).trans h
    have settles := settles_of_isDone valid distinct whole done' roster
    obtain ⟨c₂, h₂, hf⟩ := exists_of_run_concat h
    have sound₂ := sound_of_run ((run_append h₁).trans h₂)
    have fatal := fatal_of_run (sound_of_run h₁) h
    rw [calm, Option.none_or] at fatal
    have result := (result_of_finish sound₂ hf).2
    rw [fatal] at result
    have ok := ok_iff h₁ done h₂ hf roster₁ settles fatal
    refine ⟨verdicts, settles, result, fun f => kind_of_mem_looks, fun unseen => ?_, ok, fun s hs => ?_⟩
    · rw [unseen] at fatal
      exact (keeps_of_run whole).excess?_eq_none_iff.mp (excess?_of_finish sound₂ hf fatal)
    obtain ⟨rfl, well, -⟩ := (ok s).mp hs
    have succeeded := roster.allSucceeded (indexed_of_run whole) settles.every fun hv => well _ _ hv
    exact ⟨TaskStatus.state_merge_of_succeeded succeeded.state_eq, settles.count_eq⟩
  · refine returns ⟨config, now, tasks, [], rfl⟩ ?_ ends
    have crew : (start config now tasks).group.drivers.length =
        min config.container.taskGroup.channel tasks.length := List.length_replicate
    rw [crew]
    exact fair

/-- A task whose first reader cannot be made, and the second one can. -/
def flaky : TaskSpec ScriptedReader ScriptedWriter where
  task := 7
  plain := true
  reader n := if n = 0 then .error (.message "connection reset" []) else .ok ⟨none, [.send .empty], none⟩
  writer _ := .ok (.make none [.receive none none])

/-- A task whose readers can never be made. -/
def hopeless : TaskSpec ScriptedReader ScriptedWriter where
  task := 3
  plain := true
  reader _ := .error (.known (.failure (.invalidArgument "no such table")) [])
  writer _ := .ok (.make none [])

/-- The first driver comes to rest behind a failed attempt, the second one to its end behind another, and
then the first one goes on. -/
def failover : List GroupMove :=
  List.replicate 10 (.driver 0) ++ List.replicate 11 (.driver 1) ++ [.tick 10000000000] ++
    List.replicate 5 (.driver 0) ++ List.replicate 10 (.reader 2) ++ List.replicate 12 (.writer 2) ++
    List.replicate 9 (.driver 0)

/-- Both tasks are settled. -/
def settledBoth : Chronicle ScriptedReader ScriptedWriter :=
  ((start {} 0 [flaky, hopeless]).run scripted failover).get (by decide +kernel)

/-- The group has returned. -/
def returnedBoth : Chronicle ScriptedReader ScriptedWriter :=
  (settledBoth.run scripted ([.report] ++ [.finish])).get (by decide +kernel)

/-- The second attempt at the one task has succeeded, and the group returns the failure of the only attempt
at the other one. -/
def isFailover (c : Chronicle ScriptedReader ScriptedWriter) : Bool :=
  c.group.places 7 == [0, 2] && c.group.places 3 == [1] &&
    c.group.attempts[2]?.any (fun t => t.status.state == .succeeded) &&
    match c.group.result with
      | some (.error (.taskFailed 3 (.invalidArgument why))) => why == "no such table"
      | _ => false

theorem outcome_of_start_failover :
    (start {} 0 [flaky, hopeless]).run scripted failover = some settledBoth ∧
      settledBoth.run scripted ([.report] ++ [.finish]) = some returnedBoth ∧
      returnedBoth.isFailover = true ∧
      ∃ verdicts, returnedBoth.Settles {} [flaky, hopeless] verdicts := by
  have settled : (start {} 0 [flaky, hopeless]).run scripted failover = some settledBoth :=
    (Option.some_get _).symm
  have returned : settledBoth.run scripted ([.report] ++ [.finish]) = some returnedBoth :=
    (Option.some_get _).symm
  obtain ⟨verdicts, settles, -⟩ :=
    (outcome_of_start scripted {} 0 [flaky, hopeless] rfl (by decide)).1 failover [.report] settledBoth
      returnedBoth settled (by decide +kernel) (Option.isNone_iff_eq_none.mp (by decide +kernel)) returned
  exact ⟨settled, returned, by decide +kernel, verdicts, settles⟩

end Chronicle

end BatchSync
