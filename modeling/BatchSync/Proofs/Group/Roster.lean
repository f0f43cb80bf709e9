import BatchSync.Proofs.Group.Course
import BatchSync.Proofs.Group.Places

/-!
# Where the tasks of a group are

A task waits in the queue, or a driver has it in hand, or it is settled, with a verdict. As long as the
group is not stopped, every task is in one of these places, and in one only (`Group.Roster`): a
permutation that no step breaks, since a step moves one task at most.

What is known of a task is known of its attempts. All but the last one have failed in a way that is tried
again, and there are as many of them as its job says (`Group.Tried`); the last one of a settled task has
come to what the verdict says, and there was no reason for another (`Group.Verdict`).
-/

namespace BatchSync

variable {ρ ω : Type}

/-! ## What attempts have come to -/

namespace Group

/-- An attempt has failed with a failure. -/
def Failed (g : Group ρ ω) (a : Nat) (f : Failure) : Prop :=
  ∃ t, g.attempts[a]? = some t ∧ t.status.state = .failed ∧ t.status.failure = some f

/-- An attempt has succeeded. -/
def Succeeded (g : Group ρ ω) (a : Nat) : Prop :=
  ∃ t, g.attempts[a]? = some t ∧ t.status.state = .succeeded

/-- An attempt has come to a result. -/
def CameTo (g : Group ρ ω) (a : Nat) : Except Failure Unit → Prop
  | .ok () => g.Succeeded a
  | .error f => g.Failed a f

/-- An attempt has failed in a way that is tried again. -/
def Retried (g : Group ρ ω) (a : Nat) : Prop :=
  ∃ f, g.Failed a f ∧ g.policy.isRetryable f.kind = true

/-- The attempts of a task: some number of them that have failed in a way that is tried again, and then
the rest. -/
def Tried (g : Group ρ ω) (k failed : Nat) (rest : List Nat) : Prop :=
  ∃ past, g.places k = past ++ rest ∧ past.length = failed ∧ ∀ a ∈ past, g.Retried a

/-- A task is settled: its last attempt has come to a result, and there is no reason for another. -/
def Verdict (g : Group ρ ω) (k : Nat) (r : Except Failure Unit) : Prop :=
  ∃ failed a, g.Tried k failed [a] ∧ g.CameTo a r ∧ failed < g.policy.times ∧
    ∀ f, r = .error f → g.policy.isRetryable f.kind = false ∨ failed + 1 = g.policy.times

/-- What attempts have come to is for good. -/
structure Keeps (g g' : Group ρ ω) : Prop where
  policy : g'.policy = g.policy
  failed : ∀ {a f}, g.Failed a f → g'.Failed a f
  succeeded : ∀ {a}, g.Succeeded a → g'.Succeeded a

section Keeps

variable {g g' : Group ρ ω}

theorem Keeps.cameTo (h : g.Keeps g') {a : Nat} {r : Except Failure Unit} (came : g.CameTo a r) :
    g'.CameTo a r := by
  cases r with
  | ok => exact h.succeeded came
  | error f => exact h.failed came

theorem Keeps.tried (h : g.Keeps g') {k failed : Nat} {rest : List Nat}
    (same : g'.places k = g.places k) (tried : g.Tried k failed rest) : g'.Tried k failed rest := by
  obtain ⟨past, whole, count, retried⟩ := tried
  refine ⟨past, same.trans whole, count, fun a ha => ?_⟩
  obtain ⟨f, hf, again⟩ := retried a ha
  exact ⟨f, h.failed hf, by rw [h.policy]; exact again⟩

theorem Keeps.verdict (h : g.Keeps g') {k : Nat} {r : Except Failure Unit}
    (same : g'.places k = g.places k) (verdict : g.Verdict k r) : g'.Verdict k r := by
  obtain ⟨failed, a, tried, came, lt, last⟩ := verdict
  exact ⟨failed, a, h.tried same tried, h.cameTo came, by rw [h.policy]; exact lt,
    by rw [h.policy]; exact last⟩

theorem Steps.policy_eq {p : GroupPlugins ρ ω} {m : GroupMove} {hs : List Happening}
    (h : g.Steps p m hs g') : g'.policy = g.policy := by
  cases h with
  | report | finish => exact policy_enforce _ _
  | _ => rfl

theorem Steps.keeps {p : GroupPlugins ρ ω} {m : GroupMove} {hs : List Happening}
    (h : g.Steps p m hs g') (holds : g.Holds) : g.Keeps g' := by
  have next : ∀ {a : Nat} {t : Attempt ρ ω}, g.attempts[a]? = some t →
      ∃ t', g'.attempts[a]? = some t' ∧ t.status.Grows t'.status := by
    intro a t found
    obtain ⟨u', hu', moves⟩ := h.trial_next holds (trial?_of_attempt found)
    exact ⟨u'.attempt, (trial?_eq_some_iff.mp hu').1, moves.grows⟩
  refine ⟨h.policy_eq, ?_, ?_⟩
  · rintro a f ⟨t, found, state, failure⟩
    obtain ⟨t', found', grows⟩ := next found
    have fin : t.status.isFinished = true := by unfold TaskStatus.isFinished; rw [state]; rfl
    exact ⟨t', found', (grows.state fin).trans state, grows.failure f failure⟩
  · rintro a ⟨t, found, state⟩
    obtain ⟨t', found', grows⟩ := next found
    have fin : t.status.isFinished = true := by unfold TaskStatus.isFinished; rw [state]; rfl
    exact ⟨t', found', (grows.state fin).trans state⟩

end Keeps

end Group

/-! ## Tasks in the hands of drivers -/

namespace DriverPhase

/-- What a driver works at. -/
def job? : DriverPhase ρ ω → Option (Job ρ ω)
  | .idle => none
  | .exited => none
  | .entering j => some j
  | .makingReader j _ => some j
  | .makingWriter j _ _ => some j
  | .registering j _ => some j
  | .watching j _ => some j
  | .sleeping j _ _ => some j
  | .stamping j _ => some j
  | .reporting j _ => some j
  | .hanging j _ _ => some j
  | .judging j _ => some j
  | .consulting j _ => some j
  | .stopping j _ _ => some j
  | .killing j _ => some j
  | .leaving j _ => some j
  | .joining j _ _ => some j
  | .concluding j _ => some j
  | .removing j _ _ => some j
  | .settling j _ _ => some j
  | .failing j _ _ _ => some j
  | .sealing j _ => some j
  | .deciding j _ => some j
  | .resting j _ => some j

/-- The task that a driver has in hand. -/
def task? (phase : DriverPhase ρ ω) : Option Nat := phase.job?.map fun j => j.spec.task

/-- The attempts of a task but for those that were followed by another, by the phase of the driver that
has it in hand. -/
def Rest (g : Group ρ ω) (rest : List Nat) (phase : DriverPhase ρ ω) : Prop :=
  match phase with
  | .entering _ => rest = []
  | .resting _ _ => rest = []
  | .deciding _ r => ∃ a, rest = [a] ∧ g.CameTo a r
  | phase => ∃ a, rest = [a] ∧ phase.attempt? = some a

/-- What a driver knows of the attempts of the task that it has in hand. -/
def Accounts (g : Group ρ ω) (phase : DriverPhase ρ ω) (j : Job ρ ω) : Prop :=
  j.failed < g.policy.times ∧ ∃ rest, g.Tried j.spec.task j.failed rest ∧ phase.Rest g rest

variable {g g' : Group ρ ω} {phase phase' : DriverPhase ρ ω} {j : Job ρ ω}

theorem job?_of_attempt? {a : Nat} (ha : phase.attempt? = some a) : ∃ j, phase.job? = some j := by
  cases phase with
  | idle | exited => cases ha
  | _ => exact ⟨_, rfl⟩

theorem rest_of_attempt? {a : Nat} (ha : phase.attempt? = some a) {rest : List Nat} :
    phase.Rest g rest ↔ rest = [a] := by
  have only : (∃ b, rest = [b] ∧ phase.attempt? = some b) ↔ rest = [a] := by
    constructor
    · rintro ⟨b, rfl, hb⟩
      cases ha.symm.trans hb
      rfl
    · exact fun h => ⟨a, h, ha⟩
  cases phase with
  | idle | entering | deciding | resting | exited => cases ha
  | _ => exact only

theorem Rest.mono (keeps : g.Keeps g') {rest : List Nat} (h : phase.Rest g rest) :
    phase.Rest g' rest := by
  cases phase with
  | deciding j r =>
    obtain ⟨a, rfl, came⟩ := h
    exact ⟨a, rfl, keeps.cameTo came⟩
  | _ => exact h

theorem Accounts.mono (keeps : g.Keeps g') (same : g'.places j.spec.task = g.places j.spec.task)
    (h : phase.Accounts g j) : phase.Accounts g' j := by
  obtain ⟨lt, rest, tried, hr⟩ := h
  exact ⟨by rw [keeps.policy]; exact lt, rest, keeps.tried same tried, hr.mono keeps⟩

/-- A driver stays with its job while it tends an attempt. -/
theorem Tends.job_eq {t t' : Attempt ρ ω} {es : List AttemptEvent} (h : phase.Tends g t es t' phase')
    (hj : phase.job? = some j) :
    ∃ j', phase'.job? = some j' ∧ j'.spec = j.spec ∧ j'.failed = j.failed := by
  cases h <;> cases hj <;> exact ⟨_, rfl, rfl, rfl⟩

/-- A result to decide about is what the attempt has come to, unless the group was stopped. -/
theorem Tends.cameTo {t t' : Attempt ρ ω} {es : List AttemptEvent} {r : Except Failure Unit}
    (h : phase.Tends g t es t' (.deciding j r)) (stands : phase.Stands none t) {a : Nat}
    (found : g'.attempts[a]? = some t') : g'.CameTo a r := by
  cases h with
  | failed =>
    obtain ⟨e, rfl, ⟨-, stopped⟩ | failed⟩ := stands
    · cases stopped
    · exact ⟨_, found, failed⟩
  | sealed => exact ⟨_, found, stands.state⟩

end DriverPhase

/-! ## The roster -/

namespace Group

/-- The failure that a verdict adds to those of the group. -/
def failureOf? (v : Nat × Except Failure Unit) : Option Failure :=
  match v.2 with
  | .ok () => none
  | .error f => some (.taskFailed v.1 f)

/-- Where the tasks of a group are: every one of them waits, or is in hand, or is settled. -/
structure Roster (order : List Nat) (g : Group ρ ω) (settled : List (Nat × Except Failure Unit)) :
    Prop where
  whole : (g.queue.map TaskSpec.task ++
    (g.drivers.filterMap DriverPhase.task? ++ settled.map (·.1))).Perm order
  unknown : ∀ {k : Nat}, k ∉ order → g.places k = []
  waiting : ∀ {spec : TaskSpec ρ ω}, spec ∈ g.queue → g.places spec.task = []
  inHand : ∀ {phase : DriverPhase ρ ω} {j : Job ρ ω}, phase ∈ g.drivers → phase.job? = some j →
    phase.Accounts g j
  closed : ∀ {k : Nat} {r : Except Failure Unit}, (k, r) ∈ settled → g.Verdict k r
  failures : g.failures = settled.filterMap failureOf?
  exits : .exited ∈ g.drivers → g.queue = []
  tries : 0 < g.policy.times

section Roster

variable {g g' : Group ρ ω} {order : List Nat} {settled settled' : List (Nat × Except Failure Unit)}

/-- A roster stays right if nothing but what attempts do changes. -/
theorem Roster.of_eq (h : g.Roster order settled) (keeps : g.Keeps g') (queue : g'.queue = g.queue)
    (drivers : g'.drivers = g.drivers) (failures : g'.failures = g.failures)
    (tasks : g'.tasks = g.tasks) : g'.Roster order settled := by
  have places : ∀ k, g'.places k = g.places k := fun k => by unfold Group.places; rw [tasks]
  refine ⟨by rw [queue, drivers]; exact h.whole, fun hk => (places _).trans (h.unknown hk), ?_, ?_, ?_,
    failures.trans h.failures, ?_, by rw [keeps.policy]; exact h.tries⟩
  · intro spec hs
    rw [places]
    exact h.waiting (queue ▸ hs)
  · intro phase j hp hj
    exact (h.inHand (drivers ▸ hp) hj).mono keeps (places _)
  · exact fun hv => keeps.verdict (places _) (h.closed hv)
  · rw [queue, drivers]
    exact h.exits

/-- One driver among the others, before and after it moves. -/
theorem drivers_split {d : Nat} {phase : DriverPhase ρ ω} (at_ : g.drivers[d]? = some phase) :
    ∃ others, g.drivers.Perm (phase :: others) ∧
      ∀ phase', (g.drivers.set d phase').Perm (phase' :: others) := by
  obtain ⟨lt, rfl⟩ := List.getElem?_eq_some_iff.mp at_
  exact ⟨g.drivers.eraseIdx d, (List.getElem_cons_eraseIdx_perm lt).symm,
    List.set_perm_cons_eraseIdx lt⟩

theorem filterMap_task?_perm {l : List (DriverPhase ρ ω)} {phase : DriverPhase ρ ω}
    {others : List (DriverPhase ρ ω)} (h : l.Perm (phase :: others)) :
    (l.filterMap DriverPhase.task?).Perm
      (phase.task?.toList ++ others.filterMap DriverPhase.task?) := by
  refine (h.filterMap _).trans (.of_eq ?_)
  rw [List.filterMap_cons]
  cases phase.task? <;> rfl

theorem perm_regroup {q q' x x' o s n : List Nat} (h : (q' ++ (x' ++ n)).Perm (q ++ x)) :
    (q' ++ ((x' ++ o) ++ (s ++ n))).Perm (q ++ ((x ++ o) ++ s)) := by
  rw [List.perm_iff_count] at h ⊢
  intro k
  have := h k
  simp only [List.count_append] at this ⊢
  omega

/-- **A driver moves.** It may take tasks from the queue and settle some, and changes the places of no
other task than its own. -/
theorem Roster.drive (h : g.Roster order settled) (nodup : order.Nodup) {d : Nat}
    {phase phase' : DriverPhase ρ ω} {new : List (Nat × Except Failure Unit)}
    (at_ : g.drivers[d]? = some phase) (keeps : g.Keeps g')
    (drivers : g'.drivers = g.drivers.set d phase')
    (whole : (g'.queue.map TaskSpec.task ++ (phase'.task?.toList ++ new.map (·.1))).Perm
      (g.queue.map TaskSpec.task ++ phase.task?.toList))
    (queue : g'.queue ⊆ g.queue) (same : ∀ k, phase.task? ≠ some k → g'.places k = g.places k)
    (accounts : ∀ j, phase'.job? = some j → phase'.Accounts g' j)
    (verdicts : ∀ k r, (k, r) ∈ new → g'.Verdict k r)
    (failures : g'.failures = g.failures ++ new.filterMap failureOf?)
    (exits : phase' = .exited → g'.queue = []) : g'.Roster order (settled ++ new) := by
  obtain ⟨others, before, after⟩ := drivers_split at_
  have after := drivers ▸ after phase'
  have tasks := filterMap_task?_perm before
  have whole' : (g.queue.map TaskSpec.task ++ ((phase.task?.toList ++
      others.filterMap DriverPhase.task?) ++ settled.map (·.1))).Perm order :=
    (List.Perm.append_left _ (tasks.symm.append_right _)).trans h.whole
  -- no other task is that of the driver
  obtain ⟨-, inner, apart⟩ := List.nodup_append.mp (whole'.nodup_iff.mpr nodup)
  obtain ⟨inHand, -, apart'⟩ := List.nodup_append.mp inner
  obtain ⟨-, -, apart''⟩ := List.nodup_append.mp inHand
  have mine : ∀ {k}, phase.task? = some k →
      k ∈ phase.task?.toList ++ others.filterMap DriverPhase.task? :=
    fun hk => List.mem_append_left _ (Option.mem_toList.mpr hk)
  have queued : ∀ {spec}, spec ∈ g.queue → g'.places spec.task = g.places spec.task :=
    fun hs => same _ fun hk => apart _ (List.mem_map_of_mem hs) _
      (List.mem_append_left _ (mine hk)) rfl
  have settled_ : ∀ {k r}, (k, r) ∈ settled → g'.places k = g.places k :=
    fun hv => same _ fun hk => apart' _ (mine hk) _ (List.mem_map.mpr ⟨_, hv, rfl⟩) rfl
  have unknown : ∀ {k}, k ∉ order → g'.places k = g.places k :=
    fun hk => same _ fun hp => hk (whole'.mem_iff.mp
      (List.mem_append_right _ (List.mem_append_left _ (mine hp))))
  refine ⟨?_, fun hk => (unknown hk).trans (h.unknown hk),
    fun hs => (queued (queue hs)).trans (h.waiting (queue hs)), ?_, ?_, ?_, fun he => ?_,
    by rw [keeps.policy]; exact h.tries⟩
  · rw [List.map_append]
    refine .trans (List.Perm.append_left _ ((filterMap_task?_perm after).append_right _)) ?_
    exact (perm_regroup whole).trans whole'
  · intro phase₁ j hp hj
    rcases List.mem_cons.mp (after.mem_iff.mp hp) with rfl | ho
    · exact accounts j hj
    · have other : g'.places j.spec.task = g.places j.spec.task := by
        refine same _ fun hk => apart'' _ (Option.mem_toList.mpr hk) _ ?_ rfl
        exact List.mem_filterMap.mpr ⟨phase₁, ho, by unfold DriverPhase.task?; rw [hj]; rfl⟩
      exact (h.inHand (before.mem_iff.mpr (List.mem_cons_of_mem _ ho)) hj).mono keeps other
  · intro k r hv
    rcases List.mem_append.mp hv with old | new_
    · exact keeps.verdict (settled_ old) (h.closed old)
    · exact verdicts k r new_
  · rw [failures, h.failures, List.filterMap_append]
  · rcases List.mem_cons.mp (after.mem_iff.mp he) with rfl | ho
    · exact exits rfl
    · have none_ := h.exits (before.mem_iff.mpr (List.mem_cons_of_mem _ ho))
      rw [none_] at queue
      exact List.subset_nil.mp queue

theorem triesAgain_iff {j : Job ρ ω} {f : Failure} :
    g.triesAgain j f = true ↔ g.policy.isRetryable f.kind = true ∧ j.failed + 1 < g.policy.times := by
  unfold triesAgain
  rw [Bool.and_eq_true, decide_eq_true_iff]

/-- A driver that works at a task keeps its task when it goes on with it. -/
theorem Roster.goOn (h : g.Roster order settled) (nodup : order.Nodup) {d : Nat}
    {phase phase' : DriverPhase ρ ω} {j j' : Job ρ ω} (at_ : g.drivers[d]? = some phase)
    (hj : phase.job? = some j) (hj' : phase'.job? = some j') (spec : j'.spec = j.spec)
    (keeps : g.Keeps g') (drivers : g'.drivers = g.drivers.set d phase') (queue : g'.queue = g.queue)
    (failures : g'.failures = g.failures)
    (same : ∀ k, phase.task? ≠ some k → g'.places k = g.places k)
    (accounts : phase'.Accounts g' j') : ∃ new, g'.Roster order (settled ++ new) := by
  have task_ : phase'.task? = phase.task? := by
    unfold DriverPhase.task?
    rw [hj, hj', Option.map_some, Option.map_some, spec]
  refine ⟨[], h.drive nodup at_ keeps drivers ?_ (queue ▸ List.Subset.refl _) same ?_ ?_ ?_ ?_⟩
  · rw [queue, task_]
    exact .of_eq (by simp)
  · intro j₁ hj₁
    cases hj'.symm.trans hj₁
    exact accounts
  · exact fun k r hv => nomatch hv
  · rw [failures]
    exact (List.append_nil _).symm
  · rintro rfl
    cases hj'

/-- A driver that has decided about its task takes up another one. -/
theorem Roster.settle (h : g.Roster order settled) (nodup : order.Nodup) {d : Nat} {j : Job ρ ω}
    {r : Except Failure Unit} (at_ : g.drivers[d]? = some (.deciding j r)) (keeps : g.Keeps g')
    (drivers : g'.drivers = g.drivers.set d .idle) (queue : g'.queue = g.queue)
    (failures : g'.failures = g.failures ++ (failureOf? (j.spec.task, r)).toList)
    (tasks : g'.tasks = g.tasks)
    (last : ∀ f, r = .error f → g.policy.isRetryable f.kind = false ∨ g.policy.times ≤ j.failed + 1) :
    ∃ new, g'.Roster order (settled ++ new) := by
  have places : ∀ k, g'.places k = g.places k := fun k => by unfold Group.places; rw [tasks]
  obtain ⟨lt, rest, tried, a, rfl, came⟩ := h.inHand (List.mem_of_getElem? at_) rfl
  have verdict : g.Verdict j.spec.task r :=
    ⟨j.failed, a, tried, came, lt, fun f hf => (last f hf).imp id fun le => Nat.le_antisymm lt le⟩
  refine ⟨[(j.spec.task, r)], h.drive nodup at_ keeps drivers ?_ (queue ▸ List.Subset.refl _)
    (fun k _ => places k) (fun j hj => nomatch hj) ?_ ?_ nofun⟩
  · rw [queue]
    exact .of_eq (by simp [DriverPhase.task?, DriverPhase.job?])
  · intro k r' hv
    cases List.mem_singleton.mp hv
    exact keeps.verdict (places _) verdict
  · rw [failures]
    rfl

/-- Only drivers move tasks. -/
theorem Roster.aside (h : g.Roster order settled) (holds : g.Holds) {p : GroupPlugins ρ ω}
    {m : GroupMove} {hs : List Happening} (steps : g.Steps p m hs g') (aside : ∀ d, m ≠ .driver d) :
    g'.Roster order settled := by
  have keeps := steps.keeps holds
  cases steps with
  | reader logged now journal found => exact h.of_eq keeps rfl rfl rfl (tasks_set found rfl)
  | writer logged now journal found => exact h.of_eq keeps rfl rfl rfl (tasks_set found rfl)
  | report | finish =>
    exact h.of_eq keeps (queue_enforce _ _) (drivers_enforce _ _) (failures_enforce _ _)
      (tasks_enforce _ _)
  | tick | pass => exact h.of_eq keeps rfl rfl rfl rfl
  | tend | take | exit | enter | enterStopped | succeed | again | giveUp | rest =>
    exact absurd rfl (aside _)

/-- A driver takes a task that was not tried before. -/
theorem Roster.take (h : g.Roster order settled) (nodup : order.Nodup) {d : Nat}
    {spec : TaskSpec ρ ω} {rest : List (TaskSpec ρ ω)} (at_ : g.drivers[d]? = some .idle)
    (queue : g.queue = spec :: rest) (keeps : g.Keeps g')
    (drivers : g'.drivers = g.drivers.set d (.entering ⟨spec, 0, 0, 0⟩)) (queue' : g'.queue = rest)
    (tasks : g'.tasks = g.tasks) (failures : g'.failures = g.failures) :
    g'.Roster order (settled ++ []) := by
  have places : ∀ k, g'.places k = g.places k := fun k => congrArg (placesIn k) tasks
  have first : g'.places spec.task = [] :=
    (places _).trans (h.waiting (by rw [queue]; exact List.mem_cons_self))
  refine h.drive nodup at_ keeps drivers ?_ ?_ (fun k _ => places k) ?_ nofun ?_ nofun
  · rw [queue, queue']
    show (rest.map TaskSpec.task ++ [spec.task]).Perm (spec.task :: rest.map TaskSpec.task ++ [])
    rw [List.append_nil]
    exact List.perm_append_singleton _ _
  · rw [queue, queue']
    exact List.subset_cons_self _ _
  · rintro j ⟨⟩
    exact ⟨by rw [keeps.policy]; exact h.tries, [], ⟨[], first, rfl, nofun⟩, rfl⟩
  · rw [failures]
    exact (List.append_nil _).symm

theorem Tried.begun {k failed : Nat} (tried : g.Tried k failed []) (keeps : g.Keeps g') {a : Nat}
    (places : g'.places k = g.places k ++ [a]) : g'.Tried k failed [a] := by
  obtain ⟨past, whole, count, retried⟩ := tried
  refine ⟨past, by rw [places, whole, List.append_nil], count, fun b hb => ?_⟩
  obtain ⟨f, hf, again⟩ := retried b hb
  exact ⟨f, keeps.failed hf, by rw [keeps.policy]; exact again⟩

/-- One more attempt has failed in a way that is tried again. -/
theorem Tried.again {k failed a : Nat} (tried : g.Tried k failed [a]) (retried : g.Retried a) :
    g.Tried k (failed + 1) [] := by
  obtain ⟨past, whole, count, before⟩ := tried
  refine ⟨past ++ [a], by rw [whole, List.append_nil], by rw [List.length_append, count]; rfl, ?_⟩
  intro b hb
  rcases List.mem_append.mp hb with hb | hb
  · exact before b hb
  · cases List.mem_singleton.mp hb
    exact retried

/-- **Where the tasks are, step by step.** Unless the group was stopped, every task stays in one place,
and the settled tasks stay settled. -/
theorem Roster.steps (h : g.Roster order settled) (nodup : order.Nodup) (holds : g.Holds)
    (standing : ∀ {a : Nat} {u : Trial ρ ω}, g.trial? a = some u → u.Standing g.fatal)
    {p : GroupPlugins ρ ω} {m : GroupMove} {hs : List Happening} (steps : g.Steps p m hs g')
    (calm : g.fatal = none) : ∃ new, g'.Roster order (settled ++ new) := by
  have keeps := steps.keeps holds
  have aside : (∀ d, m ≠ .driver d) → ∃ new, g'.Roster order (settled ++ new) :=
    fun aside => ⟨[], by rw [List.append_nil]; exact h.aside holds steps aside⟩
  cases steps with
  | reader | writer | report | tick | pass | finish => exact aside nofun
  | @tend d a phase phase' t t' es monitor journal at_ ha found ht =>
    obtain ⟨j, hj⟩ := DriverPhase.job?_of_attempt? ha
    obtain ⟨j', hj', spec, failed⟩ := ht.job_eq hj
    obtain ⟨lt, rest, tried, hr⟩ := h.inHand (List.mem_of_getElem? at_) hj
    cases (DriverPhase.rest_of_attempt? ha).mp hr
    have places : ∀ k, ((g.tended a t' monitor journal).drive d phase').places k = g.places k :=
      fun k => congrArg (placesIn k) (tasks_set found ht.task_eq)
    refine h.goOn nodup at_ hj hj' spec keeps rfl rfl rfl (fun k _ => places k)
      ⟨failed ▸ lt, [a], keeps.tried (places _) (by rw [spec, failed]; exact tried), ?_⟩
    rcases ht.attempt?_or ha with ha' | ⟨j₁, r, rfl, -⟩
    · exact (DriverPhase.rest_of_attempt? ha').mpr rfl
    · have stands := (standing (holds.trial?_eq at_ ha found)).held rfl
      rw [calm] at stands
      exact ⟨a, rfl, ht.cameTo stands (List.getElem?_set_self (List.getElem?_eq_some_iff.mp found).1)⟩
  | @take d spec rest at_ going queue =>
    exact ⟨[], h.take nodup at_ queue keeps rfl rfl rfl rfl⟩
  | @exit d at_ ended =>
    have none_ : g.queue = [] := ended.resolve_left fun stopped => by
      rw [calm] at stopped
      cases stopped
    exact ⟨[], h.drive nodup at_ keeps rfl (.refl _) (List.Subset.refl _) (fun _ _ => rfl) nofun nofun
      (List.append_nil _).symm fun _ => none_⟩
  | @enter d j at_ going =>
    obtain ⟨lt, rest, tried, rfl⟩ := h.inHand (List.mem_of_getElem? at_) rfl
    refine h.goOn nodup at_ rfl rfl rfl keeps rfl rfl rfl (fun k other => ?_)
      ⟨lt, [g.attempts.length], tried.begun keeps ?_, _, rfl, rfl⟩
    · refine (places_begun g j.spec k).trans ?_
      rw [if_neg fun e => other (congrArg some e), List.append_nil]
    · exact (places_begun g j.spec _).trans (by rw [if_pos rfl])
  | enterStopped at_ fatal => cases fatal.symm.trans calm
  | succeed at_ => exact h.settle nodup at_ keeps rfl rfl (List.append_nil _).symm rfl nofun
  | @again d j f ends at_ tries =>
    obtain ⟨lt, rest, tried, a, rfl, came⟩ := h.inHand (List.mem_of_getElem? at_) rfl
    obtain ⟨again, more⟩ := triesAgain_iff.mp tries
    have next : (DriverPhase.resting { j with failed := j.failed + 1 } ends).job? =
        some { j with failed := j.failed + 1 } := rfl
    exact h.goOn nodup at_ rfl next rfl keeps rfl rfl rfl (fun _ _ => rfl)
      ⟨more, [], keeps.tried rfl (tried.again ⟨f, came, again⟩), rfl⟩
  | @giveUp d j f at_ tries =>
    refine h.settle nodup at_ keeps rfl rfl rfl rfl ?_
    rintro _ ⟨⟩
    cases again : g.policy.isRetryable f.kind with
    | false => exact .inl rfl
    | true =>
      refine .inr (Nat.le_of_not_lt fun more => ?_)
      cases tries.symm.trans (triesAgain_iff.mpr ⟨again, more⟩)
  | @rest d j ends at_ due =>
    obtain ⟨lt, rest, tried, hr⟩ := h.inHand (List.mem_of_getElem? at_) rfl
    exact h.goOn nodup at_ rfl rfl rfl keeps rfl rfl rfl (fun _ _ => rfl)
      ⟨lt, rest, keeps.tried rfl tried, hr⟩

end Roster

/-- At the start no task is in hand. -/
theorem filterMap_task?_start (config : CoreConfig) (now : Int) (tasks : List (TaskSpec ρ ω)) :
    (start config now tasks).drivers.filterMap DriverPhase.task? = [] := by
  rw [List.filterMap_eq_nil_iff]
  intro phase hp
  rw [List.eq_of_mem_replicate hp]
  rfl

theorem roster_start (config : CoreConfig) (now : Int) (tasks : List (TaskSpec ρ ω)) :
    (start config now tasks).Roster (tasks.map TaskSpec.task) [] := by
  have idle : ∀ {phase}, phase ∈ (start config now tasks).drivers → phase = .idle :=
    fun hp => List.eq_of_mem_replicate hp
  refine ⟨?_, fun _ => rfl, fun _ => rfl, fun hp hj => ?_, nofun, rfl, fun he => (nomatch idle he), ?_⟩
  · rw [filterMap_task?_start]
    exact .of_eq (List.append_nil _)
  · rw [idle hp] at hj
    cases hj
  · show 0 < min (_ + 1) maxAttempts
    exact Nat.lt_min.mpr ⟨Nat.succ_pos _, by decide⟩

end Group

/-! ## Runs -/

namespace Chronicle

variable {p : GroupPlugins ρ ω} {c : Chronicle ρ ω} {config : CoreConfig} {now : Int}
  {tasks : List (TaskSpec ρ ω)} {moves : List GroupMove}

/-- As long as its group was not stopped, every task waits, or is in hand, or is settled. -/
theorem roster_of_run (distinct : (tasks.map TaskSpec.task).Nodup)
    (h : (start config now tasks).run p moves = some c) (calm : c.group.fatal = none) :
    ∃ settled, c.group.Roster (tasks.map TaskSpec.task) settled := by
  have kept := (run_invariant (p := p) (P := fun c => c.IsReached p ∧ (c.group.fatal = none →
    ∃ settled, c.group.Roster (tasks.map TaskSpec.task) settled)) ?_ (sound_start config now tasks)
    ⟨⟨config, now, tasks, [], rfl⟩, fun _ => ⟨[], Group.roster_start config now tasks⟩⟩ h).2
  · exact kept.2 calm
  · intro c c' m sound ⟨reached, before⟩ hm
    refine ⟨reached.step hm, fun calm => ?_⟩
    have steps := sound.steps hm
    have calm' := steps.fatal_eq_none calm
    obtain ⟨settled, roster⟩ := before calm'
    obtain ⟨new, next⟩ := roster.steps distinct sound.holds (fun hu => (reached.standing hu).1) steps
      calm'
    exact ⟨_, next⟩

end Chronicle

end BatchSync
