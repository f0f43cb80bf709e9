import BatchSync.Status.Changing
import BatchSync.Status.Failing

/-!
# The life of a status

A status is shared: the threads of a task, its driver and the monitor write to it, and they all may
finish it. Any number of calls are under way at a time; one that changes the state or fails the task
goes on step by step, and between any two steps others may act (`SharedStatus.step`).

1. `TaskStatus.Grows` is what nobody undoes: a finished state, and a captured failure. `grows_step` and
   `grows_run` carry it over every interleaving.
2. `StatusCall.Backed` is what a call under way relies on: it captures a failure before it makes the
   state that of a failed task. With it, a failed task has a failure at any time (`Sound.run`).
3. `Aloof` says of a call that fails a task which it finds finished that it does nothing any more.
-/

namespace BatchSync

/-! ## Statuses that grow -/

/-- A status that comes after another one: a finished state stays, and so does a captured failure. -/
structure TaskStatus.Grows (s s' : TaskStatus) : Prop where
  state : s.isFinished = true → s'.state = s.state
  failure : ∀ f, s.failure = some f → s'.failure = some f

namespace TaskStatus

variable {s s' s'' : TaskStatus}

theorem Grows.refl (s : TaskStatus) : s.Grows s := ⟨fun _ => rfl, fun _ hf => hf⟩

theorem Grows.isFinished (h : s.Grows s') (fin : s.isFinished = true) : s'.isFinished = true := by
  unfold TaskStatus.isFinished
  rw [h.state fin]
  exact fin

theorem Grows.isSome (h : s.Grows s') (some_ : s.failure.isSome = true) :
    s'.failure.isSome = true := by
  obtain ⟨f, hf⟩ := Option.isSome_iff_exists.mp some_
  rw [h.failure f hf]
  rfl

theorem Grows.trans (h : s.Grows s') (h' : s'.Grows s'') : s.Grows s'' where
  state := fun fin => (h'.state (h.isFinished fin)).trans (h.state fin)
  failure := fun f hf => h'.failure f (h.failure f hf)

theorem grows_capture (s : TaskStatus) (f : Failure) : s.Grows (s.capture f) where
  state := fun _ => rfl
  failure := fun e he => by rw [failure_capture, he]; rfl

/-- A failure is there once one was captured. -/
theorem isSome_capture (s : TaskStatus) (f : Failure) : (s.capture f).failure.isSome = true := by
  rw [failure_capture]
  cases s.failure <;> rfl

theorem grows_moveTo (s : TaskStatus) (state : TaskState) : s.Grows (s.moveTo state) where
  state := fun fin => by unfold moveTo; rw [if_pos fin]
  failure := fun e he => by unfold moveTo; split <;> exact he

theorem grows_settleFailed (s : TaskStatus) (n : Int) : s.Grows (s.settleFailed n) where
  state := fun fin => by unfold settleFailed; rw [if_pos fin]
  failure := fun e he => by unfold settleFailed; split <;> exact he

theorem failure_settleFailed (s : TaskStatus) (n : Int) : (s.settleFailed n).failure = s.failure := by
  unfold settleFailed; split <;> rfl

theorem failure_moveTo (s : TaskStatus) (state : TaskState) : (s.moveTo state).failure = s.failure := by
  unfold moveTo; split <;> rfl

/-- A task that is being failed is failed, unless it was finished before. -/
theorem state_settleFailed (s : TaskStatus) (n : Int) :
    (s.settleFailed n).state = if s.isFinished then s.state else .failed := by
  unfold settleFailed; split <;> rfl

theorem state_moveTo (s : TaskStatus) (state : TaskState) :
    (s.moveTo state).state = if s.isFinished then s.state else state := by
  unfold moveTo; split <;> rfl

end TaskStatus

theorem Failing.grows_step (f : Failing) (s : TaskStatus) : s.Grows (f.step s).1 := by
  cases f with
  | checking f n => unfold step; dsimp only; split <;> exact .refl s
  | capturing f n => exact s.grows_capture f
  | settling n => exact s.grows_settleFailed n
  | done => exact .refl s

/-! ## Changing the state among others -/

namespace Changing

variable {state : TaskState}

/-- A step leaves the status, or changes the state all at once. -/
theorem step_eq_or (c : Changing state) (s : TaskStatus) (misses : Bool) :
    (c.step s misses).1 = s ∨ (c.step s misses).1 = s.moveTo state := by
  cases c with
  | looking => exact .inl rfl
  | done changed => exact .inl rfl
  | exchanging seen going =>
    simp only [step]
    split
    · rename_i h
      right
      have : s.isFinished = false := by rw [TaskStatus.isFinished, h.1, going]
      simp [TaskStatus.moveTo, this]
    · exact .inl rfl

/-- Whatever others did to the status since it was looked at, the last step does what changing the state
at that moment does, and tells whether it was changed. -/
theorem moves_at_last {c : Changing state} {s : TaskStatus} {misses changed : Bool}
    (before : ∀ b, c ≠ .done b) (last : (c.step s misses).2 = .done changed) :
    (c.step s misses).1 = s.moveTo state ∧ changed = !s.isFinished := by
  have looked (h : (look s : Changing state) = .done changed) :
      s = s.moveTo state ∧ changed = !s.isFinished := by
    cases fin : s.isFinished with
    | true =>
      rw [look_of_isFinished fin] at h
      cases h
      exact ⟨(TaskStatus.moveTo_of_isFinished fin state).symm, rfl⟩
    | false =>
      rw [look_of_going fin] at h
      cases h
  cases c with
  | done b => exact absurd rfl (before b)
  | looking => exact looked last
  | exchanging seen going =>
    simp only [step] at last ⊢
    split at last
    · rename_i h
      have : s.isFinished = false := by rw [TaskStatus.isFinished, h.1, going]
      cases last
      rw [if_pos h]
      simp [TaskStatus.moveTo, this]
    · rename_i h
      rw [if_neg h]
      exact looked last

theorem grows_step (c : Changing state) (s : TaskStatus) (misses : Bool) :
    s.Grows (c.step s misses).1 := by
  rcases step_eq_or c s misses with h | h <;> rw [h]
  · exact .refl s
  · exact s.grows_moveTo state

end Changing

/-! ## Calls -/

/-- What a caller does to a status in one step. -/
inductive StatusAct where
  | capture (f : Failure)
  | stamp (timestamp : Int)
  | add (c : Counter) (amount : Nat)
  | put (c : Counter) (value : Nat)
  | note (key text : String)
  | sample (d : DirtySample) (maxSamples : Nat)

/-- A status after an act. -/
def StatusAct.on (s : TaskStatus) : StatusAct → TaskStatus
  | .capture f => s.capture f
  | .stamp timestamp => s.stamp timestamp
  | .add c amount => s.add c amount
  | .put c value => s.put c value
  | .note key text => s.note key text
  | .sample d maxSamples => s.sample d maxSamples

/-- A call that takes several steps. -/
inductive StatusCall where
  /-- Changes the state. Nobody changes it to that of a failed task but by failing the task. -/
  | changing {state : TaskState} (proper : state ≠ .failed) (c : Changing state)
  | failing (f : Failing)

namespace StatusCall

/-- The next step of a call. -/
def step (s : TaskStatus) (misses : Bool) : StatusCall → TaskStatus × StatusCall
  | .changing proper c => ((c.step s misses).1, .changing proper (c.step s misses).2)
  | .failing f => ((f.step s).1, .failing (f.step s).2)

/-- A call that is about to make the state that of a failed task relies on a captured failure. -/
def Backed (failure : Option Failure) : StatusCall → Prop
  | .failing (.settling _) => failure.isSome = true
  | _ => True

/-- A call that fails a task which is finished before it looks: it does not look yet, or it is over. -/
def Aloof : StatusCall → Prop
  | .failing (.checking _ _) => True
  | .failing .done => True
  | _ => False

variable {s s' : TaskStatus} {c : StatusCall}

theorem grows_step (c : StatusCall) (s : TaskStatus) (misses : Bool) :
    s.Grows (c.step s misses).1 := by
  cases c with
  | changing proper c => exact c.grows_step s misses
  | failing f => exact f.grows_step s

theorem Backed.mono (h : c.Backed s.failure) (grows : s.Grows s') : c.Backed s'.failure := by
  cases c with
  | changing => trivial
  | failing f =>
    cases f with
    | settling => exact grows.isSome h
    | checking | capturing | done => trivial

/-- A step relies on a failure only after it was captured. -/
theorem Backed.step (h : c.Backed s.failure) (misses : Bool) :
    (c.step s misses).2.Backed (c.step s misses).1.failure := by
  cases c with
  | changing => trivial
  | failing f =>
    cases f with
    | checking f n =>
      unfold StatusCall.step Failing.step
      dsimp only
      split <;> trivial
    | capturing f n => exact s.isSome_capture f
    | settling | done => trivial

/-- A step fails a task only after its failure was captured. -/
theorem Backed.captured (h : c.Backed s.failure)
    (captured : s.state = .failed → s.failure.isSome = true) (misses : Bool)
    (failed : (c.step s misses).1.state = .failed) : (c.step s misses).1.failure.isSome = true := by
  have grows := c.grows_step s misses
  by_cases already : s.state = .failed
  · exact grows.isSome (captured already)
  · cases c with
    | changing proper c =>
      have failed : (c.step s misses).1.state = .failed := failed
      rcases c.step_eq_or s misses with e | e <;> rw [e] at failed
      · exact absurd failed already
      · rw [TaskStatus.state_moveTo] at failed
        split at failed
        · exact absurd failed already
        · exact absurd failed proper
    | failing f =>
      cases f with
      | settling n => exact grows.isSome h
      | capturing f n => exact absurd failed already
      | done => exact absurd failed already
      | checking f n =>
        unfold StatusCall.step Failing.step at failed
        dsimp only at failed
        split at failed <;> exact absurd failed already

/-- A call that finds its task finished does nothing, and is over. -/
theorem Aloof.step (h : c.Aloof) (fin : s.isFinished = true) (misses : Bool) :
    c.step s misses = (s, .failing .done) := by
  cases c with
  | changing => cases h
  | failing f =>
    cases f with
    | checking f n => simp [StatusCall.step, Failing.step, fin]
    | done => rfl
    | capturing | settling => cases h

end StatusCall

/-! ## A status under its callers -/

/-- A status with the calls that were begun, in the order in which they were. -/
structure SharedStatus where
  status : TaskStatus
  calls : List StatusCall

/-- What can happen to a shared status. -/
inductive StatusMove where
  /-- Someone does something in one step. -/
  | act (a : StatusAct)
  /-- Someone begins to change the state. -/
  | change (state : TaskState) (proper : state ≠ .failed)
  /-- Someone begins to fail the task. -/
  | fail (f : Failure) (timestamp : Int)
  /-- A call goes on. -/
  | go (i : Nat) (misses : Bool)

namespace SharedStatus

/-- A status that nobody has called yet. -/
def ofStatus (s : TaskStatus) : SharedStatus := ⟨s, []⟩

/-- What a move leads to. A call that was not begun does not go on. -/
def step (s : SharedStatus) : StatusMove → SharedStatus
  | .act a => { s with status := a.on s.status }
  | .change _ proper => { s with calls := s.calls ++ [.changing proper .looking] }
  | .fail f timestamp => { s with calls := s.calls ++ [.failing (.checking f timestamp)] }
  | .go i misses =>
    match s.calls[i]? with
    | none => s
    | some c => ⟨(c.step s.status misses).1, s.calls.set i (c.step s.status misses).2⟩

/-- What an interleaving leads to. -/
def run (s : SharedStatus) (moves : List StatusMove) : SharedStatus := moves.foldl step s

theorem step_go {s : SharedStatus} {i : Nat} {c : StatusCall} (found : s.calls[i]? = some c)
    (misses : Bool) : s.step (.go i misses) =
      ⟨(c.step s.status misses).1, s.calls.set i (c.step s.status misses).2⟩ := by
  simp only [step, found]

/-- All that a move can do. -/
inductive Steps (s : SharedStatus) : StatusMove → SharedStatus → Prop
  | act (a : StatusAct) : Steps s (.act a) { s with status := a.on s.status }
  | change {state : TaskState} (proper : state ≠ .failed) :
      Steps s (.change state proper) { s with calls := s.calls ++ [.changing proper .looking] }
  | fail (f : Failure) (timestamp : Int) :
      Steps s (.fail f timestamp) { s with calls := s.calls ++ [.failing (.checking f timestamp)] }
  | go {i : Nat} {c : StatusCall} (misses : Bool) (found : s.calls[i]? = some c) :
      Steps s (.go i misses) ⟨(c.step s.status misses).1, s.calls.set i (c.step s.status misses).2⟩
  | idle {m : StatusMove} : Steps s m s

theorem steps_step (s : SharedStatus) (m : StatusMove) : s.Steps m (s.step m) := by
  cases m with
  | act a => exact .act a
  | change state proper => exact .change proper
  | fail f timestamp => exact .fail f timestamp
  | go i misses =>
    simp only [step]
    split
    · exact .idle
    · rename_i c found
      exact .go misses found

/-- What every move keeps, a run keeps. -/
theorem run_invariant {P : SharedStatus → Prop}
    (keep : ∀ {s t : SharedStatus} {m : StatusMove}, P s → s.Steps m t → P t)
    (moves : List StatusMove) : ∀ {s : SharedStatus}, P s → P (s.run moves) := by
  induction moves with
  | nil => exact id
  | cons m rest ih => exact fun hs => ih (keep hs (steps_step _ m))

variable {s t : SharedStatus} {m : StatusMove}

theorem Steps.grows (h : s.Steps m t) : s.status.Grows t.status := by
  cases h with
  | act a =>
    cases a with
    | capture f => exact s.status.grows_capture f
    | sample d n =>
      show s.status.Grows (s.status.sample d n)
      unfold TaskStatus.sample
      split <;> exact ⟨fun _ => rfl, fun _ hf => hf⟩
    | stamp | add | put | note => exact ⟨fun _ => rfl, fun _ hf => hf⟩
  | go misses found => exact StatusCall.grows_step _ _ misses
  | change | fail | idle => exact .refl _

theorem grows_run (s : SharedStatus) (moves : List StatusMove) :
    s.status.Grows (s.run moves).status :=
  run_invariant (P := fun t => s.status.Grows t.status) (fun h hm => h.trans hm.grows) moves
    (.refl s.status)

/-- A failed task has captured a failure, and the calls under way make no other one. -/
structure Sound (s : SharedStatus) : Prop where
  captured : s.status.state = .failed → s.status.failure.isSome = true
  backed : ∀ c ∈ s.calls, c.Backed s.status.failure

theorem Sound.steps (h : s.Sound) (hm : s.Steps m t) : t.Sound := by
  have grows := hm.grows
  cases hm with
  | idle => exact h
  | act a =>
    refine ⟨fun failed => ?_, fun c hc => (h.backed c hc).mono grows⟩
    refine grows.isSome (h.captured ?_)
    cases a with
    | sample d n =>
      unfold StatusAct.on TaskStatus.sample at failed
      dsimp only at failed
      split at failed <;> exact failed
    | capture | stamp | add | put | note => exact failed
  | change proper =>
    refine ⟨h.captured, fun c hc => ?_⟩
    rcases List.mem_append.mp hc with old | new
    · exact h.backed c old
    · rw [List.mem_singleton.mp new]
      trivial
  | fail f timestamp =>
    refine ⟨h.captured, fun c hc => ?_⟩
    rcases List.mem_append.mp hc with old | new
    · exact h.backed c old
    · rw [List.mem_singleton.mp new]
      trivial
  | @go i c misses found =>
    have backed := h.backed c (List.mem_of_getElem? found)
    refine ⟨backed.captured h.captured misses, fun d hd => ?_⟩
    rcases List.mem_or_eq_of_mem_set hd with old | rfl
    · exact (h.backed d old).mono grows
    · exact backed.step misses

theorem sound_of_run {state : TaskState} (fresh : state ≠ .failed) (timestamp : Int)
    (moves : List StatusMove) : ((ofStatus (.ofState state timestamp)).run moves).Sound :=
  run_invariant Sound.steps moves ⟨fun failed => absurd failed fresh, nofun⟩

/-- A call that fails a task which is finished has not looked yet, or is over. -/
def IsAloof (s : SharedStatus) (i : Nat) : Prop :=
  s.status.isFinished = true ∧ ∃ c, s.calls[i]? = some c ∧ c.Aloof

theorem IsAloof.steps {i : Nat} (h : s.IsAloof i) (hm : s.Steps m t) : t.IsAloof i := by
  obtain ⟨fin, c, found, aloof⟩ := h
  refine ⟨hm.grows.isFinished fin, ?_⟩
  have lt := (List.getElem?_eq_some_iff.mp found).1
  cases hm with
  | idle | act => exact ⟨c, found, aloof⟩
  | change | fail => exact ⟨c, by rw [List.getElem?_append_left lt, found], aloof⟩
  | @go j d misses found' =>
    by_cases hij : j = i
    · subst hij
      obtain rfl : c = d := Option.some.inj (found.symm.trans found')
      refine ⟨_, List.getElem?_set_self lt, ?_⟩
      rw [aloof.step fin]
      trivial
    · exact ⟨c, by rw [List.getElem?_set_ne hij, found], aloof⟩

theorem IsAloof.status_go {i : Nat} (h : s.IsAloof i) (misses : Bool) :
    (s.step (.go i misses)).status = s.status := by
  obtain ⟨fin, c, found, aloof⟩ := h
  rw [step_go found, aloof.step fin]

/-- **A task ends once, and for one reason.** Whoever calls its status in whatever order, step by step: a
finished state is never left, the first failure captured is never replaced, a task that has failed has
captured a failure, and a call that fails a task does nothing to it, at no later time, if the task is
finished before the call looks. -/
theorem ends_once {state : TaskState} (fresh : state ≠ .failed) (timestamp : Int)
    (moves later : List StatusMove) :
    let s := (ofStatus (.ofState state timestamp)).run moves
    let t := s.run later
    (s.status.isFinished = true → t.status.state = s.status.state) ∧
      (∀ f, s.status.failure = some f → t.status.failure = some f) ∧
      (s.status.state = .failed → s.status.failure.isSome = true) ∧
      ∀ i f time, s.calls[i]? = some (.failing (.checking f time)) → s.status.isFinished = true →
        ∀ misses, (t.step (.go i misses)).status = t.status := by
  intro s t
  have grows : s.status.Grows t.status := grows_run s later
  refine ⟨grows.state, grows.failure, (sound_of_run fresh timestamp moves).captured, ?_⟩
  intro i f time found fin misses
  have aloof : t.IsAloof i :=
    run_invariant (P := fun u => u.IsAloof i) (fun h hm => h.steps hm) later
      ⟨fin, _, found, trivial⟩
  exact aloof.status_go misses

/-- One call fails the task while another one kills it, whose first exchange misses; a third call comes
too late. -/
def crossing : List StatusMove :=
  [.fail .channelClosed 20, .change .killed (by decide), .go 0 false, .go 1 false, .go 0 false,
    .go 1 true, .go 1 false, .fail .attemptAbandoned 30]

/-- The call that captured its failure first does not get to change the state, and the last one does
nothing. -/
theorem ends_once_crossing :
    TaskState.running ≠ .failed ∧
    let s := (ofStatus (.ofState .running 10)).run crossing
    let t := s.run [.go 2 false, .go 0 false]
    s.status.state = .killed ∧ t.status.state = .killed ∧ t.status.timestamp = 10 ∧
      t.status.failure = some .channelClosed ∧ (t.step (.go 2 false)).status = t.status := by
  have fresh : TaskState.running ≠ .failed := by decide
  have h := ends_once fresh 10 crossing [.go 2 false, .go 0 false]
  exact ⟨fresh, rfl, h.1 rfl, rfl, h.2.1 _ rfl, h.2.2.2 2 .attemptAbandoned 30 rfl rfl false⟩

end SharedStatus

end BatchSync
