import BatchSync.Proofs.Retry.TimedMoves

/-!
# Where attempts are

Every attempt that a pool has accepted is at one of its threads until it ends, and what is known of the
attempt agrees with that: it has not called the work before it is begun, and it has not ended while it
runs. The token of an attempt is cancelled before the retrying thread turns to the next one.

`TimedRun.Sound` states this, and `TimedRun.Sound.moves` has every move keep it. A move of the pool is
taken apart by what it says of an attempt: `Sound.answer`, `Sound.begun` and `Sound.endJob`.
-/

namespace BatchSync

variable {α : Type}

namespace TimedPhase

/-- How many attempts were submitted, as far as a phase tells. -/
def Submitted (n : Nat) : TimedPhase α → Prop
  | .submitting i => n = i
  | .reserving i => n = i
  | .awaiting i => n = i + 1
  | .cancelling i _ => n = i + 1
  | .judging i _ => n = i + 1
  | .returned _ => True

/-- The attempt that a phase is about. -/
def index? : TimedPhase α → Option Nat
  | .submitting i => some i
  | .reserving i => some i
  | .awaiting i => some i
  | .cancelling i _ => some i
  | .judging i _ => some i
  | .returned _ => none

end TimedPhase

namespace RetryPool

/-- A caller that got an answer looks for room no longer. -/
theorem Moves.submitted_of_answer {p p' : RetryPool (Option Nat)} {now : Nanos}
    {m : PoolMove (Option Nat)} {e : PoolEvent (Option Nat)} {job : Option Nat}
    (h : p.Moves now m p' e) (answer : e = .accepted job ∨ e = .rejected job) :
    p'.submitted = none := by
  cases h with
  | refuse _ away => exact away
  | hand _ away => exact away
  | spawn => rfl
  | turnAway => rfl
  | turn at_ turns => cases turns <;> simp at answer
  | _ => simp at answer

end RetryPool

namespace TimedRun

variable {r r' : TimedRun α} {now : Nanos} {m : TimedMove α} {e : Option (TimedEvent α)}

/-! ## Where attempts are -/

/-- Where every attempt is, and what is known of it there. -/
structure Sound (r : TimedRun α) : Prop where
  served : r.IsServed
  submitted : r.phase.Submitted r.attempts.length
  index_lt : ∀ i, r.phase.index? = some i → i < max r.policy.times 1
  /-- No attempt is at two threads. -/
  apart : r.pool.ownAttempts.Nodup
  /-- An attempt that a thread has not begun has not called the work, and has not ended. -/
  held : ∀ i ∈ r.pool.heldAttempts,
    r.isAccepted i = true ∧ r.hasCalled i = false ∧ r.hasEnded i = false
  /-- An attempt that runs has not ended. It has called the work, unless its token was cancelled. -/
  running : ∀ i ∈ r.pool.runningAttempts,
    r.isAccepted i = true ∧ r.hasEnded i = false ∧ (r.hasCalled i = true ∨ r.isCancelled i = true)
  /-- The token of an attempt that is over is cancelled. -/
  cancelled : ∀ i, r.isAccepted i = true → r.isCancelled i = true ∨ r.phase.open? = some i
  valid : ∀ i, r.phase = .awaiting i → r.isAccepted i = true ∧ r.isCancelled i = false

theorem Sound.lt_of_mem (s : r.Sound) {i : Nat} (h : i ∈ r.pool.ownAttempts) :
    i < r.attempts.length := by
  rcases List.mem_append.mp h with h | h
  · exact lt_of_any_getElem? (s.held i h).1
  · exact lt_of_any_getElem? (s.running i h).1

theorem Sound.length_of_submits (s : r.Sound) {i : Nat} {pm : PoolMove (Option Nat)}
    (h : r.Submits i pm) : r.attempts.length = i ∧ r.phase.open? = none ∧ r.phase.index? = some i := by
  have submitted := s.submitted
  cases h with
  | submit at_ => rw [at_] at submitted ⊢; exact ⟨submitted, rfl, rfl⟩
  | reserve at_ => rw [at_] at submitted ⊢; exact ⟨submitted, rfl, rfl⟩

/-- The phase that follows the answer of the pool to an attempt. -/
inductive Answered (i : Nat) : Bool → TimedPhase α → Prop
  | taken : Answered i true (.awaiting i)
  | refused (outcome : Except Failure α) : Answered i false (.judging i outcome)

/-- The attempt that a pool has answered is at no other thread. -/
theorem Sound.nodup_answered (s : r.Sound) {pool : RetryPool (Option Nat)} (taken : Bool)
    (held : (r.pool.heldAttempts ++ if taken then [r.attempts.length] else []).Perm pool.heldAttempts)
    (running : r.pool.runningAttempts.Perm pool.runningAttempts) : pool.ownAttempts.Nodup := by
  have new : r.attempts.length ∉ r.pool.ownAttempts := fun hm => Nat.lt_irrefl _ (s.lt_of_mem hm)
  refine (held.append running).nodup_iff.mp ?_
  rw [List.append_assoc]
  refine (List.perm_append_comm.append_left _).nodup_iff.mpr ?_
  rw [← List.append_assoc, List.nodup_append]
  refine ⟨s.apart, by cases taken <;> simp, ?_⟩
  rintro j hj k hk rfl
  cases taken with
  | false => cases hk
  | true => exact new (List.mem_singleton.mp hk ▸ hj)

/-- The pool has answered an attempt, and a thread has it if the pool took it. -/
theorem Sound.answer (s : r.Sound) {i : Nat} {pm : PoolMove (Option Nat)}
    {pool : RetryPool (Option Nat)} {taken : Bool} {phase : TimedPhase α}
    (submits : r.Submits i pm) (answered : Answered i taken phase) (free : pool.submitted = none)
    (held : (r.pool.heldAttempts ++ if taken then [i] else []).Perm pool.heldAttempts)
    (running : r.pool.runningAttempts.Perm pool.runningAttempts) :
    Sound { r with pool, attempts := r.attempts ++ [TimedAttempt.fresh taken], phase } := by
  obtain ⟨length, closed, index⟩ := s.length_of_submits submits
  have old : ∀ {j : Nat}, j < r.attempts.length →
      (r.attempts ++ [TimedAttempt.fresh taken])[j]? = r.attempts[j]? := List.getElem?_append_left
  have new : (r.attempts ++ [TimedAttempt.fresh taken])[i]? = some (.fresh taken) := by
    rw [← length, List.getElem?_concat_length]
  have new_of_mem : ∀ j ∈ (if taken then [i] else []), j = i ∧ taken = true := by
    intro j hj
    cases taken
    · cases hj
    · exact ⟨List.mem_singleton.mp hj, rfl⟩
  have held_old : ∀ j ∈ r.pool.heldAttempts, j < r.attempts.length :=
    fun j hj => s.lt_of_mem (List.mem_append_left _ hj)
  have running_old : ∀ j ∈ r.pool.runningAttempts, j < r.attempts.length :=
    fun j hj => s.lt_of_mem (List.mem_append_right _ hj)
  refine ⟨?_, ?_, ?_, ?_, ?_, ?_, ?_, ?_⟩
  · intro j
    rw [show (_ : RetryPool (Option Nat)).submitted = none from free]
    cases answered <;> exact ⟨nofun, nofun⟩
  · have total : (r.attempts ++ [TimedAttempt.fresh taken]).length = i + 1 := by simp [length]
    cases answered <;> exact total
  · intro j hj
    refine s.index_lt j (index.trans ?_)
    cases answered <;> exact hj
  · exact s.nodup_answered taken (length ▸ held) running
  · intro j hj
    rcases List.mem_append.mp (held.mem_iff.mpr hj) with hj | hj
    · simp only [isAccepted, hasCalled, hasEnded, old (held_old j hj)]
      exact s.held j hj
    · obtain ⟨rfl, rfl⟩ := new_of_mem j hj
      simp only [isAccepted, hasCalled, hasEnded, new]
      exact ⟨rfl, rfl, rfl⟩
  · intro j hj
    have hj := running.mem_iff.mpr hj
    simp only [isAccepted, hasCalled, hasEnded, isCancelled, old (running_old j hj)]
    exact s.running j hj
  · intro j accepted
    have lt := lt_of_any_getElem? accepted
    rw [List.length_append, List.length_singleton] at lt
    by_cases hj : j < r.attempts.length
    · simp only [isAccepted, isCancelled, old hj] at accepted ⊢
      exact .inl ((s.cancelled j accepted).resolve_right (by rw [closed]; exact nofun))
    · obtain rfl : j = i := by omega
      simp only [isAccepted, new] at accepted
      cases answered with
      | taken => exact .inr rfl
      | refused => cases accepted
  · intro j hj
    cases answered with
    | refused => cases hj
    | taken =>
      cases hj
      simp only [isAccepted, isCancelled, new]
      exact ⟨rfl, rfl⟩

/-- The pool looks for room for an attempt. -/
theorem Sound.look (s : r.Sound) {i : Nat} {pool : RetryPool (Option Nat)}
    (at_ : r.phase = .submitting i) (pools : r.pool.Moves now (.submit (some i)) pool .quiet) :
    Sound { r with pool, phase := .reserving i } := by
  have submitted := s.submitted
  have index_lt := s.index_lt
  have cancelled := s.cancelled
  rw [at_] at submitted index_lt cancelled
  cases pools with
  | look job away opened busy =>
    exact {
      served := fun j => by simp
      submitted := submitted
      index_lt := index_lt
      apart := s.apart
      held := s.held
      running := s.running
      cancelled := cancelled
      valid := nofun }
  | turn _ turns => cases turns

/-- The retrying thread goes on, and nothing else happens. -/
theorem Sound.goOn (s : r.Sound) {phase : TimedPhase α} {events : List RetryEvent}
    (served : ∀ i, r.phase ≠ .reserving i ∧ phase ≠ .reserving i)
    (submitted : phase.Submitted r.attempts.length)
    (index_lt : ∀ i, phase.index? = some i → i < max r.policy.times 1)
    (kept : ∀ i, r.phase.open? = some i → phase.open? = some i)
    (valid : ∀ i, phase ≠ .awaiting i) : Sound { r with phase, events } where
  served i := ⟨fun h => absurd ((s.served i).mp h) (served i).1, fun h => absurd h (served i).2⟩
  submitted := submitted
  index_lt := index_lt
  apart := s.apart
  held := s.held
  running := s.running
  cancelled i accepted := (s.cancelled i accepted).imp_right (kept i)
  valid i h := absurd h (valid i)

/-- Something happens in the pool. -/
theorem Sound.pooled (s : r.Sound) {pool : RetryPool (Option Nat)}
    (served : ∀ i, pool.submitted = some (some i) ↔ r.pool.submitted = some (some i))
    (apart : pool.ownAttempts.Nodup)
    (held : ∀ i ∈ pool.heldAttempts, i ∈ r.pool.heldAttempts)
    (running : ∀ i ∈ pool.runningAttempts, i ∈ r.pool.runningAttempts ∨
      (i ∈ r.pool.heldAttempts ∧ (r.hasCalled i = true ∨ r.isCancelled i = true))) :
    Sound { r with pool } where
  served i := (served i).trans (s.served i)
  submitted := s.submitted
  index_lt := s.index_lt
  apart := apart
  held i hi := s.held i (held i hi)
  running i hi := (running i hi).elim (s.running i) fun ⟨hi, began⟩ =>
    ⟨(s.held i hi).1, (s.held i hi).2.2, began⟩
  cancelled := s.cancelled
  valid := s.valid

/-- Something became of an attempt that no thread has any more. -/
theorem Sound.settle (s : r.Sound) {i : Nat} (gone : i ∉ r.pool.ownAttempts)
    {f : TimedAttempt α → TimedAttempt α} (accepted : ∀ a, (f a).accepted = a.accepted)
    (cancelled : ∀ a, (f a).cancelled = a.cancelled) :
    (r.modify i f).Sound where
  served := s.served
  submitted := by
    show r.phase.Submitted (r.attempts.modify i f).length
    rw [List.length_modify]
    exact s.submitted
  index_lt := s.index_lt
  apart := s.apart
  held j hj := by
    have ne : i ≠ j := fun eq => gone (eq ▸ List.mem_append_left _ hj)
    simp only [isAccepted, hasCalled, hasEnded, modify, List.getElem?_modify_ne _ _ ne]
    exact s.held j hj
  running j hj := by
    have ne : i ≠ j := fun eq => gone (eq ▸ List.mem_append_right _ hj)
    simp only [isAccepted, hasCalled, hasEnded, isCancelled, modify,
      List.getElem?_modify_ne _ _ ne]
    exact s.running j hj
  cancelled j := by
    simp only [isAccepted, isCancelled, modify, any_getElem?_modify accepted,
      any_getElem?_modify cancelled]
    exact s.cancelled j
  valid j := by
    simp only [isAccepted, isCancelled, modify, any_getElem?_modify accepted,
      any_getElem?_modify cancelled]
    exact s.valid j

/-- What the beginning of an attempt says of the threads. -/
theorem Sound.begun (s : r.Sound) {i : Nat} {pm : PoolMove (Option Nat)}
    {pool : RetryPool (Option Nat)} (pools : r.pool.Moves now pm pool (.began (some i))) :
    i ∈ r.pool.heldAttempts ∧ pool.ownAttempts.Nodup ∧
      (∀ j ∈ pool.heldAttempts, j ∈ r.pool.heldAttempts ∧ j ≠ i) ∧
      (∀ j ∈ pool.runningAttempts, j ∈ r.pool.runningAttempts ∨ j = i) ∧
      ∀ j, pool.submitted = some (some j) ↔ r.pool.submitted = some (some j) := by
  have held : r.pool.heldAttempts.Perm (i :: pool.heldAttempts) := by
    simpa [PoolEvent.accepted?, PoolEvent.began?] using pools.held_attempts
  have running : (r.pool.runningAttempts ++ [i]).Perm pool.runningAttempts := by
    simpa [PoolEvent.ended?, PoolEvent.began?] using pools.running_attempts
  have own : r.pool.ownAttempts.Perm pool.ownAttempts := by
    simpa [PoolEvent.accepted?, PoolEvent.ended?] using pools.own_attempts
  have held_nodup := held.nodup_iff.mp (List.nodup_append.mp s.apart).1
  refine ⟨held.mem_iff.mpr List.mem_cons_self, own.nodup_iff.mp s.apart, ?_, ?_, ?_⟩
  · refine fun j hj => ⟨held.mem_iff.mpr (List.mem_cons_of_mem _ hj), ?_⟩
    rintro rfl
    exact (List.nodup_cons.mp held_nodup).1 hj
  · exact fun j hj => (List.mem_append.mp (running.mem_iff.mpr hj)).imp_right List.mem_singleton.mp
  · cases pools with
    | turn at_ turns => cases turns; exact fun j => Iff.rfl

/-- An attempt that is begun calls the work. -/
theorem Sound.call (s : r.Sound) {i : Nat} {pm : PoolMove (Option Nat)}
    {pool : RetryPool (Option Nat)} (pools : r.pool.Moves now pm pool (.began (some i))) :
    ({ r with pool }.modify i .call).Sound := by
  obtain ⟨mem, apart, held, running, served⟩ := s.begun pools
  have lt : i < r.attempts.length := s.lt_of_mem (List.mem_append_left _ mem)
  have accepted (j : Nat) : ({ r with pool }.modify i .call).isAccepted j = r.isAccepted j :=
    any_getElem?_modify (f := .call) (fun _ => rfl) ..
  have ended (j : Nat) : ({ r with pool }.modify i .call).hasEnded j = r.hasEnded j :=
    any_getElem?_modify (f := .call) (fun _ => rfl) ..
  have cancelled (j : Nat) : ({ r with pool }.modify i .call).isCancelled j = r.isCancelled j :=
    any_getElem?_modify (f := .call) (fun _ => rfl) ..
  have called (j : Nat) :
      ({ r with pool }.modify i .call).hasCalled j = true ↔ r.hasCalled j = true ∨ i = j :=
    any_getElem?_modify_iff (f := .call) (fun _ => rfl) lt j
  refine ⟨fun j => (served j).trans (s.served j), ?_, s.index_lt, apart, ?_, ?_, ?_, ?_⟩
  · show r.phase.Submitted (r.attempts.modify i _).length
    rw [List.length_modify]
    exact s.submitted
  · intro j hj
    obtain ⟨hj, ne⟩ := held j hj
    obtain ⟨was_accepted, not_called, not_ended⟩ := s.held j hj
    rw [accepted, ended, ← Bool.not_eq_true, called, or_iff_left ne.symm, Bool.not_eq_true]
    exact ⟨was_accepted, not_called, not_ended⟩
  · intro j hj
    rw [accepted, ended, called, cancelled]
    rcases running j hj with hj | rfl
    · obtain ⟨was_accepted, not_ended, begun⟩ := s.running j hj
      exact ⟨was_accepted, not_ended, begun.imp_left .inl⟩
    · obtain ⟨was_accepted, -, not_ended⟩ := s.held j mem
      exact ⟨was_accepted, not_ended, .inl (.inr rfl)⟩
  · intro j
    rw [accepted, cancelled]
    exact s.cancelled j
  · intro j
    rw [accepted, cancelled]
    exact s.valid j

/-- The token of the attempt that is over is cancelled. -/
theorem Sound.cancel (s : r.Sound) {i : Nat} {outcome : Except Failure α}
    (at_ : r.phase = .cancelling i outcome) :
    Sound { r.modify i .cancel with phase := .judging i outcome } := by
  have submitted := s.submitted
  have served := s.served
  have index_lt := s.index_lt
  have was_accepted := s.cancelled
  rw [at_] at submitted index_lt was_accepted
  have length : r.attempts.length = i + 1 := submitted
  have accepted (j : Nat) : (r.modify i .cancel).isAccepted j = r.isAccepted j :=
    any_getElem?_modify (f := .cancel) (fun _ => rfl) ..
  have called (j : Nat) : (r.modify i .cancel).hasCalled j = r.hasCalled j :=
    any_getElem?_modify (f := .cancel) (fun _ => rfl) ..
  have ended (j : Nat) : (r.modify i .cancel).hasEnded j = r.hasEnded j :=
    any_getElem?_modify (f := .cancel) (fun _ => rfl) ..
  have cancelled (j : Nat) :
      (r.modify i .cancel).isCancelled j = true ↔ r.isCancelled j = true ∨ i = j :=
    any_getElem?_modify_iff (f := .cancel) (fun _ => rfl) (by omega) j
  refine ⟨?_, ?_, index_lt, s.apart, ?_, ?_, ?_, nofun⟩
  · intro j
    refine (served j).trans ?_
    rw [at_]
    exact ⟨nofun, nofun⟩
  · exact (List.length_modify ..).trans length
  · intro j hj
    show (r.modify i .cancel).isAccepted j = true ∧ (r.modify i .cancel).hasCalled j = false ∧
      (r.modify i .cancel).hasEnded j = false
    rw [accepted, called, ended]
    exact s.held j hj
  · intro j hj
    show (r.modify i .cancel).isAccepted j = true ∧ (r.modify i .cancel).hasEnded j = false ∧
      ((r.modify i .cancel).hasCalled j = true ∨ (r.modify i .cancel).isCancelled j = true)
    rw [accepted, ended, called, cancelled]
    obtain ⟨was_accepted, not_ended, begun⟩ := s.running j hj
    exact ⟨was_accepted, not_ended, begun.imp_right .inl⟩
  · intro j hj
    refine .inl ((cancelled j).mpr ?_)
    rcases was_accepted j ((accepted j).symm.trans hj) with was_cancelled | eq
    · exact .inl was_cancelled
    · exact .inr (Option.some.inj eq)

/-- What the end of an attempt says of the threads. -/
theorem Sound.endJob (s : r.Sound) {i : Nat} {pm : PoolMove (Option Nat)}
    {pool : RetryPool (Option Nat)} {panicked : Bool}
    (pools : r.pool.Moves now pm pool (.ended (some i) panicked)) :
    i ∈ r.pool.runningAttempts ∧ i ∉ pool.ownAttempts ∧ Sound { r with pool } := by
  have held : r.pool.heldAttempts.Perm pool.heldAttempts := by
    simpa [PoolEvent.accepted?, PoolEvent.began?] using pools.held_attempts
  have running : r.pool.runningAttempts.Perm (i :: pool.runningAttempts) := by
    simpa [PoolEvent.ended?, PoolEvent.began?] using pools.running_attempts
  have own : r.pool.ownAttempts.Perm (i :: pool.ownAttempts) := by
    simpa [PoolEvent.accepted?, PoolEvent.ended?] using pools.own_attempts
  obtain ⟨gone, apart⟩ := List.nodup_cons.mp (own.nodup_iff.mp s.apart)
  refine ⟨running.mem_iff.mpr List.mem_cons_self, gone, s.pooled ?_ apart ?_ ?_⟩
  · cases pools with
    | turn at_ turns => cases turns; exact fun j => Iff.rfl
  · exact fun j hj => held.mem_iff.mpr hj
  · exact fun j hj => .inl (running.mem_iff.mpr (List.mem_cons_of_mem _ hj))

/-- Attempts stay where they should be in every move. -/
theorem Sound.moves (s : r.Sound) (h : r.Moves now m r' e) : r'.Sound := by
  have submitted := s.submitted
  have index_lt := s.index_lt
  cases h with
  | accept submits pools =>
    refine s.answer submits .taken (pools.submitted_of_answer (.inl rfl)) ?_ ?_
    · simpa [PoolEvent.accepted?, PoolEvent.began?] using pools.held_attempts
    · simpa [PoolEvent.ended?, PoolEvent.began?] using pools.running_attempts
  | refuse submits pools =>
    refine s.answer submits (.refused _) (pools.submitted_of_answer (.inr rfl)) ?_ ?_
    · simpa [PoolEvent.accepted?, PoolEvent.began?] using pools.held_attempts
    · simpa [PoolEvent.ended?, PoolEvent.began?] using pools.running_attempts
  | @look i pool at_ pools => exact s.look at_ pools
  | receive at_ found delivered =>
    rw [at_] at submitted index_lt
    refine s.goOn (fun i => by rw [at_]; exact ⟨nofun, nofun⟩) submitted index_lt ?_ nofun
    rw [at_]
    exact fun _ h => h
  | miss at_ found undelivered dropped =>
    rw [at_] at submitted index_lt
    refine s.goOn (fun i => by rw [at_]; exact ⟨nofun, nofun⟩) submitted index_lt ?_ nofun
    rw [at_]
    exact fun _ h => h
  | giveUp at_ found undelivered going =>
    rw [at_] at submitted index_lt
    refine s.goOn (fun i => by rw [at_]; exact ⟨nofun, nofun⟩) submitted index_lt ?_ nofun
    rw [at_]
    exact fun _ h => h
  | cancel at_ => exact s.cancel at_
  | @judge i outcome at_ =>
    obtain ⟨phase, events, eq, next⟩ := exists_judge_eq r i outcome
    rw [at_] at submitted
    rw [eq]
    rcases next with rfl | ⟨rfl, more⟩
    · exact s.goOn (fun i => by rw [at_]; exact ⟨nofun, nofun⟩) trivial nofun
        (by rw [at_]; exact nofun) nofun
    · exact s.goOn (fun i => by rw [at_]; exact ⟨nofun, nofun⟩) submitted
        (by rintro j ⟨⟩; omega) (by rw [at_]; exact nofun) nofun
  | call pools valid => exact s.call pools
  | skip pools cancelled =>
    obtain ⟨mem, apart, held, running, served⟩ := s.begun pools
    refine s.pooled served apart (fun j hj => (held j hj).1) fun j hj => ?_
    rcases running j hj with hj | rfl
    · exact .inl hj
    · exact .inr ⟨mem, .inr cancelled⟩
  | deliver pools called =>
    obtain ⟨-, gone, sound⟩ := s.endJob pools
    exact sound.settle gone (fun _ => rfl) fun _ => rfl
  | panic pools called =>
    obtain ⟨-, gone, sound⟩ := s.endJob pools
    exact sound.settle gone (fun _ => rfl) fun _ => rfl
  | drop pools uncalled =>
    obtain ⟨-, gone, sound⟩ := s.endJob pools
    exact sound.settle gone (fun _ => rfl) fun _ => rfl
  | beside aside pools apart served =>
    obtain ⟨held, running⟩ := pools.beside apart
    exact s.pooled served ((held.append running).nodup_iff.mp s.apart)
      (fun j hj => held.mem_iff.mpr hj) fun j hj => .inl (running.mem_iff.mpr hj)

end TimedRun

end BatchSync
