import BatchSync.Proofs.Retry.PoolMoves
import BatchSync.Retry.Timed

/-!
# What a call with timed attempts can do

The retrying thread, the threads of the pool and other callers of the pool move in any order.

1. `TimedRun.moves_of_step` says all that a move can do, and what is told of it. It takes for granted
   that the pool looks for room for an attempt only while the retrying thread waits for that
   (`TimedRun.IsServed`).
2. `RetryPool.Moves.held_attempts` and `RetryPool.Moves.running_attempts` say where the attempts among
   the jobs of the pool go.
3. A history (`TimedHistory`) has all that was told, the oldest first, and
   `TimedHistory.run_invariant` carries what every move keeps over a whole run.
-/

namespace BatchSync

variable {α : Type}

/-! ## Attempts among the jobs of a pool -/

namespace PoolEvent

/-- The attempt that is concerned, if it is one. -/
def attempt? : PoolEvent (Option Nat) → Option Nat
  | .accepted job => job
  | .rejected job => job
  | .began job => job
  | .ended job _ => job
  | .quiet => none

end PoolEvent

namespace RetryPool

variable {p p' : RetryPool (Option Nat)} {now : Nanos} {m : PoolMove (Option Nat)}
  {e : PoolEvent (Option Nat)}

/-- The attempts that threads have and have not begun. -/
def heldAttempts (p : RetryPool (Option Nat)) : List Nat := p.held.filterMap id

/-- The attempts that threads run. -/
def runningAttempts (p : RetryPool (Option Nat)) : List Nat := p.running.filterMap id

theorem filterMap_id_toList (job? : Option (Option Nat)) :
    job?.toList.filterMap id = job?.join.toList := by
  rcases job? with _ | _ | _ <;> rfl

/-- An attempt that is accepted is held until it is begun. -/
theorem Moves.held_attempts (h : p.Moves now m p' e) :
    (p.heldAttempts ++ e.accepted?.join.toList).Perm (e.began?.join.toList ++ p'.heldAttempts) := by
  unfold heldAttempts
  simpa only [List.filterMap_append, filterMap_id_toList] using h.held.filterMap id

/-- An attempt that is begun runs until it ends. -/
theorem Moves.running_attempts (h : p.Moves now m p' e) :
    (p.runningAttempts ++ e.began?.join.toList).Perm
      (e.ended?.join.toList ++ p'.runningAttempts) := by
  unfold runningAttempts
  simpa only [List.filterMap_append, filterMap_id_toList] using h.running.filterMap id

/-- The attempts among the jobs that threads have. -/
def ownAttempts (p : RetryPool (Option Nat)) : List Nat := p.heldAttempts ++ p.runningAttempts

theorem perm_rotate (a b c : List Nat) : ((a ++ b) ++ c).Perm (b ++ (c ++ a)) := by
  rw [← List.append_assoc, List.append_assoc a]
  exact List.perm_append_comm

/-- An attempt that is accepted is at a thread until it ends. -/
theorem Moves.own_attempts (h : p.Moves now m p' e) :
    (p.ownAttempts ++ e.accepted?.join.toList).Perm (e.ended?.join.toList ++ p'.ownAttempts) :=
  calc
    (p.ownAttempts ++ e.accepted?.join.toList).Perm
        (p.runningAttempts ++ (e.accepted?.join.toList ++ p.heldAttempts)) := perm_rotate ..
    List.Perm _ ((p.heldAttempts ++ e.accepted?.join.toList) ++ p.runningAttempts) :=
      (List.perm_append_comm.append_left _).trans List.perm_append_comm
    List.Perm _ ((e.began?.join.toList ++ p'.heldAttempts) ++ p.runningAttempts) :=
      h.held_attempts.append_right _
    List.Perm _ (p'.heldAttempts ++ (p.runningAttempts ++ e.began?.join.toList)) := perm_rotate ..
    List.Perm _ (p'.heldAttempts ++ (e.ended?.join.toList ++ p'.runningAttempts)) :=
      h.running_attempts.append_left _
    List.Perm _ (e.ended?.join.toList ++ p'.ownAttempts) := List.perm_append_comm_assoc ..

/-- Nothing becomes of attempts in a move that concerns none. -/
theorem Moves.beside (h : p.Moves now m p' e) (apart : e.attempt? = none) :
    p.heldAttempts.Perm p'.heldAttempts ∧ p.runningAttempts.Perm p'.runningAttempts := by
  have held := h.held_attempts
  have running := h.running_attempts
  have accepted : e.accepted?.join = none := by
    cases e with
    | accepted job => exact apart
    | _ => rfl
  have began : e.began?.join = none := by
    cases e with
    | began job => exact apart
    | _ => rfl
  have ended : e.ended?.join = none := by
    cases e with
    | ended job panicked => exact apart
    | _ => rfl
  rw [accepted, began, Option.toList_none, List.append_nil] at held
  rw [began, ended, Option.toList_none, List.append_nil] at running
  exact ⟨held, running⟩

end RetryPool

namespace TimedMove

/-- Whether a move is one of the retrying thread. -/
def isOfCaller : TimedMove α → Bool
  | .caller => true
  | .timeout => true
  | _ => false

end TimedMove

namespace TimedPhase

/-- The attempt whose outcome is not known, or whose token is still to be cancelled. -/
def open? : TimedPhase α → Option Nat
  | .awaiting i => some i
  | .cancelling i _ => some i
  | _ => none

end TimedPhase

namespace TimedRun

variable {r r' : TimedRun α} {now : Nanos} {m : TimedMove α} {e : Option (TimedEvent α)}

/-! ## All that a move can do -/

/-- Whether the retrying thread submits an attempt in a move of the pool. -/
inductive Submits (r : TimedRun α) (i : Nat) : PoolMove (Option Nat) → Prop
  | submit (at_ : r.phase = .submitting i) : Submits r i (.submit (some i))
  | reserve (at_ : r.phase = .reserving i) : Submits r i .reserve

/-- The pool looks for room for an attempt exactly as long as the retrying thread waits for that. -/
def IsServed (r : TimedRun α) : Prop :=
  ∀ i, r.pool.submitted = some (some i) ↔ r.phase = .reserving i

/-- All that a move can do. -/
inductive Moves (r : TimedRun α) (now : Nanos) :
    TimedMove α → TimedRun α → Option (TimedEvent α) → Prop
  /-- The pool takes an attempt. -/
  | accept {i : Nat} {m : PoolMove (Option Nat)} {pool : RetryPool (Option Nat)}
      (submits : r.Submits i m) (pools : r.pool.Moves now m pool (.accepted (some i))) :
      Moves r now .caller
        { r with pool, attempts := r.attempts ++ [.fresh true], phase := .awaiting i }
        (some (.accepted i))
  | refuse {i : Nat} {m : PoolMove (Option Nat)} {pool : RetryPool (Option Nat)}
      (submits : r.Submits i m) (pools : r.pool.Moves now m pool (.rejected (some i))) :
      Moves r now .caller
        { r with
          pool, attempts := r.attempts ++ [.fresh false]
          phase := .judging i (.error pool.rejection) }
        (some (.rejected i))
  /-- No thread of the pool waits. -/
  | look {i : Nat} {pool : RetryPool (Option Nat)} (at_ : r.phase = .submitting i)
      (pools : r.pool.Moves now (.submit (some i)) pool .quiet) :
      Moves r now .caller { r with pool, phase := .reserving i } none
  /-- The result of an attempt is there. -/
  | receive {i : Nat} {a : TimedAttempt α} {outcome : Except Failure α}
      (at_ : r.phase = .awaiting i) (found : r.attempts[i]? = some a)
      (delivered : a.delivered = some outcome) :
      Moves r now .caller { r with phase := .cancelling i outcome } none
  /-- There will be no result of an attempt. -/
  | miss {i : Nat} {a : TimedAttempt α} (at_ : r.phase = .awaiting i)
      (found : r.attempts[i]? = some a) (undelivered : a.delivered = none)
      (dropped : a.dropped = true) :
      Moves r now .caller { r with phase := .cancelling i (.error .attemptAbandoned) } none
  /-- An attempt takes too long. -/
  | giveUp {i : Nat} {a : TimedAttempt α} (at_ : r.phase = .awaiting i)
      (found : r.attempts[i]? = some a) (undelivered : a.delivered = none)
      (going : a.dropped = false) :
      Moves r now .timeout { r with phase := .cancelling i (.error (.attemptTimeout r.timeout)) }
        (some (.timedOut i))
  | cancel {i : Nat} {outcome : Except Failure α} (at_ : r.phase = .cancelling i outcome) :
      Moves r now .caller
        { r.modify i .cancel with phase := .judging i outcome }
        (some (.cancelled i))
  | judge {i : Nat} {outcome : Except Failure α} (at_ : r.phase = .judging i outcome) :
      Moves r now .caller (r.judge i outcome) none
  /-- An attempt that is begun calls the work. -/
  | call {i : Nat} {m : PoolMove (Option Nat)} {pool : RetryPool (Option Nat)}
      (pools : r.pool.Moves now m pool (.began (some i))) (valid : r.isCancelled i = false) :
      Moves r now (.worker m)
        ({ r with pool }.modify i .call) (some (.called i))
  /-- The token of an attempt that is begun is cancelled. -/
  | skip {i : Nat} {m : PoolMove (Option Nat)} {pool : RetryPool (Option Nat)}
      (pools : r.pool.Moves now m pool (.began (some i))) (cancelled : r.isCancelled i = true) :
      Moves r now (.worker m) { r with pool } none
  | deliver {i w : Nat} {outcome : Except Failure α} {pool : RetryPool (Option Nat)}
      (pools : r.pool.Moves now (.endJob w false) pool (.ended (some i) false))
      (called : r.hasCalled i = true) :
      Moves r now (.finish w (some outcome))
        ({ r with pool }.modify i (.deliver outcome))
        (some (.delivered i outcome))
  | panic {i w : Nat} {pool : RetryPool (Option Nat)}
      (pools : r.pool.Moves now (.endJob w true) pool (.ended (some i) true))
      (called : r.hasCalled i = true) :
      Moves r now (.finish w none)
        ({ r with pool }.modify i .drop) (some (.panicked i))
  /-- An attempt ends that has not called the work. -/
  | drop {i w : Nat} {result : Option (Except Failure α)} {pool : RetryPool (Option Nat)}
      {panicked : Bool} (pools : r.pool.Moves now (.endJob w panicked) pool (.ended (some i) panicked))
      (uncalled : r.hasCalled i = false) :
      Moves r now (.finish w result)
        ({ r with pool }.modify i .drop) none
  /-- Something happens in the pool that concerns no attempt. -/
  | beside {m : TimedMove α} {pm : PoolMove (Option Nat)} {pool : RetryPool (Option Nat)}
      {e : PoolEvent (Option Nat)} (aside : m.isOfCaller = false)
      (pools : r.pool.Moves now pm pool e) (apart : e.attempt? = none)
      (served : ∀ i, pool.submitted = some (some i) ↔ r.pool.submitted = some (some i)) :
      Moves r now m { r with pool } none

/-- What the answer of the pool to the retrying thread leads to. -/
theorem moves_of_submitted {i : Nat} {pm : PoolMove (Option Nat)} {pool : RetryPool (Option Nat)}
    {pe : PoolEvent (Option Nat)} (served : r.IsServed) (submits : r.Submits i pm)
    (pools : r.pool.Moves now pm pool pe) :
    r.Moves now .caller (r.submitted i pool pe).1 (r.submitted i pool pe).2 := by
  cases submits with
  | submit at_ =>
    cases pools with
    | refuse _ away shut => exact .refuse (.submit at_) (.refuse _ away shut)
    | hand _ away opened waits => exact .accept (.submit at_) (.hand _ away opened waits)
    | look _ away opened busy => exact .look at_ (.look _ away opened busy)
    | turn _ turns => cases turns
  | reserve at_ =>
    have own := (served i).mpr at_
    cases pools with
    | spawn looked room =>
      obtain rfl : some i = _ := Option.some.inj (own.symm.trans looked)
      exact .accept (.reserve at_) (.spawn looked room)
    | turnAway looked full =>
      obtain rfl : some i = _ := Option.some.inj (own.symm.trans looked)
      exact .refuse (.reserve at_) (.turnAway looked full)
    | turn _ turns => cases turns

theorem moves_of_stepCaller (served : r.IsServed) (h : r.stepCaller now = some (r', e)) :
    r.Moves now .caller r' e := by
  unfold stepCaller at h
  split at h
  · rename_i i at_
    obtain ⟨⟨pool, pe⟩, hp, h⟩ := Option.map_eq_some_iff.mp h
    have moves := moves_of_submitted served (.submit at_) (RetryPool.moves_of_step hp)
    rwa [show r.submitted i pool pe = (r', e) from h] at moves
  · rename_i i at_
    obtain ⟨⟨pool, pe⟩, hp, h⟩ := Option.map_eq_some_iff.mp h
    have moves := moves_of_submitted served (.reserve at_) (RetryPool.moves_of_step hp)
    rwa [show r.submitted i pool pe = (r', e) from h] at moves
  · rename_i i at_
    split at h
    · cases h
    · rename_i a found
      split at h
      · rename_i outcome delivered
        cases h
        exact .receive at_ found delivered
      · rename_i undelivered
        split at h
        · rename_i dropped
          cases h
          exact .miss at_ found undelivered dropped
        · cases h
  · rename_i i outcome at_
    cases h
    exact .cancel at_
  · rename_i i outcome at_
    cases h
    exact .judge at_
  · cases h

theorem moves_of_stepTimeout (h : r.stepTimeout = some (r', e)) : r.Moves now .timeout r' e := by
  unfold stepTimeout at h
  split at h
  · rename_i i at_
    split at h
    · cases h
    · rename_i a found
      split at h
      · rename_i waits
        cases h
        rw [Bool.and_eq_true, Option.isNone_iff_eq_none, Bool.not_eq_true'] at waits
        exact .giveUp at_ found waits.1 waits.2
      · cases h
  · cases h

/-- What the end of a job leads to. -/
theorem moves_of_finish {w : Nat} {result : Option (Except Failure α)}
    {pool : RetryPool (Option Nat)} {pe : PoolEvent (Option Nat)}
    (h : (match pe with
      | .ended (some i) _ => ended i result { r with pool }
      | _ => ({ r with pool }, none)) = (r', e))
    (pools : r.pool.Moves now (.endJob w result.isNone) pool pe) :
    r.Moves now (.finish w result) r' e := by
  cases pools with
  | turn at_ turns =>
    have pools := RetryPool.Moves.turn at_ turns
    cases turns with
    | endJob job =>
      cases job with
      | none =>
        cases h
        exact .beside rfl pools rfl fun i => Iff.rfl
      | some i =>
        dsimp only [ended] at h
        split at h
        · rename_i called
          cases h
          exact .deliver pools called
        · rename_i called
          cases h
          exact .panic pools called
        · rename_i uncalled
          cases h
          exact .drop pools uncalled

/-- What all else in the pool leads to. -/
theorem moves_of_worker {pm : PoolMove (Option Nat)} {pool : RetryPool (Option Nat)}
    {pe : PoolEvent (Option Nat)} (others : r.isOfOthers pm = true)
    (h : (match pe with
      | .began (some i) => began i { r with pool }
      | _ => ({ r with pool }, none)) = (r', e))
    (pools : r.pool.Moves now pm pool pe) :
    r.Moves now (.worker pm) r' e := by
  cases pools with
  | refuse job away shut =>
    cases Option.isNone_iff_eq_none.mp others
    cases h
    exact .beside rfl (.refuse none away shut) rfl fun i => Iff.rfl
  | hand job away opened at_ =>
    cases Option.isNone_iff_eq_none.mp others
    cases h
    exact .beside rfl (.hand none away opened at_) rfl fun i => Iff.rfl
  | look job away opened busy =>
    cases Option.isNone_iff_eq_none.mp others
    cases h
    exact .beside rfl (.look none away opened busy) rfl (by simp [away])
  | spawn looked room =>
    have foreign : r.pool.submitted = some none := by simpa [isOfOthers] using others
    obtain rfl := Option.some.inj (foreign.symm.trans looked)
    cases h
    exact .beside rfl (.spawn looked room) rfl (by simp [foreign])
  | turnAway looked full =>
    have foreign : r.pool.submitted = some none := by simpa [isOfOthers] using others
    obtain rfl := Option.some.inj (foreign.symm.trans looked)
    cases h
    exact .beside rfl (.turnAway looked full) rfl (by simp [foreign])
  | shutDown away =>
    cases h
    exact .beside rfl (.shutDown away) rfl fun i => Iff.rfl
  | leave at_ =>
    cases h
    exact .beside rfl (.leave at_) rfl fun i => Iff.rfl
  | turn at_ turns =>
    have pools := RetryPool.Moves.turn at_ turns
    cases turns with
    | beginJob job =>
      cases job with
      | none =>
        cases h
        exact .beside rfl pools rfl fun i => Iff.rfl
      | some i =>
        dsimp only [began] at h
        split at h
        · rename_i cancelled
          cases h
          exact .skip pools cancelled
        · rename_i valid
          cases h
          exact .call pools (Bool.eq_false_iff.mpr valid)
    | endJob job panicked => cases others
    | _ =>
      cases h
      exact .beside rfl pools rfl fun i => Iff.rfl

theorem moves_of_step (served : r.IsServed) (h : r.step now m = some (r', e)) :
    r.Moves now m r' e := by
  cases m with
  | caller => exact moves_of_stepCaller served h
  | timeout => exact moves_of_stepTimeout h
  | finish w result =>
    obtain ⟨⟨pool, pe⟩, hp, h⟩ := Option.map_eq_some_iff.mp h
    exact moves_of_finish h (RetryPool.moves_of_step hp)
  | worker pm =>
    simp only [step] at h
    split at h
    · rename_i others
      obtain ⟨⟨pool, pe⟩, hp, h⟩ := Option.map_eq_some_iff.mp h
      exact moves_of_worker others h (RetryPool.moves_of_step hp)
    · cases h

/-- A judgement moves the retrying thread, and adds to what was done. -/
theorem exists_judge_eq (r : TimedRun α) (i : Nat) (outcome : Except Failure α) :
    ∃ phase events, r.judge i outcome = { r with phase, events } ∧
      (phase = .returned outcome ∨ (phase = .submitting (i + 1) ∧ i + 1 < r.policy.times)) := by
  unfold judge
  split
  · exact ⟨_, _, rfl, .inl rfl⟩
  · split
    · rename_i more
      rw [Bool.and_eq_true, decide_eq_true_eq] at more
      exact ⟨_, _, rfl, .inr ⟨rfl, more.2⟩⟩
    · exact ⟨_, _, rfl, .inl rfl⟩

/-! ## What is known of attempts -/

/-- Whether the pool took an attempt. -/
def isAccepted (r : TimedRun α) (i : Nat) : Bool := (r.attempts[i]?).any TimedAttempt.accepted

/-- Whether the job of an attempt has ended. -/
def hasEnded (r : TimedRun α) (i : Nat) : Bool :=
  (r.attempts[i]?).any fun a => a.delivered.isSome || a.dropped

/-- A new attempt leaves the flags alone that it does not have. -/
theorem any_getElem?_concat {flag : TimedAttempt α → Bool} {a : TimedAttempt α}
    (new : flag a = false) (attempts : List (TimedAttempt α)) (i : Nat) :
    ((attempts ++ [a])[i]?).any flag = (attempts[i]?).any flag := by
  rcases Nat.lt_trichotomy i attempts.length with lt | rfl | lt
  · rw [List.getElem?_append_left lt]
  · rw [List.getElem?_concat_length, List.getElem?_eq_none (Nat.le_refl _)]
    exact new
  · rw [List.getElem?_eq_none (by simp; omega), List.getElem?_eq_none (Nat.le_of_lt lt)]

/-- A new attempt brings the flags that it has. -/
theorem any_getElem?_concat_iff {flag : TimedAttempt α → Bool} {a : TimedAttempt α}
    (new : flag a = true) (attempts : List (TimedAttempt α)) (i : Nat) :
    ((attempts ++ [a])[i]?).any flag = true ↔
      (attempts[i]?).any flag = true ∨ attempts.length = i := by
  rcases Nat.lt_trichotomy i attempts.length with lt | rfl | lt
  · rw [List.getElem?_append_left lt, or_iff_left (Nat.ne_of_gt lt)]
  · rw [List.getElem?_concat_length]
    exact ⟨fun _ => .inr rfl, fun _ => new⟩
  · rw [List.getElem?_eq_none (by simp; omega), List.getElem?_eq_none (Nat.le_of_lt lt),
      or_iff_left (Nat.ne_of_lt lt)]

/-- A change leaves the flags alone that it does not set. -/
theorem any_getElem?_modify {flag : TimedAttempt α → Bool} {f : TimedAttempt α → TimedAttempt α}
    (kept : ∀ a, flag (f a) = flag a) (attempts : List (TimedAttempt α)) (i j : Nat) :
    ((attempts.modify i f)[j]?).any flag = (attempts[j]?).any flag := by
  rw [List.getElem?_modify]
  cases attempts[j]? with
  | none => rfl
  | some a =>
    split
    · exact kept a
    · rfl

/-- A change sets a flag of its attempt, and of no other one. -/
theorem any_getElem?_modify_iff {flag : TimedAttempt α → Bool}
    {f : TimedAttempt α → TimedAttempt α} (sets : ∀ a, flag (f a) = true)
    {attempts : List (TimedAttempt α)} {i : Nat} (lt : i < attempts.length) (j : Nat) :
    ((attempts.modify i f)[j]?).any flag = true ↔ (attempts[j]?).any flag = true ∨ i = j := by
  by_cases eq : i = j
  · subst eq
    rw [List.getElem?_modify_eq, List.getElem?_eq_getElem lt]
    exact ⟨fun _ => .inr rfl, fun _ => sets _⟩
  · rw [List.getElem?_modify_ne _ _ eq, or_iff_left eq]

theorem lt_of_any_getElem? {flag : TimedAttempt α → Bool} {attempts : List (TimedAttempt α)}
    {i : Nat} (h : (attempts[i]?).any flag = true) : i < attempts.length := by
  by_contra le
  rw [List.getElem?_eq_none (Nat.le_of_not_lt le)] at h
  cases h

end TimedRun

namespace TimedEvent

/-- The attempt that the pool answered. -/
def answered? : TimedEvent α → Option Nat
  | .accepted i => some i
  | .rejected i => some i
  | _ => none

/-- The attempt that the pool took. -/
def accepted? : TimedEvent α → Option Nat
  | .accepted i => some i
  | _ => none

/-- The attempt that called the work. -/
def called? : TimedEvent α → Option Nat
  | .called i => some i
  | _ => none

/-- The attempt whose call of the work came to its end. -/
def ended? : TimedEvent α → Option Nat
  | .delivered i _ => some i
  | .panicked i => some i
  | _ => none

/-- The outcome of an attempt, if it is decided by what is told: it was rejected, or its call of the work
delivered a result or panicked, or it was given up. -/
def decides? (timeout maxThreads i : Nat) : TimedEvent α → Option (Except Failure α)
  | .rejected j => if j = i then some (.error (.attemptRejected maxThreads)) else none
  | .delivered j result => if j = i then some result else none
  | .panicked j => if j = i then some (.error .attemptAbandoned) else none
  | .timedOut j => if j = i then some (.error (.attemptTimeout timeout)) else none
  | _ => none

end TimedEvent

/-! ## Histories -/

/-- A retried call with all that was told of it, the oldest first. -/
structure TimedHistory (α : Type) where
  run : TimedRun α
  told : List (TimedEvent α)

namespace TimedHistory

/-- A call that is about to make its first attempt. -/
def start (policy : RetryPolicy) (timeout : Nat) (pool : RetryPool (Option Nat)) :
    TimedHistory α := ⟨.start policy timeout pool, []⟩

/-- A history that goes on by a move. -/
def add (h : TimedHistory α) (r : TimedRun α) (e : Option (TimedEvent α)) : TimedHistory α :=
  ⟨r, h.told ++ e.toList⟩

/-- What a move at a time leads to, if it can happen. -/
def step (h : TimedHistory α) (now : Nanos) (m : TimedMove α) : Option (TimedHistory α) :=
  (h.run.step now m).map fun (r, e) => h.add r e

/-- What an interleaving leads to, if all of its moves can happen one after the other. -/
def after (h : TimedHistory α) : List (Nanos × TimedMove α) → Option (TimedHistory α)
  | [] => some h
  | (now, m) :: rest =>
    match h.step now m with
    | none => none
    | some h => h.after rest

/-- What every move keeps, a run keeps. -/
theorem run_invariant {P : TimedHistory α → Prop} (served : ∀ {h : TimedHistory α}, P h → h.run.IsServed)
    (keep : ∀ {h : TimedHistory α} {now : Nanos} {m : TimedMove α} {r : TimedRun α}
      {e : Option (TimedEvent α)}, P h → h.run.Moves now m r e → P (h.add r e))
    {moves : List (Nanos × TimedMove α)} :
    ∀ {h h' : TimedHistory α}, P h → h.after moves = some h' → P h' := by
  induction moves with
  | nil => intro h h' hP hr; cases hr; exact hP
  | cons move rest ih =>
    intro h h' hP hr
    simp only [after] at hr
    split at hr
    · cases hr
    · rename_i next hn
      obtain ⟨⟨r, e⟩, hm, rfl⟩ := Option.map_eq_some_iff.mp hn
      exact ih (keep hP (TimedRun.moves_of_step (served hP) hm)) hr

/-- The outcome of an attempt: the first thing told of it that decides it. -/
def outcome? (timeout maxThreads : Nat) (told : List (TimedEvent α)) (i : Nat) :
    Option (Except Failure α) :=
  told.findSome? (TimedEvent.decides? timeout maxThreads i)

/-- An outcome that is known does not change. -/
theorem outcome?_append {timeout maxThreads i : Nat} {told : List (TimedEvent α)}
    {outcome : Except Failure α} (known : outcome? timeout maxThreads told i = some outcome)
    (more : List (TimedEvent α)) :
    outcome? timeout maxThreads (told ++ more) i = some outcome := by
  rw [outcome?, List.findSome?_append, ← outcome?, known]
  rfl

end TimedHistory

end BatchSync
