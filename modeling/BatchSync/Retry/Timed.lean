import BatchSync.Retry.Loop
import BatchSync.Retry.Pool

/-!
# Attempts in time

Work is tried by a policy as in `RetryRun`, but every attempt runs on a thread of a pool, and counts as
failed unless its result comes in time: `attemptTimeout` if it takes too long, `attemptAbandoned` if it
ends without a result, `attemptRejected` if the pool has no thread for it. Every attempt has a token,
which is cancelled once the attempt is over; an attempt whose token is cancelled before it begins does
not call the work. What comes late is never looked at again: every attempt has a place of its own for
its result.

The retrying thread and the threads of the pool move in steps (`TimedRun.step`), in any order.
-/

namespace BatchSync

/-- What is known of an attempt. -/
structure TimedAttempt (α : Type) where
  /-- Whether the pool took it. -/
  accepted : Bool
  /-- Whether it called the work. -/
  called : Bool
  /-- The result that the work delivered. -/
  delivered : Option (Except Failure α)
  /-- Whether it ended without delivering one. -/
  dropped : Bool
  /-- Whether its token is cancelled. -/
  cancelled : Bool

namespace TimedAttempt

variable {α : Type}

/-- An attempt that was not yet begun. -/
def fresh (accepted : Bool) : TimedAttempt α := ⟨accepted, false, none, false, false⟩

/-- It calls the work. -/
def call (a : TimedAttempt α) : TimedAttempt α := { a with called := true }

/-- The work delivers a result. -/
def deliver (result : Except Failure α) (a : TimedAttempt α) : TimedAttempt α :=
  { a with delivered := some result }

/-- It ends without a result. -/
def drop (a : TimedAttempt α) : TimedAttempt α := { a with dropped := true }

/-- Its token is cancelled. -/
def cancel (a : TimedAttempt α) : TimedAttempt α := { a with cancelled := true }

end TimedAttempt

/-- Where the retrying thread is. -/
inductive TimedPhase (α : Type) where
  /-- About to submit the attempt of an index. -/
  | submitting (index : Nat)
  /-- The pool looks for room for it. -/
  | reserving (index : Nat)
  /-- Waiting for its result. -/
  | awaiting (index : Nat)
  /-- The outcome is known, and the token is to be cancelled. -/
  | cancelling (index : Nat) (outcome : Except Failure α)
  /-- The outcome is to be judged. -/
  | judging (index : Nat) (outcome : Except Failure α)
  /-- The call has returned. -/
  | returned (outcome : Except Failure α)

/-- A retried call whose attempts run on a pool. Jobs of the pool that are none of its attempts have no
index. -/
structure TimedRun (α : Type) where
  policy : RetryPolicy
  /-- How long an attempt may take, in milliseconds. -/
  timeout : Nat
  pool : RetryPool (Option Nat)
  attempts : List (TimedAttempt α)
  phase : TimedPhase α
  /-- What was done for the attempts that were judged so far: they were made, failures were logged, and
  time was waited. -/
  events : List RetryEvent

/-- What can happen in a retried call. -/
inductive TimedMove (α : Type) where
  /-- The retrying thread goes on. -/
  | caller
  /-- The time of the attempt that is waited for is over. -/
  | timeout
  /-- The job of a thread ends: with a result, or in a panic. -/
  | finish (worker : Nat) (result : Option (Except Failure α))
  /-- Anything else happens in the pool: its threads go on, others submit jobs of their own, or it is
  shut down. -/
  | worker (m : PoolMove (Option Nat))

/-- What is told of an attempt, by its index. -/
inductive TimedEvent (α : Type) where
  /-- The pool took the attempt. -/
  | accepted (index : Nat)
  | rejected (index : Nat)
  /-- The attempt called the work. -/
  | called (index : Nat)
  /-- The work that it called delivered a result. -/
  | delivered (index : Nat) (result : Except Failure α)
  /-- The work that it called panicked. -/
  | panicked (index : Nat)
  /-- The retrying thread gave it up. -/
  | timedOut (index : Nat)
  /-- Its token was cancelled. -/
  | cancelled (index : Nat)

namespace TimedRun

variable {α : Type}

/-- A call that is about to make its first attempt. -/
def start (policy : RetryPolicy) (timeout : Nat) (pool : RetryPool (Option Nat)) : TimedRun α :=
  ⟨policy, timeout, pool, [], .submitting 0, []⟩

/-- Changes an attempt. -/
def modify (r : TimedRun α) (index : Nat) (f : TimedAttempt α → TimedAttempt α) : TimedRun α :=
  { r with attempts := r.attempts.modify index f }

/-- Whether an attempt called the work. -/
def hasCalled (r : TimedRun α) (index : Nat) : Bool := (r.attempts[index]?).any TimedAttempt.called

/-- Whether the token of an attempt is cancelled. -/
def isCancelled (r : TimedRun α) (index : Nat) : Bool :=
  (r.attempts[index]?).any TimedAttempt.cancelled

/-- Takes note of whether the pool took an attempt. -/
def submitted (r : TimedRun α) (index : Nat) (pool : RetryPool (Option Nat)) :
    PoolEvent (Option Nat) → TimedRun α × Option (TimedEvent α)
  | .accepted _ =>
    ({ r with pool, attempts := r.attempts ++ [.fresh true], phase := .awaiting index },
      some (.accepted index))
  | .rejected _ =>
    ({ r with
      pool, attempts := r.attempts ++ [.fresh false]
      phase := .judging index (.error pool.rejection) },
      some (.rejected index))
  | _ => ({ r with pool, phase := .reserving index }, none)

/-- Judges an outcome: the call returns it, or makes another attempt after a wait. -/
def judge (r : TimedRun α) (index : Nat) (outcome : Except Failure α) : TimedRun α :=
  match outcome with
  | .ok a => { r with phase := .returned (.ok a), events := r.events ++ [.called index] }
  | .error f =>
    if r.policy.isRetryable f.kind && index + 1 < r.policy.times then
      { r with
        phase := .submitting (index + 1)
        events := r.events ++ (RetryRun.failed index f ++ RetryRun.pause r.policy index f) }
    else { r with phase := .returned (.error f), events := r.events ++ RetryRun.failed index f }

/-- The next step of the retrying thread, and what is told of it. There is none while it waits, and none
after it. -/
def stepCaller (r : TimedRun α) (now : Nanos) : Option (TimedRun α × Option (TimedEvent α)) :=
  match r.phase with
  | .submitting i =>
    (r.pool.step now (.submit (some i))).map fun (pool, e) => r.submitted i pool e
  | .reserving i => (r.pool.step now .reserve).map fun (pool, e) => r.submitted i pool e
  | .awaiting i =>
    match r.attempts[i]? with
    | none => none
    | some a =>
      match a.delivered with
      | some outcome => some ({ r with phase := .cancelling i outcome }, none)
      | none =>
        if a.dropped then some ({ r with phase := .cancelling i (.error .attemptAbandoned) }, none)
        else none
  | .cancelling i outcome =>
    some ({ r.modify i .cancel with phase := .judging i outcome },
      some (.cancelled i))
  | .judging i outcome => some (r.judge i outcome, none)
  | .returned _ => none

/-- The attempt that is waited for takes too long. Its result is not there yet. -/
def stepTimeout (r : TimedRun α) : Option (TimedRun α × Option (TimedEvent α)) :=
  match r.phase with
  | .awaiting i =>
    match r.attempts[i]? with
    | none => none
    | some a =>
      if a.delivered.isNone && !a.dropped then
        some ({ r with phase := .cancelling i (.error (.attemptTimeout r.timeout)) },
          some (.timedOut i))
      else none
  | _ => none

/-- An attempt begins on a thread: it calls the work unless its token is cancelled. -/
def began (i : Nat) (r : TimedRun α) : TimedRun α × Option (TimedEvent α) :=
  if r.isCancelled i then (r, none)
  else (r.modify i .call, some (.called i))

/-- An attempt ends on its thread. One that did not call the work has nothing to deliver. -/
def ended (i : Nat) (result : Option (Except Failure α)) (r : TimedRun α) :
    TimedRun α × Option (TimedEvent α) :=
  match r.hasCalled i, result with
  | true, some outcome => (r.modify i (.deliver outcome), some (.delivered i outcome))
  | true, none => (r.modify i .drop, some (.panicked i))
  | false, _ => (r.modify i .drop, none)

/-- Whether a move of the pool is none of the retrying thread's. Others submit no attempts, and the end
of a job comes with its result. -/
def isOfOthers (r : TimedRun α) : PoolMove (Option Nat) → Bool
  | .submit job => job.isNone
  | .reserve => r.pool.submitted == some none
  | .endJob _ _ => false
  | _ => true

/-- The next state of a retried call, and what is told of the move. A move that cannot happen has
none. -/
def step (r : TimedRun α) (now : Nanos) :
    TimedMove α → Option (TimedRun α × Option (TimedEvent α))
  | .caller => r.stepCaller now
  | .timeout => r.stepTimeout
  | .finish w result =>
    (r.pool.step now (.endJob w result.isNone)).map fun (pool, e) =>
      match e with
      | .ended (some i) _ => ended i result { r with pool }
      | _ => ({ r with pool }, none)
  | .worker m =>
    if r.isOfOthers m then
      (r.pool.step now m).map fun (pool, e) =>
        match e with
        | .began (some i) => began i { r with pool }
        | _ => ({ r with pool }, none)
    else none

/-- How many attempts called the work. -/
def calls (r : TimedRun α) : Nat := (r.attempts.filter TimedAttempt.called).length

/-! ## Runs in which everything happens promptly -/

/-- How an attempt behaves. -/
inductive Work (α : Type) where
  /-- Delivers a result at once. -/
  | returns (result : Except Failure α)
  /-- Panics at once. -/
  | panics
  /-- Goes on until its token is cancelled. -/
  | hangs

/-- What an attempt delivers when it ends. -/
def Work.result : Work α → Option (Except Failure α)
  | .returns r => some r
  | .panics => none
  | .hangs => some (.error .attemptAbandoned)

/-- Whether an attempt comes to its end. -/
def Work.ends (w : Work α) (cancelled : Bool) : Bool :=
  match w with
  | .hangs => cancelled
  | _ => true

/-- Whether a job has come to its end, and whether in a panic. Jobs that are no attempts go on for
ever. -/
def jobEnds (work : Nat → Work α) (r : TimedRun α) : Option Nat → Option Bool
  | some i => if (work i).ends (r.isCancelled i) then some (work i).result.isNone else none
  | none => none

/-- A move of the pool in the terms of a retried call. -/
def ofPoolMove (work : Nat → Work α) (r : TimedRun α) : PoolMove (Option Nat) → TimedMove α
  | .endJob w _ =>
    match r.pool.workers[w]? with
    | some (.running (some i)) => .finish w (work i).result
    | _ => .finish w none
  | m => .worker m

/-- What happens next if every thread moves as soon as it can: the pool first, then the retrying thread,
and time passes only if neither can move. -/
def nextMove (work : Nat → Work α) (r : TimedRun α) (now : Nanos) : TimedMove α :=
  match r.pool.anyMove? now (r.jobEnds work) with
  | some m => ofPoolMove work r m
  | none => if (r.stepCaller now).isSome then .caller else .timeout

/-- Goes on until the call has returned, for a number of steps. -/
def runPrompt (work : Nat → Work α) (now : Nanos) : Nat → TimedRun α → TimedRun α
  | 0, r => r
  | n + 1, r =>
    match r.step now (r.nextMove work now) with
    | some (r, _) => runPrompt work now n r
    | none => r

/-- A bound on the steps of a prompt run: every attempt takes a few steps of the retrying thread and of
a thread of the pool, and threads that were there before may leave. -/
def promptBound (r : TimedRun α) : Nat := 20 * (r.policy.times + 1) + 10 * r.pool.workers.length

/-- Makes a retried call in which everything happens promptly. -/
def prompt (policy : RetryPolicy) (timeout : Nat) (pool : RetryPool (Option Nat))
    (work : Nat → Work α) : TimedRun α :=
  let r := start policy timeout pool
  runPrompt work 0 r.promptBound r

/-- A pool in which some threads are kept busy by the jobs of others. -/
def occupy (pool : RetryPool (Option Nat)) : Nat → RetryPool (Option Nat)
  | 0 => pool
  | n + 1 => ((occupy pool n).execute 0 none).1

/-- What the call has returned, if it has. -/
def result? (r : TimedRun α) : Option (Except Failure α) :=
  match r.phase with
  | .returned outcome => some outcome
  | _ => none

end TimedRun

end BatchSync
