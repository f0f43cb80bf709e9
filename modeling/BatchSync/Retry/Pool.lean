import BatchSync.Retry.Policy

/-!
# Thread pools for attempts

A pool runs jobs on threads of its own. It has no queue: a job is handed to a thread that waits for
one, or a new thread is started for it while there are fewer than allowed, or it is rejected. A thread
that has waited for long enough leaves, and so do all threads once the pool is shut down and their
jobs have ended.

The pool moves in steps (`RetryPool.step`), which its threads and its callers take in any order. A
caller submits a job in two steps: it looks for a thread that waits, and then reserves room for a new
one. It keeps other callers out in between, but not the threads.

A thread for which there is room can always be started here. What is left out is a system that refuses
to start one: the room is given back then, and the job is rejected as if there had been none.
-/

namespace BatchSync

/-- A thread of a pool. -/
inductive Worker (J : Type) where
  /-- Has a job that it has not begun. -/
  | given (job : J)
  /-- Counts as running, and is about to begin its job. -/
  | enlisted (job : J)
  | running (job : J)
  /-- Its job has ended, and it still counts as running. -/
  | over
  /-- About to wait for a job. -/
  | ready
  /-- Waits for a job since a time. -/
  | waiting (since : Nanos)
  /-- About to leave. -/
  | leaving

/-- A pool of threads. -/
structure RetryPool (J : Type) where
  /-- How many threads there may be. -/
  maxThreads : Nat
  /-- How long a thread waits for a job. -/
  keepAlive : Nanos
  /-- Whether jobs are taken. -/
  isOpen : Bool
  /-- How many threads there are. -/
  threads : Nat
  /-- How many threads run a job. -/
  active : Nat
  workers : List (Worker J)
  /-- A job that found no thread waiting, and looks for room for a new one. -/
  submitted : Option J

/-- What can happen in a pool. -/
inductive PoolMove (J : Type) where
  /-- A caller submits a job. -/
  | submit (job : J)
  /-- The caller reserves a thread for its job. -/
  | reserve
  /-- The pool is shut down. -/
  | shutDown
  /-- A thread that was given a job counts as running from now on. -/
  | enlist (worker : Nat)
  /-- A thread begins its job. -/
  | beginJob (worker : Nat)
  /-- The job of a thread ends, in a panic or not. -/
  | endJob (worker : Nat) (panicked : Bool)
  /-- A thread whose job has ended no longer counts as running. -/
  | retire (worker : Nat)
  /-- A thread begins to wait. -/
  | wait (worker : Nat)
  /-- A thread has waited for long enough. -/
  | expire (worker : Nat)
  /-- A thread that waits sees that the pool is shut down. -/
  | hangUp (worker : Nat)
  /-- A thread leaves. -/
  | leave (worker : Nat)

/-- What others see of a move. -/
inductive PoolEvent (J : Type) where
  | accepted (job : J)
  | rejected (job : J)
  | began (job : J)
  | ended (job : J) (panicked : Bool)
  /-- Nothing that concerns a job. -/
  | quiet

namespace RetryPool

variable {J : Type}

/-- An open pool without threads. It may have one at least. -/
def make (maxThreads : Nat) (keepAlive : Nanos) : RetryPool J :=
  ⟨max maxThreads 1, keepAlive, true, 0, 0, [], none⟩

/-- A pool for bursts of short attempts: five threads, which wait for a minute. -/
def forRetries : RetryPool J := make 5 (60 * 1000000000)

/-- Why a job is rejected. -/
def rejection (p : RetryPool J) : Failure := .attemptRejected p.maxThreads

/-- Since when a thread waits. -/
def waitingSince? : Worker J → Option Nanos
  | .waiting since => some since
  | _ => none

/-- The thread that has waited for the longest time. -/
def longestWaiting? (p : RetryPool J) : Option Nat :=
  match (p.workers.filterMap waitingSince?).min? with
  | none => none
  | some since => p.workers.findIdx? fun w => waitingSince? w == some since

/-- Replaces a thread. -/
def setWorker (p : RetryPool J) (i : Nat) (w : Worker J) : RetryPool J :=
  { p with workers := p.workers.set i w }

/-- The pool takes no more jobs. -/
def shutDown (p : RetryPool J) : RetryPool J := { p with isOpen := false }

/-- The next state of a pool at a time, and what others see of it. A move that cannot happen has
none. -/
def step (p : RetryPool J) (now : Nanos) : PoolMove J → Option (RetryPool J × PoolEvent J)
  | .submit job =>
    match p.submitted with
    | some _ => none
    | none =>
      if p.isOpen then
        match p.longestWaiting? with
        | some i => some (p.setWorker i (.given job), .accepted job)
        | none => some ({ p with submitted := some job }, .quiet)
      else some (p, .rejected job)
  | .reserve =>
    match p.submitted with
    | none => none
    | some job =>
      if p.threads < p.maxThreads then
        some ({ p with
          threads := p.threads + 1, workers := p.workers ++ [.given job], submitted := none },
          .accepted job)
      else some ({ p with submitted := none }, .rejected job)
  | .shutDown =>
    match p.submitted with
    | some _ => none
    | none => some (p.shutDown, .quiet)
  | .enlist i =>
    match p.workers[i]? with
    | some (.given job) =>
      some ({ p.setWorker i (.enlisted job) with active := p.active + 1 }, .quiet)
    | _ => none
  | .beginJob i =>
    match p.workers[i]? with
    | some (.enlisted job) => some (p.setWorker i (.running job), .began job)
    | _ => none
  | .endJob i panicked =>
    match p.workers[i]? with
    | some (.running job) => some (p.setWorker i .over, .ended job panicked)
    | _ => none
  | .retire i =>
    match p.workers[i]? with
    | some .over => some ({ p.setWorker i .ready with active := p.active - 1 }, .quiet)
    | _ => none
  | .wait i =>
    match p.workers[i]? with
    | some .ready => some (p.setWorker i (.waiting now), .quiet)
    | _ => none
  | .expire i =>
    match p.workers[i]? with
    | some (.waiting since) =>
      if since + p.keepAlive ≤ now then some (p.setWorker i .leaving, .quiet) else none
    | _ => none
  | .hangUp i =>
    match p.workers[i]? with
    | some (.waiting _) => if p.isOpen then none else some (p.setWorker i .leaving, .quiet)
    | _ => none
  | .leave i =>
    match p.workers[i]? with
    | some .leaving =>
      some ({ p with workers := p.workers.eraseIdx i, threads := p.threads - 1 }, .quiet)
    | _ => none

/-- The moves that a thread can take by itself, apart from ending its job. -/
def ownMoves (i : Nat) : List (PoolMove J) :=
  [.enlist i, .beginJob i, .retire i, .wait i, .hangUp i, .expire i, .leave i]

/-- What a thread does next by itself, where `ends` tells which jobs have come to their end, and whether
in a panic. -/
def nextMove? (p : RetryPool J) (now : Nanos) (ends : J → Option Bool) (i : Nat) :
    Option (PoolMove J) :=
  match p.workers[i]? with
  | some (.running job) => (ends job).map (.endJob i)
  | _ => (ownMoves i).find? fun m => (p.step now m).isSome

/-- The next move of the first thread that can take one by itself. -/
def anyMove? (p : RetryPool J) (now : Nanos) (ends : J → Option Bool) : Option (PoolMove J) :=
  (List.range p.workers.length).findSome? (p.nextMove? now ends)

/-- Whether a pool takes a job now, and the pool after it. -/
def execute (p : RetryPool J) (now : Nanos) (job : J) : RetryPool J × Bool :=
  match p.step now (.submit job) with
  | some (p, .accepted _) => (p, true)
  | some (p, .quiet) =>
    match p.step now .reserve with
    | some (p, .accepted _) => (p, true)
    | some (p, _) => (p, false)
    | none => (p, false)
  | some (p, _) => (p, false)
  | none => (p, false)

@[simp] theorem maxThreads_make_pos (n : Nat) (k : Nanos) :
    0 < (make n k : RetryPool J).maxThreads :=
  Nat.lt_of_lt_of_le Nat.zero_lt_one (Nat.le_max_right n 1)

end RetryPool

end BatchSync
