import BatchSync.Retry.Pool

/-!
# Pools at rest

A pool is looked at when nothing moves by itself any more: every thread waits for a job or runs one
that goes on until it is released.
-/

namespace BatchSync

/-- A job of a pool. -/
inductive PoolJob where
  /-- Goes on until it is released. Such jobs are known by their numbers. -/
  | held (number : Nat)
  /-- Ends at once. -/
  | quick
  /-- Panics at once. -/
  | panics
  deriving DecidableEq

/-- A pool with the jobs that were released. -/
structure PoolAtRest where
  pool : RetryPool PoolJob
  now : Nanos
  /-- How many jobs that go on were submitted. -/
  holds : Nat
  released : List Nat

namespace PoolAtRest

/-- A pool that nothing was asked of. -/
def make (pool : RetryPool PoolJob) : PoolAtRest := ⟨pool, 0, 0, []⟩

/-- Whether a job has come to its end, and whether in a panic. -/
def ends (s : PoolAtRest) : PoolJob → Option Bool
  | .held n => if s.released.contains n then some false else none
  | .quick => some false
  | .panics => some true

/-- Moves for as long as a thread can move by itself, up to a number of moves. -/
def settle : Nat → PoolAtRest → PoolAtRest
  | 0, s => s
  | n + 1, s =>
    match s.pool.anyMove? s.now s.ends with
    | none => s
    | some m =>
      match s.pool.step s.now m with
      | some (pool, _) => settle n { s with pool }
      | none => s

/-- Lets every thread come to rest: a thread begins and ends its job, waits, and leaves. -/
def rest (s : PoolAtRest) : PoolAtRest := settle (8 * s.pool.workers.length) s

/-- Submits a job: whether the pool takes it. -/
def submit (s : PoolAtRest) (job : PoolJob) : PoolAtRest × Bool :=
  let (pool, taken) := s.pool.execute s.now job
  (rest { s with pool, now := s.now + 1 }, taken)

/-- Submits a job that goes on until it is released. -/
def hold (s : PoolAtRest) : PoolAtRest × Bool :=
  submit { s with holds := s.holds + 1 } (.held s.holds)

/-- Releases a job, if there is one of the number. -/
def release (s : PoolAtRest) (number : Nat) : PoolAtRest :=
  if number < s.holds then rest { s with released := number :: s.released, now := s.now + 1 } else s

/-- Shuts the pool down. -/
def shutDown (s : PoolAtRest) : PoolAtRest :=
  match s.pool.step s.now .shutDown with
  | some (pool, _) => rest { s with pool }
  | none => s

/-- Lets time pass. -/
def sleep (s : PoolAtRest) (span : Nanos) : PoolAtRest := rest { s with now := s.now + span }

end PoolAtRest

end BatchSync
