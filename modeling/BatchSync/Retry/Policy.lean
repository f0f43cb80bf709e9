import BatchSync.Failure.Basic
import BatchSync.Number.Word

/-!
# Retry policies

How often something is tried, how long to wait in between, and which failures are worth another try.
The wait may double after every failure; it is never longer than `maxSleep`.
-/

namespace BatchSync

/-- A span of time, in nanoseconds. -/
abbrev Nanos := Nat

/-- The longest wait between two attempts, 256 seconds. -/
def maxSleep : Nanos := 256 * 1000000000

/-- The bound of spans of time: their seconds are words of 64 bits. -/
def spanLimit : Nanos := wordLimit * 1000000000

/-- The wait after the failure of the attempt of the given index: `sleep`, doubled as many times if
the wait grows, up to `maxSleep`. Factors that are no words of 32 bits and products that are no spans
count as `maxSleep`, and a wait of nothing never grows. -/
def backoffDelay (sleep : Nanos) (failedIndex : Nat) (exponential : Bool) : Nanos :=
  if sleep = 0 then 0
  else if exponential then
    if failedIndex < 32 ∧ sleep * Nat.pow 2 failedIndex < spanLimit then
      min (sleep * Nat.pow 2 failedIndex) maxSleep
    else maxSleep
  else min sleep maxSleep

/-- When to try again. -/
structure RetryPolicy where
  /-- How many attempts there are at most. -/
  times : Nat
  sleep : Nanos
  exponential : Bool
  /-- The kinds of failures that are tried again; all of them if none is named. -/
  retryable : List FailureKind

namespace RetryPolicy

/-- A policy. There has to be at least one attempt. -/
def make (times : Nat) (sleep : Nanos) (exponential : Bool) (retryable : List FailureKind) :
    Except Failure RetryPolicy :=
  if times = 0 then
    .error (.invalidArgument s!"retry times must be at least 1, got {times}")
  else .ok ⟨times, sleep, exponential, retryable⟩

/-- Whether failures of a kind are tried again. -/
def isRetryable (p : RetryPolicy) (k : FailureKind) : Bool :=
  p.retryable.isEmpty || p.retryable.contains k

/-- The wait after the failure of the attempt of the given index. -/
def backoff (p : RetryPolicy) (failedIndex : Nat) : Nanos :=
  backoffDelay p.sleep failedIndex p.exponential

end RetryPolicy

end BatchSync
