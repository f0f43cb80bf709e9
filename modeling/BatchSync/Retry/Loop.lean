import BatchSync.Retry.Policy

/-!
# Trying again

Work is tried until it succeeds, until it fails in a way that the policy does not try again, or until
all attempts have failed. The first failure of all is logged as an error, and every wait between two
attempts is logged before and after it.
-/

namespace BatchSync

/-- The levels of log events. -/
inductive LogLevel where
  | error
  | warn
  | info
  | debug
  deriving DecidableEq

/-- The initial of a level. -/
def LogLevel.initial : LogLevel → String
  | .error => "E"
  | .warn => "W"
  | .info => "I"
  | .debug => "D"

/-- A log event. -/
structure LogEvent where
  level : LogLevel
  message : String

/-- Something that happens while work is tried. -/
inductive RetryEvent where
  /-- The work is called, for the attempt of an index. -/
  | called (index : Nat)
  | slept (delay : Nanos)
  | logged (e : LogEvent)

namespace RetryEvent

/-- The attempt that is made. -/
def called? : RetryEvent → Option Nat
  | .called index => some index
  | _ => none

/-- The time slept. -/
def slept? : RetryEvent → Option Nanos
  | .slept delay => some delay
  | _ => none

/-- What is logged. -/
def logged? : RetryEvent → Option LogEvent
  | .logged e => some e
  | _ => none

end RetryEvent

/-- All that happened while work was tried, and the result of the last attempt. -/
structure RetryRun (α : Type) where
  events : List RetryEvent
  result : Except Failure α

namespace RetryRun

variable {α : Type}

/-- The attempts that were made. -/
def called (r : RetryRun α) : List Nat := r.events.filterMap RetryEvent.called?

/-- How often the work was called. -/
def calls (r : RetryRun α) : Nat := r.called.length

/-- The times slept. -/
def sleeps (r : RetryRun α) : List Nanos := r.events.filterMap RetryEvent.slept?

/-- What was logged. -/
def logged (r : RetryRun α) : List LogEvent := r.events.filterMap RetryEvent.logged?

/-- Puts what happened before to what happened in a run. -/
def after (events : List RetryEvent) (r : RetryRun α) : RetryRun α :=
  { r with events := events ++ r.events }

/-- Milliseconds of a span of time. -/
def millis (d : Nanos) : Nat := d / 1000000

/-- What happens in an attempt that fails. The first failure of all is logged. -/
def failed (index : Nat) (f : Failure) : List RetryEvent :=
  .called index :: if index = 0 then [.logged ⟨.error, "attempt failed: " ++ f.message⟩] else []

/-- The wait after a failure. There is none if there is no time to wait. -/
def pause (policy : RetryPolicy) (index : Nat) (f : Failure) : List RetryEvent :=
  let delay := policy.backoff index
  if delay = 0 then []
  else
    [.logged ⟨.warn, s!"attempt {index + 1}/{policy.times} failed (" ++ f.message ++
        s!"); retrying in {millis delay} ms"⟩,
      .slept delay,
      .logged ⟨.warn, s!"slept {millis delay} ms, starting attempt {index + 2}"⟩]

/-- Tries work from the attempt of an index on. The attempt of index `i` yields `work i`. -/
def goOn (policy : RetryPolicy) (work : Nat → Except Failure α) (index : Nat) : RetryRun α :=
  match work index with
  | .ok a => ⟨[.called index], .ok a⟩
  | .error f =>
    if policy.isRetryable f.kind then
      if index + 1 < policy.times then
        (goOn policy work (index + 1)).after (failed index f ++ pause policy index f)
      else ⟨failed index f, .error f⟩
    else ⟨failed index f, .error f⟩
termination_by policy.times - index

/-- Tries work by a policy. -/
def run (policy : RetryPolicy) (work : Nat → Except Failure α) : RetryRun α := goOn policy work 0

/-! ## What happened before and in a run -/

@[simp] theorem sleeps_after (events : List RetryEvent) (r : RetryRun α) :
    (r.after events).sleeps = events.filterMap RetryEvent.slept? ++ r.sleeps := by
  simp [sleeps, after]

end RetryRun

end BatchSync
