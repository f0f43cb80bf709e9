import BatchSync.Attempt.Basic
import BatchSync.Dirty.Limit
import BatchSync.Number.Word
import BatchSync.Status.Merge

/-!
# Groups of tasks

A group runs tasks, several at a time. Drivers take tasks from a queue, one at a time each, and make
attempts of them: an attempt has a status of its own, which is the status of its task until the next
attempt begins, and its plugins are made anew. A driver watches over its attempt: it reports its
progress to the monitor, ends it once it has failed or the group was stopped, and waits for its threads,
but not for ever. A failed attempt is followed by another one as the policy allows.

This module holds the state of a group; `Group.Driver` holds the steps of drivers, and `Group.Step` all
that can happen.
-/

namespace BatchSync

/-- A task: its number, and its plugins as they are made for one attempt after the other. -/
structure TaskSpec (ρ ω : Type) where
  task : Nat
  /-- Whether the plugins are told about without their `init` and `destroy`. -/
  plain : Bool
  /-- The reader of a number. -/
  reader : Nat → Except PluginError ρ
  /-- The writer of a number. -/
  writer : Nat → Except PluginError ω

/-- A task in the hands of a driver. -/
structure Job (ρ ω : Type) where
  spec : TaskSpec ρ ω
  /-- How many attempts have failed. -/
  failed : Nat
  /-- How many readers were asked for. -/
  readers : Nat
  /-- How many writers were asked for. -/
  writers : Nat

/-- Where a driver is. Attempts are known by their places. -/
inductive DriverPhase (ρ ω : Type) where
  /-- About to take a task. -/
  | idle
  /-- About to begin an attempt. -/
  | entering (j : Job ρ ω)
  /-- About to make the reader. -/
  | makingReader (j : Job ρ ω) (a : Nat)
  /-- About to make the writer. -/
  | makingWriter (j : Job ρ ω) (a : Nat) (r : ρ)
  /-- About to register the attempt with the monitor. -/
  | registering (j : Job ρ ω) (a : Nat)
  /-- About to look whether the threads have ended. -/
  | watching (j : Job ρ ω) (a : Nat)
  /-- Sleeping before the next look. -/
  | sleeping (j : Job ρ ω) (a : Nat) (ends : Nanos)
  /-- About to stamp the attempt. -/
  | stamping (j : Job ρ ω) (a : Nat)
  /-- About to report to the monitor. -/
  | reporting (j : Job ρ ω) (a : Nat)
  /-- Failing the attempt because it hangs. -/
  | hanging (j : Job ρ ω) (a : Nat) (f : Failing)
  /-- About to look whether the attempt is finished. -/
  | judging (j : Job ρ ω) (a : Nat)
  /-- About to look whether the group was stopped. -/
  | consulting (j : Job ρ ω) (a : Nat)
  /-- About to capture why the group was stopped. -/
  | stopping (j : Job ρ ω) (a : Nat) (f : Failure)
  /-- About to move an attempt that was stopped to its state. -/
  | killing (j : Job ρ ω) (a : Nat)
  /-- About to close the channel if the attempt is finished. -/
  | leaving (j : Job ρ ω) (a : Nat)
  /-- Waiting for the threads to end, but not for ever. -/
  | joining (j : Job ρ ω) (a : Nat) (ends : Nanos)
  /-- About to read the result off the status. -/
  | concluding (j : Job ρ ω) (a : Nat)
  /-- About to remove the task from the monitor. -/
  | removing (j : Job ρ ω) (a : Nat) (result : Except Failure Unit)
  /-- About to settle the state. -/
  | settling (j : Job ρ ω) (a : Nat) (result : Except Failure Unit)
  /-- Failing the attempt with its result. -/
  | failing (j : Job ρ ω) (a : Nat) (f : Failing) (result : Except Failure Unit)
  /-- About to stamp an attempt that has succeeded. -/
  | sealing (j : Job ρ ω) (a : Nat)
  /-- About to decide whether there is another attempt. -/
  | deciding (j : Job ρ ω) (result : Except Failure Unit)
  /-- Sleeping before the next attempt. -/
  | resting (j : Job ρ ω) (ends : Nanos)
  /-- No task is left, or the group was stopped. -/
  | exited

/-- What was told of a plugin of an attempt. -/
structure JournalEntry where
  attempt : Nat
  side : Side
  event : PluginEvent

/-- What the plugins of a group do. -/
structure GroupPlugins (ρ ω : Type) where
  reader : Reader ρ
  writer : Writer ω

/-- A group of tasks. -/
structure Group (ρ ω : Type) where
  config : CoreConfig
  policy : RetryPolicy
  /-- The time, in milliseconds since the epoch. -/
  now : Int
  /-- The time for which waits are counted. -/
  instant : Nanos
  monitor : HangMonitor
  /-- The tasks that no driver has taken. -/
  queue : List (TaskSpec ρ ω)
  /-- All attempts, in the order in which they began. -/
  attempts : List (Attempt ρ ω)
  /-- The latest attempt of every task that was begun, by the numbers of the tasks. -/
  latest : List (Nat × Nat)
  drivers : List (DriverPhase ρ ω)
  /-- The failures of tasks that failed for good, in the order in which they came. -/
  failures : List Failure
  /-- The failure that stopped the group. -/
  fatal : Option Failure
  journal : List JournalEntry
  /-- What the run of the group has returned, if it is over. -/
  result : Option (Except Failure TaskStatus)

namespace Group

variable {ρ ω : Type}

/-- The kinds of failures after which there may be another attempt. -/
def retryableKinds : List FailureKind :=
  [.conversionUnsupported, .channelClosed, .taskHungExpired, .attemptTimeout, .attemptRejected,
    .attemptAbandoned, .plugin]

/-- The largest number of attempts. -/
def maxAttempts : Nat := halfWordLimit - 1

/-- The policy for failed attempts: as many more as configured, after the configured sleep. -/
def failoverPolicy (c : FailoverConfig) : RetryPolicy :=
  ⟨min (c.maxRetryTimes + 1) maxAttempts, FlowControl.ofMillis c.retryInterval, false, retryableKinds⟩

/-- A group that is about to run its tasks at a time, with as many drivers as may be of use. -/
def start (config : CoreConfig) (now : Int) (tasks : List (TaskSpec ρ ω)) : Group ρ ω where
  config
  policy := failoverPolicy config.container.task.failover
  now
  instant := 0
  monitor := .make config.container.task.hangTimeout
  queue := tasks
  attempts := []
  latest := []
  drivers := List.replicate (min config.container.taskGroup.channel tasks.length) .idle
  failures := []
  fatal := none
  journal := []
  result := none

/-- The limit on dirty records. -/
def limit (g : Group ρ ω) : ErrorLimit := .ofConfig g.config.job.errorLimit

/-- Whether the group was stopped. -/
def isStopped (g : Group ρ ω) : Bool := g.fatal.isSome

/-- Whether the run of the group is over. -/
def isOver (g : Group ρ ω) : Bool := g.result.isSome

/-- Stops the group, unless it was stopped already. -/
def stop (g : Group ρ ω) (f : Failure) : Group ρ ω := { g with fatal := g.fatal.or (some f) }

/-- A place among sorted numbers. -/
def insertLatest (task attempt : Nat) : List (Nat × Nat) → List (Nat × Nat)
  | [] => [(task, attempt)]
  | (t, a) :: rest =>
    if t = task then (task, attempt) :: rest
    else if task < t then (task, attempt) :: (t, a) :: rest
    else (t, a) :: insertLatest task attempt rest

/-- The statuses of the tasks that were begun, by the numbers of the tasks. -/
def statuses (g : Group ρ ω) : List TaskStatus :=
  g.latest.filterMap fun l => (g.attempts[l.2]?).map Attempt.status

/-- The status of the group. -/
def status (g : Group ρ ω) : TaskStatus := .merge g.statuses

/-- The status of a task, if it was begun. -/
def taskStatus? (g : Group ρ ω) (task : Nat) : Option TaskStatus := do
  let a ← g.latest.lookup task
  (← g.attempts[a]?).status

/-- Changes an attempt. -/
def modifyAttempt (g : Group ρ ω) (a : Nat) (f : Attempt ρ ω → Attempt ρ ω) : Group ρ ω :=
  { g with attempts := g.attempts.modify a f }

/-- Adds to the journal. -/
def tell (g : Group ρ ω) (attempt : Nat) (side : Side) (events : List PluginEvent) : Group ρ ω :=
  { g with journal := g.journal ++ events.map fun e => ⟨attempt, side, e⟩ }

/-- Whether an event is told of plugins of an attempt. -/
def tells (plain : Bool) : PluginEvent → Bool
  | .init => !plain
  | .destroy => !plain
  | _ => true

/-- What was told of the plugins of one side of a task. -/
def events (g : Group ρ ω) (task : Nat) (side : Side) : List PluginEvent :=
  g.journal.filterMap fun e => do
    let a ← g.attempts[e.attempt]?
    if a.task = task && e.side = side && tells a.plain e.event then some e.event else none

end Group

end BatchSync
