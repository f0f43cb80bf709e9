import BatchSync.Group.Basic

/-!
# Drivers

The steps of a driver, from taking a task to the result of its last attempt. Others may act between any
two of them.

The two threads of an attempt can always be started here. What is left out is a system that refuses to
start one: the driver fails the attempt for it without watching over it, and closes the channel before
if it was the thread of the writer.
-/

namespace BatchSync

namespace Group

variable {ρ ω : Type}

/-- Why an attempt that was stopped has failed. -/
def stopFailure (g : Group ρ ω) : Failure := g.fatal.getD .attemptAbandoned

/-- The result of an attempt, read off its status. -/
def resultOf (g : Group ρ ω) (s : TaskStatus) : Except Failure Unit :=
  if s.state = .killed then .error g.stopFailure
  else
    match s.failure with
    | some f => .error f
    | none => .ok ()

/-- Takes the next task from the queue. -/
def takeTask (g : Group ρ ω) : Group ρ ω × DriverPhase ρ ω :=
  if g.isStopped then (g, .exited)
  else
    match g.queue with
    | [] => (g, .exited)
    | spec :: rest => ({ g with queue := rest }, .entering ⟨spec, 0, 0, 0⟩)

/-- Begins an attempt, unless the group was stopped. -/
def enter (g : Group ρ ω) (j : Job ρ ω) : Group ρ ω × DriverPhase ρ ω :=
  if g.isStopped then (g, .deciding j (.error g.stopFailure))
  else
    let a : Attempt ρ ω :=
      .ofConfig j.spec.task j.spec.plain g.config.transport.channel g.now g.instant
    ({ g with
      attempts := g.attempts ++ [a]
      latest := insertLatest j.spec.task g.attempts.length g.latest },
      .makingReader j g.attempts.length)

/-- Makes the reader of an attempt. -/
def makeReader (g : Group ρ ω) (j : Job ρ ω) (a : Nat) : Group ρ ω × DriverPhase ρ ω :=
  let made := { j with readers := j.readers + 1 }
  (g.tell a .reader [.created j.readers],
    match j.spec.reader j.readers with
    | .ok r => .makingWriter made a r
    | .error e => .removing made a (.error (.ofPlugin e)))

/-- Makes the writer of an attempt, and starts the threads. -/
def makeWriter (g : Group ρ ω) (j : Job ρ ω) (a : Nat) (r : ρ) : Group ρ ω × DriverPhase ρ ω :=
  let made := { j with writers := j.writers + 1 }
  let g := g.tell a .writer [.created j.writers]
  match j.spec.writer j.writers with
  | .ok w =>
    (g.modifyAttempt a fun t => t.start g.config.transport.exchanger.bufferSize
      g.config.statistics.maxDirtyNumber r w, .registering made a)
  | .error e => (g, .removing made a (.error (.ofPlugin e)))

/-- When a span of milliseconds that begins now is over. -/
def after (g : Group ρ ω) (millis : Nat) : Nanos := g.instant + FlowControl.ofMillis millis

/-- Reports the progress of an attempt to the monitor. -/
def reportProgress (g : Group ρ ω) (j : Job ρ ω) (a : Nat) (s : TaskStatus) :
    Group ρ ω × DriverPhase ρ ω :=
  let v := g.monitor.look g.now j.spec.task s
  let next :=
    match v.hung with
    | some f => .hanging j a (.checking f g.now)
    | none => .judging j a
  ({ g with monitor := v.monitor }, next)

/-- Changes the status of an attempt. -/
def mapStatus (g : Group ρ ω) (a : Nat) (f : TaskStatus → TaskStatus) : Group ρ ω :=
  g.modifyAttempt a (·.mapStatus f)

/-- Decides what comes after an attempt. -/
def conclude (g : Group ρ ω) (j : Job ρ ω) :
    Except Failure Unit → Group ρ ω × DriverPhase ρ ω
  | .ok () => (g, .idle)
  | .error f =>
    if g.policy.isRetryable f.kind && j.failed + 1 < g.policy.times then
      (g, .resting { j with failed := j.failed + 1 } (g.instant + g.policy.backoff j.failed))
    else ({ g with failures := g.failures ++ [.taskFailed j.spec.task f] }, .idle)

/-- The step of a driver in a phase. There is none while it sleeps or waits, and none after its end. -/
def stepPhase (g : Group ρ ω) : DriverPhase ρ ω → Option (Group ρ ω × DriverPhase ρ ω)
  | .idle => some g.takeTask
  | .entering j => some (g.enter j)
  | .makingReader j a => some (g.makeReader j a)
  | .makingWriter j a r => some (g.makeWriter j a r)
  | .registering j a => do
    let s ← (g.attempts[a]?).map Attempt.status
    some ({ g with monitor := g.monitor.register g.now j.spec.task s }, .watching j a)
  | .watching j a => do
    let t ← g.attempts[a]?
    if t.isOver then some (g, .leaving j a)
    else some (g, .sleeping j a (g.after g.config.container.taskGroup.sleepInterval))
  | .sleeping j a ends => if ends ≤ g.instant then some (g, .stamping j a) else none
  | .stamping j a => some (g.mapStatus a (·.stamp g.now), .reporting j a)
  | .reporting j a => do
    let s ← (g.attempts[a]?).map Attempt.status
    some (g.reportProgress j a s)
  | .hanging j a .done => some (g, .judging j a)
  | .hanging j a f => do
    let s ← (g.attempts[a]?).map Attempt.status
    let (s, f) := f.step s
    some (g.mapStatus a fun _ => s, .hanging j a f)
  | .judging j a => do
    let s ← (g.attempts[a]?).map Attempt.status
    some (g, if s.isFinished then .leaving j a else .consulting j a)
  | .consulting j a =>
    some (g, match g.fatal with
      | some f => .stopping j a f
      | none => .watching j a)
  | .stopping j a f => some (g.mapStatus a (·.capture f), .killing j a)
  | .killing j a => some (g.mapStatus a (·.moveTo .killed), .leaving j a)
  | .leaving j a =>
    some (g.modifyAttempt a fun t => if t.status.isFinished then { t with line := t.line.close } else t,
      .joining j a (g.after g.config.container.task.failover.maxWait))
  | .joining j a ends => do
    let t ← g.attempts[a]?
    if t.isOver || ends ≤ g.instant then some (g, .concluding j a) else none
  | .concluding j a => do
    let s ← (g.attempts[a]?).map Attempt.status
    some (g, .removing j a (g.resultOf s))
  | .removing j a result =>
    some ({ g with monitor := g.monitor.remove j.spec.task }, .settling j a result)
  | .settling j a (.ok ()) => some (g.mapStatus a (·.moveTo .succeeded), .sealing j a)
  | .settling j a (.error f) => some (g, .failing j a (.checking f g.now) (.error f))
  | .failing j _ .done result => some (g, .deciding j result)
  | .failing j a f result => do
    let s ← (g.attempts[a]?).map Attempt.status
    let (s, f) := f.step s
    some (g.mapStatus a fun _ => s, .failing j a f result)
  | .sealing j a => some (g.mapStatus a (·.stamp g.now), .deciding j (.ok ()))
  | .deciding j result => some (g.conclude j result)
  | .resting j ends => if ends ≤ g.instant then some (g, .entering j) else none
  | .exited => none

/-- The step of a driver. -/
def stepDriver (g : Group ρ ω) (d : Nat) : Option (Group ρ ω) := do
  let phase ← g.drivers[d]?
  let (g, phase) ← g.stepPhase phase
  some { g with drivers := g.drivers.set d phase }

end Group

end BatchSync
