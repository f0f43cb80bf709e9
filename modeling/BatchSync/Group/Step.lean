import BatchSync.Group.Driver

/-!
# Runs of a group

All that can happen in a group: a driver, or a thread of an attempt, takes a step; the group looks at
its progress; time passes; and once all drivers have exited, the run returns.

While the group runs, it is stopped as soon as a look at its progress finds that the limit on dirty
records is exceeded. The run returns the failure that stopped it, or else the first failure of a task,
or else the status of the group; at the end, too, the limit is checked.
-/

namespace BatchSync

/-- What can happen in a group. -/
inductive GroupMove where
  /-- The thread of the reader of an attempt takes a step. -/
  | reader (a : Nat)
  /-- The thread of the writer of an attempt takes a step. -/
  | writer (a : Nat)
  /-- A driver takes a step. -/
  | driver (d : Nat)
  /-- The group looks at its progress. -/
  | report
  /-- Time passes for those who wait. -/
  | tick (span : Nanos)
  /-- The clock moves, in milliseconds. -/
  | pass (millis : Int)
  /-- The run returns. -/
  | finish

namespace Group

variable {ρ ω : Type}

/-- What the threads of an attempt see. -/
def surroundings (g : Group ρ ω) (task : Nat) : Surroundings :=
  ⟨task, g.now, g.instant, g.monitor.progress? task, g.isOver⟩

/-- The group after a thread of an attempt took a step. -/
def took (g : Group ρ ω) (a : Nat) (side : Side) (s : ThreadStep (Attempt ρ ω)) : Group ρ ω :=
  ({ g with now := g.now + s.elapsed, attempts := g.attempts.set a s.thread }).tell a side s.events

/-- A step of the reader of an attempt. -/
def stepReader (p : GroupPlugins ρ ω) (g : Group ρ ω) (a : Nat) : Option (Group ρ ω) := do
  let t ← g.attempts[a]?
  let s ← t.stepReader p.reader (g.surroundings t.task)
  some (g.took a .reader s)

/-- A step of the writer of an attempt. -/
def stepWriter (p : GroupPlugins ρ ω) (g : Group ρ ω) (a : Nat) : Option (Group ρ ω) := do
  let t ← g.attempts[a]?
  let s ← t.stepWriter p.writer (g.surroundings t.task)
  some (g.took a .writer s)

/-- Stops the group if a status exceeds the limit on dirty records. -/
def enforce (g : Group ρ ω) (s : TaskStatus) : Group ρ ω :=
  match g.limit.check s with
  | .ok () => g
  | .error f => g.stop f

/-- Whether all drivers have exited. -/
def isDone (g : Group ρ ω) : Bool :=
  g.drivers.all fun
    | .exited => true
    | _ => false

/-- What the run returns with a status. -/
def outcome (g : Group ρ ω) (s : TaskStatus) : Except Failure TaskStatus :=
  match g.fatal.or g.failures.head? with
  | some f => .error f
  | none => .ok s

/-- The run returns. -/
def finish (g : Group ρ ω) : Group ρ ω :=
  let s := g.status
  let g := g.enforce s
  { g with result := some (g.outcome s) }

/-- The next state of a group. A move that cannot happen has none. -/
def step (p : GroupPlugins ρ ω) (g : Group ρ ω) : GroupMove → Option (Group ρ ω)
  | .reader a => g.stepReader p a
  | .writer a => g.stepWriter p a
  | .driver d => g.stepDriver d
  | .report => if g.isOver then none else some (g.enforce g.status)
  | .tick span => some { g with instant := g.instant + span }
  | .pass millis => some { g with now := g.now + millis }
  | .finish => if g.isDone && !g.isOver then some g.finish else none

end Group

end BatchSync
