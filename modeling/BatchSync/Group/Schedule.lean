import BatchSync.Group.Step

/-!
# A schedule for groups

One way to run a group: in rounds, in which every thread and every driver takes steps for as long as it
can, though not too many at once. Then a moment passes; if all threads wait, time passes until the first
of the drivers that sleep wakes up. The group is looked at whenever its report is due. When the run has
returned, the threads that were given up go on to their ends.
-/

namespace BatchSync

/-- A group, and when it was last looked at. -/
structure GroupRun (ρ ω : Type) where
  group : Group ρ ω
  reportedAt : Nanos

namespace Group

variable {ρ ω : Type}

/-- How many steps are taken at once. -/
def burst : Nat := 256

/-- Makes a move again and again while it can happen, up to a number of times. -/
def again (p : GroupPlugins ρ ω) (m : GroupMove) : Nat → Group ρ ω → Group ρ ω
  | 0, g => g
  | n + 1, g =>
    match g.step p m with
    | some g => again p m n g
    | none => g

/-- Lets the threads of all attempts take steps. -/
def runThreads (p : GroupPlugins ρ ω) (g : Group ρ ω) : Group ρ ω :=
  (List.range g.attempts.length).foldl
    (fun g a => again p (.writer a) burst (again p (.reader a) burst g)) g

/-- Lets all drivers take steps. -/
def runDrivers (p : GroupPlugins ρ ω) (g : Group ρ ω) : Group ρ ω :=
  (List.range g.drivers.length).foldl (fun g d => again p (.driver d) burst g) g

/-- When a driver wakes up, if it sleeps. -/
def wakesAt? : DriverPhase ρ ω → Option Nanos
  | .sleeping _ _ ends => some ends
  | .joining _ _ ends => some ends
  | .resting _ ends => some ends
  | _ => none

/-- How long it takes until the first of the drivers that sleep wakes up. -/
def idleSpan (g : Group ρ ω) : Nanos :=
  match (g.drivers.filterMap wakesAt?).min? with
  | some ends => ends - g.instant
  | none => 0

/-- Whether a thread can take a step. -/
def isBusy (p : GroupPlugins ρ ω) (g : Group ρ ω) : Bool :=
  (List.range g.attempts.length).any fun a =>
    (g.stepReader p a).isSome || (g.stepWriter p a).isSome

/-- How much time passes in a round while threads are busy, at most. -/
def moment : Nanos := 1000000

/-- How much time passes in a round. -/
def roundSpan (p : GroupPlugins ρ ω) (g : Group ρ ω) : Nanos :=
  if g.isBusy p then min g.idleSpan moment else g.idleSpan

end Group

namespace GroupRun

variable {ρ ω : Type}

/-- Looks at the group if its report is due. -/
def reportIfDue (p : GroupPlugins ρ ω) (r : GroupRun ρ ω) : GroupRun ρ ω :=
  let interval := FlowControl.ofMillis r.group.config.container.taskGroup.reportInterval
  if r.reportedAt + interval ≤ r.group.instant then
    ⟨(r.group.step p .report).getD r.group, r.group.instant⟩
  else r

/-- A round. -/
def round (p : GroupPlugins ρ ω) (r : GroupRun ρ ω) : GroupRun ρ ω :=
  let g := (r.group.runThreads p).runDrivers p
  let r := reportIfDue p { r with group := g }
  { r with group := (r.group.step p (.tick (r.group.roundSpan p))).getD r.group }

/-- Rounds until the run returns, up to a number of them. -/
def rounds (p : GroupPlugins ρ ω) : Nat → GroupRun ρ ω → GroupRun ρ ω
  | 0, r => r
  | n + 1, r =>
    match r.group.step p .finish with
    | some g => { r with group := g }
    | none => rounds p n (r.round p)

/-- How many rounds a run may take. -/
def patience : Nat := 1000000

end GroupRun

namespace Group

variable {ρ ω : Type}

/-- Lets the threads that were given up come to their ends, as far as some rounds allow. -/
def windUp (p : GroupPlugins ρ ω) : Nat → Group ρ ω → Group ρ ω
  | 0, g => g
  | n + 1, g => windUp p n (g.runThreads p)

/-- How many rounds are left to threads that were given up. -/
def grace : Nat := 64

/-- Runs a group. -/
def run (p : GroupPlugins ρ ω) (g : Group ρ ω) : Group ρ ω :=
  windUp p grace (GroupRun.rounds p GroupRun.patience ⟨g, g.instant⟩).group

end Group

end BatchSync
