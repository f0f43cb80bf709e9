import BatchSync.Plugin.Basic
import BatchSync.Status.Failing

/-!
# Steps of plugin threads

An attempt runs a reader and a writer, each on a thread of its own, which moves in steps. What a step
needs to know is in `Surroundings`, and what it does apart from moving the thread is in `ThreadStep`.
-/

namespace BatchSync

/-- What a thread sees of its group. -/
structure Surroundings where
  task : Nat
  /-- The time, in milliseconds since the epoch. -/
  now : Int
  /-- The time for which waits are counted. -/
  instant : Nanos
  /-- What the monitor knows of the task. -/
  progress : Option TaskProgress
  /-- Whether the group is over. -/
  isOver : Bool

/-- A step of a thread: what it does to the line of its attempt, how long it takes, and what is told
and logged of it. -/
structure ThreadStep (θ : Type) where
  thread : θ
  line : Line
  elapsed : Int
  events : List PluginEvent
  logged : List LogEvent

/-- A step that only moves the thread. -/
def ThreadStep.quiet {θ : Type} (line : Line) (thread : θ) : ThreadStep θ := ⟨thread, line, 0, [], []⟩

/-- What a plugin on a line sees while it waits. -/
def Surroundings.outlook (w : Surroundings) (l : Line) : Outlook :=
  ⟨w.now, w.progress, l.status.recordsRead, w.isOver⟩

end BatchSync
