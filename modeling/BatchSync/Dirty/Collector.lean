import BatchSync.Record
import BatchSync.Retry.Loop
import BatchSync.Status.Basic

/-!
# Collecting dirty records

A plugin reports records that it cannot read or write. Every one of them is counted in the status of
the task, on the side that reported it; the first `maxLogged` of a collector are logged, and samples are
kept in the status as long as there is room for them.
-/

namespace BatchSync

/-- The sides of a task. -/
inductive Side where
  | reader
  | writer
  deriving DecidableEq

/-- The counter of the dirty records of a side. -/
def Side.dirtyRecords : Side → Counter
  | .reader => .readFailedRecords
  | .writer => .writeFailedRecords

/-- The counter of the dirty bytes of a side. -/
def Side.dirtyBytes : Side → Counter
  | .reader => .readFailedBytes
  | .writer => .writeFailedBytes

/-- A collector of one side of a task. -/
structure DirtyCollector where
  side : Side
  /-- How many samples the status may hold. -/
  maxSamples : Nat
  /-- How many dirty records were collected. -/
  collected : Nat

namespace DirtyCollector

/-- How many dirty records of a collector are logged. -/
def maxLogged : Nat := 100

/-- A collector that has seen nothing yet. -/
def make (side : Side) (maxSamples : Nat) : DirtyCollector := ⟨side, maxSamples, 0⟩

/-- The event that logs a dirty record. -/
def event (r : Record) (e : PluginError) : LogEvent :=
  ⟨.warn, "dirty record " ++ r.text ++ ": " ++ e.text⟩

/-- The sample of a dirty record. -/
def sampleOf (r : Record) (e : PluginError) : DirtySample := ⟨r.toJson, e.text⟩

/-- The status of a task after one more dirty record of a side. -/
def account (side : Side) (maxSamples : Nat) (s : TaskStatus) (r : Record) (e : PluginError) :
    TaskStatus :=
  ((s.add side.dirtyRecords 1).add side.dirtyBytes r.byteSize).sample (sampleOf r e) maxSamples

/-- What is logged of the next dirty record. -/
def eventsOf (c : DirtyCollector) (r : Record) (e : PluginError) : List LogEvent :=
  if c.collected < maxLogged then [event r e] else []

/-- Collects a dirty record into the status of its task: the collector, the status and what is logged
of it. -/
def collect (c : DirtyCollector) (s : TaskStatus) (r : Record) (e : PluginError) :
    DirtyCollector × TaskStatus × List LogEvent :=
  ({ c with collected := c.collected + 1 }, account c.side c.maxSamples s r e, c.eventsOf r e)

end DirtyCollector

end BatchSync
