import BatchSync.Dirty.Collector

/-!
# Collecting in steps

The plugins of a task report their dirty records on threads of their own, and while a record is collected
others may act on the status between any two steps: the record is counted, its bytes are, it gets a number
from the collector of its side and is logged if that is low enough, and it becomes a sample if there is
room. Taken without a break, the steps are `DirtyCollector.collect`.
-/

namespace BatchSync

/-- How far a thread has come in collecting a dirty record. -/
inductive Collecting where
  /-- About to count the record. -/
  | counting
  /-- About to count its bytes. -/
  | weighing
  /-- About to get a number for it. -/
  | numbering
  /-- About to log it, as the one of a number. -/
  | logging (number : Nat)
  /-- About to keep it as a sample. -/
  | keeping
  /-- Nothing is left to do. -/
  | done
  deriving DecidableEq

/-- A collector and the status of its task after a step, what was logged in it, and how far the thread
has come. -/
structure CollectStep where
  collector : DirtyCollector
  status : TaskStatus
  logged : List LogEvent
  next : Collecting

namespace Collecting

/-- What is logged of a dirty record of a number. -/
def eventsAt (number : Nat) (r : Record) (e : PluginError) : List LogEvent :=
  if number < DirtyCollector.maxLogged then [DirtyCollector.event r e] else []

/-- The next step. -/
def step (k : DirtyCollector) (s : TaskStatus) (r : Record) (e : PluginError) : Collecting → CollectStep
  | .counting => ⟨k, s.add k.side.dirtyRecords 1, [], .weighing⟩
  | .weighing => ⟨k, s.add k.side.dirtyBytes r.byteSize, [], .numbering⟩
  | .numbering => ⟨{ k with collected := k.collected + 1 }, s, [], .logging k.collected⟩
  | .logging number => ⟨k, s, eventsAt number r e, .keeping⟩
  | .keeping => ⟨k, s.sample (DirtyCollector.sampleOf r e) k.maxSamples, [], .done⟩
  | .done => ⟨k, s, [], .done⟩

/-- Whether nothing is left to do. -/
def isDone : Collecting → Bool
  | .done => true
  | _ => false

/-- Five steps without a break collect a dirty record. -/
theorem five_steps (k : DirtyCollector) (s : TaskStatus) (r : Record) (e : PluginError) :
    let a := step k s r e .counting
    let b := step a.collector a.status r e a.next
    let c := step b.collector b.status r e b.next
    let d := step c.collector c.status r e c.next
    let z := step d.collector d.status r e d.next
    (z.collector, z.status, d.logged) = k.collect s r e ∧ z.next = .done ∧
      a.logged = [] ∧ b.logged = [] ∧ c.logged = [] ∧ z.logged = [] :=
  ⟨rfl, rfl, rfl, rfl, rfl, rfl⟩

end Collecting

end BatchSync
