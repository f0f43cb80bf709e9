import BatchSync.Number.Word
import BatchSync.Status.Basic

/-!
# Merging statuses

The status of a group is made of those of its tasks, and that of a job of those of its groups:
counters are added up, the worst state stands for all of them, the first failure is kept, messages and
samples follow each other, and the latest time counts.
-/

namespace BatchSync

/-- The earliest time that can be told, in milliseconds since the epoch. -/
def earliestTime : Int := -signedWordLimit

namespace TaskStatus

/-- Takes over the counters, the failure, the messages and the samples of another status. -/
def absorb (s t : TaskStatus) : TaskStatus :=
  { s with
    counters := s.counters.plus t.counters
    failure := s.failure.or t.failure
    notes := s.notes ++ t.notes
    dirty := s.dirty ++ t.dirty }

/-- The state that stands for several: the worst of them. -/
def worstState (l : List TaskStatus) : TaskState :=
  l.foldl (fun worst s => worst.worse s.state) .succeeded

/-- The latest time among several; the epoch if all of them are at the earliest time. -/
def latestTime (l : List TaskStatus) : Int :=
  let latest := l.foldl (fun latest s => max latest s.timestamp) earliestTime
  if latest = earliestTime then 0 else latest

/-- One status for several. -/
def merge (l : List TaskStatus) : TaskStatus :=
  { l.foldl absorb initial with state := worstState l, timestamp := latestTime l }

@[simp] theorem state_merge (l : List TaskStatus) : (merge l).state = worstState l := rfl

@[simp] theorem timestamp_merge (l : List TaskStatus) : (merge l).timestamp = latestTime l := rfl

/-- Merging adds up counters. -/
theorem count_absorb (s t : TaskStatus) (c : Counter) :
    (s.absorb t).count c = (s.count c + t.count c) % wordLimit := by
  simp [count, absorb, wordLimit]

end TaskStatus

end BatchSync
