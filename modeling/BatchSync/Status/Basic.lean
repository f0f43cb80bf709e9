import BatchSync.Failure.Report
import BatchSync.Number.Word
import BatchSync.State
import BatchSync.Status.Counters

/-!
# The status of a task

Everything that is known of a task, a group or a job at one moment: its state, its counters, when it
was last updated, the first failure captured, what its plugins reported, and samples of its dirty
records.

A finished state is never left (`moveTo`), and the first failure captured stays (`capture`). A task is
failed in three steps, taken apart so that others may act in between: nothing is done to a finished
one, the failure is captured, and only then the state changes (`fail`).
-/

namespace BatchSync

/-- A dirty record that was kept as a sample: the record as a document, and why it was dirty. -/
structure DirtySample where
  record : Json
  error : String

/-- A sample in a document. -/
def DirtySample.toJson (d : DirtySample) : Json :=
  .object [("record", d.record), ("error", .string d.error)]

/-- A message of a plugin, under a key. -/
structure Note where
  key : String
  text : String

/-- The status of a task, of a group or of a job. -/
structure TaskStatus where
  state : TaskState
  counters : Counters
  /-- When the state was last updated, in milliseconds since the epoch. -/
  timestamp : Int
  /-- The first failure captured. -/
  failure : Option Failure
  /-- The messages of the plugins, in the order in which they came. -/
  notes : List Note
  /-- The samples of dirty records, in the order in which they came. -/
  dirty : List DirtySample

namespace TaskStatus

/-- A status in a state, at a time. -/
def ofState (state : TaskState) (timestamp : Int) : TaskStatus :=
  ⟨state, .zero, timestamp, none, [], []⟩

/-- The status of what has not started. -/
def initial : TaskStatus := ofState .notStarted 0

/-- The value of a counter. -/
def count (s : TaskStatus) (c : Counter) : Nat := (s.counters.get c).toNat

/-- Whether the state is never left. -/
def isFinished (s : TaskStatus) : Bool := s.state.isFinished

/-- Adds to a counter. -/
def add (s : TaskStatus) (c : Counter) (amount : Nat) : TaskStatus :=
  { s with counters := s.counters.add c amount }

/-- Sets a counter. -/
def put (s : TaskStatus) (c : Counter) (value : Nat) : TaskStatus :=
  { s with counters := s.counters.set c (UInt64.ofNat value) }

/-- Changes the state, unless it is finished. -/
def moveTo (s : TaskStatus) (state : TaskState) : TaskStatus :=
  if s.isFinished then s else { s with state }

/-- Sets the time of the last update. -/
def stamp (s : TaskStatus) (timestamp : Int) : TaskStatus := { s with timestamp }

/-- Captures a failure, unless there is one already. -/
def capture (s : TaskStatus) (f : Failure) : TaskStatus :=
  { s with failure := s.failure.or (some f) }

/-- Moves to the failed state and stamps it, unless the state is finished. -/
def settleFailed (s : TaskStatus) (timestamp : Int) : TaskStatus :=
  if s.isFinished then s else { s with state := .failed, timestamp }

/-- Captures a failure and moves to the failed state, unless the state is finished. The failure comes
first, so that whoever sees the failed state sees a failure. -/
def fail (s : TaskStatus) (f : Failure) (timestamp : Int) : TaskStatus :=
  if s.isFinished then s else (s.capture f).settleFailed timestamp

/-- Adds a message under a key. -/
def note (s : TaskStatus) (key text : String) : TaskStatus :=
  { s with notes := s.notes ++ [⟨key, text⟩] }

/-- Whether one more sample is kept if there may be some number of them. -/
def keepsSample (s : TaskStatus) (maxSamples : Nat) : Bool := s.dirty.length < maxSamples

/-- Keeps a sample, unless there are enough. -/
def sample (s : TaskStatus) (d : DirtySample) (maxSamples : Nat) : TaskStatus :=
  if s.keepsSample maxSamples then { s with dirty := s.dirty ++ [d] } else s

/-! ## The messages by key -/

/-- The messages under a key, in the order in which they came. -/
def notesUnder (s : TaskStatus) (key : String) : List String :=
  (s.notes.filter fun n => n.key == key).map Note.text

/-- A key put into its place among sorted keys, once. -/
def insertKey (key : String) : List String → List String
  | [] => [key]
  | k :: rest =>
    if k == key then k :: rest
    else if key < k then key :: k :: rest
    else k :: insertKey key rest

/-- The keys that have messages, sorted. -/
def noteKeys (s : TaskStatus) : List String := s.notes.foldl (fun keys n => insertKey n.key keys) []

/-! ## Documents -/

/-- The messages in a document: those of every key. -/
def notesJson (s : TaskStatus) : Json :=
  .object (s.noteKeys.map fun k => (k, .strings (s.notesUnder k)))

/-- A status in a document, with some of the counters. -/
def toJsonWith (counters : List Counter) (s : TaskStatus) : Json :=
  .object [("state", .string s.state.name), ("timestamp", .int s.timestamp),
    ("counters", .object (counters.map fun c => (c.name, .nat (s.count c)))),
    ("error", .option (fun f => (FailureReport.ofFailure f).toJson) s.failure),
    ("messages", s.notesJson), ("dirtyRecords", .array (s.dirty.map DirtySample.toJson))]

/-- A status in a document. -/
def toJson (s : TaskStatus) : Json := s.toJsonWith Counter.all

/-! ## Counters in whole numbers -/

theorem count_lt_wordLimit (s : TaskStatus) (c : Counter) : s.count c < wordLimit :=
  toNat_lt_wordLimit _

/-- Adding to a counter wraps. -/
@[simp] theorem count_add_self (s : TaskStatus) (c : Counter) (amount : Nat) :
    (s.add c amount).count c = (s.count c + amount) % wordLimit := by
  simp [count, add, wordLimit]

theorem count_add_of_ne (s : TaskStatus) {c d : Counter} (amount : Nat) (h : d ≠ c) :
    (s.add c amount).count d = s.count d := by
  simp [count, add, Counters.get_add_of_ne _ _ h]

/-! ## What the operations keep -/

theorem moveTo_of_isFinished {s : TaskStatus} (h : s.isFinished) (state : TaskState) :
    s.moveTo state = s := by simp [moveTo, h]

theorem fail_of_isFinished {s : TaskStatus} (h : s.isFinished) (f : Failure) (timestamp : Int) :
    s.fail f timestamp = s := by simp [fail, h]

@[simp] theorem failure_capture (s : TaskStatus) (f : Failure) :
    (s.capture f).failure = s.failure.or (some f) := rfl

theorem fail_eq {s : TaskStatus} (h : s.isFinished = false) (f : Failure) (timestamp : Int) :
    s.fail f timestamp =
      { s with state := .failed, timestamp, failure := s.failure.or (some f) } := by
  simp_all [fail, settleFailed, capture, isFinished]

end TaskStatus

end BatchSync
