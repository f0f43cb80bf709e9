import BatchSync.Json.Basic

/-!
# States of tasks

A task is not started, running, or finished in one of three ways. Finished states are never left.
-/

namespace BatchSync

/-- The state of a task, of a group or of a job. -/
inductive TaskState where
  | notStarted
  | running
  | succeeded
  | failed
  | killed
  deriving DecidableEq

namespace TaskState

/-- All states. -/
def all : List TaskState := [.notStarted, .running, .succeeded, .failed, .killed]

/-- The name of a state. -/
def name : TaskState → String
  | .notStarted => "NOT_STARTED"
  | .running => "RUNNING"
  | .succeeded => "SUCCEEDED"
  | .failed => "FAILED"
  | .killed => "KILLED"

/-- Whether a state is never left. -/
def isFinished : TaskState → Bool
  | .succeeded => true
  | .failed => true
  | .killed => true
  | _ => false

/-- Whether a task runs. -/
def isRunning : TaskState → Bool
  | .running => true
  | _ => false

/-- Which of several states stands for all of them: the one of the greatest severity. -/
def severity : TaskState → Nat
  | .succeeded => 0
  | .notStarted => 1
  | .running => 2
  | .failed => 3
  | .killed => 4

/-- The state of the two that has the greater severity. -/
def worse (a b : TaskState) : TaskState := if a.severity < b.severity then b else a

/-- The state of a name. -/
def ofName? (name : String) : Option TaskState := all.find? fun s => s.name == name

/-- Every state is found by its name. -/
@[simp] theorem ofName?_name (s : TaskState) : ofName? s.name = some s := by
  cases s <;> decide

/-- Reads a state: its name, alone or as the only key of an object that holds nothing for it. -/
def ofJson? : Json → Option TaskState
  | .string name => ofName? name
  | .object [(name, .null)] => ofName? name
  | _ => none

end TaskState

end BatchSync
