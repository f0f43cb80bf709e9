import BatchSync.Status.Basic

/-!
# Failing in steps

Several threads may fail a task at once, and others may act between any two steps of one of them:
nothing is done to a finished task, then the failure is captured, and then the state changes. Taken
without a break, the steps are `TaskStatus.fail`.
-/

namespace BatchSync

/-- How far a thread has come in failing a task at a time. -/
inductive Failing where
  /-- About to look whether the task is finished. -/
  | checking (f : Failure) (timestamp : Int)
  /-- About to capture the failure. -/
  | capturing (f : Failure) (timestamp : Int)
  /-- About to change the state. -/
  | settling (timestamp : Int)
  /-- Nothing is left to do. -/
  | done

namespace Failing

/-- The next step. -/
def step (s : TaskStatus) : Failing → TaskStatus × Failing
  | .checking f timestamp => if s.isFinished then (s, .done) else (s, .capturing f timestamp)
  | .capturing f timestamp => (s.capture f, .settling timestamp)
  | .settling timestamp => (s.settleFailed timestamp, .done)
  | .done => (s, .done)

/-- Whether nothing is left to do. -/
def isDone : Failing → Bool
  | .done => true
  | _ => false

/-- Three steps without a break fail a task. -/
theorem step_step_step (s : TaskStatus) (f : Failure) (timestamp : Int) :
    let a := step s (.checking f timestamp)
    let b := step a.1 a.2
    step b.1 b.2 = (s.fail f timestamp, .done) := by
  cases h : s.isFinished <;> simp [step, TaskStatus.fail, h]

end Failing

end BatchSync
