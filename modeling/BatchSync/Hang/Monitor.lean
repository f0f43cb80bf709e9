import BatchSync.Number.Word
import BatchSync.Retry.Loop
import BatchSync.Status.Progress

/-!
# Watching for tasks that hang

A monitor remembers, for every task that it watches, how many records the task had read when it last
made progress, when that was, and when it was last seen. A task whose records read have not grown for
longer than the timeout is failed in its status; whoever runs the task has to notice.

Finished tasks are neither registered nor judged, and a report of an unknown task registers it.
-/

namespace BatchSync

/-- What is known of the progress of a task. -/
structure TaskProgress where
  /-- Records read at the last progress. -/
  recordsRead : Nat
  /-- When the task last made progress. -/
  progressedAt : Int
  /-- When the task was last seen. -/
  seenAt : Int
  deriving DecidableEq

/-- The tasks that are watched, by the order in which they came. -/
structure HangMonitor where
  /-- How long a task may make no progress, in milliseconds. -/
  timeout : Nat
  watched : List (Nat × TaskProgress)

namespace HangMonitor

/-- The longest timeout, in milliseconds. -/
def longestTimeout : Nat := signedWordLimit - 1

/-- A monitor that watches nothing. -/
def make (timeout : Nat) : HangMonitor := ⟨min timeout longestTimeout, []⟩

/-- What is known of a task. -/
def progress? (m : HangMonitor) (task : Nat) : Option TaskProgress := m.watched.lookup task

/-- Records what is known of a task. -/
def put (m : HangMonitor) (task : Nat) (p : TaskProgress) : HangMonitor :=
  { m with watched := (task, p) :: m.watched.filter fun w => w.1 != task }

/-- Watches a task no longer. -/
def remove (m : HangMonitor) (task : Nat) : HangMonitor :=
  { m with watched := m.watched.filter fun w => w.1 != task }

/-- How many tasks are watched. -/
def size (m : HangMonitor) : Nat := m.watched.length

/-- Begins to watch a task, unless it is watched already or finished. -/
def register (m : HangMonitor) (now : Int) (task : Nat) (s : TaskStatus) : HangMonitor :=
  if s.isFinished then m
  else
    match m.progress? task with
    | some _ => m
    | none => m.put task ⟨s.recordsRead, now, now⟩

/-- The event that logs the report of an unknown task. -/
def unknownEvent : LogEvent := ⟨.warn, "report for unregistered task; registering it"⟩

/-- The event that logs that a task hangs. -/
def hungEvent (elapsed : Int) (recordsRead : Nat) : LogEvent :=
  ⟨.error, s!"task hung expired: no records read for {elapsed} ms" ++
    s!" (total read records: {recordsRead})"⟩

/-- What comes of a look at a task: the monitor, why the task has to fail if it hangs, and what is
logged. -/
structure Sighting where
  monitor : HangMonitor
  hung : Option Failure
  logged : List LogEvent

/-- Takes note of how far a task has come, and finds out whether it hangs. -/
def look (m : HangMonitor) (now : Int) (task : Nat) (s : TaskStatus) : Sighting :=
  if s.isFinished then ⟨m, none, []⟩
  else
    match m.progress? task with
    | none => ⟨m.register now task s, none, [unknownEvent]⟩
    | some p =>
      if p.recordsRead < s.recordsRead then ⟨m.put task ⟨s.recordsRead, now, now⟩, none, []⟩
      else
        let seen := m.put task { p with seenAt := now }
        let elapsed := now - p.progressedAt
        if (m.timeout : Int) < elapsed then
          ⟨seen, some (.taskHung task p.recordsRead elapsed), [hungEvent elapsed p.recordsRead]⟩
        else ⟨seen, none, []⟩

/-- What comes of a report: the monitor, the status of the task, and what is logged. -/
structure Verdict where
  monitor : HangMonitor
  status : TaskStatus
  logged : List LogEvent

/-- Looks at a task, and fails it if it hangs. -/
def report (m : HangMonitor) (now : Int) (task : Nat) (s : TaskStatus) : Verdict :=
  let v := m.look now task s
  let status :=
    match v.hung with
    | some f => s.fail f now
    | none => s
  ⟨v.monitor, status, v.logged⟩

/-! ## What the monitor knows -/

@[simp] theorem progress?_put_self (m : HangMonitor) (task : Nat) (p : TaskProgress) :
    (m.put task p).progress? task = some p := by
  simp [progress?, put]

theorem lookup_filter_ne (l : List (Nat × TaskProgress)) {task other : Nat} (h : other ≠ task) :
    (l.filter fun w => w.1 != task).lookup other = l.lookup other := by
  induction l with
  | nil => rfl
  | cons w l ih =>
    obtain ⟨key, p⟩ := w
    by_cases hw : key = task
    · have : (other == task) = false := by simp [h]
      simp [hw, List.lookup_cons, ih, this]
    · have hk : (key != task) = true := by simp [hw]
      simp only [List.filter_cons, hk, if_true, List.lookup_cons, ih]

theorem progress?_put_of_ne (m : HangMonitor) {task other : Nat} (p : TaskProgress)
    (h : other ≠ task) : (m.put task p).progress? other = m.progress? other := by
  have : (other == task) = false := by simp [h]
  simp [progress?, put, List.lookup_cons, this, lookup_filter_ne m.watched h]

@[simp] theorem progress?_remove_self (m : HangMonitor) (task : Nat) :
    (m.remove task).progress? task = none := by
  simp only [progress?, remove, List.lookup_eq_none_iff, List.mem_filter]
  intro w hw
  have : w.1 ≠ task := by simpa using hw.2
  simp [this.symm]

theorem progress?_remove_of_ne (m : HangMonitor) {task other : Nat} (h : other ≠ task) :
    (m.remove task).progress? other = m.progress? other :=
  lookup_filter_ne m.watched h

end HangMonitor

end BatchSync
