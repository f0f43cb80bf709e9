import BatchSync.Hang.Monitor
import Mathlib.Data.List.DropRight

/-!
# What a monitor has seen

A monitor is called again and again while its clock moves: tasks are registered, reported and removed in
any order, and with any status. All calls are written down with their times (`Watch`).

What the monitor knows of a task is what it has seen of it since it was last removed
(`WatchCall.sighting?`, `Watch.sightings`). The first sighting of an unfinished task begins to watch it.
After that only reports count: the most records read so far, the time of the first sighting that showed
so many, and the time of the last one (`TaskProgress.Sums`). What a report makes of a task is judged by
that, and by nothing else (`HangMonitor.Expired`). Records read are counted in words, so that a total may
fall when it wraps; this is no progress.
-/

namespace BatchSync

/-! ## Calls -/

/-- What can happen to a monitor. -/
inductive WatchMove where
  /-- A task is registered with its status. -/
  | register (task : Nat) (s : TaskStatus)
  /-- A task is reported with its status. -/
  | report (task : Nat) (s : TaskStatus)
  /-- A task is watched no longer. -/
  | remove (task : Nat)
  /-- The clock moves, in milliseconds, forwards or backwards. -/
  | pass (millis : Int)

/-- What a call shows of a task that is not finished. -/
structure TaskSighting where
  time : Int
  /-- Records read. -/
  total : Nat
  /-- Whether the task was reported, and not registered. -/
  reported : Bool

/-- What a status shows at a time: the records that were read, with the dirty ones among them, as far as
a word can tell. -/
def TaskSighting.ofStatus (time : Int) (s : TaskStatus) (reported : Bool) : TaskSighting :=
  ⟨time, (s.count .readSucceedRecords + s.count .readFailedRecords) % wordLimit, reported⟩

theorem TaskSighting.ofStatus_eq (time : Int) (s : TaskStatus) (reported : Bool) :
    ofStatus time s reported = ⟨time, s.recordsRead, reported⟩ :=
  congrArg (mk time · reported) (s.total_eq_mod _ _).symm

/-- Something that happened to a monitor, and when. -/
structure WatchCall where
  time : Int
  move : WatchMove

namespace WatchCall

/-- Whether a task is watched no longer after a call. -/
def removes (task : Nat) (c : WatchCall) : Bool :=
  match c.move with
  | .remove t => t == task
  | _ => false

/-- What a call shows of a task, if it is not finished. -/
def sighting? (task : Nat) (c : WatchCall) : Option TaskSighting :=
  match c.move with
  | .register t s => if t = task ∧ s.isFinished = false then some (.ofStatus c.time s false) else none
  | .report t s => if t = task ∧ s.isFinished = false then some (.ofStatus c.time s true) else none
  | _ => none

variable {task now} {s : TaskStatus}

theorem sighting?_register (going : s.isFinished = false) :
    sighting? task ⟨now, .register task s⟩ = some ⟨now, s.recordsRead, false⟩ := by
  simp [sighting?, going, TaskSighting.ofStatus_eq]

theorem sighting?_report (going : s.isFinished = false) :
    sighting? task ⟨now, .report task s⟩ = some ⟨now, s.recordsRead, true⟩ := by
  simp [sighting?, going, TaskSighting.ofStatus_eq]

end WatchCall

/-- A monitor with its clock, and all calls so far. -/
structure Watch where
  monitor : HangMonitor
  now : Int
  calls : List WatchCall

namespace Watch

/-- A monitor that was not called yet. -/
def make (timeout : Nat) (now : Int) : Watch := ⟨.make timeout, now, []⟩

/-- The monitor after a move. -/
def watched (w : Watch) : WatchMove → HangMonitor
  | .register task s => w.monitor.register w.now task s
  | .report task s => (w.monitor.report w.now task s).monitor
  | .remove task => w.monitor.remove task
  | .pass _ => w.monitor

/-- The clock after a move. -/
def clock (w : Watch) : WatchMove → Int
  | .pass millis => w.now + millis
  | _ => w.now

/-- What comes of a move. -/
def step (w : Watch) (m : WatchMove) : Watch :=
  ⟨w.watched m, w.clock m, w.calls ++ [⟨w.now, m⟩]⟩

/-- What comes of moves, one after the other. -/
def run (w : Watch) (moves : List WatchMove) : Watch := moves.foldl step w

/-- What was seen of a task, as it was not finished, since it was last removed. -/
def sightings (w : Watch) (task : Nat) : List TaskSighting :=
  (w.calls.rtakeWhile fun c => !c.removes task).filterMap (·.sighting? task)

end Watch

/-- What is known of a task sums up its first sighting and the reports that followed: the most records
read, the time of the sighting that was the first to show so many, and the time of the last sighting. -/
structure TaskProgress.Sums (p : TaskProgress) (first : TaskSighting) (reports : List TaskSighting) :
    Prop where
  most : ∀ x ∈ first :: reports, x.total ≤ p.recordsRead
  risen : ∃ before x after, first :: reports = before ++ x :: after ∧ x.total = p.recordsRead ∧
    x.time = p.progressedAt ∧ ∀ y ∈ before, y.total < x.total
  last : ∃ before x, first :: reports = before ++ [x] ∧ x.time = p.seenAt

/-- A monitor knows of a task what its sightings tell: nothing if there are none, and else what sums up
the first one and all reports since. Being registered once more changes nothing. -/
def HangMonitor.Recalls (m : HangMonitor) (task : Nat) : List TaskSighting → Prop
  | [] => m.progress? task = none
  | first :: later => ∃ p, m.progress? task = some p ∧ p.Sums first (later.filter (·.reported))

/-- A task that is reported hangs: it is not finished and was watched before, it has read no more than
the most so far, and it made progress too long ago. -/
structure HangMonitor.Expired (m : HangMonitor) (now : Int) (task : Nat) (s : TaskStatus)
    (p : TaskProgress) : Prop where
  going : s.isFinished = false
  known : m.progress? task = some p
  still : (TaskSighting.ofStatus now s true).total ≤ p.recordsRead
  late : (m.timeout : Int) < now - p.progressedAt

/-! ## What sums up sightings -/

namespace TaskProgress

variable {p : TaskProgress} {first : TaskSighting} {reports : List TaskSighting}

/-- A task that is seen for the first time has come as far as it shows. -/
theorem sums_first (x : TaskSighting) : Sums ⟨x.total, x.time, x.time⟩ x [] where
  most := by
    intro y hy
    rw [List.mem_singleton.mp hy]
  risen := ⟨[], x, [], rfl, rfl, rfl, nofun⟩
  last := ⟨[], x, rfl, rfl⟩

/-- A report that shows more records is the first to show so many. -/
theorem Sums.rise (h : p.Sums first reports) (x : TaskSighting) (more : p.recordsRead < x.total) :
    Sums ⟨x.total, x.time, x.time⟩ first (reports ++ [x]) where
  most := by
    intro y hy
    rw [← List.cons_append, List.mem_append, List.mem_singleton] at hy
    rcases hy with hy | rfl
    · exact Nat.le_trans (h.most y hy) (Nat.le_of_lt more)
    · exact Nat.le_refl _
  risen := ⟨first :: reports, x, [], rfl, rfl, rfl, fun y hy => Nat.lt_of_le_of_lt (h.most y hy) more⟩
  last := ⟨first :: reports, x, rfl, rfl⟩

/-- A report that shows no more records is only the last one. -/
theorem Sums.stay (h : p.Sums first reports) (x : TaskSighting) (still : x.total ≤ p.recordsRead) :
    Sums { p with seenAt := x.time } first (reports ++ [x]) where
  most := by
    intro y hy
    rw [← List.cons_append, List.mem_append, List.mem_singleton] at hy
    rcases hy with hy | rfl
    · exact h.most y hy
    · exact still
  risen := by
    obtain ⟨before, y, after, split, total, time, less⟩ := h.risen
    refine ⟨before, y, after ++ [x], ?_, total, time, less⟩
    rw [← List.cons_append, split, List.append_assoc, List.cons_append]
  last := ⟨first :: reports, x, rfl, rfl⟩

end TaskProgress

/-! ## What a call does to what is known -/

namespace HangMonitor

variable {m : HangMonitor} {now : Int} {task other : Nat} {s : TaskStatus} {p : TaskProgress}
  {seen : List TaskSighting}

/-! ### Calls that change nothing -/

theorem register_of_isFinished (finished : s.isFinished = true) : m.register now task s = m := by
  simp [register, finished]

theorem look_of_isFinished (finished : s.isFinished = true) : m.look now task s = ⟨m, none, []⟩ := by
  simp [look, finished]

/-- A task that is watched already is not registered once more. -/
theorem register_of_known (known : m.progress? task = some p) : m.register now task s = m := by
  simp [register, known]

theorem progress?_register_of_ne (ne : other ≠ task) :
    (m.register now task s).progress? other = m.progress? other := by
  unfold register
  split
  · rfl
  · split
    · rfl
    · exact progress?_put_of_ne m _ ne

theorem progress?_look_of_ne (ne : other ≠ task) :
    (m.look now task s).monitor.progress? other = m.progress? other := by
  unfold look
  split
  · rfl
  split
  · exact progress?_register_of_ne ne
  split
  · exact progress?_put_of_ne m _ ne
  dsimp only
  split <;> exact progress?_put_of_ne m _ ne

theorem timeout_register (m : HangMonitor) (now : Int) (task : Nat) (s : TaskStatus) :
    (m.register now task s).timeout = m.timeout := by
  unfold register
  split
  · rfl
  · split <;> rfl

theorem timeout_look (m : HangMonitor) (now : Int) (task : Nat) (s : TaskStatus) :
    (m.look now task s).monitor.timeout = m.timeout := by
  unfold look
  split
  · rfl
  split
  · exact timeout_register m now task s
  split
  · rfl
  dsimp only
  split <;> rfl

/-! ### Calls that show an unfinished task -/

theorem progress?_register (going : s.isFinished = false) (unknown : m.progress? task = none) :
    (m.register now task s).progress? task = some ⟨s.recordsRead, now, now⟩ := by
  simp [register, going, unknown]

/-- A report of an unknown task registers it. -/
theorem look_of_unknown (going : s.isFinished = false) (unknown : m.progress? task = none) :
    m.look now task s = ⟨m.register now task s, none, [unknownEvent]⟩ := by
  simp [look, going, unknown]

theorem look_of_more (going : s.isFinished = false) (known : m.progress? task = some p)
    (more : p.recordsRead < s.recordsRead) :
    m.look now task s = ⟨m.put task ⟨s.recordsRead, now, now⟩, none, []⟩ := by
  simp [look, going, known, more]

/-- What a report makes of a task that has read no more than before. -/
theorem look_of_still (going : s.isFinished = false) (known : m.progress? task = some p)
    (still : s.recordsRead ≤ p.recordsRead) :
    (m.look now task s).monitor = m.put task { p with seenAt := now } ∧
      (m.look now task s).hung = if (m.timeout : Int) < now - p.progressedAt then
        some (.taskHung task p.recordsRead (now - p.progressedAt)) else none := by
  unfold look
  rw [going, known]
  dsimp only
  rw [if_neg (Bool.false_ne_true), if_neg (Nat.not_lt.mpr still)]
  split <;> exact ⟨rfl, rfl⟩

/-! ### What is recalled -/

/-- Being registered is recalled only if the task was not watched. -/
theorem Recalls.register (h : m.Recalls task seen) (going : s.isFinished = false) :
    (m.register now task s).Recalls task (seen ++ [⟨now, s.recordsRead, false⟩]) := by
  cases seen with
  | nil => exact ⟨_, progress?_register going h, TaskProgress.sums_first ⟨now, s.recordsRead, false⟩⟩
  | cons first later =>
    obtain ⟨p, known, sums⟩ := h
    rw [register_of_known known]
    refine ⟨p, known, ?_⟩
    have reports : (later ++ [(⟨now, s.recordsRead, false⟩ : TaskSighting)]).filter (·.reported) =
        later.filter (·.reported) := by
      simp
    exact reports ▸ sums

/-- Being reported is recalled in any case. -/
theorem Recalls.look (h : m.Recalls task seen) (going : s.isFinished = false) :
    (m.look now task s).monitor.Recalls task (seen ++ [⟨now, s.recordsRead, true⟩]) := by
  cases seen with
  | nil =>
    rw [look_of_unknown going h]
    exact ⟨_, progress?_register going h, TaskProgress.sums_first ⟨now, s.recordsRead, true⟩⟩
  | cons first later =>
    obtain ⟨p, known, sums⟩ := h
    have reports : (later ++ [(⟨now, s.recordsRead, true⟩ : TaskSighting)]).filter (·.reported) =
        later.filter (·.reported) ++ [⟨now, s.recordsRead, true⟩] := by
      simp
    rcases Nat.lt_or_ge p.recordsRead s.recordsRead with more | still
    · rw [look_of_more going known more]
      exact ⟨_, progress?_put_self _ _ _, reports ▸ sums.rise ⟨now, s.recordsRead, true⟩ more⟩
    · rw [(look_of_still going known still).1]
      exact ⟨_, progress?_put_self _ _ _, reports ▸ sums.stay ⟨now, s.recordsRead, true⟩ still⟩

/-- What is recalled of a task depends on nothing but what is known of it. -/
theorem Recalls.of_eq {m' : HangMonitor} (h : m.Recalls task seen)
    (same : m'.progress? task = m.progress? task) : m'.Recalls task seen := by
  cases seen with
  | nil => exact same.trans h
  | cons first later =>
    obtain ⟨p, known, sums⟩ := h
    exact ⟨p, same.trans known, sums⟩

theorem Recalls.isSome_iff (h : m.Recalls task seen) : (m.progress? task).isSome ↔ seen ≠ [] := by
  cases seen with
  | nil => simp [show m.progress? task = none from h]
  | cons first later =>
    obtain ⟨p, known, -⟩ := h
    simp [known]

/-! ### What a report makes of a task -/

/-- A report finds exactly that a task hangs which does. -/
theorem look_hung_eq_some_iff {f : Failure} : (m.look now task s).hung = some f ↔
    ∃ p, m.Expired now task s p ∧ f = .taskHung task p.recordsRead (now - p.progressedAt) := by
  constructor
  · intro h
    cases going : s.isFinished with
    | true => rw [look_of_isFinished going] at h; cases h
    | false =>
      cases known : m.progress? task with
      | none => rw [look_of_unknown going known] at h; cases h
      | some p =>
        rcases Nat.lt_or_ge p.recordsRead s.recordsRead with more | still
        · rw [look_of_more going known more] at h; cases h
        · rw [(look_of_still going known still).2] at h
          split at h
          · rename_i late
            cases h
            have shown : (TaskSighting.ofStatus now s true).total ≤ p.recordsRead := by
              rw [TaskSighting.ofStatus_eq]
              exact still
            exact ⟨p, ⟨going, known, shown, late⟩, rfl⟩
          · cases h
  · rintro ⟨p, expired, rfl⟩
    have still := expired.still
    rw [TaskSighting.ofStatus_eq] at still
    rw [(look_of_still expired.going expired.known still).2, if_pos expired.late]

theorem report_status_eq (m : HangMonitor) (now : Int) (task : Nat) (s : TaskStatus) :
    (m.report now task s).status =
      match (m.look now task s).hung with
      | some f => s.fail f now
      | none => s := rfl

/-- A report fails a task that hangs, unless it captured a failure before. -/
theorem Expired.status_report (expired : m.Expired now task s p) : (m.report now task s).status =
    { s with
      state := .failed
      timestamp := now
      failure := s.failure.or (some (.taskHung task p.recordsRead (now - p.progressedAt))) } := by
  rw [report_status_eq, look_hung_eq_some_iff.mpr ⟨p, expired, rfl⟩]
  exact TaskStatus.fail_eq expired.going _ _

/-- A report changes nothing in a task that does not hang. -/
theorem status_report_of_not_expired (well : ∀ p, ¬ m.Expired now task s p) :
    (m.report now task s).status = s := by
  rw [report_status_eq]
  cases hung : (m.look now task s).hung with
  | none => rfl
  | some f =>
    obtain ⟨p, expired, -⟩ := look_hung_eq_some_iff.mp hung
    exact absurd expired (well p)

end HangMonitor

/-! ## Whole histories -/

namespace Watch

variable {w : Watch} {task : Nat}

/-- Nothing that was seen of a task before it is removed counts any longer. -/
theorem sightings_step_of_removes {m : WatchMove}
    (removes : WatchCall.removes task ⟨w.now, m⟩ = true) : (w.step m).sightings task = [] := by
  unfold sightings step
  rw [List.rtakeWhile_concat_neg _ _ _ (by rw [removes]; exact Bool.false_ne_true)]
  rfl

theorem sightings_step {m : WatchMove} (keeps : WatchCall.removes task ⟨w.now, m⟩ = false) :
    (w.step m).sightings task =
      w.sightings task ++ (WatchCall.sighting? task ⟨w.now, m⟩).toList := by
  unfold sightings step
  rw [List.rtakeWhile_concat_pos _ _ _ (by rw [keeps]; rfl), List.filterMap_append]
  cases h : WatchCall.sighting? task ⟨w.now, m⟩ with
  | none => simp [h]
  | some x => simp [h]

/-- A call that shows nothing of a task adds no sighting. -/
theorem sightings_step_of_unseen {m : WatchMove} (keeps : WatchCall.removes task ⟨w.now, m⟩ = false)
    (unseen : WatchCall.sighting? task ⟨w.now, m⟩ = none) :
    (w.step m).sightings task = w.sightings task := by
  rw [sightings_step keeps, unseen]
  exact List.append_nil _

/-- A call keeps what the monitor recalls of every task. -/
theorem recalls_step (h : w.monitor.Recalls task (w.sightings task)) (m : WatchMove) :
    (w.step m).monitor.Recalls task ((w.step m).sightings task) := by
  cases m with
  | register t s =>
    by_cases ht : t = task
    · subst ht
      cases finished : s.isFinished with
      | true =>
        rw [sightings_step_of_unseen rfl (by simp [WatchCall.sighting?, finished])]
        exact h.of_eq (by rw [show (w.step (.register t s)).monitor = w.monitor from
          HangMonitor.register_of_isFinished finished])
      | false =>
        rw [sightings_step rfl]
        rw [WatchCall.sighting?_register finished]
        exact h.register finished
    · rw [sightings_step_of_unseen rfl (by simp [WatchCall.sighting?, ht])]
      exact h.of_eq (HangMonitor.progress?_register_of_ne (Ne.symm ht))
  | report t s =>
    by_cases ht : t = task
    · subst ht
      cases finished : s.isFinished with
      | true =>
        rw [sightings_step_of_unseen rfl (by simp [WatchCall.sighting?, finished])]
        refine h.of_eq ?_
        show (w.monitor.look w.now t s).monitor.progress? t = _
        rw [HangMonitor.look_of_isFinished finished]
      | false =>
        rw [sightings_step rfl]
        rw [WatchCall.sighting?_report finished]
        exact h.look finished
    · rw [sightings_step_of_unseen rfl (by simp [WatchCall.sighting?, ht])]
      exact h.of_eq (HangMonitor.progress?_look_of_ne (Ne.symm ht))
  | remove t =>
    by_cases ht : t = task
    · subst ht
      rw [sightings_step_of_removes (by simp [WatchCall.removes])]
      exact HangMonitor.progress?_remove_self _ _
    · rw [sightings_step_of_unseen (by simp [WatchCall.removes, ht]) rfl]
      exact h.of_eq (HangMonitor.progress?_remove_of_ne _ (Ne.symm ht))
  | pass millis =>
    rw [sightings_step_of_unseen rfl rfl]
    exact h

/-- What the monitor recalls after moves is what the calls so far tell. -/
theorem recalls_run (moves : List WatchMove) : ∀ {w : Watch},
    w.monitor.Recalls task (w.sightings task) →
      (w.run moves).monitor.Recalls task ((w.run moves).sightings task) := by
  induction moves with
  | nil => exact id
  | cons m rest ih => exact fun h => ih (recalls_step h m)

theorem timeout_step (w : Watch) (m : WatchMove) :
    (w.step m).monitor.timeout = w.monitor.timeout := by
  cases m with
  | register task s => exact HangMonitor.timeout_register _ _ _ _
  | report task s => exact HangMonitor.timeout_look _ _ _ _
  | remove | pass => rfl

theorem timeout_run (moves : List WatchMove) : ∀ w : Watch,
    (w.run moves).monitor.timeout = w.monitor.timeout := by
  induction moves with
  | nil => exact fun _ => rfl
  | cons m rest ih => exact fun w => (ih (w.step m)).trans (timeout_step w m)

/-- A monitor with a timeout that judges tasks by all it was told: it watches those that it has seen
since they were last removed, it knows what their sightings sum up to, and a report fails a task with
that exactly if the task hangs. -/
structure JudgesByHistory (w : Watch) (timeout : Nat) : Prop where
  timeout_eq : w.monitor.timeout = min timeout HangMonitor.longestTimeout
  isSome_iff : ∀ task, (w.monitor.progress? task).isSome ↔ w.sightings task ≠ []
  sums : ∀ {task : Nat} {first : TaskSighting} {later : List TaskSighting},
    w.sightings task = first :: later →
      ∃ p, w.monitor.progress? task = some p ∧ p.Sums first (later.filter (·.reported))
  fails : ∀ {task : Nat} {s : TaskStatus} {p : TaskProgress}, w.monitor.Expired w.now task s p →
    (w.monitor.report w.now task s).status =
      { s with
        state := .failed
        timestamp := w.now
        failure := s.failure.or (some (.taskHung task p.recordsRead (w.now - p.progressedAt))) }
  spares : ∀ {task : Nat} {s : TaskStatus}, (∀ p, ¬ w.monitor.Expired w.now task s p) →
    (w.monitor.report w.now task s).status = s

/-- **Tasks are judged by their whole histories.** Whatever a monitor is told, in any order, while its
clock moves forwards and backwards: it watches a task exactly if it has seen it unfinished since it was
last removed. It knows the most records that the first sighting and the reports since then showed, when
that many were first shown, and when the last of them was. A report fails a task exactly if the task is
not finished, was watched before, shows no more records than the most so far, and has made its last
progress longer ago than the timeout; the task is stamped with the time, and captures how long it has
made no progress, unless it has captured a failure before. -/
theorem judges_by_history (timeout : Nat) (now : Int) (moves : List WatchMove) :
    ((make timeout now).run moves).JudgesByHistory timeout where
  timeout_eq := timeout_run moves (make timeout now)
  isSome_iff := fun _ => (recalls_run moves (w := make timeout now) rfl).isSome_iff
  sums := by
    intro task first later seen
    have recalls : ((make timeout now).run moves).monitor.Recalls task
        (((make timeout now).run moves).sightings task) :=
      recalls_run moves (w := make timeout now) rfl
    rw [seen] at recalls
    exact recalls
  fails := HangMonitor.Expired.status_report
  spares := HangMonitor.status_report_of_not_expired

/-- A report that shows fewer records than an earlier one, such as one whose total has wrapped, is no
progress: the task has hung since the first report, which registered it. -/
example :
    let s := TaskStatus.ofState .running 0
    let w := (make 1000 0).run [.report 7 (s.add .readFailedRecords 2), .pass 500,
      .register 7 (s.add .readFailedRecords 3),
      .report 7 ((s.add .readSucceedRecords (wordLimit - 1)).add .readFailedRecords 2), .pass 501]
    (w.monitor.report w.now 7 (s.add .readFailedRecords 2)).status.failure =
      some (.taskHung 7 2 1001) := by
  rfl

end Watch

end BatchSync
