import BatchSync.Dirty.Collector
import BatchSync.Proofs.Channel.Traffic
import BatchSync.Proofs.Status.Merging

/-!
# What is reported to a status

Plugins report dirty records and messages to the status of their task, in which the channel counts its
traffic as well. The part of a status that they write (`TaskStatus.reported`) may be replaced
(`TaskStatus.withReported`), and nothing that goes on in the channel depends on it:

1. `Stage.step_withReported` and `Traffic.step_withReported` say that steps go the same way, whatever
   was reported.
2. `Traffic.reported_step` says that they leave it as it is.
-/

namespace BatchSync

/-! ## The counters of dirty records -/

/-- Whether a counter counts what plugins report. -/
def Counter.isReported : Counter → Bool
  | .readFailedRecords => true
  | .readFailedBytes => true
  | .writeFailedRecords => true
  | .writeFailedBytes => true
  | _ => false

theorem Side.isReported_dirtyRecords (side : Side) : side.dirtyRecords.isReported = true := by
  cases side <;> rfl

theorem Side.isReported_dirtyBytes (side : Side) : side.dirtyBytes.isReported = true := by
  cases side <;> rfl

/-- What plugins report to the status of a task. -/
@[ext] structure Reported where
  /-- How many dirty records there were of a side, as a word. -/
  records : Side → UInt64
  /-- How many bytes they had, as a word. -/
  bytes : Side → UInt64
  notes : List Note
  dirty : List DirtySample

namespace Counters

/-- Counters with other values of what plugins report. -/
def withReported (k : Counters) (b : Reported) : Counters :=
  (((k.set .readFailedRecords (b.records .reader)).set .readFailedBytes (b.bytes .reader)).set
    .writeFailedRecords (b.records .writer)).set .writeFailedBytes (b.bytes .writer)

theorem set_comm (k : Counters) {c d : Counter} (h : c ≠ d) (v w : UInt64) :
    (k.set c v).set d w = (k.set d w).set c v := by
  have apart : c.place.val ≠ d.place.val := fun e => h (Counter.eq_of_place e)
  exact congrArg Counters.mk (Vector.set_comm _ _ apart)

theorem get_withReported (k : Counters) (b : Reported) {c : Counter} (h : c.isReported = false) :
    (k.withReported b).get c = k.get c := by
  have other : ∀ {d : Counter}, d.isReported = true → c ≠ d := by
    rintro d hd rfl
    rw [h] at hd
    cases hd
  unfold withReported
  rw [get_set_of_ne _ _ (other rfl), get_set_of_ne _ _ (other rfl), get_set_of_ne _ _ (other rfl),
    get_set_of_ne _ _ (other rfl)]

@[simp] theorem get_withReported_dirtyRecords (k : Counters) (b : Reported) (side : Side) :
    (k.withReported b).get side.dirtyRecords = b.records side := by
  cases side <;> simp [withReported, Side.dirtyRecords, get_set_of_ne]

@[simp] theorem get_withReported_dirtyBytes (k : Counters) (b : Reported) (side : Side) :
    (k.withReported b).get side.dirtyBytes = b.bytes side := by
  cases side <;> simp [withReported, Side.dirtyBytes, get_set_of_ne]

/-- Counters are equal that agree on what is reported and on everything else. -/
theorem eq_of_reported {k k' : Counters}
    (records : ∀ side : Side, k.get side.dirtyRecords = k'.get side.dirtyRecords)
    (bytes : ∀ side : Side, k.get side.dirtyBytes = k'.get side.dirtyBytes)
    (others : ∀ c : Counter, c.isReported = false → k.get c = k'.get c) : k = k' := by
  refine Counters.ext fun c => ?_
  cases c with
  | readFailedRecords => exact records .reader
  | readFailedBytes => exact bytes .reader
  | writeFailedRecords => exact records .writer
  | writeFailedBytes => exact bytes .writer
  | _ => exact others _ rfl

end Counters

namespace TaskStatus

/-- What plugins have reported to a status. -/
def reported (s : TaskStatus) : Reported where
  records side := s.counters.get side.dirtyRecords
  bytes side := s.counters.get side.dirtyBytes
  notes := s.notes
  dirty := s.dirty

/-- What is counted of reports is a part of what was reported. -/
theorem get_eq_of_reported_eq {s t : TaskStatus} (h : s.reported = t.reported) {c : Counter}
    (hc : c.isReported = true) : s.counters.get c = t.counters.get c := by
  have records := congrFun (congrArg Reported.records h)
  have bytes := congrFun (congrArg Reported.bytes h)
  cases c with
  | readFailedRecords => exact records .reader
  | readFailedBytes => exact bytes .reader
  | writeFailedRecords => exact records .writer
  | writeFailedBytes => exact bytes .writer
  | _ => cases hc

/-- A status to which something else was reported. -/
def withReported (s : TaskStatus) (b : Reported) : TaskStatus :=
  { s with counters := s.counters.withReported b, notes := b.notes, dirty := b.dirty }

@[simp] theorem reported_withReported (s : TaskStatus) (b : Reported) :
    (s.withReported b).reported = b := by
  unfold reported withReported
  refine Reported.ext (funext fun side => ?_) (funext fun side => ?_) rfl rfl
  · exact Counters.get_withReported_dirtyRecords _ _ side
  · exact Counters.get_withReported_dirtyBytes _ _ side

@[simp] theorem withReported_reported (s : TaskStatus) : s.withReported s.reported = s := by
  have same : s.counters.withReported s.reported = s.counters :=
    Counters.eq_of_reported (Counters.get_withReported_dirtyRecords _ _)
      (Counters.get_withReported_dirtyBytes _ _) fun _ h => Counters.get_withReported _ _ h
  unfold withReported
  rw [same]
  rfl

@[simp] theorem withReported_withReported (s : TaskStatus) (b b' : Reported) :
    (s.withReported b).withReported b' = s.withReported b' := by
  have same : (s.counters.withReported b).withReported b' = s.counters.withReported b' := by
    refine Counters.eq_of_reported (fun side => ?_) (fun side => ?_) fun c h => ?_
    · simp
    · simp
    · rw [Counters.get_withReported _ _ h, Counters.get_withReported _ _ h,
        Counters.get_withReported _ _ h]
  unfold withReported
  rw [same]

/-- What is not reported is as it was. -/
theorem count_withReported (s : TaskStatus) (b : Reported) {c : Counter} (h : c.isReported = false) :
    (s.withReported b).count c = s.count c :=
  congrArg UInt64.toNat (Counters.get_withReported _ _ h)

theorem withReported_add (s : TaskStatus) (b : Reported) {c : Counter} (h : c.isReported = false)
    (n : Nat) : (s.add c n).withReported b = (s.withReported b).add c n := by
  have other : ∀ {d : Counter}, d.isReported = true → c ≠ d := by
    rintro d hd rfl
    rw [h] at hd
    cases hd
  have same : (s.counters.add c n).withReported b = (s.counters.withReported b).add c n := by
    unfold Counters.add
    rw [Counters.get_withReported _ _ h]
    unfold Counters.withReported
    rw [Counters.set_comm _ (other (d := .readFailedRecords) rfl),
      Counters.set_comm _ (other (d := .readFailedBytes) rfl),
      Counters.set_comm _ (other (d := .writeFailedRecords) rfl),
      Counters.set_comm _ (other (d := .writeFailedBytes) rfl)]
  unfold withReported add
  rw [same]

/-- What is counted of reports is a part of what is reported. -/
theorem withReported_add_of_isReported (s : TaskStatus) (b : Reported) {c : Counter}
    (h : c.isReported = true) (n : Nat) : (s.add c n).withReported b = s.withReported b := by
  have same : (s.counters.add c n).withReported b = s.counters.withReported b := by
    refine Counters.eq_of_reported (fun side => ?_) (fun side => ?_) fun d hd => ?_
    · simp
    · simp
    · have ne : d ≠ c := by
        rintro rfl
        rw [h] at hd
        cases hd
      rw [Counters.get_withReported _ _ hd, Counters.get_withReported _ _ hd, Counters.get_add_of_ne _ _ ne]
  unfold withReported add
  rw [same]

theorem withReported_sample (s : TaskStatus) (b : Reported) (d : DirtySample) (maxSamples : Nat) :
    (s.sample d maxSamples).withReported b = s.withReported b := by
  unfold sample
  split <;> rfl

end TaskStatus

/-! ## Traffic does not depend on what is reported -/

theorem FlowControl.meter_withReported (f : FlowControl) (s : TaskStatus) (b : Reported) (now : Nanos) :
    f.meter (s.withReported b) now = f.meter s now := by
  unfold meter
  rw [s.count_withReported b rfl, s.count_withReported b rfl]

namespace Line

variable (l : Line) (b : Reported)

/-- A line to whose status something else was reported. -/
def withReported : Line := l.mapStatus (·.withReported b)

theorem enter_withReported (batch : List Record) (waited : Nanos) :
    (l.withReported b).enter batch waited = (l.enter batch waited).withReported b := by
  unfold enter countRead withReported mapStatus
  dsimp only
  rw [TaskStatus.withReported_add _ _ (c := .waitWriterTime) rfl,
    TaskStatus.withReported_add _ _ (c := .readSucceedBytes) rfl,
    TaskStatus.withReported_add _ _ (c := .readSucceedRecords) rfl]

theorem release_withReported (n : Nat) (waited : Nanos) :
    (l.withReported b).release n waited = (l.release n waited).withReported b := by
  unfold release countReceived withReported mapStatus
  dsimp only
  rw [TaskStatus.withReported_add _ _ (c := .writeReceivedBytes) rfl,
    TaskStatus.withReported_add _ _ (c := .writeReceivedRecords) rfl,
    TaskStatus.withReported_add _ _ (c := .waitReaderTime) rfl]

theorem push_withReported (batch : List Record) (waited : Nanos) :
    (l.withReported b).push batch waited =
      (l.push batch waited).map fun r => r.map fun l => l.withReported b := by
  have same : (l.withReported b).channel = l.channel := rfl
  rw [push_eq, push_eq, same, enter_withReported]
  by_cases delays : l.channel.delays batch = true
  · rw [if_pos delays, if_pos delays]; rfl
  · rw [if_neg delays, if_neg delays]
    by_cases closed : l.channel.closed = true
    · rw [if_pos closed, if_pos closed]; rfl
    · rw [if_neg closed, if_neg closed]; rfl

theorem take_withReported (want : Want) (waited : Nanos) :
    (l.withReported b).take want waited =
      (l.take want waited).map fun (batch, l) => (batch, l.withReported b) := by
  have same : (l.withReported b).channel = l.channel := rfl
  rw [take_eq, take_eq, same, release_withReported]
  by_cases dry : l.channel.isDry = true
  · rw [if_pos dry, if_pos dry]; rfl
  · rw [if_neg dry, if_neg dry]; rfl

end Line

theorem Sending.step_withReported (d : Sending) (l : Line) (b : Reported) (now : Nanos) :
    d.step (l.withReported b) now = (d.step l now).map fun (l, d) => (l.withReported b, d) := by
  have pushed_eq : ∀ (batch : List Record) (ends : Bool) (r : Except Failure Line),
      pushed batch ends (l.withReported b) (r.map fun l => l.withReported b) =
        ((pushed batch ends l r).1.withReported b, (pushed batch ends l r).2) := by
    rintro batch ends (f | l') <;> rfl
  cases d with
  | pushing batch ends =>
    simp only [step, Line.push_withReported]
    cases l.push batch 0 with
    | none => rfl
    | some r => exact congrArg some (pushed_eq batch ends r)
  | waiting batch ends since =>
    simp only [step, Line.push_withReported, Option.map_map]
    congr 1
    funext r
    exact pushed_eq batch ends r
  | metering ends =>
    have metered : (l.withReported b).flow.meter (l.withReported b).status now =
        l.flow.meter l.status now := FlowControl.meter_withReported _ _ _ _
    simp only [step, metered, Option.map_map]
    congr 1
    funext next
    obtain ⟨flow, pause⟩ := next
    cases pause <;> rfl
  | pausing p ends =>
    have same : (l.withReported b).channel = l.channel := rfl
    simp only [step, same]
    split <;> rfl
  | closing => rfl
  | returned r => rfl

theorem Receiving.step_withReported (d : Receiving) (l : Line) (b : Reported) (now : Nanos) :
    d.step (l.withReported b) now = (d.step l now).map fun (l, d) => (l.withReported b, d) := by
  cases d with
  | taking want =>
    simp only [step, Line.take_withReported]
    cases l.take want 0 <;> rfl
  | waiting want since =>
    simp only [step, Line.take_withReported, Option.map_map]
    rfl
  | returned batch => rfl

/-- A call goes on in the same way, whatever was reported. -/
theorem Stage.step_withReported (g : Stage) (l : Line) (b : Reported) (now : Nanos) :
    g.step (l.withReported b) now =
      (g.step l now).map fun (cs, l, g) => (cs, l.withReported b, g) := by
  have crossings_eq : ∀ d : Sending, d.crossings (l.withReported b) = d.crossings l := by
    intro d
    cases d <;> rfl
  cases g with
  | sending d =>
    simp only [step, Sending.step_withReported, Option.map_map, crossings_eq]
    rfl
  | receiving d =>
    simp only [step, Receiving.step_withReported, Option.map_map]
    rfl
  | closing => rfl
  | closed => rfl

/-- Whether a move is one of those who use the channel, and not of others. -/
def Move.isOfChannel : Move → Bool
  | .restate _ => false
  | _ => true

namespace Traffic

/-- Traffic where something else was reported to the status. -/
def withReported (s : Traffic) (b : Reported) : Traffic := { s with line := s.line.withReported b }

@[simp] theorem withReported_reported (s : Traffic) : s.withReported s.line.status.reported = s := by
  simp [withReported, Line.withReported, Line.mapStatus]

@[simp] theorem withReported_withReported (s : Traffic) (b b' : Reported) :
    (s.withReported b).withReported b' = s.withReported b' := by
  simp [withReported, Line.withReported, Line.mapStatus]

/-- Traffic goes on in the same way, whatever was reported. -/
theorem step_withReported (s : Traffic) (b : Reported) {m : Move} (own : m.isOfChannel = true) :
    (s.withReported b).step m = (s.step m).map fun s => s.withReported b := by
  cases m with
  | call r => rfl
  | go i =>
    have same : (s.withReported b).calls = s.calls := rfl
    simp only [step, same]
    cases s.calls[i]? with
    | none => rfl
    | some call =>
      have stepped : call.stage.step (s.withReported b).line (s.withReported b).now = _ :=
        Stage.step_withReported call.stage s.line b s.now
      simp only [stepped, Option.map_map]
      rfl
  | elapse span => rfl
  | restate status => cases own

/-- Traffic leaves what was reported as it is. -/
theorem reported_step {s t : Traffic} {m : Move} (own : m.isOfChannel = true)
    (h : s.step m = some t) : t.line.status.reported = s.line.status.reported := by
  have twice := s.step_withReported s.line.status.reported own
  rw [withReported_reported, h] at twice
  have kept : t = t.withReported s.line.status.reported := Option.some.inj twice
  rw [kept]
  exact TaskStatus.reported_withReported _ _

end Traffic

end BatchSync
