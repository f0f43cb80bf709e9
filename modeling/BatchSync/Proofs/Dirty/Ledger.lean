import BatchSync.Dirty.Collecting
import BatchSync.Proofs.Attempt.Threads
import BatchSync.Proofs.Dirty.Reported
import Mathlib.Data.List.Perm.Basic

/-!
# The dirty records of an attempt

The plugins of an attempt report dirty records and messages, through a collector for each side, while the
channel between them is in use and others change the state of the task. A report is known by its place in
the order in which the reports were made, and it goes on step by step (`Collecting.step`); between any two
steps anything else may happen. An interleaving is a list of moves (`DirtyLedger.run`).

1. `DirtyLedger.steps_of_step` says all that a move can do.
2. `run_invariant` carries over a run what every move keeps, and `grown_of_run` what every move adds.
3. `Accounted` ties what the status says to the steps that reports have taken, and `Tracked` ties these
   steps to how far the reports have come.
-/

namespace BatchSync

/-! ## Reports -/

/-- A dirty record as it is reported. -/
structure DirtyReport where
  side : Side
  record : Record
  error : PluginError

namespace DirtyReport

/-- The sample of a report. -/
def sample (d : DirtyReport) : DirtySample := DirtyCollector.sampleOf d.record d.error

/-- The event that logs a report. -/
def event (d : DirtyReport) : LogEvent := DirtyCollector.event d.record d.error

end DirtyReport

/-- A report under way. -/
structure DirtyCall where
  report : DirtyReport
  stage : Collecting

/-- What a step of the report of a record adds to a counter. -/
def Collecting.amount (side : Side) (r : Record) (c : Counter) : Collecting → Nat
  | .counting => if c = side.dirtyRecords then 1 else 0
  | .weighing => if c = side.dirtyBytes then r.byteSize else 0
  | _ => 0

/-- What the next step of a report adds to a counter. -/
def DirtyCall.amount (c : Counter) (d : DirtyCall) : Nat :=
  d.stage.amount d.report.side d.report.record c

namespace Collecting

/-- The place of a stage in their order. -/
def place : Collecting → Nat
  | .counting => 0
  | .weighing => 1
  | .numbering => 2
  | .logging _ => 3
  | .keeping => 4
  | .done => 5

variable (g : Collecting) (k : DirtyCollector) (s : TaskStatus) (r : Record) (e : PluginError)

theorem place_step {g : Collecting} (going : g ≠ .done) :
    (g.step k s r e).next.place = g.place + 1 := by
  cases g with
  | done => exact absurd rfl going
  | _ => rfl

/-- Every counter grows by what the step adds to it. -/
theorem count_step (c : Counter) :
    (g.step k s r e).status.count c = (s.count c + g.amount k.side r c) % wordLimit := by
  have kept : (s.count c + 0) % wordLimit = s.count c := Nat.mod_eq_of_lt (s.count_lt_wordLimit c)
  have added : ∀ (d : Counter) (n : Nat),
      (s.add d n).count c = (s.count c + if c = d then n else 0) % wordLimit := by
    intro d n
    by_cases own : c = d
    · rw [if_pos own, own]
      exact s.count_add_self d n
    · rw [if_neg own, kept]
      exact s.count_add_of_ne n own
  cases g with
  | counting => exact added _ _
  | weighing => exact added _ _
  | keeping => exact (TaskStatus.count_sample _ _ _ _).trans kept.symm
  | numbering | logging | done => exact kept.symm

/-- A step keeps a sample just if it is the one that does, and there is room. -/
theorem dirty_step : (g.step k s r e).status.dirty =
    if g = .keeping ∧ s.dirty.length < k.maxSamples then s.dirty ++ [DirtyCollector.sampleOf r e]
    else s.dirty := by
  cases g with
  | keeping =>
    by_cases room : s.dirty.length < k.maxSamples
    · simp [step, TaskStatus.sample, TaskStatus.keepsSample, room]
    · simp [step, TaskStatus.sample, TaskStatus.keepsSample, room]
  | _ =>
    rw [if_neg (fun h => nomatch h.1)]
    rfl

theorem collector_step : (g.step k s r e).collector =
    { k with collected := k.collected + if g = .numbering then 1 else 0 } := by
  cases g <;> rfl

theorem notes_step : (g.step k s r e).status.notes = s.notes := by
  cases g with
  | keeping => unfold step TaskStatus.sample; dsimp only; split <;> rfl
  | _ => rfl

/-- A step of a report changes what is reported, and nothing else. -/
theorem withReported_step (b : Reported) :
    (g.step k s r e).status.withReported b = s.withReported b := by
  cases g with
  | counting => exact s.withReported_add_of_isReported b k.side.isReported_dirtyRecords _
  | weighing => exact s.withReported_add_of_isReported b k.side.isReported_dirtyBytes _
  | keeping => exact s.withReported_sample b _ _
  | numbering | logging | done => rfl

end Collecting

/-! ## The moves of all -/

/-- The traffic and the collectors of an attempt, with the reports that were made. -/
structure DirtyLedger where
  traffic : Traffic
  collectors : Side → DirtyCollector
  calls : List DirtyCall
  /-- The calls that took a step, each as it was before, in the order of the steps. -/
  history : List DirtyCall
  logged : List (Side × LogEvent)

/-- What can happen. -/
inductive LedgerMove where
  /-- Those who use the channel move. -/
  | channel (m : Move)
  /-- Others change the state of the task. -/
  | others (state : TaskState) (timestamp : Int) (failure : Option Failure)
  /-- A plugin reports a dirty record. -/
  | report (d : DirtyReport)
  /-- A report goes on. -/
  | go (i : Nat)
  /-- A plugin reports a message under a key. -/
  | note (key text : String)

namespace LedgerMove

/-- Whether a move is one of the collectors. -/
def isCollectors : LedgerMove → Bool
  | .report _ => true
  | .go _ => true
  | .note _ _ => true
  | _ => false

/-- The report that a move makes, if it makes one. -/
def report? : LedgerMove → Option DirtyReport
  | .report d => some d
  | _ => none

/-- The message that a move reports, if it reports one. -/
def note? : LedgerMove → Option Note
  | .note key text => some ⟨key, text⟩
  | _ => none

end LedgerMove

namespace DirtyLedger

/-- An attempt that begins, with a new channel and a collector for each side. -/
def ofConfig (c : ChannelConfig) (status : TaskStatus) (now : Nanos) (maxSamples : Nat) : DirtyLedger where
  traffic := .ofConfig c status now
  collectors side := .make side maxSamples
  calls := []
  history := []
  logged := []

/-- The status of the task. -/
def status (s : DirtyLedger) : TaskStatus := s.traffic.line.status

/-- Changes the status. -/
def mapStatus (s : DirtyLedger) (f : TaskStatus → TaskStatus) : DirtyLedger :=
  { s with traffic := { s.traffic with line := s.traffic.line.mapStatus f } }

/-- The next step of a report, with the collector of its side. -/
def stepOf (s : DirtyLedger) (c : DirtyCall) : CollectStep :=
  c.stage.step (s.collectors c.report.side) s.status c.report.record c.report.error

/-- The ledger after a report went on. -/
def advance (s : DirtyLedger) (i : Nat) (c : DirtyCall) : DirtyLedger :=
  let next := s.stepOf c
  { traffic := { s.traffic with line := s.traffic.line.mapStatus fun _ => next.status }
    collectors := fun side => if side = c.report.side then next.collector else s.collectors side
    calls := s.calls.set i { c with stage := next.next }
    history := s.history ++ [c]
    logged := s.logged ++ next.logged.map fun e => (c.report.side, e) }

/-- What a move leads to, if it can happen. -/
def step (s : DirtyLedger) : LedgerMove → Option DirtyLedger
  | .channel m =>
    if m.isOfChannel then (s.traffic.step m).map fun traffic => { s with traffic } else none
  | .others state timestamp failure => some (s.mapStatus fun t => { t with state, timestamp, failure })
  | .report d => some { s with calls := s.calls ++ [⟨d, .counting⟩] }
  | .go i =>
    match s.calls[i]? with
    | none => none
    | some c => if c.stage.isDone then none else some (s.advance i c)
  | .note key text => some (s.mapStatus (·.note key text))

/-- What an interleaving leads to, if all of its moves can happen one after the other. -/
def run (s : DirtyLedger) : List LedgerMove → Option DirtyLedger
  | [] => some s
  | m :: rest =>
    match s.step m with
    | none => none
    | some s => s.run rest

/-- All that a move can do. -/
inductive Steps (s : DirtyLedger) : LedgerMove → DirtyLedger → Prop
  | channel {m : Move} {traffic : Traffic} (own : m.isOfChannel = true)
      (h : s.traffic.step m = some traffic) : Steps s (.channel m) { s with traffic }
  | others (state : TaskState) (timestamp : Int) (failure : Option Failure) :
      Steps s (.others state timestamp failure) (s.mapStatus fun t => { t with state, timestamp, failure })
  | report (d : DirtyReport) : Steps s (.report d) { s with calls := s.calls ++ [⟨d, .counting⟩] }
  | go {i : Nat} {c : DirtyCall} (found : s.calls[i]? = some c) (going : c.stage ≠ .done) :
      Steps s (.go i) (s.advance i c)
  | note (key text : String) : Steps s (.note key text) (s.mapStatus (·.note key text))

theorem steps_of_step {s t : DirtyLedger} {m : LedgerMove} (h : s.step m = some t) : s.Steps m t := by
  cases m with
  | channel m =>
    simp only [step] at h
    split at h
    · rename_i own
      obtain ⟨traffic, ht, rfl⟩ := Option.map_eq_some_iff.mp h
      exact .channel own ht
    · cases h
  | others state timestamp failure => cases h; exact .others state timestamp failure
  | report d => cases h; exact .report d
  | go i =>
    simp only [step] at h
    cases found : s.calls[i]? with
    | none => rw [found] at h; cases h
    | some c =>
      rw [found] at h
      dsimp only at h
      split at h
      · cases h
      · rename_i going
        cases h
        exact .go found fun e => going (by rw [e]; rfl)
  | note key text => cases h; exact .note key text

/-! ### Runs -/

theorem run_cons {s t : DirtyLedger} {m : LedgerMove} {rest : List LedgerMove}
    (h : s.run (m :: rest) = some t) : ∃ u, s.step m = some u ∧ u.run rest = some t := by
  simp only [run] at h
  cases hm : s.step m with
  | none => rw [hm] at h; cases h
  | some u => rw [hm] at h; exact ⟨u, rfl, h⟩

/-- What every move keeps, a run keeps. -/
theorem run_invariant {P : DirtyLedger → Prop}
    (keep : ∀ {s t : DirtyLedger} {m : LedgerMove}, P s → s.Steps m t → P t) {moves : List LedgerMove} :
    ∀ {s t : DirtyLedger}, P s → s.run moves = some t → P t := by
  induction moves with
  | nil => intro s t hs h; cases h; exact hs
  | cons m rest ih =>
    intro s t hs h
    obtain ⟨u, hm, hr⟩ := run_cons h
    exact ih (keep hs (steps_of_step hm)) hr

/-- What is done with reports is never undone. -/
theorem history_mono {s t : DirtyLedger} {moves : List LedgerMove} (h : s.run moves = some t) :
    s.history <+: t.history := by
  refine run_invariant (P := fun t => s.history <+: t.history) ?_ List.prefix_rfl h
  intro t u m grown hm
  cases hm with
  | go => exact grown.trans (List.prefix_append _ _)
  | channel | others | report | note => exact grown

variable {s t : DirtyLedger} {m : LedgerMove}

/-- What every move adds to, a run adds to move by move. -/
theorem grown_of_run {α : Type} {f : DirtyLedger → List α} {new? : LedgerMove → Option α}
    (grows : ∀ {s t : DirtyLedger} {m : LedgerMove}, s.Steps m t → f t = f s ++ (new? m).toList)
    {moves : List LedgerMove} :
    ∀ {s t : DirtyLedger}, s.run moves = some t → f t = f s ++ moves.filterMap new? := by
  induction moves with
  | nil => intro s t h; cases h; exact (List.append_nil _).symm
  | cons m rest ih =>
    intro s t h
    obtain ⟨u, hm, hr⟩ := run_cons h
    rw [ih hr, grows (steps_of_step hm), List.append_assoc]
    congr 1
    cases hn : new? m with
    | none => rw [List.filterMap_cons_none hn]; rfl
    | some x => rw [List.filterMap_cons_some hn]; rfl

/-- A report that goes on remains the same report. -/
theorem reports_advance {i : Nat} {c : DirtyCall} (found : s.calls[i]? = some c) :
    (s.advance i c).calls.map DirtyCall.report = s.calls.map DirtyCall.report := by
  obtain ⟨lt, rfl⟩ := List.getElem?_eq_some_iff.mp found
  unfold advance
  rw [List.map_set]
  show (s.calls.map DirtyCall.report).set i s.calls[i].report = _
  rw [← List.getElem_map DirtyCall.report (h := by rwa [List.length_map])]
  exact List.set_getElem_self _

theorem reports_of_run {moves : List LedgerMove} (h : s.run moves = some t) :
    t.calls.map DirtyCall.report =
      s.calls.map DirtyCall.report ++ moves.filterMap LedgerMove.report? := by
  refine grown_of_run (f := fun s => s.calls.map DirtyCall.report) ?_ h
  intro s t m hm
  cases hm with
  | report d => exact List.map_append
  | go found => exact (reports_advance found).trans (List.append_nil _).symm
  | channel | others | note => exact (List.append_nil _).symm

/-- The messages are kept in the order in which they come. -/
theorem notes_of_run {moves : List LedgerMove} (h : s.run moves = some t) :
    t.status.notes = s.status.notes ++ moves.filterMap LedgerMove.note? := by
  refine grown_of_run (f := fun s => s.status.notes) ?_ h
  intro s t m hm
  cases hm with
  | note key text => rfl
  | channel own hc =>
    exact (congrArg Reported.notes (Traffic.reported_step own hc)).trans (List.append_nil _).symm
  | go => exact (Collecting.notes_step _ _ _ _ _).trans (List.append_nil _).symm
  | others | report => exact (List.append_nil _).symm

/-! ## What the status says -/

/-- The reports of a side that have left a stage, in the order in which they did. -/
def passed (s : DirtyLedger) (side : Side) (g : Collecting) : List DirtyReport :=
  (s.history.filter fun c => c.report.side = side ∧ c.stage = g).map DirtyCall.report

/-- The reports that were considered for a sample, in the order in which they were. -/
def arrivals (s : DirtyLedger) : List DirtyReport :=
  (s.history.filter fun c => c.stage = .keeping).map DirtyCall.report

theorem passed_advance (s : DirtyLedger) (i : Nat) (c : DirtyCall) (side : Side) (g : Collecting) :
    (s.advance i c).passed side g =
      s.passed side g ++ if c.report.side = side ∧ c.stage = g then [c.report] else [] := by
  show ((s.history ++ [c]).filter _).map _ = _
  rw [List.filter_append, List.map_append]
  by_cases left : c.report.side = side ∧ c.stage = g
  · simp [passed, left]
  · simp [passed, left]

theorem arrivals_advance (s : DirtyLedger) (i : Nat) (c : DirtyCall) :
    (s.advance i c).arrivals = s.arrivals ++ if c.stage = .keeping then [c.report] else [] := by
  show ((s.history ++ [c]).filter _).map _ = _
  rw [List.filter_append, List.map_append]
  by_cases left : c.stage = .keeping
  · simp [arrivals, left]
  · simp [arrivals, left]

/-- What the status and the collectors say, where some number of samples may be kept. -/
structure Accounted (maxSamples : Nat) (s : DirtyLedger) : Prop where
  collector : ∀ side, s.collectors side = ⟨side, maxSamples, (s.passed side .numbering).length⟩
  count : ∀ {c : Counter}, c.isReported = true →
    s.status.count c = (s.history.map (DirtyCall.amount c)).sum % wordLimit
  dirty : s.status.dirty = (s.arrivals.take maxSamples).map DirtyReport.sample

theorem accounted_ofConfig (c : ChannelConfig) (state : TaskState) (timestamp : Int) (now : Nanos)
    (maxSamples : Nat) : (ofConfig c (.ofState state timestamp) now maxSamples).Accounted maxSamples where
  collector := fun _ => rfl
  count := by
    intro c hc
    cases c <;> rfl
  dirty := by
    show [] = ([].take maxSamples).map DirtyReport.sample
    rw [List.take_nil]
    rfl

/-- What is said stays true while nothing is reported. -/
theorem Accounted.of_reported {maxSamples : Nat} {s t : DirtyLedger} (h : s.Accounted maxSamples)
    (collectors : t.collectors = s.collectors) (history : t.history = s.history)
    (dirty : t.status.dirty = s.status.dirty)
    (counts : ∀ {c : Counter}, c.isReported = true → t.status.count c = s.status.count c) :
    t.Accounted maxSamples where
  collector := by
    intro side
    unfold passed
    rw [collectors, history]
    exact h.collector side
  count := by
    intro c hc
    rw [counts hc, history]
    exact h.count hc
  dirty := by
    unfold arrivals
    rw [dirty, history]
    exact h.dirty

theorem Accounted.advance {maxSamples : Nat} (h : s.Accounted maxSamples) (i : Nat) (c : DirtyCall) :
    (s.advance i c).Accounted maxSamples where
  collector := by
    intro side
    rw [passed_advance]
    show (if side = c.report.side then (s.stepOf c).collector else s.collectors side) = _
    rw [stepOf, Collecting.collector_step, h.collector, h.collector]
    by_cases own : side = c.report.side
    · subst own
      by_cases numbers : c.stage = .numbering <;> simp [numbers]
    · simp [own, Ne.symm own]
  count := by
    intro d hd
    show (s.stepOf c).status.count d = ((s.history ++ [c]).map (DirtyCall.amount d)).sum % wordLimit
    rw [stepOf, Collecting.count_step, h.count hd, h.collector, List.map_append, List.sum_append,
      Nat.mod_add_mod]
    simp [DirtyCall.amount]
  dirty := by
    rw [arrivals_advance]
    show (s.stepOf c).status.dirty = _
    rw [stepOf, Collecting.dirty_step, h.dirty, h.collector, List.length_map, List.length_take]
    dsimp only
    by_cases keeps : c.stage = .keeping
    · rw [if_pos keeps]
      by_cases room : s.arrivals.length < maxSamples
      · rw [if_pos ⟨keeps, by omega⟩, List.take_of_length_le (Nat.le_of_lt room),
          List.take_of_length_le (by rw [List.length_append]; exact room), List.map_append]
        rfl
      · rw [if_neg (by omega), List.take_append_of_le_length (Nat.le_of_not_lt room)]
    · rw [if_neg (fun h => keeps h.1), if_neg keeps, List.append_nil]

theorem Accounted.steps {maxSamples : Nat} (h : s.Accounted maxSamples) (hm : s.Steps m t) :
    t.Accounted maxSamples := by
  cases hm with
  | go => exact h.advance _ _
  | channel own hc =>
    have same := Traffic.reported_step own hc
    refine h.of_reported rfl rfl (congrArg Reported.dirty same) fun {c} hd => ?_
    exact congrArg UInt64.toNat (TaskStatus.get_eq_of_reported_eq same hd)
  | others | report | note => exact h.of_reported rfl rfl rfl fun _ => rfl

theorem accounted_of_run {config : ChannelConfig} {state : TaskState} {timestamp : Int} {now : Nanos}
    {maxSamples : Nat} {moves : List LedgerMove}
    (h : (ofConfig config (.ofState state timestamp) now maxSamples).run moves = some s) :
    s.Accounted maxSamples :=
  run_invariant Accounted.steps (accounted_ofConfig config state timestamp now maxSamples) h

/-! ## How far the reports have come -/

/-- The steps that were taken from a place are those of the reports that are past it. -/
def Tracked (s : DirtyLedger) : Prop :=
  ∀ n, ((s.history.filter fun c => c.stage.place = n).map DirtyCall.report).Perm
    ((s.calls.filter fun c => n < c.stage.place).map DirtyCall.report)

/-- A step of a report leaves the other reports as they are. -/
theorem perm_advance {i : Nat} {c : DirtyCall} (found : s.calls[i]? = some c) :
    ∃ others, s.calls.Perm (c :: others) ∧
      (s.advance i c).calls.Perm (⟨c.report, (s.stepOf c).next⟩ :: others) := by
  obtain ⟨lt, rfl⟩ := List.getElem?_eq_some_iff.mp found
  exact ⟨s.calls.eraseIdx i, (List.getElem_cons_eraseIdx_perm lt).symm,
    List.set_perm_cons_eraseIdx lt _⟩

theorem tracked_ofConfig (c : ChannelConfig) (status : TaskStatus) (now : Nanos) (maxSamples : Nat) :
    (ofConfig c status now maxSamples).Tracked := fun _ => .nil

theorem Tracked.advance (h : s.Tracked) {i : Nat} {c : DirtyCall} (found : s.calls[i]? = some c)
    (going : c.stage ≠ .done) : (s.advance i c).Tracked := by
  intro n
  obtain ⟨others, before, after⟩ := perm_advance found
  generalize hc' : DirtyCall.mk c.report (s.stepOf c).next = c' at after
  have place : c'.stage.place = c.stage.place + 1 := by
    rw [← hc']
    exact Collecting.place_step _ _ _ _ going
  have report : c'.report = c.report := by rw [← hc']
  have taken := (h n).trans ((before.filter _).map _)
  refine List.Perm.trans ?_ ((after.filter _).map _).symm
  show (((s.history ++ [c]).filter _).map _).Perm _
  rw [List.filter_append, List.map_append]
  by_cases here : c.stage.place = n
  · have beyond : ¬ n < c.stage.place := by omega
    have reached : n < c'.stage.place := by omega
    rw [List.filter_cons_of_neg (by simpa using beyond)] at taken
    rw [List.filter_cons_of_pos (by simpa using here), List.filter_cons_of_pos (by simpa using reached),
      List.filter_nil, List.map_cons, List.map_cons, report]
    exact (List.perm_append_singleton _ _).trans (taken.cons _)
  · have alike : n < c'.stage.place ↔ n < c.stage.place := by omega
    rw [List.filter_cons_of_neg (by simpa using here), List.filter_nil, List.map_nil, List.append_nil]
    simp only [List.filter_cons, alike] at taken ⊢
    refine taken.trans (List.Perm.of_eq ?_)
    split
    · rw [List.map_cons, List.map_cons, report]
    · rfl

theorem Tracked.steps (h : s.Tracked) (hm : s.Steps m t) : t.Tracked := by
  cases hm with
  | go found going => exact h.advance found going
  | channel | others | note => exact h
  | report d =>
    intro n
    have none_ : ([DirtyCall.mk d .counting].filter fun c => n < c.stage.place) = [] := by
      rw [List.filter_cons_of_neg (by simp [Collecting.place]), List.filter_nil]
    rw [List.filter_append, none_, List.append_nil]
    exact h n

/-- Whether all reports have come to their end. -/
def IsSettled (s : DirtyLedger) : Prop := ∀ c ∈ s.calls, c.stage = .done

instance (s : DirtyLedger) : Decidable s.IsSettled := by
  unfold IsSettled; infer_instance

theorem Tracked.of_isSettled (h : s.Tracked) (settled : s.IsSettled) {n : Nat} (hn : n < 5) :
    ((s.history.filter fun c => c.stage.place = n).map DirtyCall.report).Perm
      (s.calls.map DirtyCall.report) := by
  have all : (s.calls.filter fun c => n < c.stage.place) = s.calls := by
    refine List.filter_eq_self.mpr fun c hc => ?_
    rw [settled c hc]
    exact decide_eq_true hn
  have tracked := h n
  rwa [all] at tracked

end DirtyLedger

end BatchSync
