import BatchSync.Proofs.Dirty.Ledger

/-!
# What is counted and kept of dirty records

Whatever else happens to a status, the dirty records that are reported to it are counted on their side,
the first of them become samples, messages are kept in the order in which they come, and nothing else
depends on them.

1. `count_dirtyRecords` and `count_dirtyBytes` read the counters off the steps that reports have taken,
   and `passed_perm_of_run` says which reports these were once all have come to their end.
2. `run_without_reports` takes the reports out of a run, and finds everything else as it was.
3. `dirty_records_accounted` puts these together.
-/

namespace BatchSync

/-! ## Amounts -/

theorem totalSize_eq_sum (batch : List Record) : totalSize batch = (batch.map Record.byteSize).sum := by
  induction batch with
  | nil => rfl
  | cons r rest ih => rw [Channel.totalSize_cons, ih, List.map_cons, List.sum_cons]

theorem totalSize_of_perm {a b : List Record} (h : a.Perm b) : totalSize a = totalSize b := by
  rw [totalSize_eq_sum, totalSize_eq_sum]
  exact (h.map _).sum_nat

/-- Only those count that have an amount. -/
theorem sum_map_ite {α : Type} (p : α → Prop) [DecidablePred p] (amount : α → Nat) (xs : List α) :
    (xs.map fun x => if p x then amount x else 0).sum = ((xs.filter fun x => p x).map amount).sum := by
  induction xs with
  | nil => rfl
  | cons x rest ih =>
    rw [List.map_cons, List.sum_cons, ih]
    by_cases counts : p x
    · rw [if_pos counts, List.filter_cons_of_pos (by simpa using counts), List.map_cons, List.sum_cons]
    · rw [if_neg counts, List.filter_cons_of_neg (by simpa using counts), Nat.zero_add]

namespace Side

theorem dirtyRecords_eq_iff {a b : Side} : a.dirtyRecords = b.dirtyRecords ↔ b = a := by
  cases a <;> cases b <;> decide

theorem dirtyBytes_eq_iff {a b : Side} : a.dirtyBytes = b.dirtyBytes ↔ b = a := by
  cases a <;> cases b <;> decide

theorem dirtyRecords_ne_dirtyBytes (a b : Side) : a.dirtyRecords ≠ b.dirtyBytes := by
  cases a <;> cases b <;> decide

end Side

namespace DirtyCall

variable (c : DirtyCall) (side : Side)

theorem amount_dirtyRecords : c.amount side.dirtyRecords =
    if c.report.side = side ∧ c.stage = .counting then 1 else 0 := by
  unfold amount Collecting.amount
  cases c.stage <;> simp [Side.dirtyRecords_eq_iff, Side.dirtyRecords_ne_dirtyBytes]

theorem amount_dirtyBytes : c.amount side.dirtyBytes =
    if c.report.side = side ∧ c.stage = .weighing then c.report.record.byteSize else 0 := by
  unfold amount Collecting.amount
  cases c.stage <;> simp [Side.dirtyBytes_eq_iff, (Side.dirtyRecords_ne_dirtyBytes _ _).symm]

end DirtyCall

/-- Stages other than that of logging are known by their places. -/
theorem Collecting.place_eq_iff {g h : Collecting} (quiet : ∀ n, g ≠ .logging n) :
    h.place = g.place ↔ h = g := by
  cases g <;> cases h <;> simp_all [place]

namespace DirtyLedger

variable {s t : DirtyLedger} {maxSamples : Nat}

/-! ## Counters and samples -/

theorem Accounted.count_dirtyRecords (h : s.Accounted maxSamples) (side : Side) :
    s.status.count side.dirtyRecords = (s.passed side .counting).length % wordLimit := by
  have amounts : DirtyCall.amount side.dirtyRecords =
      fun c => if c.report.side = side ∧ c.stage = .counting then 1 else 0 :=
    funext fun c => c.amount_dirtyRecords side
  rw [h.count side.isReported_dirtyRecords, amounts, sum_map_ite, List.map_const', List.sum_replicate_nat,
    Nat.mul_one, passed, List.length_map]

theorem Accounted.count_dirtyBytes (h : s.Accounted maxSamples) (side : Side) :
    s.status.count side.dirtyBytes =
      totalSize ((s.passed side .weighing).map DirtyReport.record) % wordLimit := by
  have amounts : DirtyCall.amount side.dirtyBytes =
      fun c => if c.report.side = side ∧ c.stage = .weighing then c.report.record.byteSize else 0 :=
    funext fun c => c.amount_dirtyBytes side
  rw [h.count side.isReported_dirtyBytes, amounts, sum_map_ite, totalSize_eq_sum, passed, List.map_map,
    List.map_map]
  rfl

/-- The reports of a side, of all that were made. -/
def ofSide (side : Side) (ds : List DirtyReport) : List DirtyReport := ds.filter fun d => d.side = side

/-- Once all reports have come to their end, all those of a side have left a stage. -/
theorem Tracked.passed_perm (h : s.Tracked) (settled : s.IsSettled) (side : Side) {g : Collecting}
    (quiet : ∀ n, g ≠ .logging n) (going : g.place < 5) :
    (s.passed side g).Perm (ofSide side (s.calls.map DirtyCall.report)) := by
  have same : s.passed side g =
      ofSide side ((s.history.filter fun c => c.stage.place = g.place).map DirtyCall.report) := by
    unfold passed ofSide
    rw [List.filter_map, List.filter_filter]
    simp [Collecting.place_eq_iff quiet]
  rw [same]
  exact (h.of_isSettled settled going).filter _

theorem Tracked.arrivals_perm (h : s.Tracked) (settled : s.IsSettled) :
    s.arrivals.Perm (s.calls.map DirtyCall.report) := by
  have same : s.arrivals =
      (s.history.filter fun c => c.stage.place = Collecting.keeping.place).map DirtyCall.report := by
    unfold arrivals
    simp [Collecting.place_eq_iff]
  rw [same]
  exact h.of_isSettled settled (by decide)

theorem passed_perm_of_run {config : ChannelConfig} {status : TaskStatus} {now : Nanos} {maxSamples : Nat}
    {moves : List LedgerMove} (h : (ofConfig config status now maxSamples).run moves = some s)
    (settled : s.IsSettled) (side : Side) {g : Collecting} (quiet : ∀ n, g ≠ .logging n)
    (going : g.place < 5) :
    (s.passed side g).Perm (ofSide side (moves.filterMap LedgerMove.report?)) := by
  have tracked : s.Tracked := run_invariant Tracked.steps (tracked_ofConfig _ _ _ _) h
  have reports : s.calls.map DirtyCall.report = moves.filterMap LedgerMove.report? := reports_of_run h
  rw [← reports]
  exact tracked.passed_perm settled side quiet going

theorem arrivals_perm_of_run {config : ChannelConfig} {status : TaskStatus} {now : Nanos} {maxSamples : Nat}
    {moves : List LedgerMove} (h : (ofConfig config status now maxSamples).run moves = some s)
    (settled : s.IsSettled) : s.arrivals.Perm (moves.filterMap LedgerMove.report?) := by
  have tracked : s.Tracked := run_invariant Tracked.steps (tracked_ofConfig _ _ _ _) h
  have reports : s.calls.map DirtyCall.report = moves.filterMap LedgerMove.report? := reports_of_run h
  rw [← reports]
  exact tracked.arrivals_perm settled

/-! ## What does not depend on reports -/

/-- A move of the collectors changes what is reported, and nothing else. -/
theorem Steps.withReported_eq {m : LedgerMove} (hm : s.Steps m t) (own : m.isCollectors = true)
    (b : Reported) : t.traffic.withReported b = s.traffic.withReported b := by
  have status : t.status.withReported b = s.status.withReported b →
      t.traffic = { s.traffic with line := s.traffic.line.mapStatus fun _ => t.status } →
      t.traffic.withReported b = s.traffic.withReported b := by
    intro same ht
    rw [ht]
    unfold Traffic.withReported Line.withReported Line.mapStatus
    dsimp only
    rw [same]
    rfl
  cases hm with
  | channel | others => cases own
  | report d => rfl
  | go found going => exact status (Collecting.withReported_step _ _ _ _ _ b) rfl
  | note key text => exact status rfl rfl

/-- Other moves go the same way, whatever was reported. -/
theorem Steps.exists_step {m : LedgerMove} (hm : s.Steps m t) (other : m.isCollectors = false)
    {u : DirtyLedger} {b : Reported} (alike : u.traffic = s.traffic.withReported b) :
    ∃ v, u.step m = some v ∧ v.traffic = t.traffic.withReported b := by
  cases hm with
  | @channel m traffic own hc =>
    refine ⟨{ u with traffic := traffic.withReported b }, ?_, rfl⟩
    simp only [step, own, if_true]
    rw [alike, s.traffic.step_withReported b own, hc]
    rfl
  | others state timestamp failure =>
    refine ⟨_, rfl, ?_⟩
    unfold mapStatus
    dsimp only
    rw [alike]
    rfl
  | report | go | note => cases other

/-- **Nothing depends on reports.** Whoever else moves may do so as well if nothing is reported, and finds
the same traffic, the same state and the same counters, apart from those of reports. -/
theorem run_without_reports {moves : List LedgerMove} {b : Reported} : ∀ {s t u : DirtyLedger},
    s.run moves = some t → u.traffic = s.traffic.withReported b →
      ∃ v, u.run (moves.filter fun m => !m.isCollectors) = some v ∧
        v.traffic = t.traffic.withReported b := by
  induction moves with
  | nil => intro s t u h alike; cases h; exact ⟨u, rfl, alike⟩
  | cons m rest ih =>
    intro s t u h alike
    obtain ⟨s', hm, hr⟩ := run_cons h
    have steps := steps_of_step hm
    cases own : m.isCollectors with
    | true =>
      rw [List.filter_cons_of_neg (by simp [own])]
      exact ih hr (alike.trans (steps.withReported_eq own b).symm)
    | false =>
      rw [List.filter_cons_of_pos (by simp [own])]
      obtain ⟨u', hu, alike'⟩ := steps.exists_step own alike
      simp only [run, hu]
      exact ih hr alike'

/-! ## All together -/

/-- **Dirty records are accounted for.** However the reports of both sides of an attempt, the callers of
its channel and those who change the state of its task take turns:
1. The counters of a side count the reports that have got there, and their bytes, as words.
2. The samples are the first of the reports that have arrived there, up to their limit, each with its
   record's document and the whole text of its error; what arrives later comes behind.
3. The messages under a key are all that were reported, in their order.
4. Once all reports have come to their end, the counters count all reports of their sides, and all have
   arrived.
5. Everything else is as it would be without any report: the channel and its callers, the flow control,
   and the status apart from what is reported. -/
theorem dirty_records_accounted (config : ChannelConfig) (state : TaskState) (timestamp : Int)
    (now : Nanos) (maxSamples : Nat) {moves : List LedgerMove} {s : DirtyLedger}
    (h : (ofConfig config (.ofState state timestamp) now maxSamples).run moves = some s) :
    (∀ side, s.status.count side.dirtyRecords = (s.passed side .counting).length % wordLimit ∧
      s.status.count side.dirtyBytes =
        totalSize ((s.passed side .weighing).map DirtyReport.record) % wordLimit) ∧
    (s.status.dirty = (s.arrivals.take maxSamples).map (fun d => ⟨d.record.toJson, d.error.text⟩) ∧
      ∀ later t, s.run later = some t → s.arrivals <+: t.arrivals) ∧
    (∀ key, s.status.notesUnder key =
      ((moves.filterMap LedgerMove.note?).filter fun n => n.key == key).map Note.text) ∧
    (s.IsSettled →
      (∀ side, s.status.count side.dirtyRecords =
          (ofSide side (moves.filterMap LedgerMove.report?)).length % wordLimit ∧
        s.status.count side.dirtyBytes =
          totalSize ((ofSide side (moves.filterMap LedgerMove.report?)).map DirtyReport.record) %
            wordLimit) ∧
      s.arrivals.Perm (moves.filterMap LedgerMove.report?)) ∧
    ∃ u, (ofConfig config (.ofState state timestamp) now maxSamples).run
        (moves.filter fun m => !m.isCollectors) = some u ∧
      s.traffic = u.traffic.withReported s.status.reported := by
  have accounted := accounted_of_run h
  have notes : s.status.notes = moves.filterMap LedgerMove.note? := notes_of_run h
  refine ⟨fun side => ⟨accounted.count_dirtyRecords side, accounted.count_dirtyBytes side⟩,
    ⟨accounted.dirty, fun later t ht => ((history_mono ht).filter _).map _⟩, fun key => ?_,
    fun settled => ⟨fun side => ?_, arrivals_perm_of_run h settled⟩, ?_⟩
  · unfold TaskStatus.notesUnder
    rw [notes]
  · have counted := passed_perm_of_run h settled side (g := .counting) nofun (by decide)
    have weighed := passed_perm_of_run h settled side (g := .weighing) nofun (by decide)
    rw [accounted.count_dirtyRecords, accounted.count_dirtyBytes, counted.length_eq,
      totalSize_of_perm (weighed.map _)]
    exact ⟨rfl, rfl⟩
  · obtain ⟨u, hu, alike⟩ := run_without_reports h (Traffic.withReported_reported _).symm
    refine ⟨u, hu, ?_⟩
    rw [alike, Traffic.withReported_withReported]
    exact (Traffic.withReported_reported s.traffic).symm

/-- A dirty record of the reader. -/
def badRow : DirtyReport := ⟨.reader, .ofColumns [.string "abc"], .message "bad row" []⟩

/-- A dirty record of the writer. -/
def duplicateKey : DirtyReport :=
  ⟨.writer, .ofColumns [.string "de", .null], .message "duplicate key" ["cannot insert row"]⟩

/-- Both sides report a dirty record while a record is put into the channel. The writer's comes to its
end first. -/
def overlapping : List LedgerMove :=
  [.channel (.call (.put badRow.record)), .report badRow, .go 0, .report duplicateKey, .go 1, .go 1,
    .channel (.go 0), .go 0, .note "rows" "1 bad", .go 1, .go 1, .go 1, .others .failed 20 none, .go 0,
    .go 0, .go 0, .note "rows" "1 duplicate"]

/-- What they lead to, where one sample may be kept. -/
def overlapped : DirtyLedger :=
  ((ofConfig {} (.ofState .running 10) 0 1).run overlapping).get (by decide +kernel)

/-- Each side has its own counters, and the one sample is the writer's. -/
theorem dirty_records_accounted_overlapping :
    (ofConfig {} (.ofState .running 10) 0 1).run overlapping = some overlapped ∧
      overlapped.IsSettled ∧
      overlapped.status.count .readFailedRecords = 1 ∧ overlapped.status.count .readFailedBytes = 3 ∧
      overlapped.status.count .writeFailedRecords = 1 ∧ overlapped.status.count .writeFailedBytes = 2 ∧
      overlapped.status.dirty =
        [⟨.array [.object [("type", .string "STRING"), ("value", .string "de")],
            .object [("type", .string "NULL")]],
          "cannot insert row: duplicate key"⟩] ∧
      overlapped.status.notesUnder "rows" = ["1 bad", "1 duplicate"] ∧
      ∃ u, (ofConfig {} (.ofState .running 10) 0 1).run
          [.channel (.call (.put badRow.record)), .channel (.go 0), .others .failed 20 none] = some u ∧
        overlapped.traffic = u.traffic.withReported overlapped.status.reported := by
  have run : (ofConfig {} (.ofState .running 10) 0 1).run overlapping = some overlapped :=
    (Option.some_get _).symm
  have settled : overlapped.IsSettled := by decide +kernel
  obtain ⟨-, ⟨samples, -⟩, notes, counts, others⟩ := dirty_records_accounted {} .running 10 0 1 run
  have first : overlapped.arrivals.take 1 = [duplicateKey] := rfl
  rw [first] at samples
  exact ⟨run, settled, ((counts settled).1 .reader).1, ((counts settled).1 .reader).2,
    ((counts settled).1 .writer).1, ((counts settled).1 .writer).2, samples, notes "rows", others⟩

end DirtyLedger

end BatchSync
