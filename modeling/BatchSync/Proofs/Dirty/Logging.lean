import BatchSync.Proofs.Dirty.Accounting

/-!
# What is logged of dirty records

Every collector numbers the reports of its side, and logs those of the first `maxLogged` numbers. An
attempt has a collector for each side, so that more than `maxLogged` of its dirty records may be logged.

1. `Numbered` says that the reports at or behind their logging have all the numbers that were given out.
2. `logged_by_side` says which reports are logged, and when these are `maxLogged` at most.
-/

namespace BatchSync

open DirtyCollector (maxLogged)

/-- The reports of the numbers below a bound are the first ones. -/
theorem map_fst_filter_zipIdx {α : Type} (bound : Nat) : ∀ (xs : List α) (from_ : Nat),
    ((xs.zipIdx from_).filter fun x => x.2 < bound).map Prod.fst = xs.take (bound - from_) := by
  intro xs
  induction xs with
  | nil => intro from_; rw [List.take_nil]; rfl
  | cons x rest ih =>
    intro from_
    rw [List.zipIdx_cons]
    by_cases low : from_ < bound
    · rw [List.filter_cons_of_pos (by simpa using low), List.map_cons, ih,
        show bound - from_ = (bound - (from_ + 1)) + 1 by omega, List.take_succ_cons]
    · rw [List.filter_cons_of_neg (by simpa using low), ih, show bound - from_ = 0 by omega,
        show bound - (from_ + 1) = 0 by omega, List.take_zero, List.take_zero]

/-- The number of a report of a side that is about to be logged, with the report. -/
def DirtyCall.ticket? (side : Side) (c : DirtyCall) : Option (DirtyReport × Nat) :=
  match c.stage with
  | .logging number => if c.report.side = side then some (c.report, number) else none
  | _ => none

theorem Collecting.logged_step (g : Collecting) (k : DirtyCollector) (s : TaskStatus) (r : Record)
    (e : PluginError) : (g.step k s r e).logged =
      match g with
      | .logging number => eventsAt number r e
      | _ => [] := by
  cases g <;> rfl

namespace DirtyLedger

variable {s t : DirtyLedger} {m : LedgerMove} {maxSamples : Nat} {side : Side}

/-- What was logged of the reports of a side. -/
def loggedOf (s : DirtyLedger) (side : Side) : List LogEvent :=
  (s.logged.filter fun x => x.1 = side).map Prod.snd

/-- The numbers of the reports of a side that were logged, or left out. -/
def tickets (s : DirtyLedger) (side : Side) : List (DirtyReport × Nat) :=
  s.history.filterMap (DirtyCall.ticket? side)

/-- The numbers that are out are those that were given out, and those that came to be logged were, if they
were low enough. -/
structure Numbered (s : DirtyLedger) : Prop where
  out : ∀ side, (s.tickets side ++ s.calls.filterMap (DirtyCall.ticket? side)).Perm
    (s.passed side .numbering).zipIdx
  logged : ∀ side, s.loggedOf side =
    ((s.tickets side).filter fun x => x.2 < maxLogged).map fun x => x.1.event

/-- The next stage of a report has a number just if the report is to get one. -/
theorem ticket?_next (accounted : s.Accounted maxSamples) (c : DirtyCall) (side : Side) :
    DirtyCall.ticket? side ⟨c.report, (s.stepOf c).next⟩ =
      if c.report.side = side ∧ c.stage = .numbering then
        some (c.report, (s.passed side .numbering).length) else none := by
  by_cases own : c.report.side = side
  · subst own
    cases hg : c.stage with
    | numbering =>
      simp only [DirtyCall.ticket?, stepOf, hg, Collecting.step, accounted.collector, and_self, if_true]
    | _ => simp [DirtyCall.ticket?, stepOf, hg, Collecting.step]
  · cases hg : c.stage with
    | _ => simp [DirtyCall.ticket?, stepOf, hg, Collecting.step, own]

theorem Numbered.advance (h : s.Numbered) (accounted : s.Accounted maxSamples) {i : Nat} {c : DirtyCall}
    (found : s.calls[i]? = some c) : (s.advance i c).Numbered where
  out := by
    intro side
    obtain ⟨others, before, after⟩ := perm_advance found
    have next := ticket?_next accounted c side
    generalize DirtyCall.mk c.report (s.stepOf c).next = c' at next after
    -- the step leaves the report behind as it was, and adds what it is now
    have stages : ((s.history ++ [c]) ++ (s.advance i c).calls).Perm ((s.history ++ s.calls) ++ [c']) := by
      refine (after.append_left _).trans (.trans ?_ ((before.append_left _).symm.append_right _))
      rw [List.append_assoc, List.append_assoc]
      exact ((List.perm_append_singleton c' _).symm.cons c).append_left _
    show ((s.history ++ [c]).filterMap _ ++ _).Perm _
    rw [← List.filterMap_append]
    refine (stages.filterMap _).trans ?_
    rw [List.filterMap_append, List.filterMap_append, passed_advance, List.zipIdx_append, Nat.zero_add]
    refine (h.out side).append (.of_eq ?_)
    rw [List.filterMap_cons, next, List.filterMap_nil]
    by_cases numbers : c.report.side = side ∧ c.stage = .numbering
    · rw [if_pos numbers, if_pos numbers]
      rfl
    · rw [if_neg numbers, if_neg numbers]
      rfl
  logged := by
    intro side
    have tickets : (s.advance i c).tickets side = s.tickets side ++ [c].filterMap (DirtyCall.ticket? side) :=
      List.filterMap_append
    show ((s.logged ++ (s.stepOf c).logged.map fun e => (c.report.side, e)).filter _).map _ = _
    rw [tickets, List.filter_append, List.filter_append, List.map_append, List.map_append, stepOf,
      Collecting.logged_step]
    refine congrArg₂ _ (h.logged side) ?_
    cases hg : c.stage with
    | logging number =>
      by_cases own : c.report.side = side <;> by_cases low : number < maxLogged <;>
        simp [DirtyCall.ticket?, hg, own, low, Collecting.eventsAt, DirtyReport.event]
    | _ => simp [DirtyCall.ticket?, hg]

theorem Numbered.steps (h : s.Numbered) (accounted : s.Accounted maxSamples) (hm : s.Steps m t) :
    t.Numbered := by
  cases hm with
  | go found => exact h.advance accounted found
  | channel | others | note => exact ⟨h.out, h.logged⟩
  | report d =>
    refine ⟨fun side => ?_, h.logged⟩
    have none_ : [DirtyCall.mk d .counting].filterMap (DirtyCall.ticket? side) = [] := rfl
    rw [List.filterMap_append, none_, List.append_nil]
    exact h.out side

theorem numbered_of_run {config : ChannelConfig} {state : TaskState} {timestamp : Int} {now : Nanos}
    {maxSamples : Nat} {moves : List LedgerMove}
    (h : (ofConfig config (.ofState state timestamp) now maxSamples).run moves = some s) :
    s.Numbered := by
  refine (run_invariant (P := fun s => s.Accounted maxSamples ∧ s.Numbered) ?_ ?_ h).2
  · exact fun hs hm => ⟨hs.1.steps hm, hs.2.steps hs.1 hm⟩
  · exact ⟨accounted_ofConfig config state timestamp now maxSamples, fun _ => .nil, fun _ => rfl⟩

/-- What is logged of numbers, if they are low enough. -/
def eventsOf (tickets : List (DirtyReport × Nat)) : List LogEvent :=
  ((tickets.filter fun x => x.2 < maxLogged).map Prod.fst).map DirtyReport.event

theorem eventsOf_zipIdx (ds : List DirtyReport) :
    eventsOf ds.zipIdx = (ds.take maxLogged).map DirtyReport.event := by
  unfold eventsOf
  rw [map_fst_filter_zipIdx, Nat.sub_zero]

theorem Numbered.loggedOf_eq (h : s.Numbered) (side : Side) :
    s.loggedOf side = eventsOf (s.tickets side) := by
  rw [h.logged, eventsOf, List.map_map]
  rfl

/-- What is logged of a side is of its first reports. -/
theorem Numbered.subperm (h : s.Numbered) (side : Side) :
    (s.loggedOf side).Subperm (((s.passed side .numbering).take maxLogged).map DirtyReport.event) := by
  rw [h.loggedOf_eq, ← eventsOf_zipIdx]
  have all : (eventsOf (s.tickets side ++ _)).Perm (eventsOf _) := (((h.out side).filter _).map _).map _
  exact ((((List.sublist_append_left _ _).filter _).map _).map _).subperm.trans all.subperm

/-- Once all reports have come to their end, all of the first reports of a side are logged. -/
theorem Numbered.perm (h : s.Numbered) (settled : s.IsSettled) (side : Side) :
    (s.loggedOf side).Perm (((s.passed side .numbering).take maxLogged).map DirtyReport.event) := by
  have none_ : s.calls.filterMap (DirtyCall.ticket? side) = [] := by
    refine List.filterMap_eq_nil_iff.mpr fun c hc => ?_
    unfold DirtyCall.ticket?
    rw [settled c hc]
  have all := h.out side
  rw [none_, List.append_nil] at all
  rw [h.loggedOf_eq, ← eventsOf_zipIdx]
  exact ((all.filter _).map _).map _

/-- What is of both sides is all there is. -/
theorem length_eq_add_of_sides {α : Type} (sideOf : α → Side) (xs : List α) :
    xs.length = (xs.filter fun x => sideOf x = .reader).length +
      (xs.filter fun x => sideOf x = .writer).length := by
  induction xs with
  | nil => rfl
  | cons x rest ih => cases hx : sideOf x <;> simp [hx, ih] <;> omega

theorem length_logged (s : DirtyLedger) :
    s.logged.length = (s.loggedOf .reader).length + (s.loggedOf .writer).length := by
  unfold loggedOf
  rw [List.length_map, List.length_map]
  exact length_eq_add_of_sides Prod.fst _

/-- **Every side has a limit of its own.** However the reports of both sides of an attempt take turns with
each other and with everything else:
1. At any time, what is logged of a side is of its first `maxLogged` reports in the order in which they got
   their numbers, so that no more than twice as many reports of the attempt are logged.
2. Once all reports have come to their end, all of them are counted, and all of the first `maxLogged` of
   each side are logged.
3. So no more than `maxLogged` reports of the attempt are logged just if there were no more, or only one
   side has reported any. -/
theorem logged_by_side (config : ChannelConfig) (state : TaskState) (timestamp : Int) (now : Nanos)
    (maxSamples : Nat) {moves : List LedgerMove} {s : DirtyLedger}
    (h : (ofConfig config (.ofState state timestamp) now maxSamples).run moves = some s) :
    (∀ side, (s.loggedOf side).Subperm
      (((s.passed side .numbering).take maxLogged).map DirtyReport.event)) ∧
    s.logged.length ≤ 2 * maxLogged ∧
    (s.IsSettled →
      (∀ side,
        (s.loggedOf side).Perm (((s.passed side .numbering).take maxLogged).map DirtyReport.event) ∧
        (s.passed side .numbering).Perm (ofSide side (moves.filterMap LedgerMove.report?)) ∧
        s.status.count side.dirtyRecords =
          (ofSide side (moves.filterMap LedgerMove.report?)).length % wordLimit) ∧
      (s.logged.length ≤ maxLogged ↔
        (moves.filterMap LedgerMove.report?).length ≤ maxLogged ∨
          ∃ side, ofSide side (moves.filterMap LedgerMove.report?) = [])) := by
  have accounted := accounted_of_run h
  have numbered := numbered_of_run h
  have bounded : ∀ side, (s.loggedOf side).length ≤ maxLogged := by
    intro side
    refine Nat.le_trans (numbered.subperm side).length_le ?_
    rw [List.length_map, List.length_take]
    exact Nat.min_le_left _ _
  refine ⟨numbered.subperm, ?_, fun settled => ?_⟩
  · rw [length_logged]
    have reader := bounded .reader
    have writer := bounded .writer
    omega
  · have all : ∀ side, (s.passed side .numbering).Perm
        (ofSide side (moves.filterMap LedgerMove.report?)) :=
      fun side => passed_perm_of_run h settled side nofun (by decide)
    have counted : ∀ side, s.status.count side.dirtyRecords =
        (ofSide side (moves.filterMap LedgerMove.report?)).length % wordLimit := by
      intro side
      rw [accounted.count_dirtyRecords,
        (passed_perm_of_run h settled side (g := .counting) nofun (by decide)).length_eq]
    have lengths : ∀ side, (s.loggedOf side).length =
        min maxLogged (ofSide side (moves.filterMap LedgerMove.report?)).length := by
      intro side
      rw [(numbered.perm settled side).length_eq, List.length_map, List.length_take, (all side).length_eq]
    refine ⟨fun side => ⟨numbered.perm settled side, all side, counted side⟩, ?_⟩
    have of_sides : (moves.filterMap LedgerMove.report?).length =
        (ofSide .reader (moves.filterMap LedgerMove.report?)).length +
          (ofSide .writer (moves.filterMap LedgerMove.report?)).length :=
      length_eq_add_of_sides DirtyReport.side _
    have pos : 0 < maxLogged := by decide
    rw [length_logged, lengths, lengths, of_sides]
    constructor
    · intro few
      by_cases none_ : (ofSide .reader (moves.filterMap LedgerMove.report?)).length = 0
      · exact .inr ⟨.reader, List.length_eq_zero_iff.mp none_⟩
      · by_cases none_ : (ofSide .writer (moves.filterMap LedgerMove.report?)).length = 0
        · exact .inr ⟨.writer, List.length_eq_zero_iff.mp none_⟩
        · exact .inl (by omega)
    · rintro (few | ⟨side, none_⟩)
      · omega
      · have none_ := List.length_eq_zero_iff.mpr none_
        cases side <;> omega

/-- Of two reports that overlap, one of each side, both are logged. -/
theorem logged_by_side_overlapping :
    (ofConfig {} (.ofState .running 10) 0 1).run overlapping = some overlapped ∧
      overlapped.IsSettled ∧
      (overlapped.loggedOf .reader).Perm [badRow.event] ∧
      (overlapped.loggedOf .writer).Perm [duplicateKey.event] ∧
      overlapped.logged.length ≤ maxLogged := by
  have run : (ofConfig {} (.ofState .running 10) 0 1).run overlapping = some overlapped :=
    (Option.some_get _).symm
  have settled : overlapped.IsSettled := by decide +kernel
  obtain ⟨sides, few⟩ := (logged_by_side {} .running 10 0 1 run).2.2 settled
  have reader := (sides .reader).1
  have writer := (sides .writer).1
  exact ⟨run, settled, reader, writer, few.mpr (.inl (by decide))⟩

/-! ### More than the limit -/

/-- The moves of reports that are made one after the other. -/
def inTurn (ds : List DirtyReport) : List LedgerMove :=
  ds.zipIdx.flatMap fun (d, i) => .report d :: List.replicate 5 (.go i)

/-- As many reports of the reader as may be logged, and then one of the writer. -/
def flood : List DirtyReport := List.replicate maxLogged badRow ++ [duplicateKey]

/-- The report of the writer is logged as well. -/
theorem logged_beyond_the_limit :
    ∃ s, (ofConfig {} (.ofState .running 10) 0 10).run (inTurn flood) = some s ∧
      s.IsSettled ∧ s.logged.length = maxLogged + 1 := by
  have goes : (((ofConfig {} (.ofState .running 10) 0 10).run (inTurn flood)).any fun s =>
      s.IsSettled ∧ s.logged.length = maxLogged + 1) = true := by decide +kernel
  obtain ⟨s, run, last⟩ := (Option.any_eq_true _ _).mp goes
  exact ⟨s, run, of_decide_eq_true last⟩

end DirtyLedger

end BatchSync
