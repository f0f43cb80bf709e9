import BatchSync.Proofs.Channel.Accounting
import BatchSync.Proofs.Group.Passage

/-!
# What is counted of attempts

The counters of an attempt say, as words, how many records its channel let in and out, and how many
dirty records each of its plugins reported (`Trial.Tallied`). What left the channel is what the writer
was handed and what is on its way to it.
-/

namespace BatchSync

open AttemptEvent Crossing

variable {ρ ω : Type}

/-! ## Steps of threads -/

theorem Side.dirtyRecords_ne_traffic (side : Side) :
    side.dirtyRecords ≠ .readSucceedRecords ∧ side.dirtyRecords ≠ .readSucceedBytes ∧
      side.dirtyRecords ≠ .writeReceivedRecords ∧ side.dirtyRecords ≠ .writeReceivedBytes ∧
      side.dirtyRecords ≠ .waitReaderTime ∧ side.dirtyRecords ≠ .waitWriterTime := by
  cases side <;> decide

/-- A call on the way in counts no dirty records. -/
theorem Sending.Moves.count_dirty {l l' : Line} {now : Nanos} {cs : List Crossing} {d d' : Sending}
    (h : d.Moves l now cs l' d') (side : Side) :
    l'.status.count side.dirtyRecords = l.status.count side.dirtyRecords := by
  obtain ⟨records, bytes, -, -, -, waited⟩ := side.dirtyRecords_ne_traffic
  cases h with
  | enter =>
    unfold Line.enter Line.countRead
    rw [TaskStatus.count_add_of_ne _ _ waited, TaskStatus.count_add_of_ne _ _ bytes,
      TaskStatus.count_add_of_ne _ _ records]
  | _ => rfl

/-- A call on the way out counts no dirty records. -/
theorem Receiving.Moves.count_dirty {l l' : Line} {now : Nanos} {cs : List Crossing}
    {d d' : Receiving} (h : d.Moves l now cs l' d') (side : Side) :
    l'.status.count side.dirtyRecords = l.status.count side.dirtyRecords := by
  obtain ⟨-, -, records, bytes, waited, -⟩ := side.dirtyRecords_ne_traffic
  cases h with
  | wait => rfl
  | take =>
    unfold Line.release Line.countReceived
    rw [TaskStatus.count_add_of_ne _ _ bytes, TaskStatus.count_add_of_ne _ _ records,
      TaskStatus.count_add_of_ne _ _ waited]

/-- A collector of a side has its dirty records counted in a status. -/
structure DirtyCollector.Counts (side : Side) (s : TaskStatus) (k : DirtyCollector) : Prop where
  side_eq : k.side = side
  count : s.count side.dirtyRecords = k.collected % wordLimit

namespace DirtyCollector

variable {side : Side} {s s' : TaskStatus} {k : DirtyCollector}

theorem Counts.of_count_eq (h : k.Counts side s)
    (same : s'.count side.dirtyRecords = s.count side.dirtyRecords) : k.Counts side s' :=
  ⟨h.side_eq, same.trans h.count⟩

/-- One more dirty record is counted on the side of its collector alone. -/
theorem Counts.account (h : k.Counts side s) (r : Record) (e : PluginError) :
    Counts side (account k.side k.maxSamples s r e) { k with collected := k.collected + 1 } ∧
      ∀ other, other ≠ side →
        (DirtyCollector.account k.side k.maxSamples s r e).count other.dirtyRecords =
          s.count other.dirtyRecords := by
  obtain ⟨rfl, hc⟩ := h
  refine ⟨⟨rfl, ?_⟩, fun other ne => ?_⟩
  · have bytes : k.side.dirtyRecords ≠ k.side.dirtyBytes := by cases k.side <;> decide
    unfold DirtyCollector.account
    rw [TaskStatus.count_sample, TaskStatus.count_add_of_ne _ _ bytes, TaskStatus.count_add_self, hc,
      Nat.mod_add_mod]
  · apply count_account
    · cases ho : other <;> cases hk : k.side <;> first | decide | exact absurd (ho.trans hk.symm) ne
    · cases other <;> cases k.side <;> decide

end DirtyCollector

theorem PluginAct.count_dirty_beside {κ : Type} (a : PluginAct κ) (l : Line) (side : Side) :
    (a.beside l).status.count side.dirtyRecords = l.status.count side.dirtyRecords :=
  a.count_beside l _

/-- The reader counts its own dirty records, and lets nothing out of the channel. -/
theorem ReaderThread.Moves.tally {plugin : Reader ρ} {w : Surroundings} {l l' : Line}
    {t t' : ReaderThread ρ} {es : List AttemptEvent} (hm : t.Moves plugin w l es l' t')
    (h : t.collector.Counts .reader l.status) :
    (∃ cs, l.Change cs l' ∧ departures cs = []) ∧ t'.collector.Counts .reader l'.status ∧
      l'.status.count Side.writer.dirtyRecords = l.status.count Side.writer.dirtyRecords := by
  have sending : ∀ {now : Nanos} {cs : List Crossing} {d d' : Sending}, d.Moves l now cs l' d' →
      ∃ cs, l.Change cs l' ∧ departures cs = [] := by
    intro now cs d d' hd
    refine ⟨cs, hd.change, ?_⟩
    cases hd <;> rfl
  cases hm with
  | dirty =>
    obtain ⟨own, other⟩ := h.account _ _
    exact ⟨⟨[], .restate _ (DirtyCollector.agrees_account _ _ _ _ _), rfl⟩, own, other _ nofun⟩
  | aside =>
    exact ⟨⟨[], PluginAct.change_beside _ _, rfl⟩, h.of_count_eq (PluginAct.count_dirty_beside _ _ _),
      PluginAct.count_dirty_beside _ _ _⟩
  | go hd => exact ⟨sending hd, h.of_count_eq (hd.count_dirty _), hd.count_dirty _⟩
  | ending hd => exact ⟨sending hd, h.of_count_eq (hd.count_dirty _), hd.count_dirty _⟩
  | settle =>
    exact ⟨⟨[], .restate _ fun c _ => Failing.count_step _ _ _, rfl⟩,
      h.of_count_eq (Failing.count_step _ _ _), Failing.count_step _ _ _⟩
  | close => exact ⟨⟨[], .close, rfl⟩, h, rfl⟩
  | init | start | call | finish | fails | panics | answer | ended | leave | fail | settled =>
    exact ⟨⟨[], .idle, rfl⟩, h, rfl⟩

/-- The writer counts its own dirty records, and what it lets out of the channel is on its way to the
body. -/
theorem WriterThread.Moves.tally {plugin : Writer ω} {w : Surroundings} {l l' : Line}
    {t t' : WriterThread ω} {es : List AttemptEvent} (hm : t.Moves plugin w l es l' t')
    (h : t.collector.Counts .writer l.status) :
    (∃ cs, l.Change cs l' ∧ given es ++ t'.coming = t.coming ++ departures cs) ∧
      t'.collector.Counts .writer l'.status ∧
      l'.status.count Side.reader.dirtyRecords = l.status.count Side.reader.dirtyRecords := by
  have still : ∀ {t' : WriterThread ω} {es : List AttemptEvent}, given es = [] →
      t'.coming = t.coming → given es ++ t'.coming = t.coming ++ departures [] := by
    intro t' es hg hc
    rw [hg, hc]
    exact (List.append_nil _).symm
  cases hm with
  | @next x k s =>
    refine ⟨⟨[], .idle, ?_⟩, h, rfl⟩
    exact (x.given_next).trans (List.append_nil _).symm
  | @back x k s batch =>
    refine ⟨⟨[], .idle, ?_⟩, h, rfl⟩
    exact ((x.accept batch).given_next).trans (List.append_nil _).symm
  | @ask x k s =>
    exact ⟨⟨[], .idle, rfl⟩, h, rfl⟩
  | @go x k s d d' cs _ hd =>
    refine ⟨⟨cs, hd.change, ?_⟩, h.of_count_eq (hd.count_dirty _), hd.count_dirty _⟩
    cases hd with
    | wait => exact (List.append_nil _).symm
    | take asks =>
      show x.incoming ++ _ = x.incoming ++ d.batch ++ (_ ++ [])
      rw [asks.batch_eq, List.append_nil, List.append_nil]
      rfl
  | dirty =>
    obtain ⟨own, other⟩ := h.account _ _
    exact ⟨⟨[], .restate _ (DirtyCollector.agrees_account _ _ _ _ _), still rfl rfl⟩, own,
      other _ nofun⟩
  | aside =>
    exact ⟨⟨[], PluginAct.change_beside _ _, still rfl rfl⟩,
      h.of_count_eq (PluginAct.count_dirty_beside _ _ _), PluginAct.count_dirty_beside _ _ _⟩
  | settle =>
    exact ⟨⟨[], .restate _ fun c _ => Failing.count_step _ _ _, still rfl rfl⟩,
      h.of_count_eq (Failing.count_step _ _ _), Failing.count_step _ _ _⟩
  | fails ends => cases ends <;> exact ⟨⟨[], .idle, still rfl rfl⟩, h, rfl⟩
  | panics ends => cases ends <;> exact ⟨⟨[], .idle, still rfl rfl⟩, h, rfl⟩
  | shut | close => exact ⟨⟨[], .close, still rfl rfl⟩, h, rfl⟩
  | init | start | finish | leave | fail | settled => exact ⟨⟨[], .idle, still rfl rfl⟩, h, rfl⟩

/-! ## Attempts -/

/-- Drivers count nothing. -/
theorem DriverPhase.Tends.count_eq {g : Group ρ ω} {t t' : Attempt ρ ω}
    {phase phase' : DriverPhase ρ ω} {es : List AttemptEvent} (h : phase.Tends g t es t' phase')
    (c : Counter) : t'.status.count c = t.status.count c := by
  cases h with
  | hang => exact Failing.count_step _ _ _
  | fail => exact Failing.count_step _ _ _
  | kill | settle =>
    show (t.status.moveTo _).count c = _
    unfold TaskStatus.moveTo
    split <;> rfl
  | _ => rfl

/-- The records that have left the channel and were not yet handed to the writer. -/
def Attempt.coming (t : Attempt ρ ω) : List Record := t.threads.elim [] fun th => th.writer.coming

/-- How the counters of an attempt go with what has happened. -/
structure Trial.Tallied (u : Trial ρ ω) (es : List AttemptEvent) : Prop where
  traffic : ∃ log, u.attempt.line.Accounts log ∧ u.attempt.line.Conserves log ∧
    departures log = given es ++ u.attempt.coming
  clean : u.attempt.threads = none → ∀ side : Side, u.attempt.status.count side.dirtyRecords = 0
  dirty : ∀ {th : AttemptThreads ρ ω}, u.attempt.threads = some th →
    th.reader.collector.Counts .reader u.attempt.status ∧
      th.writer.collector.Counts .writer u.attempt.status

namespace Trial

variable {p : GroupPlugins ρ ω} {g : Group ρ ω} {u u' : Trial ρ ω} {es es' : List AttemptEvent}

theorem tallied_fresh (g : Group ρ ω) (j : Job ρ ω) (a : Nat) :
    Tallied ⟨some (.makingReader j a), g.freshAttempt j.spec⟩ [] where
  traffic := ⟨[], Line.accounts_ofConfig _ _ fun k _ => by cases k <;> rfl, rfl, rfl⟩
  clean := fun _ side => by cases side <;> rfl
  dirty := nofun

theorem Tallied.moves (h : u.Tallied es) (standing : u.Standing g.fatal)
    (hm : u.Moves p g es' u') : u'.Tallied (es ++ es') := by
  obtain ⟨log, accounts, conserves, left⟩ := h.traffic
  cases hm with
  | idle => rw [List.append_nil]; exact h
  | @reader phase t th es' l r logged threads hm =>
    obtain ⟨own, other⟩ := h.dirty threads
    obtain ⟨⟨cs, hc, none_⟩, own, same⟩ := hm.tally own
    refine ⟨⟨log ++ cs, hc.accounts accounts, hc.conserve conserves, ?_⟩, nofun, ?_⟩
    · have hl : t.coming = th.writer.coming := by unfold Attempt.coming; rw [threads]; rfl
      rw [departures_append, none_, List.append_nil, left, given_append, hm.given_eq.1,
        List.append_nil]
      exact congrArg _ hl
    · rintro _ ⟨⟩
      exact ⟨own, other.of_count_eq same⟩
  | @writer phase t th es' l r logged threads hm =>
    obtain ⟨other, own⟩ := h.dirty threads
    obtain ⟨⟨cs, hc, moved⟩, own, same⟩ := hm.tally own
    refine ⟨⟨log ++ cs, hc.accounts accounts, hc.conserve conserves, ?_⟩, nofun, ?_⟩
    · have hl : t.coming = th.writer.coming := by unfold Attempt.coming; rw [threads]; rfl
      show _ = given (es ++ es') ++ r.coming
      have left : departures log = given es ++ t.coming := left
      rw [departures_append, left, hl, given_append, List.append_assoc, List.append_assoc, moved]
    · rintro _ ⟨⟩
      exact ⟨other.of_count_eq same, own⟩
  | @driver phase phase' t t' es' ht =>
    have hg : given es' = [] := (ofDriver ht.isOfDriver).2.2.1
    have counted := ht.change.accounts accounts
    have kept := ht.change.conserve conserves
    rw [List.append_nil] at counted kept
    rcases ht.threads_eq with same | ⟨j, a, r, w, size, samples, rfl, started⟩
    · have hl : t'.coming = t.coming := by unfold Attempt.coming; rw [same]
      refine ⟨⟨log, counted, kept, ?_⟩, fun none_ side => ?_, fun threads => ?_⟩
      · rw [given_append, hg, List.append_nil]
        exact left.trans (congrArg _ hl.symm)
      · exact (ht.count_eq _).trans (h.clean (same.symm.trans none_) side)
      · obtain ⟨reader, writer⟩ := h.dirty (same.symm.trans threads)
        exact ⟨reader.of_count_eq (ht.count_eq _), writer.of_count_eq (ht.count_eq _)⟩
    · have unbegun : t.threads = none := (standing.held rfl).1
      have clean : ∀ side : Side, t'.status.count side.dirtyRecords = 0 :=
        fun side => (ht.count_eq _).trans (h.clean unbegun side)
      refine ⟨⟨log, counted, kept, ?_⟩, fun none_ => ?_, fun threads => ?_⟩
      · have hl : t.coming = [] := by unfold Attempt.coming; rw [unbegun]; rfl
        have hl' : t'.coming = [] := by unfold Attempt.coming; rw [started]; rfl
        rw [given_append, hg, List.append_nil]
        exact left.trans (congrArg _ (hl.trans hl'.symm))
      · cases none_.symm.trans started
      · cases started.symm.trans threads
        exact ⟨⟨rfl, clean .reader⟩, ⟨rfl, clean .writer⟩⟩

end Trial

end BatchSync
