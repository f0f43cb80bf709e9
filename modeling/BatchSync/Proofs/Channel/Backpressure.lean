import BatchSync.Config.Validation
import BatchSync.Proofs.Channel.Accounting

/-!
# Bounds of a channel

A channel that holds records admits a batch only if it keeps to both bounds with it. An empty channel
admits any batch, so that the bounds may be exceeded: all that is queued is then what is left of the
one batch that found the channel empty (`Traffic.SoleBatch`), and nothing is admitted behind it before
the rest fits again.

1. `Line.Change.bounds` says what a change does to the bounds.
2. `Traffic.fits_or_soleBatch` follows them over a run.
3. `Traffic.bounds_and_backpressure` adds who has to wait, and when.
-/

namespace BatchSync

open Crossing

/-- The bounds of a valid channel are positive. -/
theorem ChannelConfig.pos_of_validate {c : ChannelConfig} (valid : c.validate = .ok ()) :
    0 < c.capacity ∧ 0 < c.byteCapacity := by
  unfold ChannelConfig.validate requirePositive at valid
  by_cases h1 : c.capacity = 0
  · rw [if_pos h1] at valid
    cases valid
  by_cases h2 : c.byteCapacity = 0
  · rw [if_neg h1, if_pos h2] at valid
    cases valid
  omega

/-! ## Bounds under changes -/

/-- Whether a channel keeps to its bounds. -/
def Channel.Fits (c : Channel) : Prop := c.queue.length ≤ c.capacity ∧ c.bytes ≤ c.byteCapacity

/-- What is queued behind some of the records queued before has no more bytes than these. -/
theorem totalSize_le_of_suffix {a b : List Record} (h : a <:+ b) : totalSize a ≤ totalSize b := by
  obtain ⟨front, rfl⟩ := h
  rw [Channel.totalSize_append]
  omega

/-- A batch that an open channel has room for is empty, finds the channel empty, or fits. -/
theorem Channel.fits_of_room {c : Channel} {batch : List Record} (isOpen : c.closed = false)
    (room : c.delays batch = false) :
    batch = [] ∨ c.queue = [] ∨ (c.queue.length + batch.length ≤ c.capacity ∧
      c.bytes + totalSize batch ≤ c.byteCapacity) := by
  rw [Bool.eq_false_iff, Ne, delays_iff] at room
  rcases Classical.em (batch = []) with hb | hb
  · exact .inl hb
  rcases Classical.em (c.queue = []) with hq | hq
  · exact .inr (.inl hq)
  refine .inr (.inr ⟨?_, ?_⟩)
  · exact Nat.le_of_not_lt fun h => room ⟨hb, isOpen, hq, .inl h⟩
  · exact Nat.le_of_not_lt fun h => room ⟨hb, isOpen, hq, .inr h⟩

namespace Line

/-- A channel does not change its bounds. -/
theorem Change.capacity_eq {l l' : Line} {cs : List Crossing} (h : l.Change cs l') :
    l'.channel.capacity = l.channel.capacity ∧
      l'.channel.byteCapacity = l.channel.byteCapacity := by
  cases h <;> exact ⟨rfl, rfl⟩

/-- Nothing enters, or a batch enters an empty channel, or one enters that fits. -/
theorem Change.bounds {l l' : Line} {cs : List Crossing} (h : l.Change cs l') :
    (arrivals cs = [] ∧ l'.channel.queue <:+ l.channel.queue) ∨
      (∃ batch, cs = [.entered batch] ∧ l.channel.queue = [] ∧ l'.channel.queue = batch) ∨
      l'.channel.Fits := by
  cases h with
  | idle => exact .inl ⟨rfl, List.suffix_rfl⟩
  | reflow => exact .inl ⟨rfl, List.suffix_rfl⟩
  | close => exact .inl ⟨rfl, List.suffix_rfl⟩
  | restate => exact .inl ⟨rfl, List.suffix_rfl⟩
  | release n => exact .inl ⟨rfl, List.drop_suffix n _⟩
  | enter batch waited isOpen room =>
    rcases Channel.fits_of_room isOpen room with rfl | hq | fits
    · refine .inl ⟨rfl, ?_⟩
      show l.channel.queue ++ [] <:+ l.channel.queue
      simp
    · refine .inr (.inl ⟨batch, rfl, hq, ?_⟩)
      show l.channel.queue ++ batch = batch
      rw [hq, List.nil_append]
    · refine .inr (.inr ?_)
      show (l.channel.queue ++ batch).length ≤ l.channel.capacity ∧
        l.channel.bytes + totalSize batch ≤ l.channel.byteCapacity
      rw [List.length_append]
      exact fits

end Line

/-! ## Bounds in a run -/

namespace Traffic

/-- What is queued is left of a batch that a call put in when the channel was empty, in a state before;
no record has entered since. -/
structure SoleBatch (start u : Traffic) (i : Nat) (batch : List Record) (s : Traffic) : Prop where
  before : ∃ early, start.run early = some u
  since : ∃ late, u.run late = some s
  empty : u.line.channel.queue = []
  entered : ∃ after, s.log = u.log ++ (i, .entered batch) :: after ∧
    arrivals (after.map Prod.snd) = []
  left : s.line.channel.queue <:+ batch

/-- What is left stays what is left while nothing enters. -/
theorem SoleBatch.step {start u s t : Traffic} {i j : Nat} {batch : List Record} {m : Move}
    {cs : List Crossing} (h : SoleBatch start u i batch s) (hm : s.step m = some t)
    (hl : t.log = s.log ++ cs.map fun c => (j, c)) (hc : arrivals cs = [])
    (hq : t.line.channel.queue <:+ s.line.channel.queue) : SoleBatch start u i batch t := by
  refine ⟨h.before, ?_, h.empty, ?_, hq.trans h.left⟩
  · obtain ⟨late, hr⟩ := h.since
    exact ⟨_, run_concat hr hm⟩
  · obtain ⟨after, hs, ha⟩ := h.entered
    refine ⟨after ++ cs.map fun c => (j, c), ?_, ?_⟩
    · rw [hl, hs, List.append_assoc, List.cons_append]
    · rw [List.map_append, arrivals_append, ha, List.map_map]
      simpa [Function.comp_def] using hc

/-- A channel fits in its bounds, or holds what is left of a batch that found it empty. -/
def Bounded (start s : Traffic) : Prop :=
  s.line.channel.Fits ∨ ∃ u i batch, SoleBatch start u i batch s

theorem Bounded.step {start s t : Traffic} {m : Move} (before : ∃ early, start.run early = some s)
    (ht : s.line.channel.IsTallied) (h : Bounded start s) (hm : s.step m = some t) :
    Bounded start t := by
  obtain ⟨j, cs, hc, hl⟩ := (steps_of_step hm).logged
  rcases hc.bounds with ⟨ha, hq⟩ | ⟨batch, rfl, hq, hq'⟩ | fits
  · rcases h with fits | ⟨u, i, batch, sole⟩
    · left
      have ht' : t.line.channel.IsTallied := hc.isTallied ht
      have hs := totalSize_le_of_suffix hq
      obtain ⟨h1, h2⟩ := hc.capacity_eq
      unfold Channel.Fits Channel.IsTallied at *
      have hn := hq.length_le
      omega
    · exact .inr ⟨u, i, batch, sole.step hm hl ha hq⟩
  · right
    refine ⟨s, j, batch, before, ⟨[m], ?_⟩, hq, ⟨[], hl, rfl⟩, ?_⟩
    · rw [run_cons hm]
      rfl
    · exact hq' ▸ List.suffix_rfl
  · exact .inl fits

/-- In every state of a run the channel fits, or holds what is left of one batch. -/
theorem fits_or_soleBatch {c : ChannelConfig} {status : TaskStatus} {now : Nanos}
    {moves : List Move} {s : Traffic} (hs : (ofConfig c status now).run moves = some s) :
    Bounded (ofConfig c status now) s := by
  refine (run_induction (P := fun u => (∃ early, (ofConfig c status now).run early = some u) ∧
    u.line.channel.IsTallied ∧ Bounded (ofConfig c status now) u) ?_ ?_ hs).2.2
  · rintro u v m ⟨⟨early, hr⟩, ht, hb⟩ hm
    obtain ⟨cs, hc, -⟩ := (steps_of_step hm).change
    exact ⟨⟨_, run_concat hr hm⟩, hc.isTallied ht, hb.step ⟨early, hr⟩ ht hm⟩
  · exact ⟨⟨[], rfl⟩, rfl, .inl ⟨Nat.zero_le _, Nat.zero_le _⟩⟩

theorem bounds_of_run {c : ChannelConfig} {status : TaskStatus} {now : Nanos} {moves : List Move}
    {s : Traffic} (hs : (ofConfig c status now).run moves = some s) :
    s.line.channel.capacity = c.capacity ∧ s.line.channel.byteCapacity = c.byteCapacity := by
  refine run_changes (P := fun l _ => l.channel.capacity = c.capacity ∧
    l.channel.byteCapacity = c.byteCapacity) ?_ ⟨rfl, rfl⟩ hs
  intro l l' log cs hl hc
  rw [hc.capacity_eq.1, hc.capacity_eq.2]
  exact hl

/-! ## Admission -/

theorem argument_advance {s : Traffic} {i : Nat} {call : Call} (found : s.calls[i]? = some call)
    (cs : List Crossing) (line : Line) (stage : Stage) (j : Nat) :
    (s.advance i call cs line stage).argument j = s.argument j := by
  unfold argument batch? advance
  by_cases hij : i = j
  · subst hij
    rw [List.getElem?_set_self (List.getElem?_eq_some_iff.mp found).1, found]
    rfl
  · rw [List.getElem?_set_ne hij]

theorem admitted_advance (s : Traffic) (i : Nat) (call : Call) (cs : List Crossing) (line : Line)
    (stage : Stage) :
    (s.advance i call cs line stage).admitted =
      s.admitted ++ (cs.filterMap Crossing.batch?).map fun _ => i := by
  unfold admitted advance
  rw [List.filterMap_append, List.filterMap_map, List.map_filterMap]
  rfl

/-- A call that a step admits finds the channel open, and has room for its batch. -/
theorem Orderly.room {s t : Traffic} (ho : s.Orderly) {i : Nat} (hm : s.Steps (.go i) t)
    (out : i ∉ s.admitted) (h : i ∈ t.admitted) :
    s.line.channel.closed = false ∧ s.line.channel.delays (s.argument i) = false := by
  have ht : t.Orderly := ho.steps hm
  cases hm with
  | @go _ call cs line stage found hg =>
    rw [admitted_advance, List.mem_append] at h
    rcases h with h | h
    · exact absurd h out
    have he : (s.advance i call cs line stage).log = s.log ++ cs.map fun c => (i, c) := rfl
    cases hg.change with
    | enter batch waited isOpen room =>
      have hb : (s.advance i call [.entered batch] (s.line.enter batch waited) stage).argument i =
          batch := by
        refine ht.argument_eq ?_
        rw [he]
        exact List.mem_append_right _ List.mem_cons_self
      rw [argument_advance found] at hb
      rw [hb]
      exact ⟨isOpen, room⟩
    | release => cases h
    | idle => cases h
    | reflow => cases h
    | close => cases h
    | restate => cases h

/-- A call that offers a batch to an open channel without records is admitted at once. -/
theorem admits_of_empty {s : Traffic} {i : Nat} {d : Sending} {batch : List Record} {ends : Bool}
    (h : s.stage? i = some (.sending d)) (offer : d.Offers batch ends)
    (hq : s.line.channel.queue = []) (isOpen : s.line.channel.closed = false) :
    ∃ t, s.step (.go i) = some t ∧ i ∈ t.admitted := by
  have room : s.line.channel.delays batch = false := by
    rw [Bool.eq_false_iff, Ne, Channel.delays_iff]
    exact fun hd => hd.2.2.1 hq
  have hcs : d.crossings s.line = [.entered batch] := by
    rw [offer.crossings_eq, Line.crossingsOf, room, isOpen]
    rfl
  obtain ⟨waited, hs⟩ := offer.step_eq s.now isOpen room
  obtain ⟨q, found⟩ := found_of_stage? h
  refine ⟨s.advance i ⟨q, .sending d⟩ [.entered batch] (s.line.enter batch waited)
    (.sending (.entered batch ends)), ?_, ?_⟩
  · rw [step_go_eq found]
    simp only [Stage.step, hs, hcs, Option.map_some]
  · rw [admitted_advance, List.mem_append]
    exact .inr List.mem_cons_self

/-! ## Waiting -/

/-- A call that waits for room, and cannot go on. -/
def WaitsForRoom (s : Traffic) (i : Nat) : Prop :=
  (∃ batch ends since, s.stage? i = some (.sending (.waiting batch ends since))) ∧
    s.step (.go i) = none

/-- A call that waits for records, and cannot go on. -/
def WaitsForRecords (s : Traffic) (i : Nat) : Prop :=
  (∃ want since, s.stage? i = some (.receiving (.waiting want since))) ∧ s.step (.go i) = none

theorem WaitsForRoom.queue_ne_nil {s : Traffic} {i : Nat} (h : s.WaitsForRoom i) :
    s.line.channel.queue ≠ [] := by
  obtain ⟨⟨batch, ends, since, hi⟩, hn⟩ := h
  rw [step_go_eq_none_iff hi] at hn
  simp only [Stage.step, Sending.step, Option.map_eq_none_iff, Line.push_eq_none_iff] at hn
  exact (Channel.delays_iff.mp hn).2.2.1

theorem WaitsForRecords.queue_eq_nil {s : Traffic} {i : Nat} (h : s.WaitsForRecords i) :
    s.line.channel.queue = [] := by
  obtain ⟨⟨want, since, hi⟩, hn⟩ := h
  rw [step_go_eq_none_iff hi] at hn
  simp only [Stage.step, Receiving.step, Option.map_eq_none_iff, Line.take_eq] at hn
  split at hn
  · rename_i dry
    exact (Channel.isDry_iff.mp dry).1
  · cases hn

end Traffic

/-- An open channel is full if every record of some size would have to wait. -/
theorem Channel.isFull_iff {c : Channel} (isOpen : c.closed = false) (tallied : c.IsTallied)
    (h1 : 0 < c.capacity) (h2 : 0 < c.byteCapacity) :
    c.isFull = true ↔ ∀ r : Record, 1 ≤ r.byteSize → c.put r = none := by
  have hput : ∀ r, c.put r = none ↔ c.queue ≠ [] ∧
      (c.capacity < c.queue.length + 1 ∨ c.byteCapacity < c.bytes + r.byteSize) := by
    intro r
    have hd : c.delays [r] = true ↔ _ := delays_iff
    rw [put_eq_putAll, putAll_eq]
    split <;> simp_all
  have hfull : c.isFull = true ↔ c.capacity ≤ c.queue.length ∨ c.byteCapacity ≤ c.bytes := by
    unfold isFull
    rw [Bool.or_eq_true, decide_eq_true_iff, decide_eq_true_iff]
    rfl
  rw [hfull]
  constructor
  · intro full r hr
    rw [hput]
    refine ⟨?_, by omega⟩
    intro hq
    unfold IsTallied at tallied
    rw [hq] at full tallied
    rw [totalSize_nil] at tallied
    rw [List.length_nil] at full
    omega
  · intro waits
    -- a truth value is a record of one byte
    have hw := (hput _).mp (waits (.ofColumns [.bool true]) (Nat.le_refl 1))
    have hr : (Record.ofColumns [.bool true]).byteSize = 1 := rfl
    omega

/-! ## The bounds of the traffic -/

namespace Traffic

/-- Without batches, no call puts in more than a record. -/
theorem length_argument_le_one {c : ChannelConfig} {status : TaskStatus} {now : Nanos}
    {moves : List Move} {s : Traffic} (hs : (ofConfig c status now).run moves = some s)
    (single : ∀ batch, .call (.putAll batch) ∉ moves) (i : Nat) : (s.argument i).length ≤ 1 := by
  unfold argument batch?
  rcases found : s.calls[i]? with _ | ⟨q, g⟩
  · exact Nat.zero_le 1
  have hq : q ∈ s.calls.map Call.request :=
    List.mem_map.mpr ⟨_, List.mem_of_getElem? found, rfl⟩
  rw [requests_of_run hs] at hq
  obtain ⟨m, hm, he⟩ := List.mem_filterMap.mp hq
  cases m with
  | call q' =>
    cases he
    cases q with
    | putAll batch => exact absurd hm (single batch)
    | put r => exact Nat.le_refl 1
    | take => exact Nat.zero_le 1
    | takeAll most => exact Nat.zero_le 1
    | close => exact Nat.zero_le 1
  | go => cases he
  | elapse => cases he
  | restate => cases he

/-- **Bounds and backpressure.** In every state that an interleaving of calls on a valid channel leads
to:
1. The channel keeps to both bounds, or what is queued is left of the batch of one call that was
   admitted when the channel was empty.
2. Without batches, it keeps to its capacity, and exceeds its byte capacity only by one record.
3. A call that is admitted while records are queued keeps to both bounds.
4. A call that offers a batch to an empty open channel is admitted at once; so no call waits for room
   while another waits for records.
5. An open channel is full exactly if every record of some size would have to wait. -/
theorem bounds_and_backpressure (c : ChannelConfig) (status : TaskStatus) (now : Nanos)
    (moves : List Move) {s : Traffic} (valid : c.validate = .ok ())
    (hs : (ofConfig c status now).run moves = some s) :
    ((s.line.channel.queue.length ≤ c.capacity ∧
        totalSize s.line.channel.queue ≤ c.byteCapacity) ∨
      ∃ u i, SoleBatch (ofConfig c status now) u i (s.argument i) s) ∧
    ((∀ batch, .call (.putAll batch) ∉ moves) →
      s.line.channel.queue.length ≤ c.capacity ∧
        (c.byteCapacity < totalSize s.line.channel.queue → s.line.channel.queue.length = 1)) ∧
    (∀ i t, s.step (.go i) = some t → i ∉ s.admitted → i ∈ t.admitted →
      s.argument i = [] ∨ s.line.channel.queue = [] ∨
        (s.line.channel.queue.length + (s.argument i).length ≤ c.capacity ∧
          totalSize s.line.channel.queue + totalSize (s.argument i) ≤ c.byteCapacity)) ∧
    ((∀ i d batch ends, s.stage? i = some (.sending d) → d.Offers batch ends →
        s.line.channel.queue = [] → s.line.channel.closed = false →
        ∃ t, s.step (.go i) = some t ∧ i ∈ t.admitted) ∧
      ∀ i j, ¬ (s.WaitsForRoom i ∧ s.WaitsForRecords j)) ∧
    (s.line.channel.closed = false →
      (s.line.channel.isFull = true ↔
        ∀ r : Record, 1 ≤ r.byteSize → s.line.channel.put r = none)) := by
  have ho : s.Orderly := (orderly_ofConfig c status now).run hs
  have ht : s.line.channel.bytes = totalSize s.line.channel.queue := isTallied_of_run hs
  obtain ⟨hcap, hbytes⟩ := bounds_of_run hs
  obtain ⟨h1, h2⟩ := ChannelConfig.pos_of_validate valid
  have bounded : (s.line.channel.queue.length ≤ c.capacity ∧
        totalSize s.line.channel.queue ≤ c.byteCapacity) ∨
      ∃ u i, SoleBatch (ofConfig c status now) u i (s.argument i) s := by
    rcases fits_or_soleBatch hs with fits | ⟨u, i, batch, sole⟩
    · unfold Channel.Fits at fits
      rw [hcap, hbytes, ht] at fits
      exact .inl fits
    · obtain ⟨after, hl, -⟩ := sole.entered
      have hb : s.argument i = batch := by
        refine ho.argument_eq ?_
        rw [hl]
        exact List.mem_append_right _ List.mem_cons_self
      rw [← hb] at sole
      exact .inr ⟨u, i, sole⟩
  refine ⟨bounded, ?_, ?_, ⟨?_, ?_⟩, ?_⟩
  · intro single
    rcases bounded with ⟨hn, hb⟩ | ⟨u, i, sole⟩
    · exact ⟨hn, fun more => absurd hb (Nat.not_le_of_lt more)⟩
    · have hn := Nat.le_trans sole.left.length_le (length_argument_le_one hs single i)
      refine ⟨by omega, fun more => ?_⟩
      rcases hq : s.line.channel.queue with _ | ⟨r, rest⟩
      · rw [hq] at more
        cases more
      · rw [hq, List.length_cons] at hn
        rw [List.length_cons]
        omega
  · intro i t hm out h
    obtain ⟨isOpen, room⟩ := ho.room (steps_of_step hm) out h
    have fits := Channel.fits_of_room isOpen room
    rw [hcap, hbytes, ht] at fits
    exact fits
  · intro i d batch ends hi offer hq isOpen
    exact admits_of_empty hi offer hq isOpen
  · rintro i j ⟨hi, hj⟩
    exact hi.queue_ne_nil hj.queue_eq_nil
  · intro isOpen
    exact Channel.isFull_iff isOpen ht (by omega) (by omega)

/-- A put waits behind what is left of a batch that exceeds the bounds. -/
def oversized : List Move :=
  [.call (.putAll [.empty, .ofColumns [.bool true], .empty]), .call (.put .empty), .call .take,
    .go 0, .go 1, .go 2]

theorem bounds_and_backpressure_oversized :
    ∃ s, (ofConfig { capacity := 1 } .initial 0).run oversized = some s ∧
      s.line.channel.queue.length = 2 ∧ s.WaitsForRoom 1 ∧ ¬ s.WaitsForRecords 2 := by
  have waits : ∃ s, (ofConfig { capacity := 1 } .initial 0).run oversized = some s ∧
      s.line.channel.queue.length = 2 ∧ s.WaitsForRoom 1 := ⟨_, rfl, rfl, ⟨_, _, _, rfl⟩, rfl⟩
  obtain ⟨s, hs, hn, hw⟩ := waits
  have h := bounds_and_backpressure { capacity := 1 } .initial 0 oversized rfl hs
  exact ⟨s, hs, hn, hw, fun hr => h.2.2.2.1.2 1 2 ⟨hw, hr⟩⟩

end Traffic

end BatchSync
