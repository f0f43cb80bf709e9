import BatchSync.Proofs.Channel.Order

/-!
# Accounting on a channel

The byte total kept with the queue is the size of what is queued (`Channel.IsTallied`), and the
counters of the status are, as words, the number and the size of what entered and of what left
(`Line.Accounts`). Records keep their sizes while they are queued, whether or not these were asked for
before, so that nothing is ever subtracted that was not added before.

The flow control compares the counters with a sample of them that was taken before. Counters that have
not wrapped only grow, so neither the sample nor what a pausing producer remembers is ever ahead of
them (`Traffic.Sampled`).
-/

namespace BatchSync

open Crossing

/-! ## Sizes -/

/-- Asking records for their sizes does not change these. -/
@[simp] theorem totalSize_map_measured (batch : List Record) :
    totalSize (batch.map Record.measured) = totalSize batch := by
  induction batch with
  | nil => rfl
  | cons r batch ih => simp [ih]

theorem totalSize_take_add_drop (n : Nat) (batch : List Record) :
    totalSize (batch.take n) + totalSize (batch.drop n) = totalSize batch := by
  rw [← Channel.totalSize_append, List.take_append_drop]

/-- The byte total of a channel is the size of its queue. -/
def Channel.IsTallied (c : Channel) : Prop := c.bytes = totalSize c.queue

theorem Line.Change.isTallied {l l' : Line} {cs : List Crossing} (h : l.channel.IsTallied)
    (hc : l.Change cs l') : l'.channel.IsTallied := by
  unfold Channel.IsTallied at *
  cases hc with
  | enter batch waited =>
    show l.channel.bytes + totalSize batch = totalSize (l.channel.queue ++ batch)
    rw [Channel.totalSize_append, h]
  | release n waited =>
    show l.channel.bytes - totalSize (l.channel.queue.take n) = totalSize (l.channel.queue.drop n)
    have hs := totalSize_take_add_drop n l.channel.queue
    omega
  | idle | reflow | close | restate => exact h

theorem Traffic.isTallied_of_run {c : ChannelConfig} {status : TaskStatus} {now : Nanos}
    {moves : List Move} {s : Traffic} (hs : (ofConfig c status now).run moves = some s) :
    s.line.channel.IsTallied :=
  run_changes (P := fun l _ => l.channel.IsTallied) (fun hl hc => hc.isTallied hl) (by rfl) hs

/-! ## Counters -/

/-- Words that are a sum and one of its terms differ by the other term. -/
theorem sub_eq_ofNat {v w : UInt64} {a b : Nat} (hv : v.toNat = (a + b) % wordLimit)
    (hw : w.toNat = a % wordLimit) : v - w = UInt64.ofNat b := by
  apply UInt64.toNat_inj.mp
  rw [UInt64.toNat_sub, toNat_ofNat_eq_mod, hv, hw]
  unfold wordLimit
  omega

namespace TaskStatus

theorem count_add (s : TaskStatus) (c d : Counter) (n : Nat) :
    (s.add c n).count d = if d = c then (s.count d + n) % wordLimit else s.count d := by
  by_cases h : d = c
  · rw [h, if_pos rfl, count_add_self]
  · rw [if_neg h, count_add_of_ne _ _ h]

end TaskStatus

/-- The status of a line counts what entered and what left. -/
structure Line.Accounts (l : Line) (log : List Crossing) : Prop where
  readRecords : l.status.count .readSucceedRecords = (arrivals log).length % wordLimit
  readBytes : l.status.count .readSucceedBytes = totalSize (arrivals log) % wordLimit
  receivedRecords : l.status.count .writeReceivedRecords = (departures log).length % wordLimit
  receivedBytes : l.status.count .writeReceivedBytes = totalSize (departures log) % wordLimit

namespace Line

/-- A new line whose status has counted nothing. -/
theorem accounts_ofConfig (c : ChannelConfig) {status : TaskStatus} (now : Nanos)
    (fresh : ∀ k ∈ trafficCounters, status.count k = 0) : (ofConfig c status now).Accounts [] where
  readRecords := fresh _ (by simp [trafficCounters])
  readBytes := fresh _ (by simp [trafficCounters])
  receivedRecords := fresh _ (by simp [trafficCounters])
  receivedBytes := fresh _ (by simp [trafficCounters])

theorem Accounts.enter {l : Line} {log : List Crossing} (h : l.Accounts log) (batch : List Record)
    (waited : Nanos) : (l.enter batch waited).Accounts (log ++ [.entered batch]) := by
  have ha : arrivals (log ++ [.entered batch]) = arrivals log ++ batch := by
    rw [arrivals_append, arrivals, arrivals, List.append_nil]
  have hd : departures (log ++ [.entered batch]) = departures log := by
    rw [departures_append, departures, departures, List.append_nil]
  constructor
  · rw [ha, List.length_append]
    simp [Line.enter, countRead, TaskStatus.count_add, h.readRecords]
  · rw [ha, Channel.totalSize_append]
    simp [Line.enter, countRead, TaskStatus.count_add, h.readBytes]
  · rw [hd]
    simp [Line.enter, countRead, TaskStatus.count_add, h.receivedRecords]
  · rw [hd]
    simp [Line.enter, countRead, TaskStatus.count_add, h.receivedBytes]

theorem Accounts.release {l : Line} {log : List Crossing} (h : l.Accounts log) (n : Nat)
    (waited : Nanos) : (l.release n waited).Accounts (log ++ [.left (l.channel.queue.take n)]) := by
  have ha : arrivals (log ++ [.left (l.channel.queue.take n)]) = arrivals log := by
    rw [arrivals_append, arrivals, arrivals, List.append_nil]
  have hd : departures (log ++ [.left (l.channel.queue.take n)]) =
      departures log ++ l.channel.queue.take n := by
    rw [departures_append, departures, departures, List.append_nil]
  constructor
  · rw [ha]
    simp [Line.release, countReceived, TaskStatus.count_add, h.readRecords]
  · rw [ha]
    simp [Line.release, countReceived, TaskStatus.count_add, h.readBytes]
  · rw [hd, List.length_append]
    simp [Line.release, countReceived, TaskStatus.count_add, h.receivedRecords]
  · rw [hd, Channel.totalSize_append]
    simp [Line.release, countReceived, TaskStatus.count_add, h.receivedBytes]

/-- Every change of a line keeps its accounts in order. -/
theorem Change.accounts {l l' : Line} {log cs : List Crossing} (h : l.Accounts log)
    (hc : l.Change cs l') : l'.Accounts (log ++ cs) := by
  cases hc with
  | enter batch waited => exact h.enter batch waited
  | release n waited => exact h.release n waited
  | idle | reflow | close => rw [List.append_nil]; exact ⟨h.1, h.2, h.3, h.4⟩
  | restate status agrees =>
    rw [List.append_nil]
    refine ⟨?_, ?_, ?_, ?_⟩
    · exact (agrees _ (by simp [trafficCounters])).trans h.readRecords
    · exact (agrees _ (by simp [trafficCounters])).trans h.readBytes
    · exact (agrees _ (by simp [trafficCounters])).trans h.receivedRecords
    · exact (agrees _ (by simp [trafficCounters])).trans h.receivedBytes

end Line

/-! ## Samples of the flow control -/

/-- Whether amounts of bytes and of records are not ahead of what entered. -/
def Behind (log : List Crossing) (bytes records : Nat) : Prop :=
  bytes ≤ totalSize (arrivals log) ∧ records ≤ (arrivals log).length

theorem Behind.append {log : List Crossing} {bytes records : Nat} (h : Behind log bytes records)
    (cs : List Crossing) : Behind (log ++ cs) bytes records := by
  unfold Behind at *
  rw [arrivals_append, Channel.totalSize_append, List.length_append]
  omega

/-- What the counters say is not ahead of what entered. -/
theorem Line.Accounts.behind {l : Line} {log : List Crossing} (h : l.Accounts log) :
    Behind log (l.status.count .readSucceedBytes) (l.status.count .readSucceedRecords) := by
  unfold Behind
  rw [h.readBytes, h.readRecords]
  exact ⟨Nat.mod_le _ _, Nat.mod_le _ _⟩

namespace Traffic

/-- Neither the sample of the flow control nor what a pausing producer remembers is ahead of what
entered. -/
structure Sampled (s : Traffic) : Prop where
  sample : Behind s.crossings s.line.flow.sample.bytes s.line.flow.sample.records
  pauses : ∀ {i : Nat} {p : Pause} {ends : Bool}, s.stage? i = some (.sending (.pausing p ends)) →
    Behind s.crossings p.bytes p.records

theorem Sampled.steps {s t : Traffic} {m : Move} (ha : s.line.Accounts s.crossings) (h : s.Sampled)
    (hm : s.Steps m t) : t.Sampled := by
  cases hm with
  | call q =>
    refine ⟨h.sample, fun {i p ends} hi => ?_⟩
    rcases stage?_call hi with hi | hi
    · exact h.pauses hi
    · cases q <;> cases hi
  | elapse span => exact ⟨h.sample, h.pauses⟩
  | restate status agrees => exact ⟨h.sample, h.pauses⟩
  | @go j call cs line stage found hm =>
    constructor
    · rw [crossings_of_log rfl]
      show Behind _ line.flow.sample.bytes line.flow.sample.records
      rcases hm.sample with same | ⟨hb, hr⟩ | ⟨p, ends, paused, hb, hr⟩
      · rw [same]
        exact h.sample.append _
      · rw [hb, hr]
        exact ha.behind.append _
      · have hj : s.stage? j = some (.sending (.pausing p ends)) := by
          rw [stage?, found, ← paused]
          rfl
        rw [hb, hr]
        exact (h.pauses hj).append _
    · intro i p ends hi
      rw [crossings_of_log rfl]
      by_cases hij : j = i
      · subst hij
        rw [stage?_advance_self found] at hi
        cases hi
        obtain ⟨q, g⟩ := call
        cases hm with
        | sending hm =>
          obtain ⟨hb, hr⟩ := hm.of_pausing
          rw [hb, hr]
          exact ha.behind.append _
      · rw [stage?_advance_of_ne hij] at hi
        exact (h.pauses hi).append _

/-! ## The accounts of the traffic -/

theorem accounts_of_run {c : ChannelConfig} {status : TaskStatus} {now : Nanos} {moves : List Move}
    {s : Traffic} (fresh : ∀ k ∈ trafficCounters, status.count k = 0)
    (hs : (ofConfig c status now).run moves = some s) :
    s.line.Accounts s.crossings ∧ s.Sampled := by
  refine run_invariant (P := fun u => u.line.Accounts u.crossings ∧ u.Sampled) ?_
    ⟨Line.accounts_ofConfig c now fresh, ?_⟩ hs
  · intro u v m hu hm
    obtain ⟨cs, hc, e⟩ := hm.change
    refine ⟨?_, hu.2.steps hu.1 hm⟩
    rw [e]
    exact hc.accounts hu.1
  · exact ⟨⟨Nat.zero_le _, Nat.zero_le _⟩, fun {i p ends} hi => by cases hi⟩

/-- **Exact accounts.** In every state that an interleaving of calls leads to, on a status that had
counted nothing:
1. The byte total of the channel is the size of what is queued, asked for before or not.
2. The counters are, as words, the number and the size of what the admitted calls put in, and of what
   left.
3. As words, their differences are the number and the size of what is queued.
4. Taking subtracts nothing from the byte total that is not in it.
5. As long as nothing has wrapped, the sample of the flow control is not ahead of the counters. -/
theorem accounts_exact (c : ChannelConfig) (status : TaskStatus) (now : Nanos) (moves : List Move)
    {s : Traffic} (fresh : ∀ k ∈ trafficCounters, status.count k = 0)
    (hs : (ofConfig c status now).run moves = some s) :
    (s.line.channel.bytes = totalSize s.line.channel.queue ∧
      s.line.channel.bytes = totalSize (s.line.channel.queue.map Record.measured)) ∧
    (s.line.status.count .readSucceedRecords =
        (s.admitted.flatMap s.argument).length % wordLimit ∧
      s.line.status.count .readSucceedBytes =
        totalSize (s.admitted.flatMap s.argument) % wordLimit ∧
      s.line.status.count .writeReceivedRecords = (departures s.crossings).length % wordLimit ∧
      s.line.status.count .writeReceivedBytes = totalSize (departures s.crossings) % wordLimit) ∧
    (s.line.status.counters.get .readSucceedRecords -
        s.line.status.counters.get .writeReceivedRecords =
          UInt64.ofNat s.line.channel.queue.length ∧
      s.line.status.counters.get .readSucceedBytes -
        s.line.status.counters.get .writeReceivedBytes = UInt64.ofNat s.line.channel.bytes) ∧
    (∀ want waited batch l, s.line.take want waited = some (batch, l) →
      l.channel.bytes + totalSize batch = s.line.channel.bytes) ∧
    ((s.admitted.flatMap s.argument).length < wordLimit →
      totalSize (s.admitted.flatMap s.argument) < wordLimit →
      s.line.flow.sample.bytes ≤ s.line.status.count .readSucceedBytes ∧
        s.line.flow.sample.records ≤ s.line.status.count .readSucceedRecords) := by
  have ho : s.Orderly := (orderly_ofConfig c status now).run hs
  have hc : departures s.crossings ++ s.line.channel.queue = arrivals s.crossings :=
    conserves_of_run hs
  have hb : s.line.channel.bytes = totalSize s.line.channel.queue := isTallied_of_run hs
  obtain ⟨ha, hp⟩ := accounts_of_run fresh hs
  rw [← ho.arrivals_eq]
  refine ⟨⟨hb, ?_⟩, ⟨ha.readRecords, ha.readBytes, ha.receivedRecords, ha.receivedBytes⟩,
    ⟨?_, ?_⟩, ?_, ?_⟩
  · rw [totalSize_map_measured]
    exact hb
  · refine sub_eq_ofNat ?_ ha.receivedRecords
    rw [← List.length_append, hc]
    exact ha.readRecords
  · refine sub_eq_ofNat ?_ ha.receivedBytes
    rw [hb, ← Channel.totalSize_append, hc]
    exact ha.readBytes
  · intro want waited batch l ht
    rw [Line.take_eq] at ht
    split at ht
    · cases ht
    · cases ht
      show s.line.channel.bytes - totalSize (s.line.channel.queue.take want.most) + _ = _
      have hsplit := totalSize_take_add_drop want.most s.line.channel.queue
      omega
  · intro hn hw
    obtain ⟨h1, h2⟩ := hp.sample
    rw [ha.readBytes, ha.readRecords, Nat.mod_eq_of_lt hn, Nat.mod_eq_of_lt hw]
    exact ⟨h1, h2⟩

/-- A batch is taken apart while its producer waits for the flow to be looked at. -/
def takingApart : List Move :=
  [.call (.putAll [.ofColumns [.bool true], .empty, .ofColumns [.bool false]]), .go 0,
    .call (.takeAll 2), .go 1, .go 0]

theorem accounts_exact_takingApart :
    ∃ s, (ofConfig { capacity := 1 } .initial 0).run takingApart = some s ∧
      s.line.status.counters.get .readSucceedRecords -
          s.line.status.counters.get .writeReceivedRecords =
        UInt64.ofNat s.line.channel.queue.length ∧
      s.line.channel.queue.length = 1 :=
  ⟨_, rfl,
    (accounts_exact { capacity := 1 } .initial 0 takingApart (by decide) rfl).2.2.1.1, rfl⟩

end Traffic

end BatchSync
