import BatchSync.Channel.Exchanger

/-!
# What a call does to a line

Every step of a call, on the way in or on the way out, changes its line in one of a few ways
(`Line.Change`): a batch enters, records leave, the flow control moves, the channel is closed. What
crosses the channel in the step (`Crossing`) is part of the change.

1. `Line.push_eq` and `Line.take_eq` give putting in and taking out as one equation each.
2. `Sending.moves_of_step` and `Receiving.moves_of_step` say all that a step of a call can do.
3. `Sending.Moves.change` and `Receiving.Moves.change` forget the call and keep the change.
-/

namespace BatchSync

/-! ## The operations of a channel as equations -/

namespace Channel

/-- Whether putting a batch in has to wait. An empty batch never has to. -/
def delays (c : Channel) (batch : List Record) : Bool := !batch.isEmpty && c.holdsBack batch

/-- A channel without some of its oldest records. -/
def discharge (c : Channel) (n : Nat) : Channel :=
  { c with queue := c.queue.drop n, bytes := c.bytes - totalSize (c.queue.take n) }

@[simp] theorem insert_nil (c : Channel) : c.insert [] = c := by simp [insert]

/-- What putting a batch in waits for: an open channel that holds records next to which the batch
exceeds a bound. -/
theorem delays_iff {c : Channel} {batch : List Record} :
    c.delays batch = true ↔ batch ≠ [] ∧ c.closed = false ∧ c.queue ≠ [] ∧
      (c.capacity < c.queue.length + batch.length ∨
        c.byteCapacity < c.bytes + totalSize batch) := by
  have hs : c.size = c.queue.length := rfl
  simp [delays, holdsBack, isEmpty, exceeds, and_assoc, hs]

/-- What taking waits for. -/
theorem isDry_iff {c : Channel} : c.isDry = true ↔ c.queue = [] ∧ c.closed = false := by
  simp [isDry, isEmpty]

/-- A record goes in as a batch of one. -/
theorem put_eq_putAll (c : Channel) (r : Record) : c.put r = c.putAll [r] := rfl

theorem putAll_eq (c : Channel) (batch : List Record) :
    c.putAll batch =
      if c.delays batch then none
      else some (if c.closed then .error .channelClosed else .ok (c.insert batch)) := by
  unfold putAll push delays
  rcases batch with _ | ⟨r, batch⟩
  · simp
  · by_cases h : c.holdsBack (r :: batch) <;> by_cases hc : c.closed <;> simp [h, hc]

theorem take_eq (c : Channel) :
    c.take = if c.isDry then none else some (c.queue.head?, c.discharge 1) := by
  unfold take
  by_cases h : c.isDry
  · rw [if_pos h, if_pos h]
  · rw [if_neg h, if_neg h]
    obtain ⟨_, _, queue, _, _⟩ := c
    cases queue <;> simp [discharge]

theorem takeAll_eq (c : Channel) (most : Nat) :
    c.takeAll most =
      if c.isDry then none
      else some (c.queue.take (max most 1), c.discharge (max most 1)) := by
  have ht : c.queue.take (c.takeCount most) = c.queue.take (max most 1) := by
    rw [List.take_eq_take_iff]; unfold takeCount size; omega
  have hd : c.queue.drop (c.takeCount most) = c.queue.drop (max most 1) := by
    unfold takeCount size
    by_cases h : c.queue.length ≤ max most 1
    · rw [Nat.min_eq_left h, List.drop_length, List.drop_eq_nil_of_le h]
    · rw [Nat.min_eq_right (by omega)]
  unfold takeAll discharge
  simp only [ht, hd]

end Channel

namespace Line

/-- How many records a call may take. -/
def Want.most : Want → Nat
  | .one => 1
  | .upTo most => max most 1

theorem Want.most_pos (want : Want) : 0 < want.most := by
  cases want with
  | one => exact Nat.zero_lt_one
  | upTo most => exact Nat.lt_of_lt_of_le Nat.zero_lt_one (Nat.le_max_right most 1)

/-- A line after a batch was put in. -/
def enter (l : Line) (batch : List Record) (waited : Nanos) : Line :=
  { l with
    channel := l.channel.insert batch
    status := (countRead l.status batch).add .waitWriterTime waited }

/-- A line after some of the oldest records were taken out. -/
def release (l : Line) (n : Nat) (waited : Nanos) : Line :=
  { l with
    channel := l.channel.discharge n
    status := countReceived (l.status.add .waitReaderTime waited) (l.channel.queue.take n) }

theorem push_eq (l : Line) (batch : List Record) (waited : Nanos) :
    l.push batch waited =
      if l.channel.delays batch then none
      else some (if l.channel.closed then .error .channelClosed else .ok (l.enter batch waited)) := by
  unfold push
  rw [Channel.putAll_eq]
  by_cases h : l.channel.delays batch
  · rw [if_pos h, if_pos h]; rfl
  · rw [if_neg h, if_neg h]
    by_cases hc : l.channel.closed
    · rw [if_pos hc, if_pos hc]; rfl
    · rw [if_neg hc, if_neg hc]; rfl

theorem push_eq_none_iff (l : Line) (batch : List Record) (waited : Nanos) :
    l.push batch waited = none ↔ l.channel.delays batch = true := by
  rw [push_eq]
  by_cases h : l.channel.delays batch <;> simp [h]

theorem take_eq (l : Line) (want : Want) (waited : Nanos) :
    l.take want waited =
      if l.channel.isDry then none
      else some (l.channel.queue.take want.most, l.release want.most waited) := by
  unfold take
  cases want with
  | one =>
    simp only [Channel.take_eq, Want.most]
    by_cases h : l.channel.isDry
    · rw [if_pos h, if_pos h]; rfl
    · rw [if_neg h, if_neg h]
      simp only [Option.map_some, release, List.take_one]
  | upTo most =>
    simp only [Channel.takeAll_eq, Want.most]
    by_cases h : l.channel.isDry
    · rw [if_pos h, if_pos h]; rfl
    · rw [if_neg h, if_neg h]; rfl

end Line

/-! ## The flow control -/

namespace FlowControl

/-- All that looking at the flow can come to: nothing is due, what was read becomes the sample, or the
producer pauses and keeps the sample until then. -/
inductive Metered (f : FlowControl) (s : TaskStatus) (now : Nanos) :
    FlowControl → Option Pause → Prop
  | pass : Metered f s now f none
  | sample : Metered f s now
      { f with sample := ⟨now, s.count .readSucceedBytes, s.count .readSucceedRecords⟩ } none
  | throttle (ends : Nanos) : Metered f s now { f with held := true }
      (some ⟨ends, s.count .readSucceedBytes, s.count .readSucceedRecords⟩)

theorem metered_of_meter {f f' : FlowControl} {s : TaskStatus} {now : Nanos} {p : Option Pause}
    (h : f.meter s now = some (f', p)) : f.Metered s now f' p := by
  unfold meter at h
  split at h
  · cases h; exact .pass
  split at h
  · cases h
  split at h
  · cases h; exact .pass
  · dsimp only at h
    split at h
    · cases h; exact .sample
    · cases h; exact .throttle _

/-- Only a sample that a pausing producer keeps makes another producer wait. -/
theorem held_of_meter_eq_none {f : FlowControl} {s : TaskStatus} {now : Nanos}
    (h : f.meter s now = none) : f.held = true := by
  unfold meter at h
  split at h
  · cases h
  split at h
  · rename_i held
    exact held
  split at h
  · cases h
  · dsimp only at h
    split at h <;> cases h

end FlowControl

/-! ## Changes of a line -/

/-- What crosses a channel in a step: a batch that enters it, or records that leave it. -/
inductive Crossing where
  | entered (batch : List Record)
  | left (batch : List Record)

namespace Crossing

/-- The records that enter. -/
def arrivals : List Crossing → List Record
  | [] => []
  | .entered batch :: rest => batch ++ arrivals rest
  | .left _ :: rest => arrivals rest

/-- The records that leave. -/
def departures : List Crossing → List Record
  | [] => []
  | .entered _ :: rest => departures rest
  | .left batch :: rest => batch ++ departures rest

@[simp] theorem arrivals_append (a b : List Crossing) :
    arrivals (a ++ b) = arrivals a ++ arrivals b := by
  induction a with
  | nil => rfl
  | cons x a ih => cases x <;> simp [arrivals, ih]

@[simp] theorem departures_append (a b : List Crossing) :
    departures (a ++ b) = departures a ++ departures b := by
  induction a with
  | nil => rfl
  | cons x a ih => cases x <;> simp [departures, ih]

end Crossing

/-- The counters of a task that its channel alone changes. -/
def trafficCounters : List Counter :=
  [.readSucceedRecords, .readSucceedBytes, .writeReceivedRecords, .writeReceivedBytes]

/-- Whether two statuses agree on what the channel counts. -/
def TaskStatus.Agrees (s t : TaskStatus) : Prop := ∀ c ∈ trafficCounters, t.count c = s.count c

instance (s t : TaskStatus) : Decidable (s.Agrees t) := by
  unfold TaskStatus.Agrees; infer_instance

namespace Line

/-- What crosses the channel when a batch is offered: the batch, unless the channel is closed or has no
room for it. -/
def crossingsOf (l : Line) (batch : List Record) : List Crossing :=
  if l.channel.closed ∨ l.channel.delays batch then [] else [.entered batch]

/-- What can be done to a line, with what crosses its channel. -/
inductive Change (l : Line) : List Crossing → Line → Prop
  /-- Nothing is done. -/
  | idle : Change l [] l
  /-- A batch enters an open channel that has room for it. -/
  | enter (batch : List Record) (waited : Nanos) (isOpen : l.channel.closed = false)
      (room : l.channel.delays batch = false) :
      Change l [.entered batch] (l.enter batch waited)
  /-- The oldest records leave, at least one of them if there is one. -/
  | release (n : Nat) (waited : Nanos) (pos : 0 < n) (ready : l.channel.isDry = false) :
      Change l [.left (l.channel.queue.take n)] (l.release n waited)
  /-- The flow control moves. -/
  | reflow (flow : FlowControl) : Change l [] { l with flow }
  /-- The channel is closed. -/
  | close : Change l [] l.close
  /-- Others change the status, but not what the channel counts. -/
  | restate (status : TaskStatus) (agrees : l.status.Agrees status) :
      Change l [] { l with status }

end Line

/-! ## Steps of calls on the way in -/

namespace Sending

/-- A call that offers a batch, at once or after waiting since some time. -/
inductive Offers : Sending → List Record → Bool → Prop
  | pushing (batch : List Record) (ends : Bool) : Offers (.pushing batch ends) batch ends
  | waiting (batch : List Record) (ends : Bool) (since : Nanos) :
      Offers (.waiting batch ends since) batch ends

/-- What comes after a batch is in. An empty one is not metered. -/
def entered (batch : List Record) (ends : Bool) : Sending :=
  if batch.isEmpty then passed ends else .metering ends

/-- What crosses the channel when a call on the way in takes a step. -/
def crossings (l : Line) : Sending → List Crossing
  | .pushing batch _ => l.crossingsOf batch
  | .waiting batch _ _ => l.crossingsOf batch
  | _ => []

/-- All that a step of a call on the way in can do to a line, at a time. -/
inductive Moves (l : Line) (now : Nanos) : Sending → List Crossing → Line → Sending → Prop
  | wait {batch : List Record} {ends : Bool} (full : l.channel.delays batch = true) :
      Moves l now (.pushing batch ends) [] l (.waiting batch ends now)
  | refuse {d : Sending} {batch : List Record} {ends : Bool} (offer : d.Offers batch ends)
      (closed : l.channel.closed = true) :
      Moves l now d [] l (.returned (.error .channelClosed))
  | enter {d : Sending} {batch : List Record} {ends : Bool} (offer : d.Offers batch ends)
      (waited : Nanos) (isOpen : l.channel.closed = false)
      (room : l.channel.delays batch = false) :
      Moves l now d [.entered batch] (l.enter batch waited) (entered batch ends)
  | meter {ends : Bool} (flow : FlowControl)
      (metered : l.flow.meter l.status now = some (flow, none)) :
      Moves l now (.metering ends) [] { l with flow } (passed ends)
  | throttle {ends : Bool} (flow : FlowControl) (p : Pause)
      (metered : l.flow.meter l.status now = some (flow, some p)) :
      Moves l now (.metering ends) [] { l with flow } (.pausing p ends)
  | resume {ends : Bool} (p : Pause) (due : l.channel.closed = true ∨ p.ends ≤ now) :
      Moves l now (.pausing p ends) [] { l with flow := l.flow.resume p now } (passed ends)
  | close : Moves l now .closing [] l.close (.returned (.ok ()))

theorem Offers.crossings_eq {l : Line} {d : Sending} {batch : List Record} {ends : Bool}
    (offer : d.Offers batch ends) : d.crossings l = l.crossingsOf batch := by
  cases offer <;> rfl

/-- An offer is refused by a closed channel, and otherwise admitted if there is room. -/
theorem moves_of_push {l l' : Line} {now waited : Nanos} {d d' : Sending} {batch : List Record}
    {ends : Bool} (offer : d.Offers batch ends) {r : Except Failure Line}
    (h : l.push batch waited = some r) (e : pushed batch ends l r = (l', d')) :
    d.Moves l now (d.crossings l) l' d' := by
  rw [offer.crossings_eq]
  unfold Line.crossingsOf
  rw [Line.push_eq] at h
  by_cases full : l.channel.delays batch = true
  · rw [if_pos full] at h
    cases h
  · rw [if_neg full] at h
    by_cases closed : l.channel.closed = true
    · rw [if_pos closed] at h
      cases h
      cases e
      rw [if_pos (.inl closed)]
      exact .refuse offer closed
    · rw [if_neg closed] at h
      cases h
      cases e
      rw [if_neg (not_or.mpr ⟨closed, full⟩)]
      exact .enter offer waited (Bool.eq_false_iff.mpr closed) (Bool.eq_false_iff.mpr full)

theorem moves_of_step {l l' : Line} {now : Nanos} {d d' : Sending}
    (h : d.step l now = some (l', d')) : d.Moves l now (d.crossings l) l' d' := by
  cases d with
  | pushing batch ends =>
    simp only [step] at h
    cases hp : l.push batch 0 with
    | none =>
      rw [hp] at h
      cases h
      have full : l.channel.delays batch = true := (l.push_eq_none_iff batch 0).mp hp
      rw [(Offers.pushing batch ends).crossings_eq, Line.crossingsOf, if_pos (.inr full)]
      exact .wait full
    | some r =>
      rw [hp] at h
      exact moves_of_push (.pushing batch ends) hp (Option.some.inj h)
  | waiting batch ends since =>
    simp only [step] at h
    obtain ⟨r, hp, e⟩ := Option.map_eq_some_iff.mp h
    exact moves_of_push (.waiting batch ends since) hp e
  | metering ends =>
    simp only [step] at h
    obtain ⟨⟨flow, p⟩, hm, e⟩ := Option.map_eq_some_iff.mp h
    cases p with
    | none => cases e; exact .meter flow hm
    | some p => cases e; exact .throttle flow p hm
  | pausing p ends =>
    simp only [step] at h
    split at h
    · rename_i due
      cases h
      exact .resume p (by simpa using due)
    · cases h
  | closing => cases h; exact .close
  | returned r => cases h

/-- An open channel that has room takes an offer in at once. -/
theorem Offers.step_eq {l : Line} {d : Sending} {batch : List Record} {ends : Bool}
    (offer : d.Offers batch ends) (now : Nanos) (isOpen : l.channel.closed = false)
    (room : l.channel.delays batch = false) :
    ∃ waited, d.step l now = some (l.enter batch waited, entered batch ends) := by
  have hp : ∀ waited, l.push batch waited = some (.ok (l.enter batch waited)) := by
    intro waited
    rw [Line.push_eq, room, isOpen, if_neg Bool.false_ne_true, if_neg Bool.false_ne_true]
  cases offer with
  | pushing => exact ⟨0, by simp only [step, hp]; rfl⟩
  | waiting _ _ since => exact ⟨now - since, by simp only [step, hp, Option.map_some]; rfl⟩

/-- A call that has returned takes no more steps. -/
theorem not_moves_returned {l l' : Line} {now : Nanos} {r : Except Failure Unit} {d' : Sending}
    {cs : List Crossing} : ¬ Moves l now (.returned r) cs l' d' := by
  intro h
  cases h with
  | refuse offer => cases offer
  | enter offer => cases offer

theorem passed_ne_pausing (ends : Bool) (p : Pause) (ends' : Bool) :
    passed ends ≠ .pausing p ends' := by
  unfold passed
  split <;> simp

/-- A call that comes to pause remembers what the counters say. -/
theorem Moves.of_pausing {l l' : Line} {now : Nanos} {d : Sending} {cs : List Crossing} {p : Pause}
    {ends : Bool} (h : d.Moves l now cs l' (.pausing p ends)) :
    p.bytes = l.status.count .readSucceedBytes ∧
      p.records = l.status.count .readSucceedRecords := by
  generalize hd : Sending.pausing p ends = d' at h
  cases h with
  | wait => cases hd
  | refuse => cases hd
  | close => cases hd
  | meter => exact absurd hd.symm (passed_ne_pausing _ _ _)
  | resume => exact absurd hd.symm (passed_ne_pausing _ _ _)
  | enter =>
    unfold entered at hd
    split at hd
    · exact absurd hd.symm (passed_ne_pausing _ _ _)
    · cases hd
  | throttle flow p metered =>
    cases hd
    cases FlowControl.metered_of_meter metered with
    | throttle => exact ⟨rfl, rfl⟩

/-- A step of a call on the way in changes its line. -/
theorem Moves.change {l l' : Line} {now : Nanos} {d d' : Sending} {cs : List Crossing}
    (h : d.Moves l now cs l' d') : l.Change cs l' := by
  cases h with
  | wait => exact .idle
  | refuse => exact .idle
  | enter _ waited isOpen room => exact .enter _ waited isOpen room
  | meter flow => exact .reflow flow
  | throttle flow => exact .reflow flow
  | resume p => exact .reflow _
  | close => exact .close

end Sending

/-! ## Steps of calls on the way out -/

namespace Receiving

/-- A call that asks for records, at once or after waiting since some time. -/
inductive Asks : Receiving → Line.Want → Prop
  | taking (want : Line.Want) : Asks (.taking want) want
  | waiting (want : Line.Want) (since : Nanos) : Asks (.waiting want since) want

/-- What crosses the channel when a call on the way out has come to a stage. -/
def crossings : Receiving → List Crossing
  | .returned batch => [.left batch]
  | _ => []

/-- All that a step of a call on the way out can do to a line, at a time. -/
inductive Moves (l : Line) (now : Nanos) : Receiving → List Crossing → Line → Receiving → Prop
  | wait {want : Line.Want} (dry : l.channel.isDry = true) :
      Moves l now (.taking want) [] l (.waiting want now)
  | take {r : Receiving} {want : Line.Want} (asks : r.Asks want) (waited : Nanos)
      (ready : l.channel.isDry = false) :
      Moves l now r [.left (l.channel.queue.take want.most)] (l.release want.most waited)
        (.returned (l.channel.queue.take want.most))

theorem moves_of_step {l l' : Line} {now : Nanos} {r r' : Receiving}
    (h : r.step l now = some (l', r')) : r.Moves l now r'.crossings l' r' := by
  cases r with
  | taking want =>
    simp only [step, Line.take_eq] at h
    by_cases dry : l.channel.isDry = true
    · rw [if_pos dry] at h
      cases h
      exact .wait dry
    · rw [if_neg dry] at h
      cases h
      exact .take (.taking want) 0 (Bool.eq_false_iff.mpr dry)
  | waiting want since =>
    simp only [step, Line.take_eq] at h
    by_cases dry : l.channel.isDry = true
    · rw [if_pos dry] at h
      cases h
    · rw [if_neg dry] at h
      cases h
      exact .take (.waiting want since) (now - since) (Bool.eq_false_iff.mpr dry)
  | returned batch => cases h

/-- A call that asks for records gets them as soon as it does not have to wait. -/
theorem Asks.step_eq {l : Line} {r : Receiving} {want : Line.Want} (asks : r.Asks want)
    (now : Nanos) (ready : l.channel.isDry = false) :
    ∃ waited, r.step l now =
      some (l.release want.most waited, .returned (l.channel.queue.take want.most)) := by
  have ht : ∀ waited, l.take want waited =
      some (l.channel.queue.take want.most, l.release want.most waited) := by
    intro waited
    rw [Line.take_eq, ready, if_neg Bool.false_ne_true]
  cases asks with
  | taking => exact ⟨0, by simp only [step, ht]⟩
  | waiting _ since => exact ⟨now - since, by simp only [step, ht, Option.map_some]⟩

/-- A call that has returned takes no more steps. -/
theorem not_moves_returned {l l' : Line} {now : Nanos} {batch : List Record} {r' : Receiving}
    {cs : List Crossing} : ¬ Moves l now (.returned batch) cs l' r' := by
  intro h
  cases h with
  | take asks => cases asks

/-- A step of a call on the way out changes its line. -/
theorem Moves.change {l l' : Line} {now : Nanos} {r r' : Receiving} {cs : List Crossing}
    (h : r.Moves l now cs l' r') : l.Change cs l' := by
  cases h with
  | wait => exact .idle
  | take _ waited ready => exact .release _ waited (Line.Want.most_pos _) ready

end Receiving

end BatchSync
