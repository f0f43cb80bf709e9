import BatchSync.Proofs.Channel.Transfer

/-!
# Delivery

Whatever the sizes of the buffers, the bounds of the channel and the ceilings on its flow, and however
sender and receiver take turns, the receiver is told all records in their order, and that there is
nothing more from then on.

At any time the records are, from the first on, with the receiver, on their way to it, queued, or not
yet put in (`Transfer.OnCourse`). The sender keeps to calls that do not fail (`Sending.GoesWell`), as
nobody else closes the channel; the receiver sees the end of the stream only on a channel that is
closed and drained (`Receiver.Stands`). So one of them can always go on (`OnCourse.can_step`), and as
each step leaves fewer to be taken, they come to an end.
-/

namespace BatchSync

open Crossing

/-! ## Calls on the way in that do not fail -/

/-- The stages of a call that goes well, with the records that it still has to put in: whether it is
the last one, whether the channel is closed, and whether the sample is kept, are known at each. -/
inductive Sending.GoesWell (last closed held : Bool) : Sending → List Record → Prop
  | offering {d : Sending} {batch : List Record} (offer : d.Offers batch last)
      (isOpen : closed = false) (free : held = false) : GoesWell last closed held d batch
  | metering (isOpen : closed = false) (free : held = false) :
      GoesWell last closed held (.metering last) []
  | pausing (p : Pause) (isOpen : closed = false) : GoesWell last closed held (.pausing p last) []
  | closing (ends : last = true) (isOpen : closed = false) (free : held = false) :
      GoesWell last closed held .closing []
  | returned (ended : closed = last) (free : held = false) :
      GoesWell last closed held (.returned (.ok ())) []

namespace Sending

theorem goesWell_passed {last closed held : Bool} (isOpen : closed = false)
    (free : held = false) : (passed last).GoesWell last closed held [] := by
  cases last
  · exact .returned isOpen free
  · exact .closing rfl isOpen free

theorem goesWell_entered {last closed held : Bool} (batch : List Record) (isOpen : closed = false)
    (free : held = false) : (entered batch last).GoesWell last closed held [] := by
  unfold entered
  split
  · exact goesWell_passed isOpen free
  · exact .metering isOpen free

/-- A call that goes well goes on well, and what it put in is queued. -/
theorem GoesWell.step {l l' : Line} {now : Nanos} {last : Bool} {d d' : Sending}
    {batch : List Record} {cs : List Crossing}
    (h : d.GoesWell last l.channel.closed l.flow.held batch) (hm : d.Moves l now cs l' d') :
    ∃ batch', d'.GoesWell last l'.channel.closed l'.flow.held batch' ∧
      l'.channel.queue ++ batch' = l.channel.queue ++ batch := by
  cases h with
  | offering offer isOpen free =>
    cases hm with
    | wait full =>
      cases offer
      exact ⟨batch, .offering (.waiting batch last now) isOpen free, rfl⟩
    | refuse offer' closed => rw [isOpen] at closed; cases closed
    | enter offer' waited =>
      have hb : l.channel.queue ++ batch ++ [] = l.channel.queue ++ batch := List.append_nil _
      cases offer <;> cases offer' <;> exact ⟨[], goesWell_entered batch isOpen free, hb⟩
    | meter => cases offer
    | throttle => cases offer
    | resume => cases offer
    | close => cases offer
  | metering isOpen free =>
    cases hm with
    | refuse offer => cases offer
    | enter offer => cases offer
    | meter flow metered =>
      refine ⟨[], goesWell_passed isOpen ?_, rfl⟩
      cases FlowControl.metered_of_meter metered <;> exact free
    | throttle flow p => exact ⟨[], .pausing p isOpen, rfl⟩
  | pausing p isOpen =>
    cases hm with
    | refuse offer => cases offer
    | enter offer => cases offer
    | resume => exact ⟨[], goesWell_passed isOpen rfl, rfl⟩
  | closing ends isOpen free =>
    cases hm with
    | refuse offer => cases offer
    | enter offer => cases offer
    | close => exact ⟨[], .returned ends.symm free, rfl⟩
  | returned => exact absurd hm not_moves_returned

/-- A call that goes well can go on after some time, unless it has returned, or waits for room. -/
theorem GoesWell.can_step {l : Line} {last : Bool} {d : Sending} {batch : List Record}
    (h : d.GoesWell last l.channel.closed l.flow.held batch) (now : Nanos) :
    d = .returned (.ok ()) ∨ l.channel.queue ≠ [] ∨ ∃ span, (d.step l (now + span)).isSome := by
  cases h with
  | offering offer isOpen free =>
    cases room : l.channel.delays batch with
    | true => exact .inr (.inl (Channel.delays_iff.mp room).2.2.1)
    | false =>
      obtain ⟨waited, hs⟩ := offer.step_eq (now + 0) isOpen room
      exact .inr (.inr ⟨0, by rw [hs]; rfl⟩)
  | metering isOpen free =>
    refine .inr (.inr ⟨0, ?_⟩)
    show ((l.flow.meter l.status (now + 0)).map _).isSome
    rw [Option.isSome_map]
    cases hm : l.flow.meter l.status (now + 0) with
    | none => rw [FlowControl.held_of_meter_eq_none hm] at free; cases free
    | some r => rfl
  | pausing p isOpen =>
    refine .inr (.inr ⟨p.ends, ?_⟩)
    have due : (l.channel.closed || decide (p.ends ≤ now + p.ends)) = true := by
      simp
    rw [Sending.step, if_pos due]
    rfl
  | closing => exact .inr (.inr ⟨0, rfl⟩)
  | returned => exact .inl rfl

end Sending

/-! ## The sender -/

/-- Where a sender stands, with the records that are not yet put in. -/
inductive Sender.Stands (closed held : Bool) : Sender → List Record → Prop
  | ready (x : Exchanger) (plan : List SendAct) (isOpen : closed = false) (free : held = false) :
      Stands closed held ⟨x, plan, .ready⟩ (x.outgoing ++ SendAct.records plan)
  | calling {x : Exchanger} {plan : List SendAct} {last : Bool} {d : Sending}
      {batch : List Record} (h : d.GoesWell last closed held batch)
      (only : last = true → x.outgoing ++ SendAct.records plan = []) :
      Stands closed held ⟨x, plan, .calling last d⟩
        (batch ++ (x.outgoing ++ SendAct.records plan))
  | done (x : Exchanger) (plan : List SendAct) (ended : closed = true) :
      Stands closed held ⟨x, plan, .done⟩ []

namespace Sender

/-- An act hands over all that is buffered, or nothing. -/
theorem goesWell_start {closed held : Bool} (x : Exchanger) (a : SendAct) (isOpen : closed = false)
    (free : held = false) :
    ∃ batch, (a.start x).2.GoesWell false closed held batch ∧
      batch ++ (a.start x).1.outgoing = x.outgoing ++ SendAct.records [a] := by
  cases a with
  | flush => exact ⟨x.outgoing, .offering (.pushing _ _) isOpen free, rfl⟩
  | send r =>
    unfold SendAct.start Exchanger.send
    dsimp only
    split
    · exact ⟨x.outgoing ++ [r], .offering (.pushing _ _) isOpen free, List.append_nil _⟩
    · exact ⟨[], .returned isOpen free, rfl⟩

theorem records_cons (a : SendAct) (rest : List SendAct) :
    SendAct.records (a :: rest) = SendAct.records [a] ++ SendAct.records rest := by
  cases a <;> rfl

theorem Stands.step {l l' : Line} {now : Nanos} {s s' : Sender} {unsent : List Record}
    (h : s.Stands l.channel.closed l.flow.held unsent) (hm : s.Moves l now l' s') :
    ∃ unsent', s'.Stands l'.channel.closed l'.flow.held unsent' ∧
      l'.channel.queue ++ unsent' = l.channel.queue ++ unsent := by
  cases hm with
  | start x a rest =>
    cases h with
    | ready _ _ isOpen free =>
      obtain ⟨batch, hd, hb⟩ := goesWell_start x a isOpen free
      refine ⟨_, .calling hd (fun last => by cases last), ?_⟩
      rw [records_cons, ← List.append_assoc x.outgoing, ← hb]
      simp only [List.append_assoc]
  | terminate x =>
    cases h with
    | ready _ _ isOpen free =>
      refine ⟨_, .calling (.offering (.pushing x.outgoing true) isOpen free) (fun _ => rfl), ?_⟩
      simp [Exchanger.terminate, SendAct.records]
  | go hd =>
    cases h with
    | calling h only =>
      obtain ⟨batch', h', hq⟩ := h.step hd
      refine ⟨_, .calling h' only, ?_⟩
      rw [← List.append_assoc, hq, List.append_assoc]
  | back x plan last =>
    cases h with
    | calling h only =>
      cases h with
      | offering offer => cases offer
      | returned ended free =>
        cases last with
        | false => exact ⟨_, .ready x plan ended free, rfl⟩
        | true => exact ⟨[], .done x plan ended, by rw [only rfl]; rfl⟩

/-- A step of a sender changes its line. -/
theorem Moves.change {l l' : Line} {now : Nanos} {s s' : Sender} (h : s.Moves l now l' s') :
    ∃ cs, l.Change cs l' := by
  cases h with
  | go h => exact ⟨_, h.change⟩
  | start => exact ⟨_, .idle⟩
  | terminate => exact ⟨_, .idle⟩
  | back => exact ⟨_, .idle⟩

/-- No call fails. -/
theorem Stands.failure?_eq_none {closed held : Bool} {s : Sender} {unsent : List Record}
    (h : s.Stands closed held unsent) : s.failure? = none := by
  cases h with
  | ready => rfl
  | done => rfl
  | calling h =>
    cases h with
    | offering offer => cases offer <;> rfl
    | metering => rfl
    | pausing => rfl
    | closing => rfl
    | returned => rfl

/-- All records are in before the channel is closed. -/
theorem Stands.unsent_eq_nil {closed held : Bool} {s : Sender} {unsent : List Record}
    (h : s.Stands closed held unsent) (isClosed : closed = true) : unsent = [] := by
  subst isClosed
  cases h with
  | ready _ _ isOpen => cases isOpen
  | done => rfl
  | calling h only =>
    cases h with
    | offering _ isOpen => cases isOpen
    | metering isOpen => cases isOpen
    | pausing _ isOpen => cases isOpen
    | closing _ isOpen => cases isOpen
    | returned ended => exact only ended.symm

theorem Stands.closed_of_done {closed held : Bool} {s : Sender} {unsent : List Record}
    (h : s.Stands closed held unsent) (done : s.phase = .done) : closed = true := by
  cases h with
  | ready => cases done
  | calling => cases done
  | done _ _ ended => exact ended

/-- A sender can go on after some time, unless it is done, or waits for room. -/
theorem Stands.can_step {l : Line} {s : Sender} {unsent : List Record}
    (h : s.Stands l.channel.closed l.flow.held unsent) (now : Nanos) :
    s.phase = .done ∨ l.channel.queue ≠ [] ∨ ∃ span, (s.step l (now + span)).isSome := by
  cases h with
  | ready x plan => cases plan <;> exact .inr (.inr ⟨0, rfl⟩)
  | done => exact .inl rfl
  | @calling x plan last d batch h only =>
    rcases h.can_step now with rfl | queued | ⟨span, hd⟩
    · exact .inr (.inr ⟨0, rfl⟩)
    · exact .inr (.inl queued)
    · obtain ⟨p, hp⟩ := Option.isSome_iff_exists.mp hd
      refine .inr (.inr ⟨span, ?_⟩)
      rw [step_calling hp]
      rfl

end Sender

/-! ## The receiver -/

/-- Where a receiver stands, with the records that are on their way to it. It has seen the end of the
stream only if the channel is drained. -/
inductive Receiver.Stands (drained : Prop) (r : Receiver) : List Record → Prop
  | idle (call : r.call = none)
      (ended : r.exchanger.ended = true → drained ∧ r.exchanger.incoming = []) :
      Stands drained r r.exchanger.incoming
  | asking {d : Receiving} (call : r.call = some d) (stays : 0 < r.left)
      (empty : r.exchanger.incoming = []) (more : r.exchanger.ended = false)
      (asks : d.Asks (.upTo r.exchanger.bufferSize)) : Stands drained r []
  | served {batch : List Record} (call : r.call = some (.returned batch)) (stays : 0 < r.left)
      (empty : r.exchanger.incoming = []) (more : r.exchanger.ended = false)
      (last : batch = [] → drained) : Stands drained r batch

/-- What a receiver was told: records, and then that there is nothing more, some number of times, if it
has seen the end of the stream. -/
structure Receiver.Told (r : Receiver) (got : List Record) (ends : Nat) : Prop where
  replies : r.replies = got.map some ++ List.replicate ends none
  ended : 0 < ends → r.exchanger.ended = true

namespace Receiver

/-- A drained channel that stays so keeps a receiver where it stands. -/
theorem Stands.mono {p q : Prop} {r : Receiver} {coming : List Record} (h : r.Stands p coming)
    (hpq : p → q) : r.Stands q coming := by
  cases h with
  | idle call ended => exact .idle call fun e => ⟨hpq (ended e).1, (ended e).2⟩
  | asking call stays empty more asks => exact .asking call stays empty more asks
  | served call stays empty more last => exact .served call stays empty more fun e => hpq (last e)

/-- A receiver is told the next record if there is one, and else that there is nothing more. -/
theorem Told.reply {r : Receiver} {got : List Record} {ends : Nat} (h : r.Told got ends)
    (drained : Prop) (stays : 0 < r.left) (x : Exchanger)
    (keeps : r.exchanger.ended = true → x.ended = true)
    (ended : x.ended = true → drained ∧ x.incoming = [])
    (ready : x.incoming ≠ [] ∨ x.ended = true) :
    ∃ coming got' ends', (r.reply x).Stands drained coming ∧ (r.reply x).Told got' ends' ∧
      got' ++ coming = got ++ x.incoming ∧ (r.reply x).left + ends' = r.left + ends := by
  obtain ⟨size, outgoing, incoming, isEnded⟩ := x
  cases incoming with
  | nil =>
    have hx : isEnded = true := by simpa using ready
    refine ⟨[], got, ends + 1, .idle rfl ended, ⟨?_, fun _ => hx⟩, rfl, ?_⟩
    · show r.replies ++ [none] = _
      rw [h.replies, List.append_assoc, List.replicate_succ']
    · show r.left - 1 + (ends + 1) = r.left + ends
      omega
  | cons first rest =>
    have hx : ¬ isEnded = true := fun e => List.cons_ne_nil _ _ (ended e).2
    have hn : ends = 0 := by
      refine Nat.eq_zero_of_not_pos fun pos => hx (keeps (h.ended pos))
    subst hn
    refine ⟨rest, got ++ [first], 0, .idle rfl fun e => absurd e hx, ⟨?_, ?_⟩, ?_, rfl⟩
    · show r.replies ++ [some first] = _
      rw [h.replies]
      simp
    · exact fun pos => absurd pos (Nat.lt_irrefl 0)
    · rw [List.append_assoc]
      rfl

/-- A step of a receiver takes what is queued, and tells it what has come. -/
theorem Stands.step {l l' : Line} {now : Nanos} {r r' : Receiver} {coming got : List Record}
    {ends : Nat} (h : r.Stands l.channel.IsDrained coming) (told : r.Told got ends)
    (hm : r.Moves l now l' r') :
    ∃ coming' got' ends', r'.Stands l'.channel.IsDrained coming' ∧ r'.Told got' ends' ∧
      got' ++ (coming' ++ l'.channel.queue) = got ++ (coming ++ l.channel.queue) ∧
      r'.left + ends' = r.left + ends := by
  cases hm with
  | ask idle stays empty more =>
    refine ⟨[], got, ends, .asking rfl stays empty more (.taking _), ⟨told.replies, told.ended⟩,
      ?_, rfl⟩
    cases h with
    | idle => rw [empty]
    | asking => rfl
    | served call => rw [idle] at call; cases call
  | next idle stays ready =>
    cases h with
    | idle _ ended =>
      obtain ⟨coming, got', ends', hs, ht, hq, hl⟩ :=
        told.reply _ stays r.exchanger (fun e => e) ended ready
      refine ⟨coming, got', ends', hs, ht, ?_, hl⟩
      rw [← List.append_assoc, hq, List.append_assoc]
    | asking call => rw [idle] at call; cases call
    | served call => rw [idle] at call; cases call
  | go call hd =>
    cases h with
    | idle idle => rw [idle] at call; cases call
    | served call' => rw [call'] at call; cases call; exact absurd hd Receiving.not_moves_returned
    | asking call' stays empty more asks =>
      rw [call'] at call
      cases call
      cases hd with
      | wait =>
        cases asks
        exact ⟨[], got, ends, .asking rfl stays empty more (.waiting _ now),
          ⟨told.replies, told.ended⟩, rfl, rfl⟩
      | @take _ want asks' waited ready =>
        refine ⟨_, got, ends, .served rfl stays empty more ?_, ⟨told.replies, told.ended⟩, ?_, rfl⟩
        · intro hb
          have hd := (Channel.take_eq_nil_iff want.most_pos ready).mp hb
          exact (Line.Change.release _ waited want.most_pos ready).of_isDrained hd
        · show got ++ (l.channel.queue.take want.most ++ l.channel.queue.drop want.most) = _
          rw [List.take_append_drop]
          rfl
  | @back batch call =>
    cases h with
    | idle idle => rw [idle] at call; cases call
    | asking call' _ _ _ asks => rw [call'] at call; cases call; cases asks
    | served call' stays empty more last =>
      rw [call'] at call
      cases call
      have hi : (r.exchanger.accept coming).incoming = coming := by
        simp [Exchanger.accept, empty]
      have he : (r.exchanger.accept coming).ended = coming.isEmpty := by
        simp [Exchanger.accept, more]
      obtain ⟨coming', got', ends', hs, ht, hq, hl⟩ :=
        told.reply l.channel.IsDrained stays (r.exchanger.accept coming)
          (fun e => by rw [more] at e; cases e)
          (fun e => by rw [he, List.isEmpty_iff] at e; rw [hi]; exact ⟨last e, e⟩)
          (by rw [hi, he]; cases coming <;> simp)
      refine ⟨coming', got', ends', hs, ht, ?_, hl⟩
      rw [← List.append_assoc, hq, hi, List.append_assoc]

/-- A step of a receiver changes its line, but neither closes the channel nor takes or frees the
sample. -/
theorem Moves.change {l l' : Line} {now : Nanos} {r r' : Receiver} (h : r.Moves l now l' r') :
    (∃ cs, l.Change cs l') ∧ l'.channel.closed = l.channel.closed ∧
      l'.flow.held = l.flow.held := by
  cases h with
  | ask => exact ⟨⟨_, .idle⟩, rfl, rfl⟩
  | next => exact ⟨⟨_, .idle⟩, rfl, rfl⟩
  | back => exact ⟨⟨_, .idle⟩, rfl, rfl⟩
  | go call h =>
    refine ⟨⟨_, h.change⟩, ?_⟩
    cases h <;> exact ⟨rfl, rfl⟩

/-- A receiver that stays can go on, unless it waits for records. -/
theorem Stands.can_step {l : Line} {r : Receiver} {coming : List Record}
    (h : r.Stands l.channel.IsDrained coming) (now : Nanos) (stays : 0 < r.left)
    (ready : l.channel.isDry = false) : (r.step l now).isSome := by
  cases h with
  | idle call =>
    simp only [Receiver.step, call, if_neg (Nat.ne_of_gt stays)]
    cases r.exchanger.refill? <;> rfl
  | asking call _ _ _ asks =>
    obtain ⟨waited, hs⟩ := asks.step_eq now ready
    rw [step_call call hs]
    rfl
  | served call => simp only [Receiver.step, call, Option.isSome_some]

/-- A receiver that was told of the end of the stream has seen it, on a drained channel. -/
theorem Stands.drained {p : Prop} {r : Receiver} {coming got : List Record} {ends : Nat}
    (h : r.Stands p coming) (told : r.Told got ends) (pos : 0 < ends) : p ∧ coming = [] := by
  have seen := told.ended pos
  cases h with
  | idle call ended => exact ended seen
  | asking _ _ _ more => rw [more] at seen; cases seen
  | served _ _ _ more => rw [more] at seen; cases seen

end Receiver

/-! ## Both together -/

namespace Transfer

/-- Sender and receiver stand where they should, and the records are, from the first on, with the
receiver, on their way to it, queued, or not yet put in. -/
structure OnCourse (all : List Record) (asks : Nat) (s : Transfer) (got coming unsent : List Record)
    (ends : Nat) : Prop where
  sender : s.sender.Stands s.line.channel.closed s.line.flow.held unsent
  receiver : s.receiver.Stands s.line.channel.IsDrained coming
  told : s.receiver.Told got ends
  whole : got ++ (coming ++ (s.line.channel.queue ++ unsent)) = all
  asked : s.receiver.left + ends = asks

variable {all : List Record} {asks : Nat}

theorem onCourse_ofConfig (c : ChannelConfig) (status : TaskStatus) (now : Nanos)
    (sends receives : Nat) (plan : List SendAct) (again : Nat) :
    OnCourse (SendAct.records plan) (again + 1)
      (ofConfig c status now sends receives plan again) [] [] (SendAct.records plan) 0 where
  sender := .ready (.make sends) plan rfl rfl
  receiver := .idle rfl fun e => by cases e
  told := ⟨rfl, fun pos => absurd pos (Nat.lt_irrefl 0)⟩
  whole := rfl
  asked := rfl

/-- Every step keeps to the course. -/
theorem OnCourse.steps {s t : Transfer} {got coming unsent : List Record} {ends : Nat}
    (h : s.OnCourse all asks got coming unsent ends) (hm : s.Steps t) :
    ∃ got coming unsent ends, t.OnCourse all asks got coming unsent ends := by
  cases hm with
  | sender hm =>
    obtain ⟨unsent', hs, hq⟩ := h.sender.step hm
    obtain ⟨cs, hc⟩ := hm.change
    refine ⟨got, coming, unsent', ends, hs, h.receiver.mono hc.of_isDrained, h.told, ?_, h.asked⟩
    rw [hq]
    exact h.whole
  | receiver hm =>
    obtain ⟨coming', got', ends', hr, ht, hq, hl⟩ := h.receiver.step h.told hm
    obtain ⟨-, hc, hf⟩ := hm.change
    refine ⟨got', coming', unsent, ends', ?_, hr, ht, ?_, hl.trans h.asked⟩
    · show Sender.Stands _ _ s.sender unsent
      rw [hc, hf]
      exact h.sender
    · rw [← h.whole, ← List.append_assoc coming', ← List.append_assoc got', hq]
      simp only [List.append_assoc]

/-- The receiver is told no more than the records, and the end of the stream as often as it asks. -/
theorem OnCourse.replies_prefix {s : Transfer} {got coming unsent : List Record} {ends : Nat}
    (h : s.OnCourse all asks got coming unsent ends) :
    s.receiver.replies <+: all.map some ++ List.replicate asks none := by
  rw [h.told.replies]
  rcases Nat.eq_zero_or_pos ends with rfl | pos
  · rw [List.replicate_zero, List.append_nil, ← h.whole, List.map_append, List.append_assoc]
    exact List.prefix_append _ _
  · obtain ⟨drained, rfl⟩ := h.receiver.drained h.told pos
    have hw := h.whole
    rw [drained.2, h.sender.unsent_eq_nil drained.1, List.append_nil, List.nil_append,
      List.append_nil] at hw
    rw [hw, ← h.asked, Nat.add_comm, ← List.replicate_append_replicate, ← List.append_assoc]
    exact List.prefix_append _ _

/-- One of the two can go on after some time, until both are done. -/
theorem OnCourse.can_step {s : Transfer} {got coming unsent : List Record} {ends : Nat}
    (h : s.OnCourse all asks got coming unsent ends) (pos : 0 < asks) :
    s.IsDone ∨ ∃ turn span, (s.step turn span).isSome := by
  have receiver_step : 0 < s.receiver.left → s.line.channel.isDry = false →
      ∃ turn span, (s.step turn span).isSome := by
    intro stays ready
    refine ⟨.receiver, 0, ?_⟩
    obtain ⟨p, hp⟩ := Option.isSome_iff_exists.mp (h.receiver.can_step (s.now + 0) stays ready)
    simp only [step, hp, Option.map_some, Option.isSome_some]
  rcases h.sender.can_step s.now with done | queued | ⟨span, hs⟩
  · have closed := h.sender.closed_of_done done
    rcases Nat.eq_zero_or_pos s.receiver.left with left | stays
    · exact .inl ⟨done, left⟩
    · refine .inr (receiver_step stays ?_)
      simp [Channel.isDry, closed]
  · have ready : s.line.channel.isDry = false := by
      rw [Bool.eq_false_iff, Ne, Channel.isDry_iff]
      exact fun dry => queued dry.1
    rcases Nat.eq_zero_or_pos s.receiver.left with left | stays
    · -- a receiver that has left has seen the end of the stream, and nothing is queued behind it
      have hn : 0 < ends := by
        have := h.asked
        omega
      exact absurd (h.receiver.drained h.told hn).1.2 queued
    · exact .inr (receiver_step stays ready)
  · obtain ⟨p, hp⟩ := Option.isSome_iff_exists.mp hs
    refine .inr ⟨.sender, span, ?_⟩
    simp only [step, hp, Option.map_some, Option.isSome_some]

/-- The steps that are left. -/
def work (s : Transfer) (total : Nat) : Nat := s.sender.work + s.receiver.work total

theorem Steps.work_lt {s t : Transfer} (h : s.Steps t) {total : Nat}
    (most : t.receiver.replies.length ≤ total) : t.work total < s.work total := by
  unfold work
  cases h with
  | sender h => exact Nat.add_lt_add_right h.work_lt _
  | receiver h => exact Nat.add_lt_add_left (h.work_lt most) _

theorem OnCourse.length_replies_le {s : Transfer} {got coming unsent : List Record} {ends : Nat}
    (h : s.OnCourse all asks got coming unsent ends) :
    s.receiver.replies.length ≤ all.length + asks := by
  have := h.replies_prefix.length_le
  rw [List.length_append, List.length_map, List.length_replicate] at this
  exact this

/-- A run stays on course, and no longer than there are steps. -/
theorem OnCourse.run {moves : List (Party × Nanos)} : ∀ {s t : Transfer}
    {got coming unsent : List Record} {ends : Nat}, s.OnCourse all asks got coming unsent ends →
    s.run moves = some t →
      (∃ got coming unsent ends, t.OnCourse all asks got coming unsent ends) ∧
        moves.length + t.work (all.length + asks) ≤ s.work (all.length + asks) := by
  induction moves with
  | nil =>
    intro s t got coming unsent ends h hr
    cases hr
    exact ⟨⟨_, _, _, _, h⟩, Nat.le_of_eq (Nat.zero_add _)⟩
  | cons m rest ih =>
    obtain ⟨turn, span⟩ := m
    intro s t got coming unsent ends h hr
    simp only [Transfer.run] at hr
    cases hm : s.step turn span with
    | none => rw [hm] at hr; cases hr
    | some u =>
      rw [hm] at hr
      obtain ⟨got', coming', unsent', ends', hu⟩ := h.steps (steps_of_step hm)
      obtain ⟨ht, hw⟩ := ih hu hr
      refine ⟨ht, ?_⟩
      have := (steps_of_step hm).work_lt hu.length_replies_le
      rw [List.length_cons]
      omega

/-- Whoever goes on for as long as one of the two can comes to where both are done. -/
theorem OnCourse.run_isDone {s : Transfer} {got coming unsent : List Record} {ends : Nat}
    (h : s.OnCourse all asks got coming unsent ends) (pos : 0 < asks) :
    ∃ moves t, s.run moves = some t ∧ t.IsDone := by
  rcases h.can_step pos with done | ⟨turn, span, hs⟩
  · exact ⟨[], s, rfl, done⟩
  · obtain ⟨u, hu⟩ := Option.isSome_iff_exists.mp hs
    obtain ⟨got', coming', unsent', ends', hc⟩ := h.steps (steps_of_step hu)
    have fewer := (steps_of_step hu).work_lt hc.length_replies_le
    obtain ⟨moves, t, ht, done⟩ := hc.run_isDone pos
    refine ⟨(turn, span) :: moves, t, ?_, done⟩
    simp only [Transfer.run, hu]
    exact ht
termination_by s.work (all.length + asks)

/-- What the receiver was told when both are done. -/
theorem OnCourse.replies_of_isDone {s : Transfer} {got coming unsent : List Record} {ends : Nat}
    (h : s.OnCourse all asks got coming unsent ends) (pos : 0 < asks) (done : s.IsDone) :
    s.receiver.replies = all.map some ++ List.replicate asks none := by
  have hn : ends = asks := by
    have := h.asked
    have := done.2
    omega
  obtain ⟨drained, rfl⟩ := h.receiver.drained h.told (hn ▸ pos)
  have hw := h.whole
  rw [drained.2, h.sender.unsent_eq_nil drained.1] at hw
  rw [h.told.replies, hn, ← hw]
  simp

/-- **Delivery.** A sender sends records through an exchanger, with flushes in between, and terminates
it; a receiver receives from another one on the same channel until the end of the stream, and some
times again. Whatever the bounds and the ceilings of the channel, the sizes of the buffers and the
turns that the two take:
1. They take no more steps than there are for so many acts and so many replies.
2. No call fails, and the receiver is told nothing but the records in their order, and then that there
   is nothing more.
3. Until both are done, one of them can go on, and they can come to be done.
4. When both are done, the receiver was told all records, and nothing more each time it asked again. -/
theorem delivers (c : ChannelConfig) (status : TaskStatus) (now : Nanos) (sends receives : Nat)
    (plan : List SendAct) (again : Nat) (moves : List (Party × Nanos)) {s : Transfer}
    (hs : (ofConfig c status now sends receives plan again).run moves = some s) :
    moves.length ≤ 7 * (plan.length + 1) +
      (4 * ((SendAct.records plan).length + (again + 1)) + 3) ∧
    (s.sender.failure? = none ∧
      s.receiver.replies <+:
        (SendAct.records plan).map some ++ List.replicate (again + 1) none) ∧
    ((s.IsDone ∨ ∃ turn span, (s.step turn span).isSome) ∧
      ∃ later t, s.run later = some t ∧ t.IsDone) ∧
    (s.IsDone →
      s.receiver.replies = (SendAct.records plan).map some ++ List.replicate (again + 1) none) := by
  have start := onCourse_ofConfig c status now sends receives plan again
  obtain ⟨⟨got, coming, unsent, ends, h⟩, hw⟩ := start.run hs
  have pos : 0 < again + 1 := Nat.succ_pos again
  refine ⟨?_, ⟨h.sender.failure?_eq_none, h.replies_prefix⟩, ⟨h.can_step pos, h.run_isDone pos⟩,
    fun done => h.replies_of_isDone pos done⟩
  exact Nat.le_trans (Nat.le_add_right _ _) hw

/-- A batch of two goes through a channel of one record, and the rest waits behind it. -/
def inTurns : List (Party × Nanos) :=
  List.replicate 10 (.sender, 0) ++ List.replicate 5 (.receiver, 1) ++
    List.replicate 4 (.sender, 0) ++ List.replicate 8 (.receiver, 0)

theorem delivers_inTurns :
    ∃ s, (ofConfig { capacity := 1 } .initial 0 2 0
        [.send .empty, .send (.ofColumns [.bool true]), .send .empty] 1).run inTurns = some s ∧
      s.IsDone ∧ s.receiver.replies =
        [some .empty, some (.ofColumns [.bool true]), some .empty, none, none] := by
  refine ⟨_, rfl, ⟨rfl, rfl⟩, ?_⟩
  exact (delivers { capacity := 1 } .initial 0 2 0
    [.send .empty, .send (.ofColumns [.bool true]), .send .empty] 1 inTurns rfl).2.2.2 ⟨rfl, rfl⟩

end Transfer

end BatchSync
