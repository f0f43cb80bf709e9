import BatchSync.Proofs.Channel.Order

/-!
# Transfers

A sender passes records to an exchanger, flushing it wherever it likes, and terminates it. A receiver
receives from another exchanger on the same line until it is told that there is nothing more, and then
asks some more times. They take turns in any order, and any time may pass between two steps.

1. `Sender.moves_of_step` and `Receiver.moves_of_step` say all that a step can do.
2. `Sender.Moves.work_lt` and `Receiver.Moves.work_lt` say that it leaves fewer steps to be taken.
-/

namespace BatchSync

open Crossing

/-! ## The sender -/

/-- What a sender does before it ends the stream. -/
inductive SendAct where
  | send (r : Record)
  | flush

namespace SendAct

/-- The records that are sent. -/
def records : List SendAct → List Record
  | [] => []
  | .send r :: rest => r :: records rest
  | .flush :: rest => records rest

/-- The exchanger after an act, and the call that it makes. -/
def start (x : Exchanger) : SendAct → Exchanger × Sending
  | .send r => x.send r
  | .flush => x.flush

end SendAct

/-- How far a sender has come. -/
inductive SenderPhase where
  /-- Between two calls. -/
  | ready
  /-- In a call, which may be the one that ends the stream. -/
  | calling (last : Bool) (d : Sending)
  | done

/-- A sender: its exchanger, and what it still has to do. -/
structure Sender where
  exchanger : Exchanger
  plan : List SendAct
  phase : SenderPhase

namespace Sender

/-- The failure that a call came back with. -/
def failure? (s : Sender) : Option Failure :=
  match s.phase with
  | .calling _ (.returned (.error f)) => some f
  | _ => none

/-- The next step of a sender. There is none for one that is done, that has to wait, or whose call has
failed. -/
def step (l : Line) (now : Nanos) (s : Sender) : Option (Line × Sender) :=
  match s.phase with
  | .ready =>
    match s.plan with
    | a :: rest =>
      some (l, ⟨(a.start s.exchanger).1, rest, .calling false (a.start s.exchanger).2⟩)
    | [] => some (l, ⟨s.exchanger.terminate.1, [], .calling true s.exchanger.terminate.2⟩)
  | .calling last (.returned (.ok ())) =>
    some (l, { s with phase := if last then .done else .ready })
  | .calling last d =>
    (d.step l now).map fun p => (p.1, { s with phase := .calling last p.2 })
  | .done => none

/-- A sender goes on with its call. -/
theorem step_calling {l : Line} {now : Nanos} {x : Exchanger} {plan : List SendAct} {last : Bool}
    {d : Sending} {p : Line × Sending} (h : d.step l now = some p) :
    step l now ⟨x, plan, .calling last d⟩ = some (p.1, ⟨x, plan, .calling last p.2⟩) := by
  cases d with
  | returned r => cases h
  | _ => simp only [step, h, Option.map_some]

/-- All that a step of a sender can do. -/
inductive Moves (l : Line) (now : Nanos) : Sender → Line → Sender → Prop
  | start (x : Exchanger) (a : SendAct) (rest : List SendAct) :
      Moves l now ⟨x, a :: rest, .ready⟩ l ⟨(a.start x).1, rest, .calling false (a.start x).2⟩
  | terminate (x : Exchanger) :
      Moves l now ⟨x, [], .ready⟩ l ⟨x.terminate.1, [], .calling true x.terminate.2⟩
  | go {x : Exchanger} {plan : List SendAct} {last : Bool} {d d' : Sending} {cs : List Crossing}
      {l' : Line} (h : d.Moves l now cs l' d') :
      Moves l now ⟨x, plan, .calling last d⟩ l' ⟨x, plan, .calling last d'⟩
  | back (x : Exchanger) (plan : List SendAct) (last : Bool) :
      Moves l now ⟨x, plan, .calling last (.returned (.ok ()))⟩ l
        ⟨x, plan, if last then .done else .ready⟩

theorem moves_of_step {l l' : Line} {now : Nanos} {s s' : Sender}
    (h : s.step l now = some (l', s')) : s.Moves l now l' s' := by
  obtain ⟨x, plan, phase⟩ := s
  cases phase with
  | ready =>
    cases plan with
    | nil => cases h; exact .terminate x
    | cons a rest => cases h; exact .start x a rest
  | done => cases h
  | calling last d =>
    have other : ((d.step l now).map fun p =>
        (p.1, (⟨x, plan, .calling last p.2⟩ : Sender))) = some (l', s') →
        Moves l now ⟨x, plan, .calling last d⟩ l' s' := by
      intro h
      obtain ⟨⟨l₁, d₁⟩, hd, e⟩ := Option.map_eq_some_iff.mp h
      cases e
      exact .go (Sending.moves_of_step hd)
    cases d with
    | returned r =>
      cases r with
      | ok u => cases u; cases h; exact .back x plan last
      | error f => cases h
    | pushing => exact other h
    | waiting => exact other h
    | metering => exact other h
    | pausing => exact other h
    | closing => exact other h

end Sender

/-! ## The receiver -/

/-- A receiver: its exchanger, the call it is in, what it was told so far, and how many more times it
asks until it leaves at the end of the stream. -/
structure Receiver where
  exchanger : Exchanger
  call : Option Receiving
  replies : List (Option Record)
  left : Nat

namespace Receiver

/-- A receiver that is handed out the next record. -/
def reply (r : Receiver) (x : Exchanger) : Receiver :=
  { exchanger := x.next.1
    call := none
    replies := r.replies ++ [x.next.2]
    left := if x.next.2.isNone then r.left - 1 else r.left }

/-- The next step of a receiver. There is none for one that has left or has to wait. -/
def step (l : Line) (now : Nanos) (r : Receiver) : Option (Line × Receiver) :=
  match r.call with
  | some (.returned batch) => some (l, r.reply (r.exchanger.accept batch))
  | some d => (d.step l now).map fun p => (p.1, { r with call := some p.2 })
  | none =>
    if r.left = 0 then none
    else
      match r.exchanger.refill? with
      | some d => some (l, { r with call := some d })
      | none => some (l, r.reply r.exchanger)

/-- A receiver goes on with its call. -/
theorem step_call {l : Line} {now : Nanos} {r : Receiver} {d : Receiving} {p : Line × Receiving}
    (call : r.call = some d) (h : d.step l now = some p) :
    r.step l now = some (p.1, { r with call := some p.2 }) := by
  cases d with
  | returned batch => cases h
  | _ => simp only [step, call, h, Option.map_some]

/-- All that a step of a receiver can do. -/
inductive Moves (l : Line) (now : Nanos) (r : Receiver) : Line → Receiver → Prop
  | ask (idle : r.call = none) (stays : 0 < r.left) (empty : r.exchanger.incoming = [])
      (more : r.exchanger.ended = false) :
      Moves l now r l { r with call := some (.taking (.upTo r.exchanger.bufferSize)) }
  | next (idle : r.call = none) (stays : 0 < r.left)
      (ready : r.exchanger.incoming ≠ [] ∨ r.exchanger.ended = true) :
      Moves l now r l (r.reply r.exchanger)
  | go {d d' : Receiving} {cs : List Crossing} {l' : Line} (call : r.call = some d)
      (h : d.Moves l now cs l' d') : Moves l now r l' { r with call := some d' }
  | back {batch : List Record} (call : r.call = some (.returned batch)) :
      Moves l now r l (r.reply (r.exchanger.accept batch))

theorem moves_of_step {l l' : Line} {now : Nanos} {r r' : Receiver}
    (h : r.step l now = some (l', r')) : r.Moves l now l' r' := by
  simp only [step] at h
  cases call : r.call with
  | none =>
    rw [call] at h
    dsimp only at h
    split at h
    · cases h
    rename_i stays
    have stays := Nat.pos_of_ne_zero stays
    cases refill : r.exchanger.refill? with
    | some d =>
      rw [refill] at h
      cases h
      unfold Exchanger.refill? at refill
      split at refill
      · rename_i empty
        cases refill
        have empty : r.exchanger.incoming = [] ∧ r.exchanger.ended = false := by simpa using empty
        exact .ask call stays empty.1 empty.2
      · cases refill
    | none =>
      rw [refill] at h
      cases h
      unfold Exchanger.refill? at refill
      split at refill
      · cases refill
      · rename_i ready
        refine .next call stays ?_
        cases he : r.exchanger.ended with
        | true => exact .inr rfl
        | false => exact .inl (by simpa [he] using ready)
  | some d =>
    rw [call] at h
    have other : ((d.step l now).map fun p => (p.1, { r with call := some p.2 })) =
        some (l', r') → r.Moves l now l' r' := by
      intro h
      obtain ⟨⟨l₁, d₁⟩, hd, e⟩ := Option.map_eq_some_iff.mp h
      cases e
      exact .go call (Receiving.moves_of_step hd)
    cases d with
    | returned batch => cases h; exact .back call
    | taking => exact other h
    | waiting => exact other h

end Receiver

/-! ## Both together -/

/-- Who takes a step. -/
inductive Party where
  | sender
  | receiver

/-- A sender and a receiver on a line. -/
structure Transfer where
  line : Line
  now : Nanos
  sender : Sender
  receiver : Receiver

namespace Transfer

/-- A new channel with an exchanger on either side. The receiver asks some more times after the end of
the stream. -/
def ofConfig (c : ChannelConfig) (status : TaskStatus) (now : Nanos) (sends receives : Nat)
    (plan : List SendAct) (again : Nat) : Transfer where
  line := .ofConfig c status now
  now := now
  sender := ⟨.make sends, plan, .ready⟩
  receiver := ⟨.make receives, none, [], again + 1⟩

/-- A step of a party, after some time. -/
def step (s : Transfer) (turn : Party) (span : Nanos) : Option Transfer :=
  match turn with
  | .sender => (s.sender.step s.line (s.now + span)).map fun p =>
      { s with line := p.1, now := s.now + span, sender := p.2 }
  | .receiver => (s.receiver.step s.line (s.now + span)).map fun p =>
      { s with line := p.1, now := s.now + span, receiver := p.2 }

/-- What an interleaving leads to, if all of its steps can be taken one after the other. -/
def run (s : Transfer) : List (Party × Nanos) → Option Transfer
  | [] => some s
  | (turn, span) :: rest =>
    match s.step turn span with
    | none => none
    | some s => s.run rest

/-- Whether the sender has ended the stream and the receiver has left. -/
def IsDone (s : Transfer) : Prop := s.sender.phase = .done ∧ s.receiver.left = 0

/-- All that a step can do. -/
inductive Steps (s : Transfer) : Transfer → Prop
  | sender {l : Line} {now : Nanos} {a : Sender} (h : s.sender.Moves s.line now l a) :
      Steps s { s with line := l, now, sender := a }
  | receiver {l : Line} {now : Nanos} {b : Receiver} (h : s.receiver.Moves s.line now l b) :
      Steps s { s with line := l, now, receiver := b }

theorem steps_of_step {s t : Transfer} {turn : Party} {span : Nanos}
    (h : s.step turn span = some t) : s.Steps t := by
  cases turn with
  | sender =>
    obtain ⟨⟨l, a⟩, ha, rfl⟩ := Option.map_eq_some_iff.mp h
    exact .sender (Sender.moves_of_step ha)
  | receiver =>
    obtain ⟨⟨l, b⟩, hb, rfl⟩ := Option.map_eq_some_iff.mp h
    exact .receiver (Receiver.moves_of_step hb)

end Transfer

/-! ## Steps that are left -/

/-- How many steps a call on the way in takes at most. -/
def Sending.work : Sending → Nat
  | .pushing _ _ => 5
  | .waiting _ _ _ => 4
  | .metering _ => 3
  | .pausing _ _ => 2
  | .closing => 1
  | .returned _ => 0

/-- How many steps a call on the way out takes at most. -/
def Receiving.work : Receiving → Nat
  | .taking _ => 2
  | .waiting _ _ => 1
  | .returned _ => 0

theorem Sending.work_passed_le (last : Bool) : (passed last).work ≤ 1 := by
  cases last
  · exact Nat.zero_le 1
  · exact Nat.le_refl 1

theorem Sending.work_entered_le (batch : List Record) (last : Bool) :
    (entered batch last).work ≤ 3 := by
  unfold entered
  split
  · have := work_passed_le last
    omega
  · exact Nat.le_refl 3

theorem Sending.work_le (d : Sending) : d.work ≤ 5 := by
  cases d <;> simp [work]

/-- A step of a call on the way in leaves fewer of them. -/
theorem Sending.Moves.work_lt {l l' : Line} {now : Nanos} {d d' : Sending} {cs : List Crossing}
    (h : d.Moves l now cs l' d') : d'.work < d.work := by
  have of_offers : ∀ {d : Sending} {batch : List Record} {ends : Bool}, d.Offers batch ends →
      4 ≤ d.work := by
    intro d batch ends offer
    cases offer <;> simp [work]
  cases h with
  | wait => exact Nat.lt_succ_self 4
  | throttle => exact Nat.lt_succ_self 2
  | close => exact Nat.lt_succ_self 0
  | refuse offer => exact Nat.lt_of_lt_of_le (by decide : 0 < 4) (of_offers offer)
  | @enter _ batch last offer =>
    have := work_entered_le batch last
    have := of_offers offer
    omega
  | @meter last =>
    have := work_passed_le last
    show (passed last).work < 3
    omega
  | @resume last =>
    have := work_passed_le last
    show (passed last).work < 2
    omega

theorem Receiving.Moves.work_lt {l l' : Line} {now : Nanos} {d d' : Receiving} {cs : List Crossing}
    (h : d.Moves l now cs l' d') : d'.work < d.work := by
  cases h with
  | wait => exact Nat.lt_succ_self 1
  | take asks => cases asks <;> simp [work]

/-- How many steps a sender takes at most: seven for each act, and seven to end the stream. -/
def Sender.work (s : Sender) : Nat :=
  match s.phase with
  | .ready => 7 * (s.plan.length + 1)
  | .calling false d => 7 * (s.plan.length + 1) + 1 + d.work
  | .calling true d => 1 + d.work
  | .done => 0

/-- How many steps a receiver takes at most for some number of replies: four for each. -/
def Receiver.work (r : Receiver) (total : Nat) : Nat :=
  4 * (total - r.replies.length) + match r.call with
    | none => 3
    | some d => d.work

theorem Sender.Moves.work_lt {l l' : Line} {now : Nanos} {s s' : Sender}
    (h : s.Moves l now l' s') : s'.work < s.work := by
  cases h with
  | start x a rest =>
    have := (a.start x).2.work_le
    simp only [work, List.length_cons]
    omega
  | terminate x =>
    have := x.terminate.2.work_le
    simp only [work, List.length_nil]
    omega
  | @go x plan last d d' cs l' h =>
    have := h.work_lt
    cases last <;> simp only [work] <;> omega
  | back x plan last => cases last <;> simp only [work, Sending.work] <;> simp

/-- A step of a receiver leaves fewer of them, if it was not told too much. -/
theorem Receiver.Moves.work_lt {l l' : Line} {now : Nanos} {r r' : Receiver}
    (h : r.Moves l now l' r') {total : Nat} (most : r'.replies.length ≤ total) :
    r'.work total < r.work total := by
  have told : ∀ x, (r.reply x).replies.length = r.replies.length + 1 := by
    intro x
    simp [reply]
  cases h with
  | ask idle => simp [work, idle, Receiving.work]
  | next idle =>
    have := told r.exchanger
    have hc : (r.reply r.exchanger).call = none := rfl
    simp only [work, idle, hc]
    omega
  | go call h =>
    have := h.work_lt
    simp only [work, call]
    omega
  | @back batch call =>
    have := told (r.exchanger.accept batch)
    have hc : (r.reply (r.exchanger.accept batch)).call = none := rfl
    simp only [work, call, hc]
    omega

end BatchSync
