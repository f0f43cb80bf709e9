import BatchSync.Channel.Line

/-!
# Exchangers

Records go through a channel in batches. On its way in, a record waits in the buffer of an exchanger
until the buffer is full, is flushed or is terminated; on their way out, records are taken from the
channel up to a buffer at a time and handed out one by one.

A call on the way in (`Sending`) goes through stages, and others may act on the line between any two of
them: its batch is pushed, waiting for room if need be; the flow is metered, pausing if it was too
fast; and the call that ends the stream closes the channel. A batch that is refused is lost. A call on
the way out (`Receiving`) takes a batch, waiting for one if need be.
-/

namespace BatchSync

/-! ## Calls on the way in -/

/-- The stages of a call that puts a batch into the channel, and may end the stream behind it. -/
inductive Sending where
  /-- About to push the batch. -/
  | pushing (batch : List Record) (ends : Bool)
  /-- Waiting for room since a time. -/
  | waiting (batch : List Record) (ends : Bool) (since : Nanos)
  /-- The batch is in, and the flow is to be looked at. -/
  | metering (ends : Bool)
  /-- Pausing because the flow was too fast. -/
  | pausing (p : Pause) (ends : Bool)
  /-- About to close the channel. -/
  | closing
  /-- The call has returned. -/
  | returned (r : Except Failure Unit)

namespace Sending

/-- What comes after the batch is in and the flow was looked at. -/
def passed (ends : Bool) : Sending := if ends then .closing else .returned (.ok ())

/-- What comes after a push. An empty batch is not metered. -/
def pushed (batch : List Record) (ends : Bool) (l : Line) : Except Failure Line → Line × Sending
  | .error f => (l, .returned (.error f))
  | .ok l => (l, if batch.isEmpty then passed ends else .metering ends)

/-- The next stage, on a line, at a time. There is none for a call that has returned or has to wait. -/
def step (l : Line) (now : Nanos) : Sending → Option (Line × Sending)
  | .pushing batch ends =>
    match l.push batch 0 with
    | some r => some (pushed batch ends l r)
    | none => some (l, .waiting batch ends now)
  | .waiting batch ends since => (l.push batch (now - since)).map (pushed batch ends l)
  | .metering ends =>
    (l.flow.meter l.status now).map fun (flow, pause) =>
      match pause with
      | none => ({ l with flow }, passed ends)
      | some p => ({ l with flow }, .pausing p ends)
  | .pausing p ends =>
    if l.channel.closed || p.ends ≤ now then
      some ({ l with flow := l.flow.resume p now }, passed ends)
    else none
  | .closing => some (l.close, .returned (.ok ()))
  | .returned _ => none

/-- What a call has returned, if it has. -/
def result? : Sending → Option (Except Failure Unit)
  | .returned r => some r
  | _ => none

end Sending

/-! ## Calls on the way out -/

/-- The stages of a call that takes records out of the channel. -/
inductive Receiving where
  /-- About to take. -/
  | taking (want : Line.Want)
  /-- Waiting for records since a time. -/
  | waiting (want : Line.Want) (since : Nanos)
  /-- The call has returned. -/
  | returned (batch : List Record)

namespace Receiving

/-- The next stage, on a line, at a time. There is none for a call that has returned or has to wait. -/
def step (l : Line) (now : Nanos) : Receiving → Option (Line × Receiving)
  | .taking want =>
    match l.take want 0 with
    | some (batch, l) => some (l, .returned batch)
    | none => some (l, .waiting want now)
  | .waiting want since =>
    (l.take want (now - since)).map fun (batch, l) => (l, .returned batch)
  | .returned _ => none

end Receiving

/-! ## Exchangers -/

/-- One end of a channel, with its buffers. -/
structure Exchanger where
  /-- How many records make a batch. -/
  bufferSize : Nat
  /-- Records on their way in, from the oldest on. -/
  outgoing : List Record
  /-- Records on their way out, from the oldest on. -/
  incoming : List Record
  /-- Whether the end of the stream was seen. -/
  ended : Bool

namespace Exchanger

/-- A fresh exchanger. A batch has at least one record. -/
def make (bufferSize : Nat) : Exchanger := ⟨max bufferSize 1, [], [], false⟩

/-- Hands over what is buffered: the exchanger without it, and the call that puts it in. -/
def flush (x : Exchanger) : Exchanger × Sending :=
  ({ x with outgoing := [] }, .pushing x.outgoing false)

/-- Hands over what is buffered and ends the stream. -/
def terminate (x : Exchanger) : Exchanger × Sending :=
  ({ x with outgoing := [] }, .pushing x.outgoing true)

/-- Sends a record: the buffer is handed over if it is full. -/
def send (x : Exchanger) (r : Record) : Exchanger × Sending :=
  let x := { x with outgoing := x.outgoing ++ [r] }
  if x.bufferSize ≤ x.outgoing.length then x.flush else (x, .returned (.ok ()))

/-- The call that has to be made before a record can be handed out, if any. -/
def refill? (x : Exchanger) : Option Receiving :=
  if x.incoming.isEmpty && !x.ended then some (.taking (.upTo x.bufferSize)) else none

/-- Takes in a batch. An empty one is the end of the stream. -/
def accept (x : Exchanger) (batch : List Record) : Exchanger :=
  { x with incoming := x.incoming ++ batch, ended := x.ended || batch.isEmpty }

/-- Hands out the next record. -/
def next (x : Exchanger) : Exchanger × Option Record :=
  ({ x with incoming := x.incoming.tail }, x.incoming.head?)

theorem bufferSize_make_pos (n : Nat) : 0 < (make n).bufferSize :=
  Nat.lt_of_lt_of_le Nat.zero_lt_one (Nat.le_max_right n 1)

end Exchanger

end BatchSync
