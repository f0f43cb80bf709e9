import BatchSync.Channel.Basic
import BatchSync.Channel.Flow

/-!
# Lines

A line is a channel with the status in which its traffic is accounted and its flow control. Records
that enter the channel count as read, and those that leave it as received by the writer; time spent
waiting counts once the waiting call goes on with records to move, or learns that there are none.
-/

namespace BatchSync

/-- A channel, the status of its task, and its flow control. -/
structure Line where
  channel : Channel
  status : TaskStatus
  flow : FlowControl

namespace Line

/-- The line of a task that starts now. -/
def ofConfig (c : ChannelConfig) (status : TaskStatus) (now : Nanos) : Line :=
  ⟨.ofConfig c, status, .ofConfig c now⟩

/-- A status after records were read. -/
def countRead (s : TaskStatus) (batch : List Record) : TaskStatus :=
  (s.add .readSucceedRecords batch.length).add .readSucceedBytes (totalSize batch)

/-- A status after records were received. -/
def countReceived (s : TaskStatus) (batch : List Record) : TaskStatus :=
  (s.add .writeReceivedRecords batch.length).add .writeReceivedBytes (totalSize batch)

/-- Puts a batch in, after waiting for some time. -/
def push (l : Line) (batch : List Record) (waited : Nanos) : Option (Except Failure Line) :=
  (l.channel.putAll batch).map fun r =>
    r.map fun channel =>
      { l with channel, status := (countRead l.status batch).add .waitWriterTime waited }

/-- What a call takes. -/
inductive Want where
  /-- A record. -/
  | one
  /-- Up to some number of records. -/
  | upTo (most : Nat)

/-- Takes records out, after waiting for some time. -/
def take (l : Line) (want : Want) (waited : Nanos) : Option (List Record × Line) :=
  let taken : Option (List Record × Channel) :=
    match want with
    | .one => l.channel.take.map fun p => (p.1.toList, p.2)
    | .upTo most => l.channel.takeAll most
  taken.map fun (batch, channel) =>
    (batch, { l with
      channel, status := countReceived (l.status.add .waitReaderTime waited) batch })

/-- Closes the channel. -/
def close (l : Line) : Line := { l with channel := l.channel.close }

/-- Changes the status. -/
def mapStatus (l : Line) (f : TaskStatus → TaskStatus) : Line := { l with status := f l.status }

end Line

end BatchSync
