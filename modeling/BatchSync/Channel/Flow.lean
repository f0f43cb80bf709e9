import BatchSync.Channel.Throttle
import BatchSync.Config.Basic
import BatchSync.Retry.Policy
import BatchSync.Status.Basic

/-!
# Flow control

A channel may have ceilings on the bytes and on the records that are put into it per second. The
producer samples what has been read, once per interval at most; if the flow since the last sample was
faster than a ceiling, it pauses until the average is down to it. One producer samples at a time, and
keeps the sample while it pauses.
-/

namespace BatchSync

/-- What had been read when the flow was last looked at. -/
structure FlowSample where
  taken : Nanos
  bytes : Nat
  records : Nat

/-- The ceilings of a channel, and its last sample. -/
structure FlowControl where
  byteLimit : Option Nat
  recordLimit : Option Nat
  interval : Nanos
  sample : FlowSample
  /-- Whether a producer that pauses keeps the sample. -/
  held : Bool

/-- A pause of a producer: when it is over at the latest, and what had been read before it. -/
structure Pause where
  ends : Nanos
  bytes : Nat
  records : Nat

namespace FlowControl

/-- Milliseconds as a span of time. -/
def ofMillis (millis : Nat) : Nanos := millis * 1000000

/-- The flow control of a channel that is opened now. -/
def ofConfig (c : ChannelConfig) (now : Nanos) : FlowControl :=
  ⟨c.speed.byteLimit?, c.speed.recordLimit?, ofMillis c.flowControlInterval, ⟨now, 0, 0⟩, false⟩

/-- Whether there is no ceiling. -/
def isUnlimited (f : FlowControl) : Bool := f.byteLimit.isNone && f.recordLimit.isNone

/-- The pause, in milliseconds, after an amount that took an interval, under a ceiling that may be
missing. -/
def delayUnder (limit : Option Nat) (amount interval : Nat) : Nat :=
  match limit with
  | some limit => throttleDelay amount interval limit
  | none => 0

/-- Milliseconds since the last sample, at least one. -/
def elapsedMillis (f : FlowControl) (now : Nanos) : Nat := max ((now - f.sample.taken) / 1000000) 1

/-- The pause, in milliseconds, that is due after some amounts were read. -/
def delay (f : FlowControl) (now : Nanos) (bytes records : Nat) : Nat :=
  max (delayUnder f.byteLimit (bytes - f.sample.bytes) (f.elapsedMillis now))
    (delayUnder f.recordLimit (records - f.sample.records) (f.elapsedMillis now))

/-- Looks at the flow after records were put in: whether the producer has to pause. While another
producer keeps the sample there is no outcome. -/
def meter (f : FlowControl) (s : TaskStatus) (now : Nanos) : Option (FlowControl × Option Pause) :=
  if f.isUnlimited then some (f, none)
  else if f.held then none
  else if now - f.sample.taken < f.interval then some (f, none)
  else
    let bytes := s.count .readSucceedBytes
    let records := s.count .readSucceedRecords
    match f.delay now bytes records with
    | 0 => some ({ f with sample := ⟨now, bytes, records⟩ }, none)
    | d => some ({ f with held := true }, some ⟨now + ofMillis d, bytes, records⟩)

/-- Ends a pause. -/
def resume (f : FlowControl) (p : Pause) (now : Nanos) : FlowControl :=
  { f with sample := ⟨now, p.bytes, p.records⟩, held := false }

end FlowControl

end BatchSync
