import BatchSync.Config.Basic
import BatchSync.Failure.Basic
import BatchSync.Record

/-!
# Channels

A channel is the queue between the reader and the writer of a task, bounded by a number of records and
by their total size. An operation that has to wait has no outcome yet (`none`): it is tried again when
the channel has changed.

A batch has to wait while it does not fit next to what is queued; an empty channel takes any batch
(`holdsBack`). Taking has to wait while the channel is empty and open (`isDry`). A closed channel takes
nothing any more, and what is queued can still be taken.
-/

namespace BatchSync

/-- The total size of records. -/
def totalSize : List Record → Nat
  | [] => 0
  | r :: batch => r.byteSize + totalSize batch

/-- A bounded queue of records. -/
structure Channel where
  /-- How many records may be queued. -/
  capacity : Nat
  /-- How many bytes may be queued. -/
  byteCapacity : Nat
  queue : List Record
  /-- The total size of what is queued. -/
  bytes : Nat
  closed : Bool

namespace Channel

/-- An open and empty channel. -/
def ofConfig (c : ChannelConfig) : Channel := ⟨c.capacity, c.byteCapacity, [], 0, false⟩

/-- How many records are queued. -/
def size (c : Channel) : Nat := c.queue.length

/-- Whether nothing is queued. -/
def isEmpty (c : Channel) : Bool := c.queue.isEmpty

/-- Whether one of the bounds is reached. -/
def isFull (c : Channel) : Bool := c.capacity ≤ c.size || c.byteCapacity ≤ c.bytes

/-- Closes a channel. -/
def close (c : Channel) : Channel := { c with closed := true }

/-! ## Putting records in -/

/-- Whether a batch exceeds a bound next to what is queued. -/
def exceeds (c : Channel) (batch : List Record) : Bool :=
  c.capacity < c.size + batch.length || c.byteCapacity < c.bytes + totalSize batch

/-- Whether a batch has to wait. -/
def holdsBack (c : Channel) (batch : List Record) : Bool :=
  !c.closed && !c.isEmpty && c.exceeds batch

/-- A channel with a batch behind what is queued. -/
def insert (c : Channel) (batch : List Record) : Channel :=
  { c with queue := c.queue ++ batch, bytes := c.bytes + totalSize batch }

/-- Puts a batch in as a whole. It fails on a closed channel. -/
def push (c : Channel) (batch : List Record) : Option (Except Failure Channel) :=
  if c.holdsBack batch then none
  else if c.closed then some (.error .channelClosed)
  else some (.ok (c.insert batch))

/-- Puts a record in. -/
def put (c : Channel) (r : Record) : Option (Except Failure Channel) := c.push [r]

/-- Puts a batch in. An empty one never waits, and fails only on a closed channel. -/
def putAll (c : Channel) (batch : List Record) : Option (Except Failure Channel) :=
  if batch.isEmpty then some (if c.closed then .error .channelClosed else .ok c)
  else c.push batch

/-! ## Taking records out -/

/-- Whether taking has to wait. -/
def isDry (c : Channel) : Bool := c.isEmpty && !c.closed

/-- Takes the oldest record. There is none in a closed channel that is drained. -/
def take (c : Channel) : Option (Option Record × Channel) :=
  if c.isDry then none
  else
    match c.queue with
    | [] => some (none, c)
    | r :: rest => some (some r, { c with queue := rest, bytes := c.bytes - r.byteSize })

/-- How many records are taken where some number of them may be: at least one may. -/
def takeCount (c : Channel) (most : Nat) : Nat := min c.size (max most 1)

/-- Takes the oldest records, up to a number of them. There are none in a closed channel that is
drained. -/
def takeAll (c : Channel) (most : Nat) : Option (List Record × Channel) :=
  if c.isDry then none
  else
    let batch := c.queue.take (c.takeCount most)
    some (batch, { c with
      queue := c.queue.drop (c.takeCount most), bytes := c.bytes - totalSize batch })

/-! ## Small facts -/

@[simp] theorem totalSize_nil : totalSize [] = 0 := rfl

@[simp] theorem totalSize_cons (r : Record) (batch : List Record) :
    totalSize (r :: batch) = r.byteSize + totalSize batch := rfl

@[simp] theorem totalSize_append (a b : List Record) :
    totalSize (a ++ b) = totalSize a + totalSize b := by
  induction a with
  | nil => simp
  | cons r a ih => simp [ih, Nat.add_assoc]

@[simp] theorem holdsBack_of_closed {c : Channel} (h : c.closed = true) (batch : List Record) :
    c.holdsBack batch = false := by simp [holdsBack, h]

end Channel

end BatchSync
