import BatchSync.Number.Shortest
import BatchSync.Number.Word
import BatchSync.Status.Basic

/-!
# Totals, speeds and the progress line

What is read off a status: how much was read, written and found dirty, how fast that went since an
earlier report, and the line in which progress is logged. Totals are words as the counters are, and wrap.
-/

namespace BatchSync

/-- The longest time between two reports that can be told, in milliseconds. -/
def longestInterval : Int := signedWordLimit - 1

namespace TaskStatus

/-! ## Totals -/

/-- Two counters together, as a word. -/
def total (s : TaskStatus) (c d : Counter) : Nat := (s.counters.get c + s.counters.get d).toNat

theorem total_eq_mod (s : TaskStatus) (c d : Counter) :
    s.total c d = (s.count c + s.count d) % wordLimit :=
  toNat_add_eq_mod _ _

/-- Records read, dirty ones included. -/
def recordsRead (s : TaskStatus) : Nat := s.total .readSucceedRecords .readFailedRecords

/-- Bytes read, dirty ones included. -/
def bytesRead (s : TaskStatus) : Nat := s.total .readSucceedBytes .readFailedBytes

/-- Dirty records of both sides. -/
def recordsDirty (s : TaskStatus) : Nat := s.total .readFailedRecords .writeFailedRecords

/-- Dirty bytes of both sides. -/
def bytesDirty (s : TaskStatus) : Nat := s.total .readFailedBytes .writeFailedBytes

/-- Records written: those that the writer received, without its dirty ones. -/
def recordsWritten (s : TaskStatus) : Nat :=
  s.count .writeReceivedRecords - s.count .writeFailedRecords

/-- Bytes written: those that the writer received, without its dirty ones. -/
def bytesWritten (s : TaskStatus) : Nat := s.count .writeReceivedBytes - s.count .writeFailedBytes

/-! ## Speeds -/

/-- Whole seconds from one time to another, at least one. -/
def secondsBetween (earlier later : Int) : Nat :=
  let interval := min (later - earlier) longestInterval
  if interval ≤ 1000 then 1 else interval.toNat / 1000

/-- A status with its speeds since an earlier one. -/
def reportSince (s earlier : TaskStatus) : TaskStatus :=
  let seconds := secondsBetween earlier.timestamp s.timestamp
  (s.put .byteSpeed ((s.bytesRead - earlier.bytesRead) / seconds)).put .recordSpeed
    ((s.recordsRead - earlier.recordsRead) / seconds)

/-! ## The progress line -/

/-- Nanoseconds in seconds, as a double: the whole seconds and the rest of them, each rounded. -/
def secondsOf (nanos : Nat) : Binary64 :=
  (Binary64.ofNat (nanos / 1000000000)).add
    ((Binary64.ofNat (nanos % 1000000000)).div (Binary64.ofNat 1000000000))

/-- Nanoseconds as seconds with three decimals. -/
def secondsText (nanos : Nat) : String := (secondsOf nanos).fixedText 3

/-- The line in which progress is logged. -/
def progressLine (s : TaskStatus) : String :=
  s!"Total {s.recordsRead} records, {s.bytesRead} bytes" ++
    s!" | Speed {s.count .byteSpeed}B/s, {s.count .recordSpeed} records/s" ++
    s!" | Error {s.recordsDirty} records, {s.bytesDirty} bytes" ++
    " | All Task WaitWriterTime " ++ secondsText (s.count .waitWriterTime) ++ "s" ++
    " | All Task WaitReaderTime " ++ secondsText (s.count .waitReaderTime) ++ "s"

end TaskStatus

end BatchSync
