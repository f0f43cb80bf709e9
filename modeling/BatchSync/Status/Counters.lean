/-!
# Counters

What is counted of a task: records and bytes by side and outcome, nanoseconds waited, and speeds.
Counters are words of 64 bits; adding to one wraps.
-/

namespace BatchSync

/-- The counters of a task. -/
inductive Counter where
  /-- Records that the reader sent through the channel. -/
  | readSucceedRecords
  | readSucceedBytes
  /-- Records that the reader reported as dirty. -/
  | readFailedRecords
  | readFailedBytes
  /-- Records that the writer took from the channel. -/
  | writeReceivedRecords
  | writeReceivedBytes
  /-- Records that the writer reported as dirty. -/
  | writeFailedRecords
  | writeFailedBytes
  /-- Nanoseconds that the writer waited on an empty channel. -/
  | waitReaderTime
  /-- Nanoseconds that the reader waited on a full channel. -/
  | waitWriterTime
  /-- Bytes per second, set by reports. -/
  | byteSpeed
  /-- Records per second, set by reports. -/
  | recordSpeed
  deriving DecidableEq

namespace Counter

/-- All counters, in their order. -/
def all : List Counter :=
  [.readSucceedRecords, .readSucceedBytes, .readFailedRecords, .readFailedBytes,
    .writeReceivedRecords, .writeReceivedBytes, .writeFailedRecords, .writeFailedBytes,
    .waitReaderTime, .waitWriterTime, .byteSpeed, .recordSpeed]

/-- The name of a counter. -/
def name : Counter → String
  | .readSucceedRecords => "readSucceedRecords"
  | .readSucceedBytes => "readSucceedBytes"
  | .readFailedRecords => "readFailedRecords"
  | .readFailedBytes => "readFailedBytes"
  | .writeReceivedRecords => "writeReceivedRecords"
  | .writeReceivedBytes => "writeReceivedBytes"
  | .writeFailedRecords => "writeFailedRecords"
  | .writeFailedBytes => "writeFailedBytes"
  | .waitReaderTime => "waitReaderTime"
  | .waitWriterTime => "waitWriterTime"
  | .byteSpeed => "byteSpeed"
  | .recordSpeed => "recordSpeed"

/-- The counter of a name. -/
def ofName? (name : String) : Option Counter := all.find? fun c => c.name == name

/-- The place of a counter in their order. -/
def place : Counter → Fin 12
  | .readSucceedRecords => 0
  | .readSucceedBytes => 1
  | .readFailedRecords => 2
  | .readFailedBytes => 3
  | .writeReceivedRecords => 4
  | .writeReceivedBytes => 5
  | .writeFailedRecords => 6
  | .writeFailedBytes => 7
  | .waitReaderTime => 8
  | .waitWriterTime => 9
  | .byteSpeed => 10
  | .recordSpeed => 11

theorem mem_all (c : Counter) : c ∈ all := by cases c <;> decide

/-- Every counter is found by its name. -/
@[simp] theorem ofName?_name (c : Counter) : ofName? c.name = some c := by
  cases c <;> decide

theorem place_injective {c d : Counter} (h : c.place = d.place) : c = d := by
  cases c <;> cases d <;> simp_all [place]

theorem eq_of_place {c d : Counter} (h : c.place.val = d.place.val) : c = d :=
  place_injective (Fin.ext h)

end Counter

/-- The values of all counters. -/
structure Counters where
  words : Vector UInt64 12

namespace Counters

/-- Nothing is counted yet. -/
def zero : Counters := ⟨Vector.replicate 12 0⟩

/-- The value of a counter. -/
def get (s : Counters) (c : Counter) : UInt64 := s.words[c.place]

/-- Sets a counter. -/
def set (s : Counters) (c : Counter) (value : UInt64) : Counters := ⟨s.words.set c.place value⟩

/-- Adds to a counter. -/
def add (s : Counters) (c : Counter) (amount : Nat) : Counters :=
  s.set c (s.get c + UInt64.ofNat amount)

/-- Adds every counter of one to that of the other. -/
def plus (s t : Counters) : Counters := ⟨Vector.zipWith (· + ·) s.words t.words⟩

/-- The values with their counters, in the order of the counters. -/
def toList (s : Counters) : List (Counter × UInt64) := Counter.all.map fun c => (c, s.get c)

@[simp] theorem get_zero (c : Counter) : zero.get c = 0 := by simp [get, zero]

@[simp] theorem get_set_self (s : Counters) (c : Counter) (v : UInt64) : (s.set c v).get c = v := by
  simp [get, set]

theorem get_set_of_ne (s : Counters) {c d : Counter} (v : UInt64) (h : d ≠ c) :
    (s.set c v).get d = s.get d := by
  have : c.place.val ≠ d.place.val := fun e => h (Counter.eq_of_place e).symm
  simp [get, set, this]

@[simp] theorem get_add_self (s : Counters) (c : Counter) (n : Nat) :
    (s.add c n).get c = s.get c + UInt64.ofNat n := by simp [add]

theorem get_add_of_ne (s : Counters) {c d : Counter} (n : Nat) (h : d ≠ c) :
    (s.add c n).get d = s.get d := s.get_set_of_ne _ h

@[simp] theorem get_plus (s t : Counters) (c : Counter) : (s.plus t).get c = s.get c + t.get c := by
  simp [get, plus]

end Counters

end BatchSync
