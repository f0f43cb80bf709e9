import BatchSync.Config.Basic
import BatchSync.Number.Shortest
import BatchSync.Status.Progress

/-!
# The limit on dirty records

A job may limit its dirty records by their number and by their share of the records read. A limit that
is not set admits anything, and without records there is no share.
-/

namespace BatchSync

/-- The limits on dirty records, each of which may be missing. -/
structure ErrorLimit where
  record : Option Nat
  percentage : Option Binary64

namespace ErrorLimit

/-- No limit at all. -/
def none : ErrorLimit := ⟨Option.none, Option.none⟩

/-- The limits of a configuration. -/
def ofConfig (c : Option ErrorLimitConfig) : ErrorLimit :=
  match c with
  | some c => ⟨c.record, c.percentage⟩
  | Option.none => none

/-- A hundred times a number, with two decimals. -/
def percentText (x : Binary64) : String := (x.mul (Binary64.ofNat 100)).fixedText 2

/-- How the number of dirty records exceeds the limit, if it does. -/
def excessOfRecords? (l : ErrorLimit) (s : TaskStatus) : Option String := do
  let limit ← l.record
  if limit < s.recordsDirty then
    some s!"limit is {limit} records, but {s.recordsDirty} dirty records were collected"
  else Option.none

/-- How the share of dirty records exceeds the limit, if it does. -/
def excessOfShare? (l : ErrorLimit) (s : TaskStatus) : Option String := do
  let limit ← l.percentage
  if s.recordsRead = 0 then Option.none
  else
    let share := (Binary64.ofNat s.recordsDirty).div (Binary64.ofNat s.recordsRead)
    if limit.lt share then
      some ("limit is " ++ percentText limit ++ "% of records, but " ++ percentText share ++
        "% of records were dirty")
    else Option.none

/-- How a status exceeds the limits, if it does. -/
def excess? (l : ErrorLimit) (s : TaskStatus) : Option String :=
  (l.excessOfRecords? s).or (l.excessOfShare? s)

/-- Refuses a status that exceeds the limits. -/
def check (l : ErrorLimit) (s : TaskStatus) : Except Failure Unit :=
  match l.excess? s with
  | some reason => .error (.errorLimitExceeded s.recordsDirty s.recordsRead reason)
  | Option.none => .ok ()

end ErrorLimit

end BatchSync
