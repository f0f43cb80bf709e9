import BatchSync.Failure.Basic
import BatchSync.Json.Reader

/-!
# Reports of failures

The form in which a failure is reported: its wording, its code and its details. A report is read back
from JSON as an object or as an array of the three; unknown members are passed over, known ones may
be given once.
-/

namespace BatchSync

/-- A reported failure. -/
structure FailureReport where
  message : String
  code : String
  details : Json

namespace FailureReport

/-- The report of a failure. -/
def ofFailure (f : Failure) : FailureReport := ⟨f.message, f.code, f.details⟩

/-- A report in a document. -/
def toJson (r : FailureReport) : Json :=
  .object [("message", .string r.message), ("error_code", .string r.code), ("details", r.details)]

/-- How deep details may be nested. -/
def detailsDepth : Nat := 126

/-- A report of its parts. -/
def ofParts? (message code details : Json) : Option FailureReport := do
  let message ← message.string?
  let code ← code.string?
  if details.isWithin detailsDepth then some ⟨message, code, details.sorted⟩ else none

/-- The only member of an object with a key. -/
def onlyMember? (members : List (String × Json)) (key : String) : Option Json :=
  match members.filter (·.1 == key) with
  | [(_, v)] => some v
  | _ => none

/-- Reads a report from a JSON value. -/
def ofJson? : Json → Option FailureReport
  | .object members => do
    ofParts? (← onlyMember? members "message") (← onlyMember? members "error_code")
      (← onlyMember? members "details")
  | .array [message, code, details] => ofParts? message code details
  | _ => none

/-- The keys of a report's members. -/
def keys : List String := ["message", "error_code", "details"]

/-- Reads a report from a text. Of members that it does not have, only the form matters. -/
def ofText? (s : String) : Option FailureReport := (Json.ofTextBy? (.members keys) s).bind ofJson?

end FailureReport

end BatchSync
