import BatchSync.Config.Basic
import BatchSync.Config.Error
import BatchSync.Number.Word
import BatchSync.Text.Utf8
import BatchSync.Yaml.Node

/-!
# Configuration documents

Settings are read from YAML documents, of which JSON documents are some. Every section and every
setting may be left out and then has its default; keys without a meaning are passed over, and a key
with one may be given once. Numbers are plain scalars in decimal, hexadecimal, octal or binary
notation, without leading zeros in decimal.
-/

namespace BatchSync

open Yaml Text

/-! ## Scalars -/

/-- Whether a scalar may be a number: it is plain, or a literal block with the tag of the number's
kind. -/
def mayBeNumber (kind : String) (style : ScalarStyle) (tag : Option Tag) : Bool :=
  match style with
  | .plain => true
  | .literal => tag == some (Tag.ofKind kind)
  | _ => false

/-- The value of a digit in a base of at most sixteen. -/
def digitIn? (base : Nat) (c : Char) : Option Nat :=
  (Json.hexValue? c).bind fun d => if d < base then some d else none

/-- The number that digits denote in a base. -/
def readInBase? (base : Nat) (cs : List Char) : Option Nat :=
  if cs = [] then none
  else cs.foldlM (fun n c => (digitIn? base c).map (base * n + ·)) 0

/-- Whether a text is zeros and digits that would be a number but for the zero before them. -/
def hasLeadingZero (cs : List Char) : Bool :=
  let ds := match cs with
    | '-' :: rest => rest
    | '+' :: rest => rest
    | _ => cs
  ds.head? == some '0' && ds.length != 1 && ds.all isDigit

/-- Reads digits that a mark may put in another base than ten. -/
def readMarked? (cs : List Char) : Option Nat :=
  match cs with
  | '0' :: 'x' :: ds => readInBase? 16 ds
  | '0' :: 'o' :: ds => readInBase? 8 ds
  | '0' :: 'b' :: ds => readInBase? 2 ds
  | _ => if hasLeadingZero cs then none else readInBase? 10 cs

/-- Reads a number that is not negative, with a plus sign or none. -/
def readWord? (limit : Nat) (cs : List Char) : Option Nat :=
  let rest := match cs with
    | '+' :: rest => rest
    | _ => cs
  (readMarked? rest).bind fun n => if n < limit then some n else none

/-- Reads a number of 64 bits with a sign or none. -/
def readSigned? (cs : List Char) : Option Int :=
  match cs with
  | '-' :: rest =>
    (readMarked? rest).bind fun n => if n ≤ signedWordLimit then some (-(n : Int)) else none
  | _ => (readWord? signedWordLimit cs).map Int.ofNat

/-- Reads a binary64 number. Infinities and NaN have names that begin with a point, and a numeral may
not be out of range. -/
def readReal? (cs : List Char) : Option Binary64 :=
  let text := String.ofList cs
  let rest := match cs with
    | '+' :: rest => rest
    | _ => cs
  let unsigned := String.ofList rest
  if unsigned ∈ [".inf", ".Inf", ".INF"] then some (Binary64.infinity false)
  else if text ∈ ["-.inf", "-.Inf", "-.INF"] then some (Binary64.infinity true)
  else if text ∈ [".nan", ".NaN", ".NAN"] then some Binary64.nan
  else if rest.length ≠ cs.length ∧ (rest.head? = some '+' ∨ rest.head? = some '-') then none
  else (readBinary64? rest).bind fun x => if x.isFinite then some x else none

/-- Whether a text is the absent value. -/
def isNullText (text : String) : Bool := text ∈ ["null", "Null", "NULL", "~"]

/-! ## Sections -/

namespace Yaml.Document

/-- The text of a scalar. -/
def text? (d : Document) (n : Node) : Option String :=
  match d.resolve n with
  | .scalar _ _ text => some text
  | _ => none

/-- The entries of a section, by their keys. A section that is left blank has none. -/
def section? (d : Document) (n : Node) : Option (List (String × Node)) :=
  match d.resolve n with
  | .mapping entries => entries.mapM fun (k, v) => (d.text? k).map (·, v)
  | .scalar .plain _ "" => some []
  | _ => none

/-- The value of a number that is not negative. -/
def word? (d : Document) (limit : Nat) (n : Node) : Option Nat :=
  match d.resolve n with
  | .scalar style tag text => if mayBeNumber "int" style tag then readWord? limit text.toList else none
  | _ => none

/-- The value of a number with a sign. -/
def signed? (d : Document) (n : Node) : Option Int :=
  match d.resolve n with
  | .scalar style tag text => if mayBeNumber "int" style tag then readSigned? text.toList else none
  | _ => none

/-- The value of a binary64 number. -/
def real? (d : Document) (n : Node) : Option Binary64 :=
  match d.resolve n with
  | .scalar style tag text => if mayBeNumber "float" style tag then readReal? text.toList else none
  | _ => none

/-- A value that may be absent: blank, or the absent value in plain. A tag says that the value is
there, unless it is the absent value's own. -/
def optional? {α : Type} (d : Document) (read? : Node → Option α) (n : Node) : Option (Option α) :=
  match d.resolve n with
  | .scalar .plain none text =>
    if text = "" ∨ isNullText text then some none else (read? n).map some
  | .scalar .plain (some tag) text =>
    if tag = Tag.ofKind "null" then if isNullText text then some none else none
    else (read? n).map some
  | _ => (read? n).map some

end Yaml.Document

/-- The setting of a key, or its default. A key may be given once. -/
def setting {α : Type} (entries : List (String × Node)) (key : String) (default : α)
    (read? : Node → Option α) : Option α :=
  match entries.filter (·.1 == key) with
  | [] => some default
  | [(_, n)] => read? n
  | _ => none

/-- Reads the ceilings of a channel's throughput. -/
def SpeedConfig.ofNode? (d : Document) (n : Node) : Option SpeedConfig := do
  let es ← d.section? n
  let byte ← setting es "byte" none (d.optional? d.signed?)
  let record ← setting es "record" none (d.optional? d.signed?)
  return ⟨byte, record⟩

/-- Reads the settings of a channel. -/
def ChannelConfig.ofNode? (d : Document) (n : Node) : Option ChannelConfig := do
  let es ← d.section? n
  let base : ChannelConfig := {}
  let capacity ← setting es "capacity" base.capacity (d.word? wordLimit)
  let byteCapacity ← setting es "byteCapacity" base.byteCapacity (d.word? wordLimit)
  let speed ← setting es "speed" base.speed (SpeedConfig.ofNode? d)
  let interval ← setting es "flowControlInterval" base.flowControlInterval (d.word? wordLimit)
  return ⟨capacity, byteCapacity, speed, interval⟩

/-- Reads the settings of the exchangers. -/
def ExchangerConfig.ofNode? (d : Document) (n : Node) : Option ExchangerConfig := do
  let es ← d.section? n
  let base : ExchangerConfig := {}
  return ⟨← setting es "bufferSize" base.bufferSize (d.word? wordLimit)⟩

/-- Reads how records are moved. -/
def TransportConfig.ofNode? (d : Document) (n : Node) : Option TransportConfig := do
  let es ← d.section? n
  let channel ← setting es "channel" {} (ChannelConfig.ofNode? d)
  let exchanger ← setting es "exchanger" {} (ExchangerConfig.ofNode? d)
  return ⟨channel, exchanger⟩

/-- Reads how a group is run. -/
def TaskGroupConfig.ofNode? (d : Document) (n : Node) : Option TaskGroupConfig := do
  let es ← d.section? n
  let base : TaskGroupConfig := {}
  let channel ← setting es "channel" base.channel (d.word? wordLimit)
  let report ← setting es "reportInterval" base.reportInterval (d.word? wordLimit)
  let sleep ← setting es "sleepInterval" base.sleepInterval (d.word? wordLimit)
  return ⟨channel, report, sleep⟩

/-- Reads what happens to tasks that fail. -/
def FailoverConfig.ofNode? (d : Document) (n : Node) : Option FailoverConfig := do
  let es ← d.section? n
  let base : FailoverConfig := {}
  let times ← setting es "maxRetryTimes" base.maxRetryTimes (d.word? halfWordLimit)
  let interval ← setting es "retryIntervalInMsec" base.retryInterval (d.word? wordLimit)
  let wait ← setting es "maxWaitInMsec" base.maxWait (d.word? wordLimit)
  return ⟨times, interval, wait⟩

/-- Reads how a task is run. -/
def TaskConfig.ofNode? (d : Document) (n : Node) : Option TaskConfig := do
  let es ← d.section? n
  let base : TaskConfig := {}
  let failover ← setting es "failOver" base.failover (FailoverConfig.ofNode? d)
  let hangTimeout ← setting es "hangTimeoutMs" base.hangTimeout (d.word? wordLimit)
  return ⟨failover, hangTimeout⟩

/-- Reads how tasks are run. -/
def ContainerConfig.ofNode? (d : Document) (n : Node) : Option ContainerConfig := do
  let es ← d.section? n
  let taskGroup ← setting es "taskGroup" {} (TaskGroupConfig.ofNode? d)
  let task ← setting es "task" {} (TaskConfig.ofNode? d)
  return ⟨taskGroup, task⟩

/-- Reads what is kept for reports. -/
def StatisticsConfig.ofNode? (d : Document) (n : Node) : Option StatisticsConfig := do
  let es ← d.section? n
  let base : StatisticsConfig := {}
  return ⟨← setting es "maxDirtyNumber" base.maxDirtyNumber (d.word? wordLimit)⟩

/-- Reads a limit on dirty records. -/
def ErrorLimitConfig.ofNode? (d : Document) (n : Node) : Option ErrorLimitConfig := do
  let es ← d.section? n
  let record ← setting es "record" none (d.optional? (d.word? wordLimit))
  let percentage ← setting es "percentage" none (d.optional? d.real?)
  return ⟨record, percentage⟩

/-- Reads what concerns the whole job. -/
def JobConfig.ofNode? (d : Document) (n : Node) : Option JobConfig := do
  let es ← d.section? n
  return ⟨← setting es "errorLimit" none (d.optional? (ErrorLimitConfig.ofNode? d))⟩

/-- Reads all settings. -/
def CoreConfig.ofNode? (d : Document) (n : Node) : Option CoreConfig := do
  let es ← d.section? n
  let transport ← setting es "transport" {} (TransportConfig.ofNode? d)
  let container ← setting es "container" {} (ContainerConfig.ofNode? d)
  let statistics ← setting es "statistics" {} (StatisticsConfig.ofNode? d)
  let job ← setting es "job" {} (JobConfig.ofNode? d)
  return ⟨transport, container, statistics, job⟩

/-- Reads the settings of a document, which are all at their defaults if there is no document. -/
def CoreConfig.ofDocument? : Option Document → Option CoreConfig
  | none => some {}
  | some d => CoreConfig.ofNode? d d.root

/-- Reads settings from a text. -/
def CoreConfig.ofText (text : String) : Except ConfigError CoreConfig :=
  match (Document.ofText? text).bind CoreConfig.ofDocument? with
  | some c => .ok c
  | none => .error (.parse "no document of settings")

/-! ## Writing -/

/-- The ceilings of a channel's throughput in a document. -/
def SpeedConfig.toJson (c : SpeedConfig) : Json :=
  .object [("byte", .option .int c.byte), ("record", .option .int c.record)]

/-- The settings of a channel in a document. -/
def ChannelConfig.toJson (c : ChannelConfig) : Json :=
  .object [("capacity", .nat c.capacity), ("byteCapacity", .nat c.byteCapacity),
    ("speed", c.speed.toJson), ("flowControlInterval", .nat c.flowControlInterval)]

/-- How a group is run, in a document. -/
def TaskGroupConfig.toJson (c : TaskGroupConfig) : Json :=
  .object [("channel", .nat c.channel), ("reportInterval", .nat c.reportInterval),
    ("sleepInterval", .nat c.sleepInterval)]

/-- What happens to tasks that fail, in a document. -/
def FailoverConfig.toJson (c : FailoverConfig) : Json :=
  .object [("maxRetryTimes", .nat c.maxRetryTimes), ("retryIntervalInMsec", .nat c.retryInterval),
    ("maxWaitInMsec", .nat c.maxWait)]

/-- How a task is run, in a document. -/
def TaskConfig.toJson (c : TaskConfig) : Json :=
  .object [("failOver", c.failover.toJson), ("hangTimeoutMs", .nat c.hangTimeout)]

/-- All settings in a document, with the given way to write fractions. -/
def CoreConfig.toJsonWith (fraction : Binary64 → Json) (c : CoreConfig) : Json :=
  .object [
    ("transport", .object [("channel", c.transport.channel.toJson),
      ("exchanger", .object [("bufferSize", .nat c.transport.exchanger.bufferSize)])]),
    ("container", .object [("taskGroup", c.container.taskGroup.toJson),
      ("task", c.container.task.toJson)]),
    ("statistics", .object [("maxDirtyNumber", .nat c.statistics.maxDirtyNumber)]),
    ("job", .object [("errorLimit", .option (fun limit => .object [
      ("record", .option .nat limit.record), ("percentage", .option fraction limit.percentage)])
      c.job.errorLimit)])]

/-- All settings in a document. -/
def CoreConfig.toJson (c : CoreConfig) : Json := c.toJsonWith .finite

/-! ## Settings given as JSON values -/

namespace Json

mutual

/-- A JSON value as a node: strings are quoted and all else is plain. -/
def toNode : Json → Node
  | .array items => .sequence (toNodes items)
  | .object members => .mapping (toEntries members)
  | .string s => .scalar .doubleQuoted none s
  | v => .scalar .plain none v.render

/-- The items of an array as nodes. -/
def toNodes : List Json → List Node
  | [] => []
  | v :: rest => toNode v :: toNodes rest

/-- The members of an object as entries. -/
def toEntries : List (String × Json) → List (Node × Node)
  | [] => []
  | (key, v) :: rest => (.scalar .doubleQuoted none key, toNode v) :: toEntries rest

end

/-- A JSON value as a document without anchors. -/
def toDocument (v : Json) : Document := ⟨v.toNode, []⟩

end Json

end BatchSync
