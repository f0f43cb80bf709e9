/-!
# Kinds of failures

The closed list of what can go wrong. Whether a failure is tried again is decided by its kind alone.
-/

namespace BatchSync

/-- The kinds of failures, in their order. -/
inductive FailureKind where
  /-- A column value cannot be represented as the requested type. -/
  | conversionUnsupported
  /-- The channel is closed. -/
  | channelClosed
  /-- A task made no progress for too long. -/
  | taskHungExpired
  /-- An attempt did not end in time. -/
  | attemptTimeout
  /-- No thread was free to run an attempt. -/
  | attemptRejected
  /-- An attempt ended without a result. -/
  | attemptAbandoned
  /-- A call had arguments that can never succeed. -/
  | invalidArgument
  /-- The configuration is invalid. -/
  | config
  /-- There were more dirty records than allowed. -/
  | errorLimitExceeded
  /-- A reader or writer plugin failed. -/
  | plugin
  deriving DecidableEq

namespace FailureKind

/-- All kinds, in their order. -/
def all : List FailureKind :=
  [.conversionUnsupported, .channelClosed, .taskHungExpired, .attemptTimeout, .attemptRejected,
    .attemptAbandoned, .invalidArgument, .config, .errorLimitExceeded, .plugin]

/-- The name of a kind. -/
def name : FailureKind → String
  | .conversionUnsupported => "ConversionUnsupported"
  | .channelClosed => "ChannelClosed"
  | .taskHungExpired => "TaskHungExpired"
  | .attemptTimeout => "AttemptTimeout"
  | .attemptRejected => "AttemptRejected"
  | .attemptAbandoned => "AttemptAbandoned"
  | .invalidArgument => "InvalidArgument"
  | .config => "Config"
  | .errorLimitExceeded => "ErrorLimitExceeded"
  | .plugin => "Plugin"

/-- The kind of a name. -/
def ofName? (name : String) : Option FailureKind := all.find? fun k => k.name == name

/-- The place of a kind in their order. -/
def place (k : FailureKind) : Nat := all.findIdx (· == k)

theorem mem_all (k : FailureKind) : k ∈ all := by cases k <;> decide

/-- Every kind is found by its name. -/
@[simp] theorem ofName?_name (k : FailureKind) : ofName? k.name = some k := by
  cases k <;> decide

end FailureKind

end BatchSync
