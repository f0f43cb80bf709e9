import BatchSync.Column.Conversion
import BatchSync.Config.Error
import BatchSync.Failure.Kind

/-!
# Failures

Everything that can go wrong while records are moved, with its wording, its code, its fields in a
document, the chain of its causes and its kind.

A plugin fails with an error of its own: a root, which may be a failure or an error known to the
engine, or foreign and caused by one of these, under any number of contexts. `Failure.ofPlugin` takes
a failure that only passed through a plugin for what it is; every other plugin error keeps its text,
and has the kind of the first error in its chain that has one.
-/

namespace BatchSync

mutual

/-- What went wrong. -/
inductive Failure where
  /-- The configuration is invalid. -/
  | config (e : ConfigError)
  /-- A column value cannot be represented as the requested type. -/
  | conversion (e : ConversionError)
  /-- The channel is closed. -/
  | channelClosed
  /-- A task read nothing for too long. -/
  | taskHung (task totalRead : Nat) (elapsed : Int)
  /-- An attempt did not end in time. -/
  | attemptTimeout (millis : Nat)
  /-- No thread was free to run an attempt. -/
  | attemptRejected (maxThreads : Nat)
  /-- An attempt ended without a result. -/
  | attemptAbandoned
  /-- A call had arguments that can never succeed. -/
  | invalidArgument (reason : String)
  /-- There were more dirty records than allowed. -/
  | errorLimitExceeded (errors total : Nat) (reason : String)
  /-- A reader or writer plugin failed. -/
  | plugin (e : PluginError)
  /-- A task failed for good. -/
  | taskFailed (task : Nat) (cause : Failure)

/-- An error of a plugin. The contexts are listed from the outermost in. -/
inductive PluginError where
  /-- A message alone. -/
  | message (text : String) (contexts : List String)
  /-- An error that the engine knows. -/
  | known (e : KnownError) (contexts : List String)
  /-- An error of the plugin's own that was caused by one that the engine knows. -/
  | causedBy (text : String) (e : KnownError) (contexts : List String)

/-- An error that the engine knows when it meets it in a plugin's error. -/
inductive KnownError where
  | failure (f : Failure)
  | conversion (e : ConversionError)
  | config (e : ConfigError)

end

instance : Inhabited Failure := ⟨.channelClosed⟩

/-! ## Plugin errors that are failures -/

/-- The failure that a plugin's error stands for. -/
def Failure.ofPlugin : PluginError → Failure
  | .known (.failure f) _ => f
  | e => .plugin e

/-- A plugin's error under one more context. -/
def PluginError.inContext (context : String) : PluginError → PluginError
  | .message text contexts => .message text (context :: contexts)
  | .known e contexts => .known e (context :: contexts)
  | .causedBy text e contexts => .causedBy text e (context :: contexts)

/-! ## Wording -/

/-- The parts of a text, one after the other. -/
def joinParts (parts : List String) : String := ": ".intercalate parts

mutual

/-- The wording of a failure. -/
def Failure.message : Failure → String
  | .config e => e.message
  | .conversion e => e.message
  | .channelClosed => "Channel is closed"
  | .taskHung task totalRead elapsed =>
    s!"Task {task} hung expired: no records read for {elapsed} ms (total read records: {totalRead})"
  | .attemptTimeout millis => s!"Attempt did not complete within {millis} ms"
  | .attemptRejected maxThreads =>
    s!"Attempt rejected: all {maxThreads} threads of the retry pool are busy"
  | .attemptAbandoned => "Attempt terminated without producing a result"
  | .invalidArgument reason => s!"Invalid argument: {reason}"
  | .errorLimitExceeded _ _ reason => s!"Dirty record limit exceeded: {reason}"
  | .plugin e => "Plugin error: " ++ e.text
  | .taskFailed task cause => s!"Task {task} failed: " ++ cause.message

/-- The text of a plugin's error: the contexts from the outermost in, the root, and its causes. -/
def PluginError.text : PluginError → String
  | .message text contexts => joinParts (contexts ++ [text])
  | .known e contexts => joinParts (contexts ++ e.chain)
  | .causedBy text e contexts => joinParts (contexts ++ text :: e.chain)

/-- The wording of a known error and of its causes. -/
def KnownError.chain : KnownError → List String
  | .failure f => f.message :: f.causes
  | .conversion e => [e.message]
  | .config e => [e.message]

/-- The wording of what caused a failure, of what caused that, and so on. -/
def Failure.causes : Failure → List String
  | .config e => [e.message]
  | .conversion e => [e.message]
  | .taskFailed _ cause => cause.message :: cause.causes
  | _ => []

end

/-! ## Kinds -/

mutual

/-- The kind of a failure. A task that failed for good failed in the way of its cause. -/
def Failure.kind : Failure → FailureKind
  | .config _ => .config
  | .conversion _ => .conversionUnsupported
  | .channelClosed => .channelClosed
  | .taskHung _ _ _ => .taskHungExpired
  | .attemptTimeout _ => .attemptTimeout
  | .attemptRejected _ => .attemptRejected
  | .attemptAbandoned => .attemptAbandoned
  | .invalidArgument _ => .invalidArgument
  | .errorLimitExceeded _ _ _ => .errorLimitExceeded
  | .plugin e => e.kind
  | .taskFailed _ cause => cause.kind

/-- The kind of a plugin's error: that of the first known error in its chain. -/
def PluginError.kind : PluginError → FailureKind
  | .message _ _ => .plugin
  | .known e _ => e.kind
  | .causedBy _ e _ => e.kind

/-- The kind of a known error. -/
def KnownError.kind : KnownError → FailureKind
  | .failure f => f.kind
  | .conversion _ => .conversionUnsupported
  | .config _ => .config

end

/-! ## Documents -/

namespace Failure

/-- The code of a failure. -/
def code : Failure → String
  | .config e => e.code
  | .conversion _ => "ConversionUnsupported"
  | .channelClosed => "ChannelClosed"
  | .taskHung _ _ _ => "TaskHungExpired"
  | .attemptTimeout _ => "AttemptTimeout"
  | .attemptRejected _ => "AttemptRejected"
  | .attemptAbandoned => "AttemptAbandoned"
  | .invalidArgument _ => "InvalidArgument"
  | .errorLimitExceeded _ _ _ => "ErrorLimitExceeded"
  | .plugin _ => "PluginError"
  | .taskFailed _ _ => "TaskFailed"

/-- The fields of a failure in a document. -/
def details : Failure → Json
  | .config e => .object [("config_error", e.toJson)]
  | .conversion e => .object [("conversion_error", e.toJson)]
  | .channelClosed => .null
  | .taskHung task totalRead elapsed =>
    .object [("task_id", .nat task), ("last_total_read_records", .nat totalRead),
      ("elapsed_ms", .int elapsed)]
  | .attemptTimeout millis => .object [("timeout_ms", .nat millis)]
  | .attemptRejected maxThreads => .object [("max_threads", .nat maxThreads)]
  | .attemptAbandoned => .null
  | .invalidArgument reason => .object [("reason", .string reason)]
  | .errorLimitExceeded errors total reason =>
    .object [("error_records", .nat errors), ("total_records", .nat total),
      ("reason", .string reason)]
  | .plugin e => .object [("error", .string e.text)]
  | .taskFailed task cause => .object [("task_id", .nat task), ("error", cause.details)]

@[simp] theorem kind_taskFailed (task : Nat) (f : Failure) : (taskFailed task f).kind = f.kind := by
  simp [kind]

end Failure

end BatchSync
