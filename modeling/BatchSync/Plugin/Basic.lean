import BatchSync.Channel.Exchanger
import BatchSync.Dirty.Collector
import BatchSync.Hang.Monitor

/-!
# Plugins

A reader or a writer is a machine: in every state it does something, and goes on with the answer. It
sends or receives records, reports dirty records and messages, waits for something, takes its time,
and comes to an end: well, with an error, or in a panic.

On a fresh instance `init` is called first, then its body runs, and `destroy` is called at last.
-/

namespace BatchSync

/-- A panic, with its text if it has one. -/
structure Panic where
  text : Option String

/-- The failure of a thread that panicked. -/
def Panic.failure (thread : String) (p : Panic) : Failure :=
  .ofPlugin (.message (thread ++ " panicked: " ++ p.text.getD "unknown panic") [])

/-- How a call of a plugin ends. -/
inductive Ending where
  | ok
  | error (e : PluginError)
  | panic (p : Panic)

/-- What a plugin can see while it waits. -/
structure Outlook where
  /-- The time, in milliseconds since the epoch. -/
  now : Int
  /-- What the monitor knows of the task. -/
  progress : Option TaskProgress
  /-- Records that the task has read. -/
  recordsRead : Nat
  /-- Whether the group of the task is over. -/
  isOver : Bool

/-- What a plugin does next, where the calls that it can make are those of its side. -/
inductive PluginAct (κ : Type) where
  /-- Makes a call. -/
  | call (c : κ)
  /-- Reports a dirty record. -/
  | collect (r : Record) (e : PluginError)
  /-- Reports a message under a key. -/
  | note (key text : String)
  /-- Tells how many records it has received. -/
  | tell (received : Nat)
  /-- Waits for something. -/
  | wait (ready : Outlook → Bool)
  /-- Takes its time, in milliseconds. -/
  | elapse (millis : Int)
  /-- Comes to an end. -/
  | finish (e : Ending)

/-- The calls of a reader. -/
inductive SenderCall where
  | send (r : Record)
  | flush
  | terminate

/-- The calls of a writer. -/
inductive ReceiverCall where
  | receive

/-- A plugin with states `σ`, calls `κ` and answers `β`. -/
structure Plugin (σ κ β : Type) where
  /-- How `init` ends, and the state after it. -/
  init : σ → Ending × σ
  /-- What the body does next. -/
  act : σ → PluginAct κ
  /-- How the body goes on: with the answer of its call, or after anything else. -/
  resume : σ → Option β → σ
  /-- The panic in which `destroy` ends, if it does not return. -/
  destroy : σ → Option Panic

/-- A reader. It learns whether its calls went well. -/
abbrev Reader (ρ : Type) := Plugin ρ SenderCall (Except Failure Unit)

/-- A writer. It learns the next record, or that there are no more. -/
abbrev Writer (ω : Type) := Plugin ω ReceiverCall (Option Record)

/-- What is told of a plugin. -/
inductive PluginEvent where
  /-- An instance is asked for, as the one of a number. -/
  | created (number : Nat)
  | init
  | start
  | received (count : Nat)
  | destroy

/-- The text of an event. -/
def PluginEvent.text : PluginEvent → String
  | .created n => s!"create {n}"
  | .init => "init"
  | .start => "start"
  | .received n => s!"received {n}"
  | .destroy => "destroy"

/-- A failure as the error of a plugin that it passed through. -/
def PluginError.ofFailure (f : Failure) : PluginError := .known (.failure f) []

end BatchSync
