import BatchSync.Plugin.Basic

/-!
# Scripted plugins

Plugins that do what a script says, one thing after the other. A script ends well at its end, and with
the failure of the first call that does not go well.
-/

namespace BatchSync

/-- What a script says of both sides. -/
inductive SharedStep where
  | fail (e : PluginError)
  | panic (p : Panic)
  | note (key text : String)
  | dirty (r : Record) (e : PluginError)

/-- What the script of a reader says. -/
inductive ReaderStep where
  | shared (s : SharedStep)
  | send (r : Record)
  | flush
  | terminate
  /-- Flushes again and again until that fails. -/
  | poll
  /-- Waits until the monitor has seen all records that were read. -/
  | settle
  /-- Lets time pass. -/
  | elapse (millis : Int)
  /-- Waits until the monitor has seen the task at the time, or watches it no longer. -/
  | beSeen
  /-- Does nothing until the group is over. -/
  | stuck

/-- What the script of a writer says. -/
inductive WriterStep where
  | shared (s : SharedStep)
  /-- Receives records, up to a number of them if there is one. Of the records received so far, one in
  every so many is reported as dirty if that is said. -/
  | receive (most : Option Nat) (dirtyEvery : Option Nat)

/-- What a shared step does. -/
def SharedStep.act {κ : Type} : SharedStep → PluginAct κ
  | .fail e => .finish (.error e)
  | .panic p => .finish (.panic p)
  | .note key text => .note key text
  | .dirty r e => .collect r e

/-! ## Readers -/

/-- A record of a row, by its number. -/
def rowRecord (i : Nat) : Record := .ofColumns [.long i, .string s!"row {i}"]

/-- The steps that send rows. -/
def ReaderStep.rows (n : Nat) : List ReaderStep := (List.range n).map fun i => .send (rowRecord i)

/-- The steps that move the clock under the eyes of the monitor. -/
def ReaderStep.advance (millis : Int) : List ReaderStep := [.settle, .elapse millis, .beSeen]

/-- Whether the monitor has seen all records that were read. -/
def Outlook.isSettled (o : Outlook) : Bool := o.progress.any fun p => o.recordsRead ≤ p.recordsRead

/-- Whether the monitor has seen the task at the time, or watches it no longer. -/
def Outlook.isSeen (o : Outlook) : Bool := o.progress.all fun p => p.seenAt == o.now

/-- A reader that follows a script. -/
structure ScriptedReader where
  /-- The error in which `init` ends, if it does. -/
  init : Option PluginError
  steps : List ReaderStep
  /-- The failure of a call. -/
  failed : Option Failure

namespace ScriptedReader

/-- What the reader does next. -/
def act (s : ScriptedReader) : PluginAct SenderCall :=
  match s.failed, s.steps with
  | some f, _ => .finish (.error (.ofFailure f))
  | none, [] => .finish .ok
  | none, .shared x :: _ => x.act
  | none, .send r :: _ => .call (.send r)
  | none, .flush :: _ => .call .flush
  | none, .terminate :: _ => .call .terminate
  | none, .poll :: _ => .call .flush
  | none, .settle :: _ => .wait Outlook.isSettled
  | none, .elapse millis :: _ => .elapse millis
  | none, .beSeen :: _ => .wait Outlook.isSeen
  | none, .stuck :: _ => .wait Outlook.isOver

/-- The reader after its next step. -/
def resume (s : ScriptedReader) (reply : Option (Except Failure Unit)) : ScriptedReader :=
  match reply, s.steps with
  | some (.error f), _ => { s with failed := some f }
  | _, .poll :: _ => s
  | _, steps => { s with steps := steps.tail }

/-- Scripted readers as plugins. -/
def plugin : Reader ScriptedReader where
  init s := (s.init.elim .ok .error, s)
  act := act
  resume := resume
  destroy _ := none

end ScriptedReader

/-! ## Writers -/

/-- A writer that follows a script. -/
structure ScriptedWriter where
  /-- The error in which `init` ends, if it does. -/
  init : Option PluginError
  steps : List WriterStep
  /-- How many records were received in the step. -/
  got : Nat
  /-- How many records were received in all steps. -/
  seen : Nat
  /-- A record that is to be reported as dirty. -/
  dirty : Option Record
  /-- Whether there are no more records for the step. -/
  drained : Bool

namespace ScriptedWriter

/-- A writer at the beginning of its script. -/
def make (init : Option PluginError) (steps : List WriterStep) : ScriptedWriter :=
  ⟨init, steps, 0, 0, none, false⟩

/-- Why records are reported as dirty. -/
def violation : PluginError := .message "constraint violation" []

/-- What the writer does next. -/
def act (s : ScriptedWriter) : PluginAct ReceiverCall :=
  match s.dirty, s.steps with
  | some r, _ => .collect r violation
  | none, [] => .finish .ok
  | none, .shared x :: _ => x.act
  | none, .receive most _ :: _ =>
    if s.drained || most.any (· ≤ s.got) then .tell s.got else .call .receive

/-- Whether the record of a number is reported as dirty. -/
def isDirty (dirtyEvery : Option Nat) (seen : Nat) : Bool := dirtyEvery.any fun k => seen % k == 0

/-- The writer after a record was received, in a step that reports some of them as dirty. -/
def received (s : ScriptedWriter) (r : Record) (dirtyEvery : Option Nat) : ScriptedWriter :=
  { s with
    got := s.got + 1, seen := s.seen + 1
    dirty := if isDirty dirtyEvery (s.seen + 1) then some r else none }

/-- The writer behind its step. -/
def advance (s : ScriptedWriter) : ScriptedWriter :=
  { s with steps := s.steps.tail, got := 0, drained := false }

/-- The writer after its next step. -/
def resume (s : ScriptedWriter) (reply : Option (Option Record)) : ScriptedWriter :=
  match s.dirty, s.steps, reply with
  | some _, _, _ => { s with dirty := none }
  | none, .receive _ every :: _, some (some r) => s.received r every
  | none, _, some none => { s with drained := true }
  | none, _, _ => s.advance

/-- Scripted writers as plugins. -/
def plugin : Writer ScriptedWriter where
  init s := (s.init.elim .ok .error, s)
  act := act
  resume := resume
  destroy _ := none

end ScriptedWriter

end BatchSync
