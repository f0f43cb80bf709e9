import BatchSync.Attempt.Reader
import BatchSync.Attempt.Writer

/-!
# Attempts

An attempt of a task has a line of its own and, once its plugins are made, a thread for each of them.
-/

namespace BatchSync

/-- The threads of an attempt. -/
structure AttemptThreads (ρ ω : Type) where
  reader : ReaderThread ρ
  writer : WriterThread ω

/-- An attempt of a task. -/
structure Attempt (ρ ω : Type) where
  task : Nat
  /-- Whether the plugins are told about without their `init` and `destroy`. -/
  plain : Bool
  line : Line
  threads : Option (AttemptThreads ρ ω)
  /-- What was logged of dirty records. -/
  logged : List LogEvent

namespace Attempt

variable {ρ ω : Type}

/-- An attempt that begins at a time. -/
def ofConfig (task : Nat) (plain : Bool) (c : ChannelConfig) (now : Int) (instant : Nanos) :
    Attempt ρ ω :=
  ⟨task, plain, .ofConfig c (.ofState .running now) instant, none, []⟩

/-- The status of an attempt. -/
def status (a : Attempt ρ ω) : TaskStatus := a.line.status

/-- Changes the status. -/
def mapStatus (a : Attempt ρ ω) (f : TaskStatus → TaskStatus) : Attempt ρ ω :=
  { a with line := a.line.mapStatus f }

/-- Starts the threads of the plugins that were made. -/
def start (a : Attempt ρ ω) (bufferSize maxSamples : Nat) (r : ρ) (w : ω) : Attempt ρ ω :=
  { a with threads := some ⟨.make bufferSize maxSamples r, .make bufferSize maxSamples w⟩ }

/-- Whether both threads have ended. -/
def isOver (a : Attempt ρ ω) : Bool :=
  a.threads.all fun t => t.reader.isFinished && t.writer.isFinished

/-- A step of the thread of the reader. -/
def stepReader (plugin : Reader ρ) (w : Surroundings) (a : Attempt ρ ω) :
    Option (ThreadStep (Attempt ρ ω)) := do
  let t ← a.threads
  let s ← t.reader.step plugin w a.line
  some { s with
    thread := { a with
      line := s.line, threads := some { t with reader := s.thread }, logged := a.logged ++ s.logged } }

/-- A step of the thread of the writer. -/
def stepWriter (plugin : Writer ω) (w : Surroundings) (a : Attempt ρ ω) :
    Option (ThreadStep (Attempt ρ ω)) := do
  let t ← a.threads
  let s ← t.writer.step plugin w a.line
  some { s with
    thread := { a with
      line := s.line, threads := some { t with writer := s.thread }, logged := a.logged ++ s.logged } }

end Attempt

end BatchSync
