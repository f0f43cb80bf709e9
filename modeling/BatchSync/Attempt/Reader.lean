import BatchSync.Attempt.Thread

/-!
# Threads of readers

The thread of a reader calls `init`, lets the body of its plugin run, ends the stream behind a body that
came to a good end, and calls `destroy`. If the plugin fails or panics, the thread fails the task and
then closes the channel, so that the writer stops. A panic leaves `destroy` out.
-/

namespace BatchSync

/-- Where the thread of a reader is. -/
inductive ReaderPhase (ρ : Type) where
  /-- About to call `init`. -/
  | init (s : ρ)
  /-- About to start the body. -/
  | starting (s : ρ)
  /-- In the body. -/
  | running (s : ρ)
  /-- In a call of the body. -/
  | calling (s : ρ) (c : Sending)
  /-- Ending the stream behind the body. -/
  | terminating (s : ρ) (c : Sending)
  /-- About to call `destroy`. -/
  | destroying (s : ρ) (result : Except PluginError Unit)
  /-- Failing the task. -/
  | failing (f : Failing)
  /-- About to close the channel after a failure. -/
  | closing
  | finished

/-- The thread of a reader. -/
structure ReaderThread (ρ : Type) where
  exchanger : Exchanger
  collector : DirtyCollector
  phase : ReaderPhase ρ

namespace ReaderThread

variable {ρ : Type}

/-- The thread of an instance that was just made. -/
def make (bufferSize maxSamples : Nat) (s : ρ) : ReaderThread ρ :=
  ⟨.make bufferSize, .make .reader maxSamples, .init s⟩

/-- Whether the thread has ended. -/
def isFinished (t : ReaderThread ρ) : Bool :=
  match t.phase with
  | .finished => true
  | _ => false

/-- The name of the thread. -/
def name (task : Nat) : String := s!"ferry-reader-{task}"

/-- The thread in another phase. -/
def goTo (t : ReaderThread ρ) (phase : ReaderPhase ρ) : ReaderThread ρ := { t with phase }

/-- Begins to fail the task. -/
def fail (t : ReaderThread ρ) (w : Surroundings) (f : Failure) : ReaderThread ρ :=
  t.goTo (.failing (.checking f w.now))

/-- The thread after its plugin panicked. -/
def panic (t : ReaderThread ρ) (w : Surroundings) (p : Panic) : ReaderThread ρ :=
  t.fail w (p.failure (name w.task))

/-- Begins a call of the exchanger. -/
def call (t : ReaderThread ρ) (s : ρ) (c : SenderCall) : ReaderThread ρ :=
  let (exchanger, sending) :=
    match c with
    | .send r => t.exchanger.send r
    | .flush => t.exchanger.flush
    | .terminate => t.exchanger.terminate
  { t with exchanger, phase := .calling s sending }

/-- Begins to end the stream. -/
def terminate (t : ReaderThread ρ) (s : ρ) : ReaderThread ρ :=
  let (exchanger, sending) := t.exchanger.terminate
  { t with exchanger, phase := .terminating s sending }

/-- The step of a body that is about to act. -/
def act (plugin : Reader ρ) (w : Surroundings) (l : Line) (t : ReaderThread ρ) (s : ρ) :
    Option (ThreadStep (ReaderThread ρ)) :=
  let on := t.goTo (.running (plugin.resume s none))
  match plugin.act s with
  | .call c => some (.quiet l (t.call s c))
  | .collect r e =>
    let (collector, status, logged) := t.collector.collect l.status r e
    some ⟨{ on with collector }, { l with status }, 0, [], logged⟩
  | .note key text => some (.quiet (l.mapStatus (·.note key text)) on)
  | .tell n => some ⟨on, l, 0, [.received n], []⟩
  | .wait ready => if ready (w.outlook l) then some (.quiet l on) else none
  | .elapse millis => some ⟨on, l, millis, [], []⟩
  | .finish .ok => some (.quiet l (t.terminate s))
  | .finish (.error e) => some (.quiet l (t.goTo (.destroying s (.error e))))
  | .finish (.panic p) => some (.quiet l (t.panic w p))

/-- The phase after `destroy` has returned. -/
def destroyed (t : ReaderThread ρ) (w : Surroundings) : Except PluginError Unit → ReaderThread ρ
  | .ok () => t.goTo .finished
  | .error e => t.fail w (.ofPlugin e)

/-- The next step of the thread. There is none while it has to wait, and none after its end. -/
def step (plugin : Reader ρ) (w : Surroundings) (l : Line) (t : ReaderThread ρ) :
    Option (ThreadStep (ReaderThread ρ)) :=
  match t.phase with
  | .init s =>
    let next :=
      match plugin.init s with
      | (.ok, s) => t.goTo (.starting s)
      | (.error e, s) => t.goTo (.destroying s (.error e))
      | (.panic p, _) => t.panic w p
    some ⟨next, l, 0, [.init], []⟩
  | .starting s => some ⟨t.goTo (.running s), l, 0, [.start], []⟩
  | .running s => act plugin w l t s
  | .calling s (.returned r) => some (.quiet l (t.goTo (.running (plugin.resume s (some r)))))
  | .calling s c => (c.step l w.instant).map fun (l, c) => .quiet l (t.goTo (.calling s c))
  | .terminating s (.returned r) =>
    some (.quiet l (t.goTo (.destroying s (r.mapError PluginError.ofFailure))))
  | .terminating s c => (c.step l w.instant).map fun (l, c) => .quiet l (t.goTo (.terminating s c))
  | .destroying s result =>
    let next :=
      match plugin.destroy s with
      | some p => t.panic w p
      | none => t.destroyed w result
    some ⟨next, l, 0, [.destroy], []⟩
  | .failing .done => some (.quiet l (t.goTo .closing))
  | .failing f =>
    let (status, f) := f.step l.status
    some (.quiet { l with status } (t.goTo (.failing f)))
  | .closing => some (.quiet l.close (t.goTo .finished))
  | .finished => none

end ReaderThread

end BatchSync
