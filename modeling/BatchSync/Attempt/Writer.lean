import BatchSync.Attempt.Thread

/-!
# Threads of writers

The thread of a writer calls `init`, lets the body of its plugin run, calls `destroy`, and closes the
channel behind a body that came to a good end, so that the reader is not left waiting. If the plugin
fails or panics, the thread fails the task before it closes the channel. A panic leaves `destroy` out.
-/

namespace BatchSync

/-- Where the thread of a writer is. -/
inductive WriterPhase (ω : Type) where
  /-- About to call `init`. -/
  | init (s : ω)
  /-- About to start the body. -/
  | starting (s : ω)
  /-- In the body. -/
  | running (s : ω)
  /-- In a call of the body. -/
  | calling (s : ω) (c : Receiving)
  /-- About to call `destroy`. -/
  | destroying (s : ω) (result : Except PluginError Unit)
  /-- About to close the channel behind a body that came to a good end. -/
  | shutting
  /-- Failing the task. -/
  | failing (f : Failing)
  /-- About to close the channel after a failure. -/
  | closing
  | finished

/-- The thread of a writer. -/
structure WriterThread (ω : Type) where
  exchanger : Exchanger
  collector : DirtyCollector
  phase : WriterPhase ω

namespace WriterThread

variable {ω : Type}

/-- The thread of an instance that was just made. -/
def make (bufferSize maxSamples : Nat) (s : ω) : WriterThread ω :=
  ⟨.make bufferSize, .make .writer maxSamples, .init s⟩

/-- Whether the thread has ended. -/
def isFinished (t : WriterThread ω) : Bool :=
  match t.phase with
  | .finished => true
  | _ => false

/-- The name of the thread. -/
def name (task : Nat) : String := s!"ferry-writer-{task}"

/-- The thread in another phase. -/
def goTo (t : WriterThread ω) (phase : WriterPhase ω) : WriterThread ω := { t with phase }

/-- Begins to fail the task. -/
def fail (t : WriterThread ω) (w : Surroundings) (f : Failure) : WriterThread ω :=
  t.goTo (.failing (.checking f w.now))

/-- The thread after its plugin panicked. -/
def panic (t : WriterThread ω) (w : Surroundings) (p : Panic) : WriterThread ω :=
  t.fail w (p.failure (name w.task))

/-- Hands the next record, or the news that there are no more, to the body. -/
def hand (plugin : Writer ω) (t : WriterThread ω) (s : ω) (x : Exchanger) : WriterThread ω :=
  let (exchanger, r) := x.next
  { t with exchanger, phase := .running (plugin.resume s (some r)) }

/-- The step of a body that is about to act. -/
def act (plugin : Writer ω) (w : Surroundings) (l : Line) (t : WriterThread ω) (s : ω) :
    Option (ThreadStep (WriterThread ω)) :=
  let on := t.goTo (.running (plugin.resume s none))
  match plugin.act s with
  | .call .receive =>
    match t.exchanger.refill? with
    | some c => some (.quiet l (t.goTo (.calling s c)))
    | none => some (.quiet l (hand plugin t s t.exchanger))
  | .collect r e =>
    let (collector, status, logged) := t.collector.collect l.status r e
    some ⟨{ on with collector }, { l with status }, 0, [], logged⟩
  | .note key text => some (.quiet (l.mapStatus (·.note key text)) on)
  | .tell n => some ⟨on, l, 0, [.received n], []⟩
  | .wait ready => if ready (w.outlook l) then some (.quiet l on) else none
  | .elapse millis => some ⟨on, l, millis, [], []⟩
  | .finish .ok => some (.quiet l (t.goTo (.destroying s (.ok ()))))
  | .finish (.error e) => some (.quiet l (t.goTo (.destroying s (.error e))))
  | .finish (.panic p) => some (.quiet l (t.panic w p))

/-- The phase after `destroy` has returned. -/
def destroyed (t : WriterThread ω) (w : Surroundings) : Except PluginError Unit → WriterThread ω
  | .ok () => t.goTo .shutting
  | .error e => t.fail w (.ofPlugin e)

/-- The next step of the thread. There is none while it has to wait, and none after its end. -/
def step (plugin : Writer ω) (w : Surroundings) (l : Line) (t : WriterThread ω) :
    Option (ThreadStep (WriterThread ω)) :=
  match t.phase with
  | .init s =>
    let next :=
      match plugin.init s with
      | (.ok, s) => t.goTo (.starting s)
      | (.error e, s) => t.goTo (.destroying s (.error e))
      | (.panic p, _) => t.panic w p
    some ⟨next, l, 0, [.init], []⟩
  | .starting s => some ⟨t.goTo (.running s), l, 0, [.start], []⟩
  | .running s => act plugin w l t s
  | .calling s (.returned batch) => some (.quiet l (hand plugin t s (t.exchanger.accept batch)))
  | .calling s c => (c.step l w.instant).map fun (l, c) => .quiet l (t.goTo (.calling s c))
  | .destroying s result =>
    let next :=
      match plugin.destroy s with
      | some p => t.panic w p
      | none => t.destroyed w result
    some ⟨next, l, 0, [.destroy], []⟩
  | .shutting => some (.quiet l.close (t.goTo .finished))
  | .failing .done => some (.quiet l (t.goTo .closing))
  | .failing f =>
    let (status, f) := f.step l.status
    some (.quiet { l with status } (t.goTo (.failing f)))
  | .closing => some (.quiet l.close (t.goTo .finished))
  | .finished => none

end WriterThread

end BatchSync
