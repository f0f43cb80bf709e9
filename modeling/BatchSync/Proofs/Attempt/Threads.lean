import BatchSync.Attempt.Basic
import BatchSync.Proofs.Channel.Changes

/-!
# What the threads of an attempt do

What can be told of an attempt (`AttemptEvent`), and all that a step of its threads can do, together
with what is to be told of the step.

1. `ReaderThread.moves_of_step` and `WriterThread.moves_of_step` say all that a step can do.
2. `ReaderThread.Moves.stage` and `WriterThread.Moves.stage` forget the plugin, and keep how far the
   thread has come in failing the task (`ThreadStage.Moves`).
3. `ReaderThread.Moves.change` and `WriterThread.Moves.change` keep what the step does to the line.
-/

namespace BatchSync

/-- What can be told of an attempt. -/
inductive AttemptEvent where
  /-- The body of the reader made a call. -/
  | called (c : SenderCall)
  /-- A call of the body of the reader came back. -/
  | answered (c : SenderCall) (r : Except Failure Unit)
  /-- The call that ends the stream behind the body of the reader came back. -/
  | ended (r : Except Failure Unit)
  /-- A record, or the news that there are no more, was handed to the body of the writer. -/
  | handed (x : Option Record)
  /-- The body of a plugin came to a good end. -/
  | finished (side : Side)
  /-- A plugin ended in an error of its own or in a panic, which stands for a failure. -/
  | raised (side : Side) (f : Failure)
  /-- The attempt was found to hang. -/
  | hung (f : Failure)
  /-- The attempt was stopped with its group. -/
  | stopped (f : Failure)
  /-- The attempt has come to its result. -/
  | returned (r : Except Failure Unit)

/-- The side whose thread tells an event. Other events are told of drivers. -/
def AttemptEvent.side? : AttemptEvent → Option Side
  | .called _ => some .reader
  | .answered _ _ => some .reader
  | .ended _ => some .reader
  | .handed _ => some .writer
  | .finished side => some side
  | .raised side _ => some side
  | .hung _ => none
  | .stopped _ => none
  | .returned _ => none

/-! ## How far a thread has come -/

/-- The state of a task and the failure captured in it. -/
def TaskStatus.standing (s : TaskStatus) : TaskState × Option Failure := (s.state, s.failure)

@[simp] theorem TaskStatus.standing_add (s : TaskStatus) (c : Counter) (n : Nat) :
    (s.add c n).standing = s.standing := rfl

@[simp] theorem TaskStatus.standing_sample (s : TaskStatus) (d : DirtySample) (n : Nat) :
    (s.sample d n).standing = s.standing := by
  unfold sample
  split <;> rfl

@[simp] theorem DirtyCollector.standing_account (side : Side) (n : Nat) (s : TaskStatus) (r : Record)
    (e : PluginError) : (account side n s r e).standing = s.standing := by
  unfold account
  rw [TaskStatus.standing_sample, TaskStatus.standing_add, TaskStatus.standing_add]

/-- How far a thread has come, apart from what its plugin does. -/
inductive ThreadStage where
  /-- With its plugin. -/
  | working
  /-- Failing the task. -/
  | failing (f : Failing)
  /-- About to close the channel after a failure. -/
  | closing
  | finished

/-- All that a step of a thread can do to the standing of a task. -/
inductive ThreadStage.Moves (s : TaskStatus) : ThreadStage → TaskStatus → ThreadStage → Prop
  | work {s' : TaskStatus} (same : s'.standing = s.standing) : Moves s .working s' .working
  | fail (f : Failure) (timestamp : Int) : Moves s .working s (.failing (.checking f timestamp))
  | leave : Moves s .working s .finished
  | step {f : Failing} (going : f ≠ .done) :
      Moves s (.failing f) (f.step s).1 (.failing (f.step s).2)
  | failed : Moves s (.failing .done) s .closing
  | close : Moves s .closing s .finished

/-! ## Acts that concern nobody else -/

/-- Whether an act concerns nobody but the plugin and those who look on. -/
def PluginAct.IsAside {κ : Type} : PluginAct κ → Prop
  | .note _ _ => True
  | .tell _ => True
  | .wait _ => True
  | .elapse _ => True
  | _ => False

/-- What such an act does to a line. -/
def PluginAct.beside {κ : Type} (a : PluginAct κ) (l : Line) : Line :=
  match a with
  | .note key text => l.mapStatus (·.note key text)
  | _ => l

section Beside

variable {κ : Type} (a : PluginAct κ) (l : Line)

@[simp] theorem PluginAct.channel_beside : (a.beside l).channel = l.channel := by cases a <;> rfl

@[simp] theorem PluginAct.flow_beside : (a.beside l).flow = l.flow := by cases a <;> rfl

@[simp] theorem PluginAct.standing_beside : (a.beside l).status.standing = l.status.standing := by
  cases a <;> rfl

@[simp] theorem PluginAct.count_beside (c : Counter) :
    (a.beside l).status.count c = l.status.count c := by cases a <;> rfl

end Beside

/-! ## The thread of the reader -/

/-- The exchanger after a call of a reader begins, and the call on the way in. -/
def SenderCall.start (x : Exchanger) : SenderCall → Exchanger × Sending
  | .send r => x.send r
  | .flush => x.flush
  | .terminate => x.terminate

namespace ReaderPhase

variable {ρ : Type}

/-- The stage of a thread in a phase. -/
def stage : ReaderPhase ρ → ThreadStage
  | .failing f => .failing f
  | .closing => .closing
  | .finished => .finished
  | _ => .working

/-- A call of the plugin is about to end. -/
inductive Ends (plugin : Reader ρ) : ReaderPhase ρ → Ending → ρ → Prop
  | init {s s' : ρ} {e : Ending} (h : plugin.init s = (e, s')) : Ends plugin (.init s) e s'
  | body {s : ρ} {e : Ending} (h : plugin.act s = .finish e) : Ends plugin (.running s) e s
  | destroy {s : ρ} {p : Panic} (r : Except PluginError Unit) (h : plugin.destroy s = some p) :
      Ends plugin (.destroying s r) (.panic p) s

end ReaderPhase

namespace ReaderThread

variable {ρ : Type}

/-- What is to be told of the end of a call of the plugin that went badly. -/
def raised (task : Nat) : Ending → List AttemptEvent
  | .ok => []
  | .error e => [.raised .reader (.ofPlugin e)]
  | .panic p => [.raised .reader (p.failure (name task))]

/-- What is to be told of the answer of a call. -/
def answers (plugin : Reader ρ) (s : ρ) (r : Except Failure Unit) : List AttemptEvent :=
  match plugin.act s with
  | .call c => [.answered c r]
  | _ => []

/-- What is to be told of the next step of the thread. -/
def events (plugin : Reader ρ) (task : Nat) (t : ReaderThread ρ) : List AttemptEvent :=
  match t.phase with
  | .init s => raised task (plugin.init s).1
  | .running s =>
    match plugin.act s with
    | .call c => [.called c]
    | .finish .ok => [.finished .reader]
    | .finish e => raised task e
    | _ => []
  | .calling s (.returned r) => answers plugin s r
  | .terminating _ (.returned r) => [.ended r]
  | .destroying s _ => (plugin.destroy s).elim [] fun p => raised task (.panic p)
  | _ => []

/-- All that a step of the thread can do, and what is to be told of it. -/
inductive Moves (plugin : Reader ρ) (w : Surroundings) (l : Line) :
    ReaderThread ρ → List AttemptEvent → Line → ReaderThread ρ → Prop
  | init {x : Exchanger} {k : DirtyCollector} {s s' : ρ} (h : plugin.init s = (.ok, s')) :
      Moves plugin w l ⟨x, k, .init s⟩ [] l ⟨x, k, .starting s'⟩
  | start {x : Exchanger} {k : DirtyCollector} {s : ρ} :
      Moves plugin w l ⟨x, k, .starting s⟩ [] l ⟨x, k, .running s⟩
  | call {x : Exchanger} {k : DirtyCollector} {s : ρ} {c : SenderCall}
      (h : plugin.act s = .call c) :
      Moves plugin w l ⟨x, k, .running s⟩ [.called c] l
        ⟨(c.start x).1, k, .calling s (c.start x).2⟩
  | dirty {x : Exchanger} {k : DirtyCollector} {s : ρ} {r : Record} {e : PluginError}
      (h : plugin.act s = .collect r e) :
      Moves plugin w l ⟨x, k, .running s⟩ []
        (l.mapStatus fun t => DirtyCollector.account k.side k.maxSamples t r e)
        ⟨x, { k with collected := k.collected + 1 }, .running (plugin.resume s none)⟩
  | aside {x : Exchanger} {k : DirtyCollector} {s : ρ} (h : (plugin.act s).IsAside) :
      Moves plugin w l ⟨x, k, .running s⟩ [] ((plugin.act s).beside l)
        ⟨x, k, .running (plugin.resume s none)⟩
  | finish {x : Exchanger} {k : DirtyCollector} {s : ρ} (h : plugin.act s = .finish .ok) :
      Moves plugin w l ⟨x, k, .running s⟩ [.finished .reader] l
        ⟨x.terminate.1, k, .terminating s x.terminate.2⟩
  | fails {x : Exchanger} {k : DirtyCollector} {phase : ReaderPhase ρ} {e : PluginError} {s : ρ}
      (ends : phase.Ends plugin (.error e) s) :
      Moves plugin w l ⟨x, k, phase⟩ [.raised .reader (.ofPlugin e)] l
        ⟨x, k, .destroying s (.error e)⟩
  | panics {x : Exchanger} {k : DirtyCollector} {phase : ReaderPhase ρ} {p : Panic} {s : ρ}
      (ends : phase.Ends plugin (.panic p) s) :
      Moves plugin w l ⟨x, k, phase⟩ [.raised .reader (p.failure (name w.task))] l
        ⟨x, k, .failing (.checking (p.failure (name w.task)) w.now)⟩
  | go {x : Exchanger} {k : DirtyCollector} {s : ρ} {d d' : Sending} {cs : List Crossing}
      {l' : Line} (h : d.Moves l w.instant cs l' d') :
      Moves plugin w l ⟨x, k, .calling s d⟩ [] l' ⟨x, k, .calling s d'⟩
  | answer {x : Exchanger} {k : DirtyCollector} {s : ρ} (r : Except Failure Unit) :
      Moves plugin w l ⟨x, k, .calling s (.returned r)⟩ (answers plugin s r) l
        ⟨x, k, .running (plugin.resume s (some r))⟩
  | ending {x : Exchanger} {k : DirtyCollector} {s : ρ} {d d' : Sending} {cs : List Crossing}
      {l' : Line} (h : d.Moves l w.instant cs l' d') :
      Moves plugin w l ⟨x, k, .terminating s d⟩ [] l' ⟨x, k, .terminating s d'⟩
  | ended {x : Exchanger} {k : DirtyCollector} {s : ρ} (r : Except Failure Unit) :
      Moves plugin w l ⟨x, k, .terminating s (.returned r)⟩ [.ended r] l
        ⟨x, k, .destroying s (r.mapError PluginError.ofFailure)⟩
  | leave {x : Exchanger} {k : DirtyCollector} {s : ρ} (quiet : plugin.destroy s = none) :
      Moves plugin w l ⟨x, k, .destroying s (.ok ())⟩ [] l ⟨x, k, .finished⟩
  | fail {x : Exchanger} {k : DirtyCollector} {s : ρ} (e : PluginError)
      (quiet : plugin.destroy s = none) :
      Moves plugin w l ⟨x, k, .destroying s (.error e)⟩ [] l
        ⟨x, k, .failing (.checking (.ofPlugin e) w.now)⟩
  | settle {x : Exchanger} {k : DirtyCollector} {f : Failing} (going : f ≠ .done) :
      Moves plugin w l ⟨x, k, .failing f⟩ [] { l with status := (f.step l.status).1 }
        ⟨x, k, .failing (f.step l.status).2⟩
  | settled {x : Exchanger} {k : DirtyCollector} :
      Moves plugin w l ⟨x, k, .failing .done⟩ [] l ⟨x, k, .closing⟩
  | close {x : Exchanger} {k : DirtyCollector} :
      Moves plugin w l ⟨x, k, .closing⟩ [] l.close ⟨x, k, .finished⟩

section Inversion

variable {plugin : Reader ρ} {w : Surroundings} {l : Line}

theorem moves_of_act {x : Exchanger} {k : DirtyCollector} {s : ρ} {m : ThreadStep (ReaderThread ρ)}
    (h : act plugin w l ⟨x, k, .running s⟩ s = some m) :
    Moves plugin w l ⟨x, k, .running s⟩ (events plugin w.task ⟨x, k, .running s⟩) m.line
      m.thread := by
  have aside : ∀ {a : PluginAct SenderCall}, plugin.act s = a → a.IsAside →
      Moves plugin w l ⟨x, k, .running s⟩ [] (a.beside l)
        ⟨x, k, .running (plugin.resume s none)⟩ := by
    rintro _ rfl h
    exact .aside h
  unfold act at h
  simp only [events]
  cases ha : plugin.act s with
  | call c =>
    rw [ha] at h
    cases h
    have hc : call ⟨x, k, .running s⟩ s c = ⟨(c.start x).1, k, .calling s (c.start x).2⟩ := by
      cases c <;> rfl
    simp only [ThreadStep.quiet, hc]
    exact .call ha
  | collect r e => rw [ha] at h; cases h; exact .dirty ha
  | note key text => rw [ha] at h; cases h; exact aside ha trivial
  | tell n => rw [ha] at h; cases h; exact aside ha trivial
  | wait ready =>
    rw [ha] at h
    dsimp only at h
    split at h
    · cases h; exact aside ha trivial
    · cases h
  | elapse millis => rw [ha] at h; cases h; exact aside ha trivial
  | finish e =>
    rw [ha] at h
    cases e with
    | ok => cases h; exact .finish ha
    | error e => cases h; exact .fails (.body ha)
    | panic p => cases h; exact .panics (.body ha)

theorem moves_of_step {t : ReaderThread ρ} {m : ThreadStep (ReaderThread ρ)}
    (h : t.step plugin w l = some m) :
    Moves plugin w l t (t.events plugin w.task) m.line m.thread := by
  obtain ⟨x, k, phase⟩ := t
  cases phase with
  | init s =>
    simp only [step, events] at h ⊢
    rcases hi : plugin.init s with ⟨e, s'⟩
    rw [hi] at h
    cases e with
    | ok => cases h; exact .init hi
    | error e => cases h; exact .fails (.init hi)
    | panic p => cases h; exact .panics (.init hi)
  | starting s => cases h; exact .start
  | running s => exact moves_of_act h
  | calling s d =>
    have other : ((d.step l w.instant).map fun next =>
        ThreadStep.quiet next.1 (goTo ⟨x, k, .calling s d⟩ (.calling s next.2))) = some m →
        Moves plugin w l ⟨x, k, .calling s d⟩ [] m.line m.thread := by
      intro h
      obtain ⟨⟨l₁, d₁⟩, hd, e⟩ := Option.map_eq_some_iff.mp h
      cases e
      exact .go (Sending.moves_of_step hd)
    cases d with
    | returned r => cases h; exact .answer r
    | pushing => exact other h
    | waiting => exact other h
    | metering => exact other h
    | pausing => exact other h
    | closing => exact other h
  | terminating s d =>
    have other : ((d.step l w.instant).map fun next =>
        ThreadStep.quiet next.1 (goTo ⟨x, k, .terminating s d⟩ (.terminating s next.2))) = some m →
        Moves plugin w l ⟨x, k, .terminating s d⟩ [] m.line m.thread := by
      intro h
      obtain ⟨⟨l₁, d₁⟩, hd, e⟩ := Option.map_eq_some_iff.mp h
      cases e
      exact .ending (Sending.moves_of_step hd)
    cases d with
    | returned r => cases h; exact .ended r
    | pushing => exact other h
    | waiting => exact other h
    | metering => exact other h
    | pausing => exact other h
    | closing => exact other h
  | destroying s r =>
    simp only [step, events] at h ⊢
    cases hd : plugin.destroy s with
    | some p => rw [hd] at h; cases h; exact .panics (.destroy r hd)
    | none =>
      rw [hd] at h
      cases r with
      | ok u => cases u; cases h; exact .leave hd
      | error e => cases h; exact .fail e hd
  | failing f =>
    cases f with
    | done => cases h; exact .settled
    | checking | capturing | settling => cases h; exact .settle nofun
  | closing => cases h; exact .close
  | finished => cases h

end Inversion

/-- A reader's thread tells nothing but of its own side. -/
theorem Moves.side?_eq {plugin : Reader ρ} {w : Surroundings} {l l' : Line} {t t' : ReaderThread ρ}
    {es : List AttemptEvent} (h : t.Moves plugin w l es l' t') : ∀ e ∈ es, e.side? = some .reader := by
  cases h with
  | answer =>
    unfold answers
    split <;> simp [AttemptEvent.side?]
  | _ => simp [AttemptEvent.side?]

end ReaderThread

/-! ## The thread of the writer -/

namespace WriterPhase

variable {ω : Type}

/-- The stage of a thread in a phase. -/
def stage : WriterPhase ω → ThreadStage
  | .failing f => .failing f
  | .closing => .closing
  | .finished => .finished
  | _ => .working

/-- A call of the plugin is about to end. -/
inductive Ends (plugin : Writer ω) : WriterPhase ω → Ending → ω → Prop
  | init {s s' : ω} {e : Ending} (h : plugin.init s = (e, s')) : Ends plugin (.init s) e s'
  | body {s : ω} {e : Ending} (h : plugin.act s = .finish e) : Ends plugin (.running s) e s
  | destroy {s : ω} {p : Panic} (r : Except PluginError Unit) (h : plugin.destroy s = some p) :
      Ends plugin (.destroying s r) (.panic p) s

end WriterPhase

namespace WriterThread

variable {ω : Type}

/-- What is to be told of the end of a call of the plugin that went badly. -/
def raised (task : Nat) : Ending → List AttemptEvent
  | .ok => []
  | .error e => [.raised .writer (.ofPlugin e)]
  | .panic p => [.raised .writer (p.failure (name task))]

/-- What is to be told of the next step of the thread. -/
def events (plugin : Writer ω) (task : Nat) (t : WriterThread ω) : List AttemptEvent :=
  match t.phase with
  | .init s => raised task (plugin.init s).1
  | .running s =>
    match plugin.act s with
    | .call .receive => t.exchanger.refill?.elim [.handed t.exchanger.next.2] fun _ => []
    | .finish .ok => [.finished .writer]
    | .finish e => raised task e
    | _ => []
  | .calling _ (.returned batch) => [.handed (t.exchanger.accept batch).next.2]
  | .destroying s _ => (plugin.destroy s).elim [] fun p => raised task (.panic p)
  | _ => []

/-- All that a step of the thread can do, and what is to be told of it. -/
inductive Moves (plugin : Writer ω) (w : Surroundings) (l : Line) :
    WriterThread ω → List AttemptEvent → Line → WriterThread ω → Prop
  | init {x : Exchanger} {k : DirtyCollector} {s s' : ω} (h : plugin.init s = (.ok, s')) :
      Moves plugin w l ⟨x, k, .init s⟩ [] l ⟨x, k, .starting s'⟩
  | start {x : Exchanger} {k : DirtyCollector} {s : ω} :
      Moves plugin w l ⟨x, k, .starting s⟩ [] l ⟨x, k, .running s⟩
  | ask {x : Exchanger} {k : DirtyCollector} {s : ω} (h : plugin.act s = .call .receive)
      (empty : x.incoming = []) (more : x.ended = false) :
      Moves plugin w l ⟨x, k, .running s⟩ [] l ⟨x, k, .calling s (.taking (.upTo x.bufferSize))⟩
  | next {x : Exchanger} {k : DirtyCollector} {s : ω} (h : plugin.act s = .call .receive)
      (ready : x.incoming ≠ [] ∨ x.ended = true) :
      Moves plugin w l ⟨x, k, .running s⟩ [.handed x.next.2] l
        ⟨x.next.1, k, .running (plugin.resume s (some x.next.2))⟩
  | dirty {x : Exchanger} {k : DirtyCollector} {s : ω} {r : Record} {e : PluginError}
      (h : plugin.act s = .collect r e) :
      Moves plugin w l ⟨x, k, .running s⟩ []
        (l.mapStatus fun t => DirtyCollector.account k.side k.maxSamples t r e)
        ⟨x, { k with collected := k.collected + 1 }, .running (plugin.resume s none)⟩
  | aside {x : Exchanger} {k : DirtyCollector} {s : ω} (h : (plugin.act s).IsAside) :
      Moves plugin w l ⟨x, k, .running s⟩ [] ((plugin.act s).beside l)
        ⟨x, k, .running (plugin.resume s none)⟩
  | finish {x : Exchanger} {k : DirtyCollector} {s : ω} (h : plugin.act s = .finish .ok) :
      Moves plugin w l ⟨x, k, .running s⟩ [.finished .writer] l ⟨x, k, .destroying s (.ok ())⟩
  | fails {x : Exchanger} {k : DirtyCollector} {phase : WriterPhase ω} {e : PluginError} {s : ω}
      (ends : phase.Ends plugin (.error e) s) :
      Moves plugin w l ⟨x, k, phase⟩ [.raised .writer (.ofPlugin e)] l
        ⟨x, k, .destroying s (.error e)⟩
  | panics {x : Exchanger} {k : DirtyCollector} {phase : WriterPhase ω} {p : Panic} {s : ω}
      (ends : phase.Ends plugin (.panic p) s) :
      Moves plugin w l ⟨x, k, phase⟩ [.raised .writer (p.failure (name w.task))] l
        ⟨x, k, .failing (.checking (p.failure (name w.task)) w.now)⟩
  | go {x : Exchanger} {k : DirtyCollector} {s : ω} {d d' : Receiving} {cs : List Crossing}
      {l' : Line} (h : d.Moves l w.instant cs l' d') :
      Moves plugin w l ⟨x, k, .calling s d⟩ [] l' ⟨x, k, .calling s d'⟩
  | back {x : Exchanger} {k : DirtyCollector} {s : ω} (batch : List Record) :
      Moves plugin w l ⟨x, k, .calling s (.returned batch)⟩ [.handed (x.accept batch).next.2] l
        ⟨(x.accept batch).next.1, k,
          .running (plugin.resume s (some (x.accept batch).next.2))⟩
  | leave {x : Exchanger} {k : DirtyCollector} {s : ω} (quiet : plugin.destroy s = none) :
      Moves plugin w l ⟨x, k, .destroying s (.ok ())⟩ [] l ⟨x, k, .shutting⟩
  | fail {x : Exchanger} {k : DirtyCollector} {s : ω} (e : PluginError)
      (quiet : plugin.destroy s = none) :
      Moves plugin w l ⟨x, k, .destroying s (.error e)⟩ [] l
        ⟨x, k, .failing (.checking (.ofPlugin e) w.now)⟩
  | shut {x : Exchanger} {k : DirtyCollector} :
      Moves plugin w l ⟨x, k, .shutting⟩ [] l.close ⟨x, k, .finished⟩
  | settle {x : Exchanger} {k : DirtyCollector} {f : Failing} (going : f ≠ .done) :
      Moves plugin w l ⟨x, k, .failing f⟩ [] { l with status := (f.step l.status).1 }
        ⟨x, k, .failing (f.step l.status).2⟩
  | settled {x : Exchanger} {k : DirtyCollector} :
      Moves plugin w l ⟨x, k, .failing .done⟩ [] l ⟨x, k, .closing⟩
  | close {x : Exchanger} {k : DirtyCollector} :
      Moves plugin w l ⟨x, k, .closing⟩ [] l.close ⟨x, k, .finished⟩

section Inversion

variable {plugin : Writer ω} {w : Surroundings} {l : Line}

theorem moves_of_receive {x : Exchanger} {k : DirtyCollector} {s : ω}
    {m : ThreadStep (WriterThread ω)} (ha : plugin.act s = .call .receive)
    (h : act plugin w l ⟨x, k, .running s⟩ s = some m) :
    Moves plugin w l ⟨x, k, .running s⟩ (events plugin w.task ⟨x, k, .running s⟩) m.line
      m.thread := by
  simp only [act, ha, events] at h ⊢
  cases refill : x.refill? with
  | some d =>
    rw [refill] at h
    cases h
    unfold Exchanger.refill? at refill
    split at refill
    · rename_i empty
      cases refill
      have empty : x.incoming = [] ∧ x.ended = false := by simpa using empty
      exact .ask ha empty.1 empty.2
    · cases refill
  | none =>
    rw [refill] at h
    cases h
    unfold Exchanger.refill? at refill
    split at refill
    · cases refill
    · rename_i ready
      refine .next ha ?_
      cases he : x.ended with
      | true => exact .inr rfl
      | false => exact .inl (by simpa [he] using ready)

theorem moves_of_act {x : Exchanger} {k : DirtyCollector} {s : ω} {m : ThreadStep (WriterThread ω)}
    (h : act plugin w l ⟨x, k, .running s⟩ s = some m) :
    Moves plugin w l ⟨x, k, .running s⟩ (events plugin w.task ⟨x, k, .running s⟩) m.line
      m.thread := by
  have aside : ∀ {a : PluginAct ReceiverCall}, plugin.act s = a → a.IsAside →
      Moves plugin w l ⟨x, k, .running s⟩ [] (a.beside l)
        ⟨x, k, .running (plugin.resume s none)⟩ := by
    rintro _ rfl h
    exact .aside h
  cases ha : plugin.act s with
  | call c => cases c; exact moves_of_receive ha h
  | collect r e => simp only [act, ha, events] at h ⊢; cases h; exact .dirty ha
  | note key text => simp only [act, ha, events] at h ⊢; cases h; exact aside ha trivial
  | tell n => simp only [act, ha, events] at h ⊢; cases h; exact aside ha trivial
  | wait ready =>
    simp only [act, ha, events] at h ⊢
    split at h
    · cases h; exact aside ha trivial
    · cases h
  | elapse millis => simp only [act, ha, events] at h ⊢; cases h; exact aside ha trivial
  | finish e =>
    simp only [act, ha, events] at h ⊢
    cases e with
    | ok => cases h; exact .finish ha
    | error e => cases h; exact .fails (.body ha)
    | panic p => cases h; exact .panics (.body ha)

theorem moves_of_step {t : WriterThread ω} {m : ThreadStep (WriterThread ω)}
    (h : t.step plugin w l = some m) :
    Moves plugin w l t (t.events plugin w.task) m.line m.thread := by
  obtain ⟨x, k, phase⟩ := t
  cases phase with
  | init s =>
    simp only [step, events] at h ⊢
    rcases hi : plugin.init s with ⟨e, s'⟩
    rw [hi] at h
    cases e with
    | ok => cases h; exact .init hi
    | error e => cases h; exact .fails (.init hi)
    | panic p => cases h; exact .panics (.init hi)
  | starting s => cases h; exact .start
  | running s => exact moves_of_act h
  | calling s d =>
    have other : ((d.step l w.instant).map fun next =>
        ThreadStep.quiet next.1 (goTo ⟨x, k, .calling s d⟩ (.calling s next.2))) = some m →
        Moves plugin w l ⟨x, k, .calling s d⟩ [] m.line m.thread := by
      intro h
      obtain ⟨⟨l₁, d₁⟩, hd, e⟩ := Option.map_eq_some_iff.mp h
      cases e
      exact .go (Receiving.moves_of_step hd)
    cases d with
    | returned batch => cases h; exact .back batch
    | taking => exact other h
    | waiting => exact other h
  | destroying s r =>
    simp only [step, events] at h ⊢
    cases hd : plugin.destroy s with
    | some p => rw [hd] at h; cases h; exact .panics (.destroy r hd)
    | none =>
      rw [hd] at h
      cases r with
      | ok u => cases u; cases h; exact .leave hd
      | error e => cases h; exact .fail e hd
  | shutting => cases h; exact .shut
  | failing f =>
    cases f with
    | done => cases h; exact .settled
    | checking | capturing | settling => cases h; exact .settle nofun
  | closing => cases h; exact .close
  | finished => cases h

end Inversion

theorem Moves.side?_eq {plugin : Writer ω} {w : Surroundings} {l l' : Line} {t t' : WriterThread ω}
    {es : List AttemptEvent} (h : t.Moves plugin w l es l' t') : ∀ e ∈ es, e.side? = some .writer := by
  cases h <;> simp [AttemptEvent.side?]

end WriterThread

/-! ## What is left of a step without its plugin -/

theorem Sending.Moves.standing_eq {l l' : Line} {cs : List Crossing} {now : Nanos} {d d' : Sending}
    (h : d.Moves l now cs l' d') : l'.status.standing = l.status.standing := by
  cases h <;> rfl

theorem Receiving.Moves.standing_eq {l l' : Line} {cs : List Crossing} {now : Nanos}
    {d d' : Receiving} (h : d.Moves l now cs l' d') : l'.status.standing = l.status.standing := by
  cases h <;> rfl

namespace ReaderPhase

variable {ρ : Type} {plugin : Reader ρ} {phase : ReaderPhase ρ} {e : Ending} {s : ρ}

theorem Ends.stage_eq (h : phase.Ends plugin e s) : phase.stage = .working := by cases h <;> rfl

end ReaderPhase

namespace WriterPhase

variable {ω : Type} {plugin : Writer ω} {phase : WriterPhase ω} {e : Ending} {s : ω}

theorem Ends.stage_eq (h : phase.Ends plugin e s) : phase.stage = .working := by cases h <;> rfl

end WriterPhase

theorem ReaderThread.Moves.stage {ρ : Type} {plugin : Reader ρ} {w : Surroundings} {l l' : Line}
    {t t' : ReaderThread ρ} {es : List AttemptEvent} (h : t.Moves plugin w l es l' t') :
    ThreadStage.Moves l.status t.phase.stage l'.status t'.phase.stage := by
  cases h with
  | init | start | call | finish | answer | ended => exact .work rfl
  | dirty => exact .work (DirtyCollector.standing_account _ _ _ _ _)
  | aside => exact .work (PluginAct.standing_beside _ _)
  | fails ends => rw [ends.stage_eq]; exact .work rfl
  | panics ends => rw [ends.stage_eq]; exact .fail _ _
  | go h => exact .work h.standing_eq
  | ending h => exact .work h.standing_eq
  | leave => exact .leave
  | fail => exact .fail _ _
  | settle going => exact .step going
  | settled => exact .failed
  | close => exact .close

theorem WriterThread.Moves.stage {ω : Type} {plugin : Writer ω} {w : Surroundings} {l l' : Line}
    {t t' : WriterThread ω} {es : List AttemptEvent} (h : t.Moves plugin w l es l' t') :
    ThreadStage.Moves l.status t.phase.stage l'.status t'.phase.stage := by
  cases h with
  | init | start | ask | next | finish | back | leave => exact .work rfl
  | dirty => exact .work (DirtyCollector.standing_account _ _ _ _ _)
  | aside => exact .work (PluginAct.standing_beside _ _)
  | fails ends => rw [ends.stage_eq]; exact .work rfl
  | panics ends => rw [ends.stage_eq]; exact .fail _ _
  | go h => exact .work h.standing_eq
  | shut => exact .leave
  | fail => exact .fail _ _
  | settle going => exact .step going
  | settled => exact .failed
  | close => exact .close

/-! ## What a step does to the line -/

@[simp] theorem TaskStatus.count_sample (s : TaskStatus) (d : DirtySample) (n : Nat) (c : Counter) :
    (s.sample d n).count c = s.count c := by
  unfold sample
  split <;> rfl

/-- A dirty record counts in two counters of its side alone. -/
theorem DirtyCollector.count_account (side : Side) (n : Nat) (s : TaskStatus) (r : Record)
    (e : PluginError) {c : Counter} (records : c ≠ side.dirtyRecords) (bytes : c ≠ side.dirtyBytes) :
    (account side n s r e).count c = s.count c := by
  unfold account
  rw [TaskStatus.count_sample, TaskStatus.count_add_of_ne _ _ bytes,
    TaskStatus.count_add_of_ne _ _ records]

/-- A dirty record is nothing that the channel counts. -/
theorem DirtyCollector.agrees_account (side : Side) (n : Nat) (s : TaskStatus) (r : Record)
    (e : PluginError) : s.Agrees (account side n s r e) := by
  intro c hc
  apply DirtyCollector.count_account
  · rintro rfl; cases side <;> simp [trafficCounters, Side.dirtyRecords] at hc
  · rintro rfl; cases side <;> simp [trafficCounters, Side.dirtyBytes] at hc

theorem Failing.counters_step (f : Failing) (s : TaskStatus) :
    (f.step s).1.counters = s.counters := by
  cases f with
  | checking f n => unfold step; dsimp only; split <;> rfl
  | capturing f n => rfl
  | settling n => unfold step TaskStatus.settleFailed; dsimp only; split <;> rfl
  | done => rfl

theorem Failing.count_step (f : Failing) (s : TaskStatus) (c : Counter) :
    (f.step s).1.count c = s.count c := by
  unfold TaskStatus.count
  rw [f.counters_step]

theorem PluginAct.change_beside {κ : Type} (a : PluginAct κ) (l : Line) :
    l.Change [] (a.beside l) := by
  cases a with
  | note key text => exact .restate _ fun c _ => rfl
  | call | collect | tell | wait | elapse | finish => exact .idle

/-- A step of the reader's thread changes the line. -/
theorem ReaderThread.Moves.change {ρ : Type} {plugin : Reader ρ} {w : Surroundings} {l l' : Line}
    {t t' : ReaderThread ρ} {es : List AttemptEvent} (h : t.Moves plugin w l es l' t') :
    ∃ cs, l.Change cs l' := by
  cases h with
  | dirty => exact ⟨[], .restate _ (DirtyCollector.agrees_account _ _ _ _ _)⟩
  | aside => exact ⟨[], PluginAct.change_beside _ _⟩
  | go h => exact ⟨_, h.change⟩
  | ending h => exact ⟨_, h.change⟩
  | settle => exact ⟨[], .restate _ fun c _ => Failing.count_step _ _ _⟩
  | close => exact ⟨[], .close⟩
  | init | start | call | finish | fails | panics | answer | ended | leave | fail | settled =>
    exact ⟨[], .idle⟩

/-- A step of the writer's thread changes the line. -/
theorem WriterThread.Moves.change {ω : Type} {plugin : Writer ω} {w : Surroundings} {l l' : Line}
    {t t' : WriterThread ω} {es : List AttemptEvent} (h : t.Moves plugin w l es l' t') :
    ∃ cs, l.Change cs l' := by
  cases h with
  | dirty => exact ⟨[], .restate _ (DirtyCollector.agrees_account _ _ _ _ _)⟩
  | aside => exact ⟨[], PluginAct.change_beside _ _⟩
  | go h => exact ⟨_, h.change⟩
  | settle => exact ⟨[], .restate _ fun c _ => Failing.count_step _ _ _⟩
  | shut => exact ⟨[], .close⟩
  | close => exact ⟨[], .close⟩
  | init | start | ask | next | finish | fails | panics | back | leave | fail | settled =>
    exact ⟨[], .idle⟩

end BatchSync
