import BatchSync.Proofs.Attempt.Threads

/-!
# The lives of plugins

An instance of a plugin is called by the thread that was started for it, and by nobody else: `init` comes
first, then the body is started if `init` came to a good end, and `destroy` comes last, unless one of them
panicked, which leaves it out.

1. `LifeStage.Fits` says which calls there were when a life has come to a stage, and `LifeStage.Fits.moves`
   keeps it over the calls of a step.
2. `ReaderThread.life_of_step` and `WriterThread.life_of_step` follow the life of an instance through the
   steps of its thread, and `told_of_step` says what is told of them.
-/

namespace BatchSync

/-! ## Lives -/

/-- Whether a call ends in a panic. -/
def Ending.isPanic : Ending → Bool
  | .panic _ => true
  | _ => false

/-- What is done to an instance of a plugin, and how that ends. -/
inductive PluginCall where
  | init (e : Ending)
  /-- The body is started. -/
  | start
  /-- The body has come to an end. -/
  | stop (e : Ending)
  /-- The panic in which `destroy` ends, if it does. -/
  | destroy (p : Option Panic)

/-- What is told of a call. -/
def PluginCall.event? : PluginCall → Option PluginEvent
  | .init _ => some .init
  | .start => some .start
  | .stop _ => none
  | .destroy _ => some .destroy

/-- Whether an event is told of a call of an instance. -/
def PluginEvent.isCall : PluginEvent → Bool
  | .init => true
  | .start => true
  | .destroy => true
  | _ => false

/-- How far the life of an instance has come. -/
inductive LifeStage where
  /-- Nothing was called yet. -/
  | fresh
  /-- `init` came to a good end. -/
  | ready
  /-- The body is under way. -/
  | working
  /-- About to be destroyed. -/
  | spent
  /-- Nothing is called any more. -/
  | ended

/-- The calls of an instance that is about to be destroyed. -/
inductive Spent : List PluginCall → Prop
  | failed (e : PluginError) : Spent [.init (.error e)]
  | stopped {e : Ending} (calm : e.isPanic = false) : Spent [.init .ok, .start, .stop e]

/-- The calls of a whole life. -/
inductive WholeLife : List PluginCall → Prop
  | destroyed {calls : List PluginCall} (spent : Spent calls) (p : Option Panic) :
      WholeLife (calls ++ [.destroy p])
  /-- Nothing is called after a panic of `init`. -/
  | initPanicked (p : Panic) : WholeLife [.init (.panic p)]
  /-- Nothing is called after a panic of the body. -/
  | bodyPanicked (p : Panic) : WholeLife [.init .ok, .start, .stop (.panic p)]

/-- In a whole life, `destroy` is left out just if there was a panic before. -/
theorem WholeLife.destroy_mem_iff {calls : List PluginCall} (h : WholeLife calls) :
    (∃ p, .destroy p ∈ calls) ↔ ∀ x, .init (.panic x) ∉ calls ∧ .stop (.panic x) ∉ calls := by
  cases h with
  | initPanicked p => simp
  | bodyPanicked p => simp
  | destroyed spent p =>
    have calm : ∀ {e : Ending}, e.isPanic = false → ∀ x, e ≠ .panic x := by
      rintro _ he x rfl
      cases he
    cases spent with
    | failed e => simp
    | stopped he => simpa using fun x => (calm he x).symm

namespace LifeStage

/-- Whether a life with some calls has come to a stage. -/
def Fits : LifeStage → List PluginCall → Prop
  | .fresh, calls => calls = []
  | .ready, calls => calls = [.init .ok]
  | .working, calls => calls = [.init .ok, .start]
  | .spent, calls => Spent calls
  | .ended, calls => WholeLife calls

/-- All that a step of a thread can do to the life of its instance. -/
inductive Moves : LifeStage → List PluginCall → LifeStage → Prop
  | idle {g : LifeStage} : Moves g [] g
  | init : Moves .fresh [.init .ok] .ready
  | initFails (e : PluginError) : Moves .fresh [.init (.error e)] .spent
  | initPanics (p : Panic) : Moves .fresh [.init (.panic p)] .ended
  | start : Moves .ready [.start] .working
  | stop {e : Ending} (calm : e.isPanic = false) : Moves .working [.stop e] .spent
  | bodyPanics (p : Panic) : Moves .working [.stop (.panic p)] .ended
  | destroy (p : Option Panic) : Moves .spent [.destroy p] .ended

theorem Fits.moves {g g' : LifeStage} {calls new : List PluginCall} (h : g.Fits calls)
    (hm : g.Moves new g') : g'.Fits (calls ++ new) := by
  cases hm with
  | idle => rw [List.append_nil]; exact h
  | init => cases h; rfl
  | initFails e => cases h; exact .failed e
  | initPanics p => cases h; exact .initPanicked p
  | start => cases h; rfl
  | stop calm => cases h; exact .stopped calm
  | bodyPanics p => cases h; exact .bodyPanicked p
  | destroy p => exact .destroyed h p

/-- The calls at any time are the first ones of a whole life. -/
theorem Fits.exists_whole {g : LifeStage} {calls : List PluginCall} (h : g.Fits calls) :
    ∃ whole, WholeLife whole ∧ calls <+: whole := by
  have calm : Ending.ok.isPanic = false := rfl
  have plain : WholeLife [.init .ok, .start, .stop .ok, .destroy none] := .destroyed (.stopped calm) none
  cases g with
  | fresh => cases h; exact ⟨_, plain, List.nil_prefix⟩
  | ready => cases h; exact ⟨_, plain, _, rfl⟩
  | working => cases h; exact ⟨_, plain, _, rfl⟩
  | spent => exact ⟨_, .destroyed h none, List.prefix_append _ _⟩
  | ended => exact ⟨_, h, List.prefix_rfl⟩

end LifeStage

/-- Nothing is told of a step of a call to the channel. -/
theorem ThreadStep.told_of_quiet {α β : Type} {o : Option (Line × α)} {f : Line × α → β}
    {s : ThreadStep β} (h : (o.map fun n => ThreadStep.quiet n.1 (f n)) = some s) :
    s.events.filter PluginEvent.isCall = [] := by
  obtain ⟨n, -, rfl⟩ := Option.map_eq_some_iff.mp h
  rfl

/-! ## The instance of a reader -/

/-- How far the life of the instance has come in a phase. -/
def ReaderPhase.life {ρ : Type} : ReaderPhase ρ → LifeStage
  | .init _ => .fresh
  | .starting _ => .ready
  | .running _ => .working
  | .calling _ _ => .working
  | .terminating _ _ => .spent
  | .destroying _ _ => .spent
  | .failing _ => .ended
  | .closing => .ended
  | .finished => .ended

namespace ReaderThread

variable {ρ : Type} {plugin : Reader ρ} {w : Surroundings} {l l' : Line} {t t' : ReaderThread ρ}

/-- What the next step does to the instance. -/
def calls (plugin : Reader ρ) (t : ReaderThread ρ) : List PluginCall :=
  match t.phase with
  | .init s => [.init (plugin.init s).1]
  | .starting _ => [.start]
  | .running s =>
    match plugin.act s with
    | .finish e => [.stop e]
    | _ => []
  | .destroying s _ => [.destroy (plugin.destroy s)]
  | _ => []

theorem Moves.life {es : List AttemptEvent} (h : t.Moves plugin w l es l' t') :
    t.phase.life.Moves (t.calls plugin) t'.phase.life := by
  cases h with
  | init h => simp only [calls, h]; exact .init
  | start => exact .start
  | call h => simp only [calls, h]; exact .idle
  | dirty h => simp only [calls, h]; exact .idle
  | @aside x k s h =>
    cases ha : plugin.act s with
    | note | tell | wait | elapse => simp only [calls, ha]; exact .idle
    | call | collect | finish => rw [ha] at h; cases h
  | finish h => simp only [calls, h]; exact .stop rfl
  | fails ends =>
    cases ends with
    | init h => simp only [calls, h]; exact .initFails _
    | body h => simp only [calls, h]; exact .stop rfl
  | panics ends =>
    cases ends with
    | init h => simp only [calls, h]; exact .initPanics _
    | body h => simp only [calls, h]; exact .bodyPanics _
    | destroy r h => simp only [calls, h]; exact .destroy _
  | leave quiet => simp only [calls, quiet]; exact .destroy _
  | fail e quiet => simp only [calls, quiet]; exact .destroy _
  | go | answer | ending | ended | settle | settled | close => exact .idle

/-- A step of the thread takes the life of its instance on. -/
theorem life_of_step {m : ThreadStep (ReaderThread ρ)} (h : t.step plugin w l = some m) :
    t.phase.life.Moves (t.calls plugin) m.thread.phase.life :=
  (moves_of_step h).life

/-- What is told of a step is what it does to the instance. -/
theorem told_of_step {m : ThreadStep (ReaderThread ρ)} (h : t.step plugin w l = some m) :
    m.events.filter PluginEvent.isCall = (t.calls plugin).filterMap PluginCall.event? := by
  obtain ⟨x, k, phase⟩ := t
  cases phase with
  | init s | starting s | destroying s r => cases h; rfl
  | running s =>
    simp only [step, act] at h
    simp only [calls]
    cases ha : plugin.act s with
    | wait ready =>
      rw [ha] at h
      dsimp only at h
      split at h <;> cases h
      rfl
    | finish e => rw [ha] at h; cases e <;> cases h <;> rfl
    | call | collect | note | tell | elapse => rw [ha] at h; cases h; rfl
  | calling s d =>
    cases d with
    | returned | closing => cases h; rfl
    | pushing | waiting | metering | pausing => exact ThreadStep.told_of_quiet h
  | terminating s d =>
    cases d with
    | returned | closing => cases h; rfl
    | pushing | waiting | metering | pausing => exact ThreadStep.told_of_quiet h
  | failing f => cases f <;> cases h <;> rfl
  | closing => cases h; rfl
  | finished => cases h

end ReaderThread

/-! ## The instance of a writer -/

/-- How far the life of the instance has come in a phase. -/
def WriterPhase.life {ω : Type} : WriterPhase ω → LifeStage
  | .init _ => .fresh
  | .starting _ => .ready
  | .running _ => .working
  | .calling _ _ => .working
  | .destroying _ _ => .spent
  | .shutting => .ended
  | .failing _ => .ended
  | .closing => .ended
  | .finished => .ended

namespace WriterThread

variable {ω : Type} {plugin : Writer ω} {w : Surroundings} {l l' : Line} {t t' : WriterThread ω}

/-- What the next step does to the instance. -/
def calls (plugin : Writer ω) (t : WriterThread ω) : List PluginCall :=
  match t.phase with
  | .init s => [.init (plugin.init s).1]
  | .starting _ => [.start]
  | .running s =>
    match plugin.act s with
    | .finish e => [.stop e]
    | _ => []
  | .destroying s _ => [.destroy (plugin.destroy s)]
  | _ => []

theorem Moves.life {es : List AttemptEvent} (h : t.Moves plugin w l es l' t') :
    t.phase.life.Moves (t.calls plugin) t'.phase.life := by
  cases h with
  | init h => simp only [calls, h]; exact .init
  | start => exact .start
  | ask h => simp only [calls, h]; exact .idle
  | next h => simp only [calls, h]; exact .idle
  | dirty h => simp only [calls, h]; exact .idle
  | @aside x k s h =>
    cases ha : plugin.act s with
    | note | tell | wait | elapse => simp only [calls, ha]; exact .idle
    | call | collect | finish => rw [ha] at h; cases h
  | finish h => simp only [calls, h]; exact .stop rfl
  | fails ends =>
    cases ends with
    | init h => simp only [calls, h]; exact .initFails _
    | body h => simp only [calls, h]; exact .stop rfl
  | panics ends =>
    cases ends with
    | init h => simp only [calls, h]; exact .initPanics _
    | body h => simp only [calls, h]; exact .bodyPanics _
    | destroy r h => simp only [calls, h]; exact .destroy _
  | leave quiet => simp only [calls, quiet]; exact .destroy _
  | fail e quiet => simp only [calls, quiet]; exact .destroy _
  | go | back | shut | settle | settled | close => exact .idle

/-- A step of the thread takes the life of its instance on. -/
theorem life_of_step {m : ThreadStep (WriterThread ω)} (h : t.step plugin w l = some m) :
    t.phase.life.Moves (t.calls plugin) m.thread.phase.life :=
  (moves_of_step h).life

/-- What is told of a step is what it does to the instance. -/
theorem told_of_step {m : ThreadStep (WriterThread ω)} (h : t.step plugin w l = some m) :
    m.events.filter PluginEvent.isCall = (t.calls plugin).filterMap PluginCall.event? := by
  obtain ⟨x, k, phase⟩ := t
  cases phase with
  | init s | starting s | destroying s r => cases h; rfl
  | running s =>
    simp only [step, act] at h
    simp only [calls]
    cases ha : plugin.act s with
    | call c =>
      cases c
      rw [ha] at h
      dsimp only at h
      split at h <;> cases h <;> rfl
    | wait ready =>
      rw [ha] at h
      dsimp only at h
      split at h <;> cases h
      rfl
    | finish e => rw [ha] at h; cases e <;> cases h <;> rfl
    | collect | note | tell | elapse => rw [ha] at h; cases h; rfl
  | calling s d =>
    cases d with
    | returned batch => cases h; rfl
    | taking | waiting => exact ThreadStep.told_of_quiet h
  | shutting => cases h; rfl
  | failing f => cases f <;> cases h <;> rfl
  | closing => cases h; rfl
  | finished => cases h

end WriterThread

end BatchSync
