import BatchSync.Proofs.Attempt.Lives
import BatchSync.Proofs.Group.Leads
import BatchSync.Proofs.Group.Passage

/-!
# The lives of plugins in a group

What is done to the instances of all attempts in a run (`Chronicle.callsOf`), whatever the plugins do and
however threads, drivers and clock take turns.

1. `Group.Lives` says what a move does to the lives of the instances, and what is told of it;
   `Group.lives_of_step` proves it of every move.
2. `Chronicle.lives_of_run` carries it over a run, and `Chronicle.lives_of_plugins` says what a thread that
   has left its plugin has done to it.
-/

namespace BatchSync

variable {ρ ω : Type}

/-! ## The instances of attempts -/

/-- What the next step of the thread of a side does to its instance. -/
def AttemptThreads.calls (p : GroupPlugins ρ ω) (th : AttemptThreads ρ ω) : Side → List PluginCall
  | .reader => th.reader.calls p.reader
  | .writer => th.writer.calls p.writer

/-- How far the life of the instance of a side has come. -/
def AttemptThreads.life (th : AttemptThreads ρ ω) : Side → LifeStage
  | .reader => th.reader.phase.life
  | .writer => th.writer.phase.life

/-- Nothing is called any more by a thread that has left its plugin. -/
theorem AttemptThreads.life_of_stage {th : AttemptThreads ρ ω} {side : Side}
    (left : th.stage side ≠ .working) : th.life side = .ended := by
  cases side with
  | reader =>
    unfold stage at left
    unfold life
    cases hp : th.reader.phase with
    | failing | closing | finished => rfl
    | _ => rw [hp] at left; exact absurd rfl left
  | writer =>
    unfold stage at left
    unfold life
    cases hp : th.writer.phase with
    | failing | closing | finished => rfl
    | _ => rw [hp] at left; exact absurd rfl left

/-- Whether a move is a step of the thread of a side of an attempt. -/
def GroupMove.isOf (m : GroupMove) (a : Nat) (side : Side) : Bool :=
  match m with
  | .reader b => b = a ∧ side = .reader
  | .writer b => b = a ∧ side = .writer
  | _ => false

namespace Group

/-- The threads of an attempt, if they were started. -/
def threads? (g : Group ρ ω) (a : Nat) : Option (AttemptThreads ρ ω) :=
  (g.attempts[a]?).bind Attempt.threads

/-- How far the life of the instance of a side of an attempt has come. -/
def life (g : Group ρ ω) (a : Nat) (side : Side) : LifeStage :=
  (g.threads? a).elim .fresh fun th => th.life side

/-- What a move does to the instance of a side of an attempt. -/
def callsOf (p : GroupPlugins ρ ω) (g : Group ρ ω) (m : GroupMove) (a : Nat) (side : Side) :
    List PluginCall :=
  if m.isOf a side then (g.threads? a).elim [] fun th => th.calls p side else []

/-- What was told of the calls of the instance of a side of an attempt. -/
def toldOf (g : Group ρ ω) (a : Nat) (side : Side) : List PluginEvent :=
  ((g.journal.filter fun e => e.attempt = a ∧ e.side = side).map JournalEntry.event).filter
    PluginEvent.isCall

/-- What a move does to the lives of instances, and what is told of it. -/
structure Lives (p : GroupPlugins ρ ω) (g : Group ρ ω) (m : GroupMove) (g' : Group ρ ω) (a : Nat)
    (side : Side) : Prop where
  moves : (g.life a side).Moves (g.callsOf p m a side) (g'.life a side)
  told : g'.toldOf a side = g.toldOf a side ++ (g.callsOf p m a side).filterMap PluginCall.event?

variable {p : GroupPlugins ρ ω} {g g' : Group ρ ω} {m : GroupMove} {a : Nat} {side : Side}

/-- A move that is no step of the thread leaves the life of its instance, if it leaves the thread. -/
theorem lives_idle (other : m.isOf a side = false) (life : g'.life a side = g.life a side)
    (told : g'.toldOf a side = g.toldOf a side) : g.Lives p m g' a side := by
  have none_ : g.callsOf p m a side = [] := by
    unfold callsOf
    rw [other, if_neg Bool.false_ne_true]
  constructor
  · rw [none_, life]
    exact .idle
  · rw [none_, told]
    exact (List.append_nil _).symm

theorem toldOf_tell (g : Group ρ ω) (b : Nat) (own : Side) (events : List PluginEvent) (a : Nat)
    (side : Side) : (g.tell b own events).toldOf a side =
      g.toldOf a side ++ if b = a ∧ own = side then events.filter PluginEvent.isCall else [] := by
  have entries : ∀ es : List PluginEvent,
      ((es.map fun e => JournalEntry.mk b own e).filter fun e => e.attempt = a ∧ e.side = side).map
        JournalEntry.event = if b = a ∧ own = side then es else [] := by
    intro es
    rw [List.filter_map, List.map_map]
    by_cases here : b = a ∧ own = side
    · simp [here, Function.comp_def]
    · simp [here, Function.comp_def]
  show (((g.journal ++ events.map _).filter _).map _).filter _ = _
  rw [List.filter_append, List.map_append, List.filter_append, entries]
  congr 1
  split <;> rfl

/-- What a step of the thread of a side does to its instance, the other one left alone. -/
theorem lives_took {b : Nat} {own : Side} {t t' : Attempt ρ ω} {th th' : AttemptThreads ρ ω}
    {s : ThreadStep (Attempt ρ ω)} (found : g.attempts[b]? = some t) (threads : t.threads = some th)
    (thread : s.thread = t') (threads' : t'.threads = some th')
    (isOf : m.isOf a side = decide (b = a ∧ side = own))
    (moves : (th.life own).Moves (th.calls p own) (th'.life own))
    (alone : ∀ o, o ≠ own → th'.life o = th.life o)
    (told : s.events.filter PluginEvent.isCall = (th.calls p own).filterMap PluginCall.event?) :
    g.Lives p m (g.took b own s) a side := by
  have before : g.threads? b = some th := by
    unfold threads?
    rw [found]
    exact threads
  have after : ∀ c, (g.took b own s).threads? c = if b = c then some th' else g.threads? c := by
    intro c
    show ((g.attempts.set b s.thread)[c]?).bind _ = _
    by_cases here : b = c
    · subst here
      rw [List.getElem?_set_self (List.getElem?_eq_some_iff.mp found).1, thread, if_pos rfl]
      exact threads'
    · rw [List.getElem?_set_ne here, if_neg here]
      rfl
  have journal : (g.took b own s).toldOf a side = g.toldOf a side ++
      if b = a ∧ own = side then s.events.filter PluginEvent.isCall else [] :=
    toldOf_tell _ _ _ _ _ _
  by_cases here : b = a
  · subst here
    by_cases mine : side = own
    · subst mine
      have calls : g.callsOf p m b side = th.calls p side := by
        unfold callsOf
        rw [isOf, before]
        simp
      constructor
      · unfold life
        rw [calls, before, after, if_pos rfl]
        exact moves
      · rw [journal, if_pos ⟨rfl, rfl⟩, calls, told]
    · refine lives_idle (by rw [isOf]; simp [mine]) ?_ ?_
      · unfold life
        rw [before, after, if_pos rfl]
        exact alone side mine
      · rw [journal, if_neg (fun h => mine h.2.symm), List.append_nil]
  · refine lives_idle (by rw [isOf]; simp [here]) ?_ ?_
    · unfold life
      rw [after, if_neg here]
    · rw [journal, if_neg (fun h => here h.1), List.append_nil]

theorem lives_of_stepReader {b : Nat} (h : g.stepReader p b = some g') (a : Nat) (side : Side) :
    g.Lives p (.reader b) g' a side := by
  obtain ⟨t, found, h⟩ := Option.bind_eq_some_iff.mp h
  obtain ⟨s, hs, h⟩ := Option.bind_eq_some_iff.mp h
  cases h
  obtain ⟨th, threads, hs⟩ := Option.bind_eq_some_iff.mp hs
  obtain ⟨s', hs', hs⟩ := Option.bind_eq_some_iff.mp hs
  cases hs
  refine lives_took found threads rfl rfl (by simp [GroupMove.isOf]) (ReaderThread.life_of_step hs') ?_
    (ReaderThread.told_of_step hs')
  intro o ho
  cases o with
  | reader => exact absurd rfl ho
  | writer => rfl

theorem lives_of_stepWriter {b : Nat} (h : g.stepWriter p b = some g') (a : Nat) (side : Side) :
    g.Lives p (.writer b) g' a side := by
  obtain ⟨t, found, h⟩ := Option.bind_eq_some_iff.mp h
  obtain ⟨s, hs, h⟩ := Option.bind_eq_some_iff.mp h
  cases h
  obtain ⟨th, threads, hs⟩ := Option.bind_eq_some_iff.mp hs
  obtain ⟨s', hs', hs⟩ := Option.bind_eq_some_iff.mp hs
  cases hs
  refine lives_took found threads rfl rfl (by simp [GroupMove.isOf]) (WriterThread.life_of_step hs') ?_
    (WriterThread.told_of_step hs')
  intro o ho
  cases o with
  | reader => rfl
  | writer => exact absurd rfl ho

/-- Drivers call no instances. -/
theorem toldOf_stepDriver {d : Nat} (holds : g.Holds) (h : g.stepDriver d = some g') (a : Nat)
    (side : Side) : g'.toldOf a side = g.toldOf a side := by
  obtain ⟨phase, at_, -⟩ := Option.bind_eq_some_iff.mp h
  have journal := (watched_of_stepDriver holds at_ h).2
  have asked : ∀ (b number : Nat) (own : Side), g'.journal = (g.tell b own [.created number]).journal →
      g'.toldOf a side = g.toldOf a side := by
    intro b number own same
    have told := toldOf_tell g b own [.created number] a side
    unfold toldOf at told ⊢
    rw [same, told]
    split <;> exact List.append_nil _
  cases phase with
  | makingReader j b => exact asked _ _ _ journal
  | makingWriter j b r => exact asked _ _ _ journal
  | _ => unfold toldOf; rw [journal]; rfl

/-- Drivers start threads, and leave those that were started alone. -/
theorem Steps.life_eq {hs : List Happening} {d : Nat} (h : g.Steps p (.driver d) hs g')
    (holds : g.Holds)
    (known : ∀ {a : Nat} {u : Trial ρ ω}, g.trial? a = some u → u.Standing g.fatal) (a : Nat)
    (side : Side) : g'.life a side = g.life a side := by
  have same : g'.attempts = g.attempts → g'.life a side = g.life a side := by
    intro attempts
    unfold life threads?
    rw [attempts]
  cases h with
  | @tend d b phase phase' t t' es monitor journal at_ ha found ht =>
    have begun := (List.getElem?_eq_some_iff.mp found).1
    show ((((g.attempts.set b t')[a]?).bind Attempt.threads).elim LifeStage.fresh _) = _
    by_cases here : b = a
    · subst here
      rw [List.getElem?_set_self begun, Option.bind_some]
      unfold life threads?
      rw [found, Option.bind_some]
      rcases ht.threads_eq with kept | ⟨j, c, r, w, size, samples, rfl, started⟩
      · rw [kept]
      · have fresh : t.IsFresh := (known (holds.trial?_eq at_ ha found)).held rfl
        rw [started, fresh.1]
        cases side <;> rfl
    · rw [List.getElem?_set_ne here]
      rfl
  | @enter d j at_ going =>
    show ((((g.attempts ++ [g.freshAttempt j.spec])[a]?).bind Attempt.threads).elim
      LifeStage.fresh _) = _
    unfold life threads?
    rw [List.getElem?_append]
    split
    · rfl
    · rename_i ge
      rw [List.getElem?_eq_none (Nat.le_of_not_lt ge)]
      cases a - g.attempts.length <;> rfl
  | take | exit | enterStopped | succeed | again | giveUp | rest => exact same rfl

/-- A move of neither a thread nor a driver touches no attempt, and nothing is told of it. -/
theorem Steps.aside {hs : List Happening} (h : g.Steps p m hs g') (reader : ∀ a, m ≠ .reader a)
    (writer : ∀ a, m ≠ .writer a) (driver : ∀ d, m ≠ .driver d) :
    g'.attempts = g.attempts ∧ g'.journal = g.journal := by
  cases h with
  | report => exact ⟨attempts_enforce _ _, by rw [enforce_eq]⟩
  | finish =>
    show (g.enforce g.status).attempts = _ ∧ (g.enforce g.status).journal = _
    exact ⟨attempts_enforce _ _, by rw [enforce_eq]⟩
  | tick | pass => exact ⟨rfl, rfl⟩
  | reader => exact absurd rfl (reader _)
  | writer => exact absurd rfl (writer _)
  | tend | take | exit | enter | enterStopped | succeed | again | giveUp | rest =>
    exact absurd rfl (driver _)

theorem lives_aside (attempts : g'.attempts = g.attempts) (journal : g'.journal = g.journal)
    (other : m.isOf a side = false) : g.Lives p m g' a side := by
  refine lives_idle other ?_ ?_
  · unfold life threads?
    rw [attempts]
  · unfold toldOf
    rw [journal]

end Group

namespace Chronicle

variable {p : GroupPlugins ρ ω} {c c' : Chronicle ρ ω} {m : GroupMove}

/-- What every move does to the lives of instances. -/
theorem IsSteady.lives (steady : c.IsSteady) (goes : c.step p m = some c') (a : Nat) (side : Side) :
    c.group.Lives p m c'.group a side := by
  have hg := (step_eq_some goes).1
  have steps := steady.sound.steps goes
  cases m with
  | reader b => exact Group.lives_of_stepReader hg a side
  | writer b => exact Group.lives_of_stepWriter hg a side
  | driver d =>
    exact Group.lives_idle rfl (steps.life_eq steady.sound.holds (fun hu => (steady.known hu).1) a side)
      (Group.toldOf_stepDriver steady.sound.holds hg a side)
  | report | finish | tick | pass =>
    obtain ⟨attempts, journal⟩ := steps.aside nofun nofun nofun
    exact Group.lives_aside attempts journal rfl

/-! ## Runs -/

/-- What is done to the instance of a side of an attempt in a run. -/
def callsOf (p : GroupPlugins ρ ω) (a : Nat) (side : Side) (c : Chronicle ρ ω) :
    List GroupMove → List PluginCall
  | [] => []
  | m :: rest =>
    match c.step p m with
    | none => []
    | some c' => c.group.callsOf p m a side ++ callsOf p a side c' rest

/-- The life of an instance goes on in a run, and what is done to it is told. -/
theorem lives_of_run {a : Nat} {side : Side} {moves : List GroupMove} :
    ∀ {c c' : Chronicle ρ ω} {past : List PluginCall}, c.IsSteady → (c.group.life a side).Fits past →
      c.run p moves = some c' →
        (c'.group.life a side).Fits (past ++ c.callsOf p a side moves) ∧
        c'.group.toldOf a side =
          c.group.toldOf a side ++ (c.callsOf p a side moves).filterMap PluginCall.event? := by
  induction moves with
  | nil =>
    intro c c' past steady fits h
    cases h
    exact ⟨by rw [callsOf, List.append_nil]; exact fits, (List.append_nil _).symm⟩
  | cons m rest ih =>
    intro c c' past steady fits h
    simp only [run] at h
    cases goes : c.step p m with
    | none => rw [goes] at h; cases h
    | some c₁ =>
      rw [goes] at h
      have lives := steady.lives goes a side
      obtain ⟨fits', told⟩ := ih (steady.step goes) (fits.moves lives.moves) h
      have all : c.callsOf p a side (m :: rest) =
          c.group.callsOf p m a side ++ c₁.callsOf p a side rest := by
        simp only [callsOf, goes]
      rw [all]
      refine ⟨by rw [← List.append_assoc]; exact fits', ?_⟩
      rw [told, lives.told, List.append_assoc, List.filterMap_append]

/-- **The lives of plugins.** Whatever the plugins of a group do, and however threads, drivers and clock
take turns, for both instances of every attempt whose threads were started:
1. What was done to an instance so far is the beginning of a whole life: `init` first and once, then the
   body if `init` came to a good end, then `destroy`, and nothing after it.
2. Once its thread has left the plugin, it is a whole life, in which `destroy` is called unless `init` or
   the body panicked.
3. This is what is told of it. -/
theorem lives_of_plugins (p : GroupPlugins ρ ω) (config : CoreConfig) (now : Int)
    (tasks : List (TaskSpec ρ ω)) (moves : List GroupMove) {c : Chronicle ρ ω}
    (h : (start config now tasks).run p moves = some c) (a : Nat) {th : AttemptThreads ρ ω}
    (threads : c.group.threads? a = some th) (side : Side) :
    let calls := (start config now tasks).callsOf p a side moves
    (∃ whole, WholeLife whole ∧ calls <+: whole) ∧
      (th.stage side ≠ .working → WholeLife calls ∧
        ((∃ x, .destroy x ∈ calls) ↔ ∀ x, .init (.panic x) ∉ calls ∧ .stop (.panic x) ∉ calls)) ∧
      c.group.toldOf a side = calls.filterMap PluginCall.event? := by
  intro calls
  have fresh : ((start config now tasks).group.life a side).Fits [] := rfl
  obtain ⟨fits, told⟩ := lives_of_run (isSteady_start config now tasks) fresh h
  have life : c.group.life a side = th.life side := by
    unfold Group.life
    rw [threads]
    rfl
  rw [life, List.nil_append] at fits
  refine ⟨fits.exists_whole, fun left => ?_, told⟩
  rw [AttemptThreads.life_of_stage left] at fits
  have whole : WholeLife calls := fits
  exact ⟨whole, whole.destroy_mem_iff⟩

/-- Two plugins that come to a good end are destroyed. -/
theorem lives_of_plugins_toTheEnd :
    ∃ (c : Chronicle ScriptedReader ScriptedWriter) (th : AttemptThreads ScriptedReader ScriptedWriter),
      (start {} 0 [.ofScripts 0 (threeRecords.map .send) [.receive none none]]).run scripted
        (inTurn 14 14) = some c ∧
      c.group.threads? 0 = some th ∧ th.stage .reader ≠ .working ∧
      c.group.toldOf 0 .reader = [.init, .start, .destroy] ∧
      WholeLife ((start {} 0 [.ofScripts 0 (threeRecords.map .send) [.receive none none]]).callsOf
        scripted 0 .reader (inTurn 14 14)) := by
  refine ⟨_, _, rfl, rfl, nofun, ?_, ?_⟩
  · exact (lives_of_plugins scripted {} 0 [.ofScripts 0 (threeRecords.map .send) [.receive none none]]
      (inTurn 14 14) rfl 0 rfl .reader).2.2
  · exact ((lives_of_plugins scripted {} 0 [.ofScripts 0 (threeRecords.map .send) [.receive none none]]
      (inTurn 14 14) rfl 0 rfl .reader).2.1 nofun).1

/-- A reader that panics is not destroyed, though both threads come to their ends. -/
theorem panic_leaves_destroy_out :
    ∃ (c : Chronicle ScriptedReader ScriptedWriter) (th : AttemptThreads ScriptedReader ScriptedWriter),
      (start {} 0 [.ofScripts 0 [.shared (.panic ⟨some "boom"⟩)] [.receive none none]]).run scripted
        (inTurn 8 9) = some c ∧
      c.group.threads? 0 = some th ∧ th.stage .reader = .finished ∧ th.stage .writer = .finished ∧
      (start {} 0 [.ofScripts 0 [.shared (.panic ⟨some "boom"⟩)] [.receive none none]]).callsOf scripted 0
        .reader (inTurn 8 9) = [.init .ok, .start, .stop (.panic ⟨some "boom"⟩)] ∧
      c.group.toldOf 0 .reader = [.init, .start] ∧
      c.group.toldOf 0 .writer = [.init, .start, .destroy] :=
  ⟨_, _, rfl, rfl, rfl, rfl, rfl, rfl, rfl⟩

end Chronicle

end BatchSync
