import BatchSync.Proofs.Group.Leads
import BatchSync.Proofs.Group.Passage

/-!
# How the threads of an attempt end

A thread ends well if the body of its plugin came to a good end and nothing else of the plugin went
badly, or it leaves a failure behind in the attempt (`ReaderPhase.Tells`, `WriterPhase.Tells`). So if the
threads of an attempt have ended, and no failure was captured, both bodies have come to a good end
(`Chronicle.Leads.bodiesEndWell`).
-/

namespace BatchSync

open AttemptEvent

variable {ρ ω : Type}

/-! ## Plugins that come to a good end -/

/-- Nothing of the plugin of a side has gone badly. -/
def Unraised (side : Side) (es : List AttemptEvent) : Prop := ∀ f, .raised side f ∉ es

/-- The body of the plugin of a side has come to a good end, and nothing else of it has gone badly. -/
structure EndsWell (side : Side) (es : List AttemptEvent) : Prop where
  finished : .finished side ∈ es
  unraised : Unraised side es

/-- The body of the reader has come to a good end, and so has the stream behind it. -/
structure ReaderEndsWell (es : List AttemptEvent) : Prop extends EndsWell .reader es where
  ended : .ended (.ok ()) ∈ es

/-- The bodies of both plugins have come to a good end, and nothing else of them has gone badly. -/
structure BodiesEndWell (es : List AttemptEvent) : Prop where
  reader : ReaderEndsWell es
  writer : EndsWell .writer es

section Append

variable {side : Side} {es es' : List AttemptEvent}

theorem Unraised.append (h : Unraised side es) (h' : Unraised side es') : Unraised side (es ++ es') :=
  fun f hf => (List.mem_append.mp hf).elim (h f) (h' f)

theorem EndsWell.append (h : EndsWell side es) (h' : Unraised side es') : EndsWell side (es ++ es') :=
  ⟨List.mem_append_left _ h.finished, h.unraised.append h'⟩

theorem ReaderEndsWell.append (h : ReaderEndsWell es) (h' : Unraised .reader es') :
    ReaderEndsWell (es ++ es') :=
  ⟨h.toEndsWell.append h', List.mem_append_left _ h.ended⟩

theorem unraised_of_isOfDriver (h : ∀ e ∈ es, e.IsOfDriver) (side : Side) : Unraised side es :=
  fun _ hf => h _ hf

/-- What is told of one side says nothing of the plugin of the other. -/
theorem unraised_of_side?_eq {other : Side} (h : ∀ e ∈ es, e.side? = some other) (ne : other ≠ side) :
    Unraised side es :=
  fun f hf => ne (Option.some.inj (h (.raised side f) hf)).symm

end Append

/-! ## What threads leave behind -/

/-- What is told by the thread of a reader in a phase, where a failure may be captured. -/
def ReaderPhase.Tells (failure : Option Failure) (es : List AttemptEvent) : ReaderPhase ρ → Prop
  | .terminating _ _ => EndsWell .reader es
  | .destroying _ (.ok ()) => ReaderEndsWell es
  | .finished => ReaderEndsWell es ∨ failure.isSome = true
  | .destroying _ (.error _) => True
  | .failing _ => True
  | .closing => True
  | _ => Unraised .reader es

/-- What is told by the thread of a writer in a phase, where a failure may be captured. -/
def WriterPhase.Tells (failure : Option Failure) (es : List AttemptEvent) : WriterPhase ω → Prop
  | .destroying _ (.ok ()) => EndsWell .writer es
  | .shutting => EndsWell .writer es
  | .finished => EndsWell .writer es ∨ failure.isSome = true
  | .destroying _ (.error _) => True
  | .failing _ => True
  | .closing => True
  | _ => Unraised .writer es

section Tells

variable {failure failure' : Option Failure} {es es' : List AttemptEvent}

/-- What others tell does not matter. -/
theorem ReaderPhase.Tells.append {phase : ReaderPhase ρ} (h : phase.Tells failure es)
    (unraised : Unraised .reader es') (kept : failure.isSome = true → failure'.isSome = true) :
    phase.Tells failure' (es ++ es') := by
  cases phase with
  | init | starting | running | calling => exact Unraised.append h unraised
  | terminating s d => exact EndsWell.append h unraised
  | destroying s r =>
    cases r with
    | ok => exact ReaderEndsWell.append h unraised
    | error e => trivial
  | finished => exact h.imp (·.append unraised) kept
  | failing | closing => trivial

theorem WriterPhase.Tells.append {phase : WriterPhase ω} (h : phase.Tells failure es)
    (unraised : Unraised .writer es') (kept : failure.isSome = true → failure'.isSome = true) :
    phase.Tells failure' (es ++ es') := by
  cases phase with
  | init | starting | running | calling => exact Unraised.append h unraised
  | shutting => exact EndsWell.append h unraised
  | destroying s r =>
    cases r with
    | ok => exact EndsWell.append h unraised
    | error e => trivial
  | finished => exact h.imp (·.append unraised) kept
  | failing | closing => trivial

variable {w : Surroundings} {l l' : Line}

/-- What the thread of a reader tells in a step. -/
theorem ReaderThread.Moves.tells {plugin : Reader ρ} {t t' : ReaderThread ρ}
    (h : t.Moves plugin w l es' l' t') (tells : t.phase.Tells l.status.failure es)
    (backed : t.phase.stage.Backed l.status.failure) :
    t'.phase.Tells l'.status.failure (es ++ es') := by
  have goesOn : es' = [] → Unraised .reader es → Unraised .reader (es ++ es') := by
    rintro rfl h
    rw [List.append_nil]
    exact h
  cases h with
  | init | start | dirty | aside | go => exact goesOn rfl tells
  | call => exact Unraised.append tells (by simp [Unraised])
  | answer r =>
    refine Unraised.append tells fun f => ?_
    unfold answers
    split <;> simp
  | finish =>
    exact ⟨List.mem_append_right _ List.mem_cons_self, Unraised.append tells (by simp [Unraised])⟩
  | ending => exact EndsWell.append tells (by simp [Unraised])
  | ended r =>
    cases r with
    | ok =>
      exact ⟨EndsWell.append tells (by simp [Unraised]), List.mem_append_right _ List.mem_cons_self⟩
    | error e => trivial
  | leave => exact .inl (ReaderEndsWell.append tells nofun)
  | close => exact .inr backed
  | fails | panics | fail | settle | settled => trivial

theorem WriterThread.Moves.tells {plugin : Writer ω} {t t' : WriterThread ω}
    (h : t.Moves plugin w l es' l' t') (tells : t.phase.Tells l.status.failure es)
    (backed : t.phase.stage.Backed l.status.failure) :
    t'.phase.Tells l'.status.failure (es ++ es') := by
  cases h with
  | init | start | ask | dirty | aside | go => exact Unraised.append tells nofun
  | next | back => exact Unraised.append tells (by simp [Unraised])
  | finish =>
    exact ⟨List.mem_append_right _ List.mem_cons_self, Unraised.append tells (by simp [Unraised])⟩
  | leave => exact EndsWell.append tells nofun
  | shut => exact .inl (EndsWell.append tells nofun)
  | close => exact .inr backed
  | fails | panics | fail | settle | settled => trivial

end Tells

/-! ## Attempts -/

/-- What is told of the plugins of an attempt: nothing bad before its threads were started, and by each
of the threads from then on. -/
structure Trial.TellsOn (u : Trial ρ ω) (es : List AttemptEvent) : Prop where
  untold : u.attempt.threads = none → ∀ side, Unraised side es
  threads : ∀ {th : AttemptThreads ρ ω}, u.attempt.threads = some th →
    th.reader.phase.Tells u.attempt.status.failure es ∧
      th.writer.phase.Tells u.attempt.status.failure es

namespace Trial

variable {p : GroupPlugins ρ ω} {g : Group ρ ω} {u u' : Trial ρ ω} {es es' : List AttemptEvent}

theorem TellsOn.moves (h : u.TellsOn es) (standing : u.Standing g.fatal) (hm : u.Moves p g es' u') :
    u'.TellsOn (es ++ es') := by
  have grows := hm.grows
  cases hm with
  | idle => rw [List.append_nil]; exact h
  | reader logged threads hm =>
    obtain ⟨reader, writer⟩ := h.threads threads
    have unraised : Unraised .writer es' := unraised_of_side?_eq hm.side?_eq nofun
    refine ⟨nofun, ?_⟩
    rintro _ ⟨⟩
    exact ⟨hm.tells reader (standing.backed threads .reader), writer.append unraised grows.isSome⟩
  | writer logged threads hm =>
    obtain ⟨reader, writer⟩ := h.threads threads
    have unraised : Unraised .reader es' := unraised_of_side?_eq hm.side?_eq nofun
    refine ⟨nofun, ?_⟩
    rintro _ ⟨⟩
    exact ⟨reader.append unraised grows.isSome, hm.tells writer (standing.backed threads .writer)⟩
  | driver ht =>
    have unraised := unraised_of_isOfDriver ht.isOfDriver
    rcases ht.threads_eq with same | ⟨j, a, r, w, size, samples, rfl, started⟩
    · refine ⟨fun none_ side => (h.untold (same.symm.trans none_) side).append (unraised side), ?_⟩
      intro th threads
      obtain ⟨reader, writer⟩ := h.threads (same.symm.trans threads)
      exact ⟨reader.append (unraised _) grows.isSome, writer.append (unraised _) grows.isSome⟩
    · have fresh : Attempt.IsFresh _ := standing.held rfl
      refine ⟨fun none_ => ?_, fun {th} threads => ?_⟩
      · cases none_.symm.trans started
      · cases started.symm.trans threads
        exact ⟨(h.untold fresh.1 .reader).append (unraised _),
          (h.untold fresh.1 .writer).append (unraised _)⟩

end Trial

namespace Chronicle

variable {p : GroupPlugins ρ ω} {c : Chronicle ρ ω} {config : CoreConfig} {now : Int}
  {tasks : List (TaskSpec ρ ω)} {a : Nat}

theorem Leads.tellsOn (led : (start config now tasks).Leads p c) {u : Trial ρ ω}
    (hu : c.group.trial? a = some u) : u.TellsOn (c.eventsOf a) := by
  refine (led.trials (I := fun fatal u es => u.Standing fatal ∧ u.TellsOn es) ?_ ?_ ?_ hu).2
  · exact fun g j a => ⟨Trial.standing_fresh g j a, fun _ _ => nofun, nofun⟩
  · exact fun hi => ⟨hi.1.stop, hi.2⟩
  · exact fun hi hm => ⟨hi.1.moves hm, hi.2.moves hi.1 hm⟩

/-- If the threads of an attempt have ended, and no failure was captured, the bodies of both plugins have
come to a good end. -/
theorem Leads.bodiesEndWell (led : (start config now tasks).Leads p c) {t : Attempt ρ ω}
    (found : c.group.attempts[a]? = some t) (begun : t.threads.isSome = true) (ended : t.isOver = true)
    (none_ : t.status.failure = none) : BodiesEndWell (c.eventsOf a) := by
  obtain ⟨th, threads⟩ := Option.isSome_iff_exists.mp begun
  obtain ⟨reader, writer⟩ := (led.tellsOn (Group.trial?_of_attempt found)).threads threads
  obtain ⟨readerEnds, writerEnds⟩ := Attempt.phases_of_isOver threads ended
  have unfailed : ¬ t.status.failure.isSome = true := by
    rw [none_]
    exact Bool.false_ne_true
  rw [readerEnds] at reader
  rw [writerEnds] at writer
  exact ⟨Or.resolve_right reader unfailed, Or.resolve_right writer unfailed⟩

end Chronicle

end BatchSync
