import BatchSync.Proofs.Attempt.Passage
import BatchSync.Proofs.Group.Settlement

/-!
# Nothing is lost unseen

The records of an attempt on their way through its threads and its channel, whatever its driver does
meanwhile (`Trial.Passes`), and what that means for an attempt that has succeeded: its reader was
refused nothing, and what it has sent is what the writer was handed, followed by what the writer left
behind.

A writer may come to a good end before it is told the end of the stream. The channel is closed behind
it, and a reader that has not ended the stream by then is refused; but one that has does not notice, and
the attempt succeeds with records left behind (`early_return_leaves_records`).
-/

namespace BatchSync

open AttemptEvent

variable {ρ ω : Type}

/-! ## What is told by whom -/

/-- The reader tells nothing of what the writer is handed. -/
theorem ReaderThread.Moves.given_eq {plugin : Reader ρ} {w : Surroundings} {l l' : Line}
    {t t' : ReaderThread ρ} {es : List AttemptEvent} (h : t.Moves plugin w l es l' t') :
    given es = [] ∧ .handed none ∉ es := by
  cases h with
  | @answer x k s r =>
    unfold ReaderThread.answers
    split <;> simp [given, given?]
  | _ => simp [given, given?]

/-- The writer tells nothing of what the reader sends. -/
theorem WriterThread.Moves.sent_eq {plugin : Writer ω} {w : Surroundings} {l l' : Line}
    {t t' : WriterThread ω} {es : List AttemptEvent} (h : t.Moves plugin w l es l' t') :
    begun es = [] ∧ sent es = [] ∧ ¬ Refused es := by
  cases h <;> simp [begun, begun?, sent, sent?, Refused, IsRefusal]

namespace DriverPhase

variable {g : Group ρ ω} {t t' : Attempt ρ ω} {phase phase' : DriverPhase ρ ω}
  {es : List AttemptEvent}

theorem Tends.isOfDriver (h : phase.Tends g t es t' phase') : ∀ e ∈ es, e.IsOfDriver := by
  cases h <;> simp [IsOfDriver]

/-- A driver moves nothing on the line of its attempt, but it may close the channel. -/
theorem Tends.change (h : phase.Tends g t es t' phase') : t.line.Change [] t'.line := by
  cases h with
  | stamp | sealed | stop => exact .restate _ fun c _ => rfl
  | hang => exact .restate _ fun c _ => Failing.count_step _ _ _
  | fail => exact .restate _ fun c _ => Failing.count_step _ _ _
  | kill | settle =>
    refine .restate _ fun c _ => ?_
    dsimp only
    unfold TaskStatus.moveTo
    split <;> rfl
  | shut => exact .close
  | _ => exact .idle

/-- A driver starts the threads of its attempt once, and leaves them alone from then on. -/
theorem Tends.threads_eq (h : phase.Tends g t es t' phase') :
    t'.threads = t.threads ∨
      ∃ (j : Job ρ ω) (a : Nat) (r : ρ) (w : ω) (size samples : Nat), phase = .makingWriter j a r ∧
        t'.threads = some ⟨.make size samples r, .make size samples w⟩ := by
  cases h with
  | makeWriter => exact .inr ⟨_, _, _, _, _, _, rfl, rfl⟩
  | _ => exact .inl rfl

end DriverPhase

/-- Nothing happens to threads that have ended. -/
theorem Trial.Standing.threads_eq {p : GroupPlugins ρ ω} {g : Group ρ ω} {u u' : Trial ρ ω}
    {es : List AttemptEvent} (h : u.Standing g.fatal) (hm : u.Moves p g es u')
    (begun : u.attempt.threads.isSome = true) (ended : u.attempt.isOver = true) :
    u'.attempt.threads = u.attempt.threads := by
  rcases hm.of_isOver ended with rfl | ⟨phase, t', phase', hp, ht, rfl⟩
  · rfl
  · rcases ht.threads_eq with same | ⟨_, _, _, _, _, _, rfl, -⟩
    · exact same
    · have fresh : u.attempt.IsFresh := h.held hp
      rw [fresh.1] at begun
      cases begun

/-- Nothing crosses the channel in such a change. -/
theorem Line.Change.queue_eq {l l' : Line} (h : l.Change [] l') :
    l'.channel.queue = l.channel.queue := by
  cases h <;> rfl

theorem TaskStatus.Grows.eq_none {s s' : TaskStatus} (h : s.Grows s') (none_ : s'.failure = none) :
    s.failure = none := by
  cases hf : s.failure with
  | none => rfl
  | some f => rw [h.failure f hf] at none_; cases none_

/-! ## The records of an attempt -/

/-- The records of an attempt are on their way: nothing was told of them before the threads were
started, and both threads keep them from then on. -/
structure Trial.Passes (p : GroupPlugins ρ ω) (u : Trial ρ ω) (es : List AttemptEvent) : Prop where
  untold : u.attempt.threads = none →
    (∀ e ∈ es, e.IsOfDriver) ∧ u.attempt.line.channel.queue = []
  reader : ∀ {th : AttemptThreads ρ ω}, u.attempt.threads = some th →
    th.reader.Passage p.reader u.attempt.line.channel.closed u.attempt.status.failure
      (given es ++ (th.writer.coming ++ u.attempt.line.channel.queue)) es
  writer : ∀ {th : AttemptThreads ρ ω}, u.attempt.threads = some th →
    th.writer.Passage u.attempt.line.channel.IsDrained u.attempt.status.failure es

namespace Trial

variable {p : GroupPlugins ρ ω} {g : Group ρ ω} {u u' : Trial ρ ω} {es es' : List AttemptEvent}

theorem passes_fresh (g : Group ρ ω) (j : Job ρ ω) (a : Nat) :
    Passes p ⟨some (.makingReader j a), g.freshAttempt j.spec⟩ [] :=
  ⟨fun _ => ⟨nofun, rfl⟩, nofun, nofun⟩

/-- A thread that is about to close the channel after a failure finds one captured. -/
theorem Standing.behind {fatal : Option Failure} (h : u.Standing fatal) {th : AttemptThreads ρ ω}
    (threads : u.attempt.threads = some th) (side : Side) (closing : th.stage side = .closing) :
    u.attempt.status.failure.isSome = true := by
  have backed := h.backed threads side
  rw [closing] at backed
  exact backed

theorem Passes.reader_moves {phase : Option (DriverPhase ρ ω)} {t : Attempt ρ ω}
    {th : AttemptThreads ρ ω} {l : Line} {r : ReaderThread ρ} (logged : List LogEvent)
    (h : Passes p ⟨phase, t⟩ es) (standing : Standing g.fatal ⟨phase, t⟩)
    (threads : t.threads = some th)
    (hm : th.reader.Moves p.reader (g.surroundings t.task) t.line es' l r) :
    Passes p ⟨phase, { t with line := l, threads := some { th with reader := r }, logged }⟩
      (es ++ es') := by
  obtain ⟨hg, hn⟩ := hm.given_eq
  obtain ⟨cs, hc⟩ := hm.change
  refine ⟨nofun, ?_, ?_⟩
  · rintro _ ⟨⟩
    have hr := h.reader threads
    rw [← List.append_assoc] at hr
    have hr := hm.passage hr (standing.behind threads .reader)
    rw [given_append, hg, List.append_nil, ← List.append_assoc]
    exact hr
  · rintro _ ⟨⟩
    exact (h.writer threads).mono hc.of_isDrained hm.stage.grows.eq_none hn

theorem Passes.writer_moves {phase : Option (DriverPhase ρ ω)} {t : Attempt ρ ω}
    {th : AttemptThreads ρ ω} {l : Line} {r : WriterThread ω} (logged : List LogEvent)
    (h : Passes p ⟨phase, t⟩ es) (standing : Standing g.fatal ⟨phase, t⟩)
    (threads : t.threads = some th)
    (hm : th.writer.Moves p.writer (g.surroundings t.task) t.line es' l r) :
    Passes p ⟨phase, { t with line := l, threads := some { th with writer := r }, logged }⟩
      (es ++ es') := by
  obtain ⟨hb, hs, hr⟩ := hm.sent_eq
  obtain ⟨cs, hc⟩ := hm.change
  obtain ⟨hw, arrived⟩ := hm.passage (h.writer threads) (standing.behind threads .writer)
  refine ⟨nofun, ?_, ?_⟩
  · rintro _ ⟨⟩
    rw [arrived]
    exact (h.reader threads).mono (fun closed => (hc.of_closed closed).1) hm.stage.grows.eq_none
      hb hs hr
  · rintro _ ⟨⟩
    exact hw

theorem Passes.tend {phase phase' : DriverPhase ρ ω} {t t' : Attempt ρ ω}
    (h : Passes p ⟨some phase, t⟩ es) (standing : Standing g.fatal ⟨some phase, t⟩)
    (ht : phase.Tends g t es' t' phase') : Passes p ⟨phase'.held, t'⟩ (es ++ es') := by
  have ofd := ht.isOfDriver
  obtain ⟨hb, hs, hg, hr, hn⟩ := ofDriver ofd
  have grows : t.status.Grows t'.status := (Moves.driver (p := p) ht).grows
  have queue : t'.line.channel.queue = t.line.channel.queue := ht.change.queue_eq
  rcases ht.threads_eq with same | ⟨j, a, r, w, size, samples, rfl, started⟩
  · refine ⟨?_, ?_, ?_⟩
    · intro none_
      obtain ⟨untold, empty⟩ := h.untold (same.symm.trans none_)
      exact ⟨fun e he => (List.mem_append.mp he).elim (untold e) (ofd e), queue.trans empty⟩
    · intro th threads
      have closes := fun closed => (ht.change.of_closed closed).1
      rw [given_append, hg, List.append_nil]
      show ReaderThread.Passage _ _ _ (_ ++ (_ ++ t'.line.channel.queue)) _ _
      rw [queue]
      exact (h.reader (same.symm.trans threads)).mono closes grows.eq_none hb hs hr
    · intro th threads
      exact (h.writer (same.symm.trans threads)).mono ht.change.of_isDrained grows.eq_none hn
  · have fresh : t.IsFresh := standing.held rfl
    obtain ⟨untold, empty⟩ := h.untold fresh.1
    have untold : ∀ e ∈ es ++ es', e.IsOfDriver :=
      fun e he => (List.mem_append.mp he).elim (untold e) (ofd e)
    have arrived : given (es ++ es') ++
        ((WriterThread.make size samples w).coming ++ t'.line.channel.queue) = [] := by
      rw [(ofDriver untold).2.2.1, queue, empty]
      rfl
    refine ⟨fun none_ => ?_, fun threads => ?_, fun threads => ?_⟩
    · cases none_.symm.trans started
    · cases started.symm.trans threads
      rw [arrived]
      exact ReaderThread.passage_make _ untold _ _ _
    · cases started.symm.trans threads
      exact WriterThread.passage_make _ untold _ _ _

theorem Passes.moves (h : u.Passes p es) (standing : u.Standing g.fatal) (hm : u.Moves p g es' u') :
    u'.Passes p (es ++ es') := by
  cases hm with
  | idle => rw [List.append_nil]; exact h
  | reader logged threads hm => exact h.reader_moves logged standing threads hm
  | writer logged threads hm => exact h.writer_moves logged standing threads hm
  | driver ht => exact h.tend standing ht

end Trial

/-! ## Attempts that have succeeded -/

namespace Chronicle

variable {p : GroupPlugins ρ ω}

theorem passes_of_run {config : CoreConfig} {now : Int} {tasks : List (TaskSpec ρ ω)}
    {moves : List GroupMove} {c : Chronicle ρ ω}
    (h : (start config now tasks).run p moves = some c) {a : Nat} {u : Trial ρ ω}
    (hu : c.group.trial? a = some u) : u.Passes p (c.eventsOf a) := by
  refine (trial_induction (I := fun fatal u es => u.Standing fatal ∧ u.Passes p es) ?_ ?_ ?_ h hu).2
  · exact fun g j a => ⟨Trial.standing_fresh g j a, Trial.passes_fresh g j a⟩
  · exact fun hi => ⟨hi.1.stop, hi.2⟩
  · exact fun hi hm => ⟨hi.1.moves hm, hi.2.moves hi.1 hm⟩

end Chronicle

/-- The threads of an attempt that is over are in their last phases. -/
theorem Attempt.phases_of_isOver {t : Attempt ρ ω} {th : AttemptThreads ρ ω}
    (threads : t.threads = some th) (ended : t.isOver = true) :
    th.reader.phase = .finished ∧ th.writer.phase = .finished := by
  unfold Attempt.isOver at ended
  rw [threads] at ended
  obtain ⟨hr, hw⟩ := Bool.and_eq_true_iff.mp ended
  constructor
  · unfold ReaderThread.isFinished at hr
    split at hr
    · assumption
    · cases hr
  · unfold WriterThread.isFinished at hw
    split at hw
    · assumption
    · cases hw

/-- Both threads of an attempt that has succeeded have ended. -/
theorem Attempt.HasSucceeded.isFinished {t : Attempt ρ ω} (h : t.HasSucceeded)
    {th : AttemptThreads ρ ω} (threads : t.threads = some th) :
    th.reader.phase = .finished ∧ th.writer.phase = .finished :=
  Attempt.phases_of_isOver threads h.ended

namespace Trial

variable {p : GroupPlugins ρ ω} {u : Trial ρ ω} {es : List AttemptEvent}

/-- What is left of the records of an attempt that has succeeded: nothing on the side of the reader,
and on the side of the writer what it has not asked for. -/
theorem Passes.of_hasSucceeded (h : u.Passes p es) (done : u.attempt.HasSucceeded)
    {th : AttemptThreads ρ ω} (threads : u.attempt.threads = some th) :
    ¬ Refused es ∧ th.reader.exchanger.outgoing = [] ∧
      sent es =
        given es ++ (th.writer.exchanger.incoming ++ u.attempt.line.channel.queue) ∧
      .finished .writer ∈ es ∧
      (.handed none ∈ es →
        th.writer.exchanger.incoming = [] ∧ u.attempt.line.channel.queue = []) := by
  obtain ⟨endR, endW⟩ := done.isFinished threads
  have hr := h.reader threads
  have hw := h.writer threads
  obtain ⟨⟨x, k, phaseR⟩, ⟨y, k', phaseW⟩⟩ := th
  cases endR
  cases endW
  obtain ⟨calm, empty⟩ := hr.through trivial done.failure
  have empty : x.outgoing = [] := empty
  have whole := hr.whole calm id
  have sent_ := hr.sent calm
  refine ⟨calm, empty, ?_, hw.through trivial done.failure, fun told => ?_⟩
  · have hs : begun es = sent es := sent_.trans (List.append_nil _)
    rw [← hs, whole]
    show _ ++ x.outgoing = _
    rw [empty, List.append_nil]
    rfl
  · obtain ⟨drained, incoming⟩ := hw.ended (hw.told told)
    exact ⟨incoming, drained.2⟩

end Trial

namespace Chronicle

/-- **What an attempt that has succeeded may leave behind.** Whatever the plugins do, whatever the
sizes of buffers and channel, and however the threads, the drivers and the clock take turns, in an
attempt that has succeeded:
1. No call of the reader was refused, and nothing is left in the exchanger of the reader.
2. The records that the reader has sent with success are, in their order, those that the writer was
   handed, followed by what the writer has left in its exchanger and in the channel.
3. Nothing was left there, unless the writer has come to a good end without being told the end of the
   stream. -/
theorem left_by_writer_alone (p : GroupPlugins ρ ω) (config : CoreConfig) (now : Int)
    (tasks : List (TaskSpec ρ ω)) (moves : List GroupMove) {c : Chronicle ρ ω}
    (hc : (start config now tasks).run p moves = some c) {a : Nat} {t : Attempt ρ ω}
    (found : c.group.attempts[a]? = some t) (succeeded : t.status.state = .succeeded) :
    ∃ th, t.threads = some th ∧
      (¬ Refused (c.eventsOf a) ∧ th.reader.exchanger.outgoing = []) ∧
      sent (c.eventsOf a) =
        given (c.eventsOf a) ++ (th.writer.exchanger.incoming ++ t.line.channel.queue) ∧
      ((th.writer.exchanger.incoming = [] ∧ t.line.channel.queue = []) ∨
        (.finished .writer ∈ c.eventsOf a ∧ .handed none ∉ c.eventsOf a)) := by
  have hu := Group.trial?_of_attempt found
  have done := (standing_of_run hc hu).1.going_or.resolve_left fun h => h succeeded
  obtain ⟨th, threads⟩ := Option.isSome_iff_exists.mp done.begun
  obtain ⟨calm, empty, whole, fin, told⟩ := (passes_of_run hc hu).of_hasSucceeded done threads
  refine ⟨th, threads, ⟨calm, empty⟩, whole, ?_⟩
  by_cases h : .handed none ∈ c.eventsOf a
  · exact .inl (told h)
  · exact .inr ⟨fin, h⟩

/-- Three records, no two of them the same. -/
def threeRecords : List Record := [.empty, .ofColumns [.bool true], .ofColumns [.bool false]]

/-- The reader of a lone task takes some steps, then the writer does, and then the driver comes to the
result. -/
def inTurn (reader writer : Nat) : List GroupMove :=
  List.replicate 5 (.driver 0) ++ List.replicate reader (.reader 0) ++
    List.replicate writer (.writer 0) ++ List.replicate 7 (.driver 0)

/-- A writer that receives to the end leaves nothing behind. -/
theorem left_by_writer_alone_toTheEnd :
    ∃ (c : Chronicle ScriptedReader ScriptedWriter) (t : Attempt ScriptedReader ScriptedWriter),
      (start {} 0 [.ofScripts 0 (threeRecords.map .send) [.receive none none]]).run scripted
        (inTurn 14 14) = some c ∧
      c.group.attempts[0]? = some t ∧ t.status.state = .succeeded ∧
      ∃ th, t.threads = some th ∧
        (¬ Refused (c.eventsOf 0) ∧ th.reader.exchanger.outgoing = []) ∧
        sent (c.eventsOf 0) =
          given (c.eventsOf 0) ++ (th.writer.exchanger.incoming ++ t.line.channel.queue) ∧
        ((th.writer.exchanger.incoming = [] ∧ t.line.channel.queue = []) ∨
          (.finished .writer ∈ c.eventsOf 0 ∧ .handed none ∉ c.eventsOf 0)) :=
  ⟨_, _, rfl, rfl, rfl, left_by_writer_alone scripted {} 0
    [.ofScripts 0 (threeRecords.map .send) [.receive none none]] (inTurn 14 14) rfl rfl rfl⟩

/-- A writer that comes to a good end after one of three records leaves the others behind, and the
attempt succeeds all the same. -/
theorem early_return_leaves_records :
    ∃ (c : Chronicle ScriptedReader ScriptedWriter) (t : Attempt ScriptedReader ScriptedWriter)
      (th : AttemptThreads ScriptedReader ScriptedWriter),
      (start {} 0 [.ofScripts 0 (threeRecords.map .send) [.receive (some 1) none]]).run scripted
        (inTurn 14 9) = some c ∧
      c.group.attempts[0]? = some t ∧ t.threads = some th ∧ t.status.state = .succeeded ∧
      .returned (.ok ()) ∈ c.eventsOf 0 ∧ sent (c.eventsOf 0) = threeRecords ∧
      given (c.eventsOf 0) = threeRecords.take 1 ∧
      th.writer.exchanger.incoming = threeRecords.drop 1 := by
  refine ⟨_, _, _, rfl, rfl, rfl, rfl, ?_, rfl, rfl, rfl⟩
  exact List.mem_of_getElem? (i := 10) rfl

end Chronicle

end BatchSync
