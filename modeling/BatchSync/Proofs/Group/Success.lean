import BatchSync.Proofs.Group.Conduct
import BatchSync.Proofs.Group.Course

/-!
# Attempts that succeed

An attempt whose plugins behave well comes to its end, and has delivered all records then
(`Chronicle.well_behaved_succeeds`), if its group is not stopped and it is not found to hang before.

That it ends is shown in three parts. The driver comes to start the threads, and, once they have ended,
to the result of the attempt, since all of its ways but the one to sleep while they run lead there
(`DriverPhase.toEnd`). In between the threads work off what is ahead of them (`AttemptThreads.work`):
of the two, one at least can go on at any time (`Trial.Behaves.goes_on`).
-/

namespace BatchSync

open AttemptEvent Deed

variable {ρ ω : Type}

/-! ## The way of a driver to a result -/

/-- How many steps it takes at most until an attempt has failed. -/
def Failing.toEnd : Failing → Nat
  | .checking _ _ => 4
  | .capturing _ _ => 3
  | .settling _ => 2
  | .done => 1

theorem Failing.toEnd_step {f : Failing} (going : f ≠ .done) (s : TaskStatus) :
    (f.step s).2.toEnd < f.toEnd := by
  cases f with
  | checking e n => cases fin : s.isFinished <;> simp [step, fin, toEnd]
  | capturing | settling => simp [step, toEnd]
  | done => exact absurd rfl going

/-- How many steps a driver takes at most until its attempt has a result, if the threads have ended or
were not started. -/
def DriverPhase.toEnd : DriverPhase ρ ω → Nat
  | .sealing _ _ => 1
  | .failing _ _ f _ => f.toEnd
  | .settling _ _ _ => 5
  | .removing _ _ _ => 6
  | .concluding _ _ => 7
  | .joining _ _ _ => 8
  | .leaving _ _ => 9
  | .killing _ _ => 10
  | .watching _ _ => 10
  | .stopping _ _ _ => 11
  | .registering _ _ => 11
  | .consulting _ _ => 12
  | .makingWriter _ _ _ => 12
  | .judging _ _ => 13
  | .makingReader _ _ => 13
  | .hanging _ _ f => 13 + f.toEnd
  | .reporting _ _ => 18
  | .stamping _ _ => 19
  | .sleeping _ _ _ => 20
  | _ => 0

namespace DriverPhase.Tends

variable {g : Group ρ ω} {t t' : Attempt ρ ω} {phase phase' : DriverPhase ρ ω}
  {es : List AttemptEvent}

theorem toEnd_lt (h : phase.Tends g t es t' phase') (ended : t.isOver = true) :
    phase'.toEnd < phase.toEnd := by
  cases h with
  | doze going => rw [ended] at going; cases going
  | hang going =>
    have := Failing.toEnd_step going t.status
    simp only [toEnd]
    omega
  | fail going => exact Failing.toEnd_step going t.status
  | _ => simp [toEnd, Failing.toEnd]

end DriverPhase.Tends

/-! ## Moves of threads -/

/-- The move of a thread. -/
def GroupMove.ofThread (a : Nat) : Side → GroupMove
  | .reader => .reader a
  | .writer => .writer a

namespace Group

variable {p : GroupPlugins ρ ω} {g g' : Group ρ ω} {hs : List Happening} {a : Nat} {u : Trial ρ ω}

/-- The trial of an attempt after a step of one of its threads. -/
theorem trial?_moved (hu : g.trial? a = some u) (t : Attempt ρ ω) (now : Int)
    (journal : List JournalEntry) : (g.moved a t now journal).trial? a = some ⟨u.phase, t⟩ := by
  obtain ⟨found, keeper⟩ := trial?_eq_some_iff.mp hu
  obtain ⟨lt, -⟩ := List.getElem?_eq_some_iff.mp found
  exact trial?_eq_some_iff.mpr ⟨List.getElem?_set_self lt, keeper⟩

/-- A step of a thread leaves less work. -/
theorem Steps.thread_works {side : Side} (h : g.Steps p (.ofThread a side) hs g')
    (hu : g.trial? a = some u) {es : List AttemptEvent} {all : List Record} {unread unwritten : Nat}
    {plan : List ReaderDeed} {script : List WriterDeed}
    (behaves : u.Behaves p all unread unwritten es plan script) (passes : u.Passes p es) :
    ∃ th u' th' plan' script', u.attempt.threads = some th ∧ g'.trial? a = some u' ∧
      u'.attempt.threads = some th' ∧
      u'.Behaves p all unread unwritten (es ++ hs.filterMap (Happening.of? a)) plan' script' ∧
      th'.work plan' script' < th.work plan script := by
  have found := (trial?_eq_some_iff.mp hu).1
  obtain ⟨phase, t⟩ := u
  cases side with
  | reader =>
    cases h with
    | reader logged now journal found' threads hm =>
      cases found.symm.trans found'
      obtain ⟨plan', next, less⟩ := behaves.reader_moves logged threads hm
      rw [filterMap_of?_map, if_pos rfl]
      exact ⟨_, _, _, plan', script, threads, trial?_moved hu _ _ _, rfl, next, less⟩
  | writer =>
    cases h with
    | writer logged now journal found' threads hm =>
      cases found.symm.trans found'
      obtain ⟨script', next, less⟩ := behaves.writer_moves logged passes threads hm
      rw [filterMap_of?_map, if_pos rfl]
      exact ⟨_, _, _, plan, script', threads, trial?_moved hu _ _ _, rfl, next, less⟩

theorem stepReader_isSome {t : Attempt ρ ω} {th : AttemptThreads ρ ω}
    (found : g.attempts[a]? = some t) (threads : t.threads = some th)
    (goes : (th.reader.step p.reader (g.surroundings t.task) t.line).isSome = true) :
    (g.step p (.ofThread a .reader)).isSome = true := by
  obtain ⟨s, hs⟩ := Option.isSome_iff_exists.mp goes
  simp [GroupMove.ofThread, step, stepReader, Attempt.stepReader, found, threads, hs]

theorem stepWriter_isSome {t : Attempt ρ ω} {th : AttemptThreads ρ ω}
    (found : g.attempts[a]? = some t) (threads : t.threads = some th)
    (goes : (th.writer.step p.writer (g.surroundings t.task) t.line).isSome = true) :
    (g.step p (.ofThread a .writer)).isSome = true := by
  obtain ⟨s, hs⟩ := Option.isSome_iff_exists.mp goes
  simp [GroupMove.ofThread, step, stepWriter, Attempt.stepWriter, found, threads, hs]

end Group

namespace Trial

variable {p : GroupPlugins ρ ω} {u : Trial ρ ω} {es : List AttemptEvent} {all : List Record}
  {unread unwritten : Nat} {plan : List ReaderDeed} {script : List WriterDeed}

/-- A writer that has ended was told the end of the stream, so the channel is drained. -/
theorem Behaves.drained (h : u.Behaves p all unread unwritten es plan script) (passes : u.Passes p es)
    {th : AttemptThreads ρ ω} (threads : u.attempt.threads = some th)
    (ended : th.writer.phase = .finished) : u.attempt.line.channel.IsDrained := by
  have script_ := h.writer threads
  rw [ended] at script_
  cases script_
  have passage := passes.writer threads
  exact (passage.ended (passage.told h.handed_none)).1

/-- From some time on a thread can take a step, as long as those of the attempt stand still. -/
def CanStep (p : GroupPlugins ρ ω) (u : Trial ρ ω) (side : Side) : Prop :=
  ∃ since, ∀ {g : Group ρ ω} {a : Nat} {v : Trial ρ ω}, g.trial? a = some v → u.Still v →
    since ≤ g.instant → (g.step p (.ofThread a side)).isSome = true

theorem canStep_writer {th : AttemptThreads ρ ω} (threads : u.attempt.threads = some th)
    (goes : ∀ (w : Surroundings) (l : Line), l.channel = u.attempt.line.channel →
      (th.writer.step p.writer w l).isSome = true) : u.CanStep p .writer :=
  ⟨0, fun hv still _ => Group.stepWriter_isSome (Group.trial?_eq_some_iff.mp hv).1
    (still.threads.trans threads) (goes _ _ still.channel)⟩

/-- Until both have ended, one of the threads can go on. -/
theorem Behaves.goes_on (h : u.Behaves p all unread unwritten es plan script) (passes : u.Passes p es)
    {th : AttemptThreads ρ ω} (threads : u.attempt.threads = some th)
    (going : u.attempt.isOver = false) : ∃ side, u.CanStep p side := by
  have writer := WriterThread.OnScript.can_step (l := u.attempt.line) (h.writer threads)
  rcases ReaderThread.OnPlan.can_step (h.reader threads) with ⟨endR, closed⟩ | queued | ⟨since, goes⟩
  · rcases writer with endW | dry | goes
    · have ended : u.attempt.isOver = true := by
        simp [Attempt.isOver, threads, ReaderThread.isFinished, WriterThread.isFinished, endR, endW]
      cases going.symm.trans ended
    · cases closed.symm.trans (Channel.isDry_iff.mp dry).2
    · exact ⟨.writer, canStep_writer threads goes⟩
  · -- the reader waits for room, so there is something for the writer to take
    rcases writer with endW | dry | goes
    · exact absurd (h.drained passes threads endW).2 queued
    · exact absurd (Channel.isDry_iff.mp dry).1 queued
    · exact ⟨.writer, canStep_writer threads goes⟩
  · exact ⟨.reader, since, fun hv still due => Group.stepReader_isSome
      (Group.trial?_eq_some_iff.mp hv).1 (still.threads.trans threads)
      (goes _ _ still.channel still.flow due)⟩

end Trial

/-! ## Courses of an attempt that behaves well -/

namespace Chronicle

variable {p : GroupPlugins ρ ω} {c c' : Chronicle ρ ω} {m : GroupMove} {a d : Nat}
  {all : List Record} {unread unwritten : Nat}

theorem IsReached.known (h : c.IsReached p) {u : Trial ρ ω} (hu : c.group.trial? a = some u) :
    u.Known p c.group.fatal (c.eventsOf a) := by
  obtain ⟨config, now, tasks, moves, hc⟩ := h
  exact known_of_run hc hu

/-- The group was not stopped, and an attempt was not found to hang. -/
def IsCalm (c : Chronicle ρ ω) (a : Nat) : Prop :=
  c.group.fatal = none ∧ ∀ f, .hung f ∉ c.eventsOf a

/-- What was calm at some time was so before. -/
theorem IsCalm.of_step (h : c'.IsCalm a) (sound : c.Sound) (hm : c.step p m = some c') :
    c.IsCalm a :=
  ⟨(sound.steps hm).fatal_eq_none h.1, fun f hf => h.2 f ((eventsOf_mono hm a).subset hf)⟩

/-- An attempt behaves well, with these deeds ahead of its plugins. -/
def Behaves (p : GroupPlugins ρ ω) (c : Chronicle ρ ω) (a : Nat) (all : List Record)
    (unread unwritten : Nat) (u : Trial ρ ω) (plan : List ReaderDeed) (script : List WriterDeed) :
    Prop :=
  c.group.trial? a = some u ∧ u.Behaves p all unread unwritten (c.eventsOf a) plan script

/-- An attempt behaves well. -/
def IsBehaved (p : GroupPlugins ρ ω) (c : Chronicle ρ ω) (a : Nat) (all : List Record)
    (unread unwritten : Nat) : Prop :=
  ∃ u plan script, c.Behaves p a all unread unwritten u plan script

/-- How much work is left to the threads of an attempt that behaves well. -/
def HasWork (p : GroupPlugins ρ ω) (c : Chronicle ρ ω) (a : Nat) (all : List Record)
    (unread unwritten n : Nat) : Prop :=
  ∃ u th plan script, c.Behaves p a all unread unwritten u plan script ∧
    u.attempt.threads = some th ∧ th.work plan script = n

/-- The threads of an attempt were started, and have ended. -/
def IsDone (c : Chronicle ρ ω) (a : Nat) : Prop :=
  ∃ t, c.group.attempts[a]? = some t ∧ t.threads.isSome = true ∧ t.isOver = true

theorem Behaves.step {u : Trial ρ ω} {plan : List ReaderDeed} {script : List WriterDeed}
    (h : c.Behaves p a all unread unwritten u plan script) (reached : c.IsReached p)
    (calm : c.IsCalm a) (hm : c.step p m = some c') :
    ∃ u' plan' script', c'.Behaves p a all unread unwritten u' plan' script' ∧
      u'.Known p none (c'.eventsOf a) ∧
      ((∃ th th', u.attempt.threads = some th ∧ u'.attempt.threads = some th' ∧
          th'.work plan' script' < th.work plan script) ∨
        (plan' = plan ∧ script' = script ∧ (u.attempt.threads.isSome = true → u.Still u'))) := by
  obtain ⟨hu, behaves⟩ := h
  obtain ⟨u', hu', moves⟩ := (reached.sound.steps hm).trial_next reached.sound.holds hu
  have known := reached.known hu
  obtain ⟨plan', script', next, works⟩ := behaves.moves known calm.1 calm.2 moves
  have known' := known.moves moves
  rw [calm.1] at known'
  rw [← eventsOf_step hm] at next known'
  exact ⟨u', plan', script', ⟨hu', next⟩, known', works⟩

/-- Threads that have ended have done so for good. -/
theorem IsDone.step (h : c.IsDone a) (sound : c.Sound)
    (standing : ∀ {u : Trial ρ ω}, c.group.trial? a = some u → u.Standing c.group.fatal)
    (hm : c.step p m = some c') : c'.IsDone a := by
  obtain ⟨t, found, begun, ended⟩ := h
  have hu := Group.trial?_of_attempt found
  obtain ⟨u', hu', moves⟩ := (sound.steps hm).trial_next sound.holds hu
  have threads := (standing hu).threads_eq moves begun ended
  refine ⟨u'.attempt, (Group.trial?_eq_some_iff.mp hu').1, threads ▸ begun, ?_⟩
  rw [Attempt.isOver_of_threads_eq threads]
  exact ended

variable {turn : Nat → GroupMove} {n : Nat}

/-- A schedule is fair to those who take part in an attempt. -/
structure IsFair (turn : Nat → GroupMove) (d a : Nat) : Prop where
  time : TimePasses turn
  driver : Recurs turn (.driver d)
  thread : ∀ side, Recurs turn (.ofThread a side)

/-- A driver that holds an attempt comes to see its threads run, or to its result. -/
theorem leaves_off (sound : c.Sound) (time : TimePasses turn) (fair : Recurs turn (.driver d))
    (minds : (course p c turn n).Minds d a) :
    ∃ k, n ≤ k ∧ ((course p c turn k).HasReturned a ∨
      ∃ t, (course p c turn k).group.attempts[a]? = some t ∧ t.isOver = false) := by
  obtain ⟨phase, at_, ha⟩ := minds
  refine exists_of_falls (P := fun r k => ∃ phase : DriverPhase ρ ω,
    (course p c turn k).group.drivers[d]? = some phase ∧ phase.attempt? = some a ∧
      phase.toEnd = r) ?_ ⟨phase, at_, ha, rfl⟩
  rintro r n ⟨phase, at_, ha, rfl⟩
  have going : phase ≠ .exited := by rintro rfl; cases ha
  obtain ⟨k, le, at_, steps⟩ := driver_steps sound time fair at_ going
  obtain ⟨t, t', es, phase', found, ht, at_', told⟩ := (sound.course turn k).tends at_ ha steps
  cases ended : t.isOver with
  | false => exact ⟨k, le, .inl (.inr ⟨t, found, ended⟩)⟩
  | true =>
    refine ⟨k + 1, Nat.le_succ_of_le le, ?_⟩
    rcases ht.attempt?_or ha with ha' | ⟨-, x, -, hx⟩
    · exact .inr ⟨_, ht.toEnd_lt ended, phase', at_', ha', rfl⟩
    · exact .inl (.inl ⟨x, by rw [told]; exact List.mem_append_right _ hx⟩)

/-- The threads of an attempt that behaves well work off what is ahead of them. -/
theorem works_off (reached : c.IsReached p) (fair : IsFair turn d a)
    (calm : ∀ k, (course p c turn k).IsCalm a) {r : Nat}
    (h : (course p c turn n).HasWork p a all unread unwritten r) :
    ∃ k, n ≤ k ∧ (course p c turn k).IsDone a := by
  refine exists_of_falls
    (P := fun r k => (course p c turn k).HasWork p a all unread unwritten r) ?_ h
  rintro r n ⟨u, th, plan, script, behaves, threads, rfl⟩
  cases ended : u.attempt.isOver with
  | true =>
    exact ⟨n, Nat.le_refl n, .inl ⟨u.attempt, (Group.trial?_eq_some_iff.mp behaves.1).1,
      by rw [threads]; rfl, ended⟩⟩
  | false =>
    have passes := ((reached.course turn n).known behaves.1).passes
    obtain ⟨side, since, can⟩ := behaves.2.goes_on passes threads ended
    -- the threads stand still until one of them takes a step
    have goes := leads_to (p := p) (c := c) reached.sound fair.time (fair.thread side) since (n := n)
      (P := fun k => ∃ v, (course p c turn k).Behaves p a all unread unwritten v plan script ∧
        u.Still v)
      (Q := fun k => ∃ r', r' < th.work plan script ∧
        (course p c turn k).HasWork p a all unread unwritten r') ?_ ?_
      ⟨u, behaves, ⟨rfl, rfl, rfl⟩⟩
    · obtain ⟨k, le, less⟩ := goes
      exact ⟨k, le, .inr less⟩
    · rintro k - ⟨v, hv, still⟩
      rcases course_succ p c turn k with same | steps
      · exact .inl ⟨v, by rw [same]; exact hv, still⟩
      · have threads' := still.threads.trans threads
        obtain ⟨v', plan', script', next, -, ⟨_, th', begun, at_, less⟩ | ⟨rfl, rfl, stands⟩⟩ :=
          hv.step (reached.course turn k) (calm k) steps
        · cases threads'.symm.trans begun
          exact .inr ⟨_, less, v', th', plan', script', next, at_, rfl⟩
        · have stands := stands (by rw [threads']; rfl)
          exact .inl ⟨v', next, stands.threads.trans still.threads,
            stands.channel.trans still.channel, stands.flow.trans still.flow⟩
    · rintro k - ⟨v, hv, still⟩ due turns
      have steps : (course p c turn k).step p (turn k) = some (course p c turn (k + 1)) :=
        course_step (by rw [turns]; exact can hv.1 still due)
      have hs := (reached.course turn k).sound.steps steps
      rw [turns] at hs
      obtain ⟨_, v', th', plan', script', begun, hv', at_, next, less⟩ :=
        hs.thread_works hv.1 hv.2 ((reached.course turn k).known hv.1).passes
      cases (still.threads.trans threads).symm.trans begun
      refine ⟨_, less, v', th', plan', script', ⟨hv', ?_⟩, at_, rfl⟩
      rw [eventsOf_step steps, turns]
      exact next

/-- An attempt has returned, and delivered all records. -/
def Delivered (c : Chronicle ρ ω) (a : Nat) (all : List Record) (unread unwritten : Nat) : Prop :=
  ∃ t, c.group.attempts[a]? = some t ∧ .returned (.ok ()) ∈ c.eventsOf a ∧
    t.HasDelivered (c.eventsOf a) all unread unwritten

theorem Behaves.delivered {u : Trial ρ ω} {plan : List ReaderDeed} {script : List WriterDeed}
    (h : c.Behaves p a all unread unwritten u plan script) (known : u.Known p none (c.eventsOf a))
    (returned : c.HasReturned a) : c.Delivered a all unread unwritten := by
  obtain ⟨x, hx⟩ := returned
  obtain ⟨rfl, done⟩ := h.2.ends_well known hx
  exact ⟨u.attempt, (Group.trial?_eq_some_iff.mp h.1).1, hx, done⟩

/-- An attempt that behaves well goes on doing so until it has delivered all records. -/
theorem behaves_or_delivered (reached : c.IsReached p) (minds : c.Minds d a)
    (behaves : c.IsBehaved p a all unread unwritten)
    (calm : ∀ n, ¬ (course p c turn n).HasReturned a → (course p c turn n).IsCalm a) (n : Nat) :
    ((course p c turn n).Minds d a ∧ (course p c turn n).IsBehaved p a all unread unwritten) ∨
      ∃ k, (course p c turn k).Delivered a all unread unwritten := by
  induction n with
  | zero => exact .inl ⟨minds, behaves⟩
  | succ n ih =>
    rcases ih with ⟨held, u, plan, script, hu⟩ | done
    · rcases course_succ p c turn n with same | steps
      · exact .inl (by rw [same]; exact ⟨held, u, plan, script, hu⟩)
      · have reached := reached.course turn n
        obtain ⟨u', plan', script', hu', known, -⟩ :=
          hu.step reached (calm n (held.not_hasReturned reached)) steps
        rcases held.step reached.sound steps with held' | returned
        · exact .inl ⟨held', u', plan', script', hu'⟩
        · exact .inr ⟨n + 1, hu'.delivered known returned⟩
    · exact .inr done

/-- An attempt that behaves well delivers all records at some time. -/
theorem exists_delivered (reached : c.IsReached p) (fair : IsFair turn d a) (minds : c.Minds d a)
    (behaves : c.IsBehaved p a all unread unwritten)
    (calm : ∀ n, ¬ (course p c turn n).HasReturned a → (course p c turn n).IsCalm a) :
    ∃ n, (course p c turn n).Delivered a all unread unwritten := by
  apply Classical.byContradiction
  intro never
  have always := fun n => (behaves_or_delivered reached minds behaves calm n).resolve_right never
  have going : ∀ n, ¬ (course p c turn n).HasReturned a :=
    fun n => (always n).1.not_hasReturned (reached.course turn n)
  have calm : ∀ n, (course p c turn n).IsCalm a := fun n => calm n (going n)
  -- the threads are started, and come to their ends
  obtain ⟨i, -, hi⟩ := leaves_off (n := 0) reached.sound fair.time fair.driver (always 0).1
  obtain ⟨t, found, running⟩ := hi.resolve_left (going i)
  obtain ⟨u, plan, script, hu⟩ := (always i).2
  have ht := (Group.trial?_eq_some_iff.mp hu.1).1
  cases found.symm.trans ht
  obtain ⟨th, threads⟩ : ∃ th, u.attempt.threads = some th := by
    cases hth : u.attempt.threads with
    | some th => exact ⟨th, rfl⟩
    | none => unfold Attempt.isOver at running; rw [hth] at running; cases running
  obtain ⟨j, -, done⟩ := works_off reached fair calm ⟨u, th, plan, script, hu, threads, rfl⟩
  -- so the driver comes to the result
  obtain ⟨k, le, hk⟩ := leaves_off (n := j) reached.sound fair.time fair.driver (always j).1
  obtain ⟨t, found, running⟩ := hk.resolve_left (going k)
  obtain ⟨t', found', -, ended⟩ : (course p c turn k).IsDone a :=
    course_keeps (P := fun x => x.IsDone a) le (fun i _ ih goes => ih.step
      (reached.course turn i).sound (fun hu => ((reached.course turn i).known hu).standing) goes) done
  cases found.symm.trans found'
  rw [ended] at running
  cases running

/-- An attempt that behaves well goes on doing so in calm runs. -/
theorem isBehaved_of_run (reached : c.IsReached p) (behaves : c.IsBehaved p a all unread unwritten)
    {moves : List GroupMove} (h : c.run p moves = some c') (calm : c'.IsCalm a) :
    c'.IsReached p ∧ c'.IsBehaved p a all unread unwritten := by
  have kept := (run_invariant (p := p)
    (P := fun c => c.IsReached p ∧ (c.IsCalm a → c.IsBehaved p a all unread unwritten)) ?_
    reached.sound ⟨reached, fun _ => behaves⟩ h).2
  · exact ⟨kept.1, kept.2 calm⟩
  · intro c c' m sound ⟨reached, before⟩ hm
    refine ⟨reached.step hm, fun calm => ?_⟩
    have calm := calm.of_step sound hm
    obtain ⟨u, plan, script, hu⟩ := before calm
    obtain ⟨u', plan', script', hu', -⟩ := hu.step reached calm hm
    exact ⟨u', plan', script', hu'⟩

/-- **Attempts of plugins that behave well succeed.** Take an attempt that has just begun, for whose
task the next reader and the next writer can be made and initialized. Let the reader send records, flush
them and report dirty records, as its plan says, as long as its calls go well, and come to a good end
then. Let the writer receive, as its script says, until it is told that there are no more records, report
dirty records, and come to a good end, if it is handed the records of that plan. Then:
1. In every run in which the group is not stopped and no report finds the attempt to hang, no failure is
   captured, and once the attempt has returned, it has succeeded: the writer was handed the records of
   the reader in their order and then the news that there are no more, and the counters of its status
   are, as words, the number of records, twice, and the numbers of dirty records of both sides.
2. In every endless schedule that is fair to the two threads and the driver, and in which this is so
   until the attempt returns, the attempt does return. -/
theorem well_behaved_succeeds (p : GroupPlugins ρ ω) (config : CoreConfig) (now : Int)
    (tasks : List (TaskSpec ρ ω)) (before : List GroupMove) {c : Chronicle ρ ω}
    (hc : (start config now tasks).run p before = some c) {j : Job ρ ω}
    (at_ : c.group.drivers[d]? = some (.makingReader j a)) {r : ρ} {w : ω}
    (reader : j.spec.reader j.readers = .ok r) (writer : j.spec.writer j.writers = .ok w)
    {plan : List ReaderDeed} {script : List WriterDeed} (reads : p.reader.IsReady r plan)
    (sending : ∀ e ∈ plan, e.IsSending) (writes : p.writer.IsReady w script)
    (until_ : answers script = (sends plan).map some ++ [none]) :
    (∀ moves c', c.run p moves = some c' → c'.IsCalm a →
      ∃ t, c'.group.attempts[a]? = some t ∧ t.status.failure = none ∧
        ∀ x, .returned x ∈ c'.eventsOf a → x = .ok () ∧
          t.HasDelivered (c'.eventsOf a) (sends plan) (dirties plan) (dirties script)) ∧
    (∀ turn, IsFair turn d a →
      (∀ n, ¬ (course p c turn n).HasReturned a → (course p c turn n).IsCalm a) →
      ∃ n, (course p c turn n).Delivered a (sends plan) (dirties plan) (dirties script)) := by
  have reached : c.IsReached p := ⟨config, now, tasks, before, hc⟩
  have minds : c.Minds d a := ⟨_, at_, rfl⟩
  have holds := reached.sound.holds
  have begun := holds.begun at_ rfl
  have hu := holds.trial?_eq at_ rfl (List.getElem?_eq_getElem begun)
  have known := reached.known hu
  have fresh : c.group.attempts[a].IsFresh := known.standing.held rfl
  have behaves : c.IsBehaved p a (sends plan) (dirties plan) (dirties script) :=
    ⟨_, plan, script, hu, Trial.behaves_making known fresh.1 fresh.2.2 sending until_
      ⟨r, w, reader, writer, reads, writes⟩⟩
  refine ⟨fun moves c' h calm => ?_, fun turn fair calm => ?_⟩
  · obtain ⟨reached', u, plan', script', hu', behaves'⟩ := isBehaved_of_run reached behaves h calm
    refine ⟨u.attempt, (Group.trial?_eq_some_iff.mp hu').1, behaves'.failure, fun x hx => ?_⟩
    have known' := reached'.known hu'
    rw [calm.1] at known'
    exact behaves'.ends_well known' hx
  · exact exists_delivered reached fair minds behaves calm

/-! ### A run in rounds -/

/-- The driver and the threads of a lone task take turns, and a moment passes in between. -/
def rounds (n : Nat) : GroupMove :=
  match n % 4 with
  | 0 => .driver 0
  | 1 => .reader 0
  | 2 => .writer 0
  | _ => .tick 50000000

theorem periodic_rounds : Function.Periodic rounds 4 := by
  intro n
  unfold rounds
  rw [Nat.add_mod_right]

theorem isFair_rounds : IsFair rounds 0 0 where
  time := fun n =>
    have ⟨k, le, turns⟩ := recurs_of_periodic (by decide) periodic_rounds 3 n
    ⟨k, 50000000, le, by decide, turns⟩
  driver := recurs_of_periodic (by decide) periodic_rounds 0
  thread side := by
    cases side with
    | reader => exact recurs_of_periodic (by decide) periodic_rounds 1
    | writer => exact recurs_of_periodic (by decide) periodic_rounds 2

/-- What was calm at some time of a course was so before. -/
theorem IsCalm.of_course (reached : c.IsReached p) {k : Nat} (h : (course p c turn k).IsCalm a)
    (le : n ≤ k) : (course p c turn n).IsCalm a := by
  induction le with
  | refl => exact h
  | @step k _ ih =>
    rcases course_succ p c turn k with same | steps
    · exact ih (same ▸ h)
    · exact ih (h.of_step (reached.course turn k).sound steps)

/-- A task whose reader sends two records, with a dirty one and a flush in between, and whose writer
finds the second one dirty. -/
def twoRecords : TaskSpec ScriptedReader ScriptedWriter :=
  .ofScripts 0
    [.send .empty, .shared (.dirty .empty ScriptedWriter.violation), .flush,
      .send (.ofColumns [.bool true])]
    [.receive none (some 2)]

/-- The attempt of that task has just begun. -/
def justBegun : Chronicle ScriptedReader ScriptedWriter :=
  ((start {} 0 [twoRecords]).run scripted [.driver 0, .driver 0]).getD (start {} 0 [])

/-- What the reader does. -/
def planOfTwo : List ReaderDeed :=
  [.call (.send .empty) (.ok ()), .dirty .empty ScriptedWriter.violation, .call .flush (.ok ()),
    .call (.send (.ofColumns [.bool true])) (.ok ())]

/-- What the writer does. -/
def scriptOfTwo : List WriterDeed :=
  [.call .receive (some .empty), .call .receive (some (.ofColumns [.bool true])),
    .dirty (.ofColumns [.bool true]) ScriptedWriter.violation, .call .receive none, .aside]

/-- Whether the first attempt has returned, and nothing kept it from it. -/
def hasReturnedCalmly (c : Chronicle ScriptedReader ScriptedWriter) : Bool :=
  c.group.fatal.isNone && (c.eventsOf 0).all (fun | .hung _ => false | _ => true) &&
    (c.eventsOf 0).any fun | .returned (.ok ()) => true | _ => false

theorem of_hasReturnedCalmly {c : Chronicle ScriptedReader ScriptedWriter}
    (h : c.hasReturnedCalmly = true) : c.IsCalm 0 ∧ c.HasReturned 0 := by
  obtain ⟨h, returned⟩ := Bool.and_eq_true_iff.mp h
  obtain ⟨fatal, unhung⟩ := Bool.and_eq_true_iff.mp h
  refine ⟨⟨Option.isNone_iff_eq_none.mp fatal, fun f hf => ?_⟩, ?_⟩
  · exact nomatch List.all_eq_true.mp unhung _ hf
  · obtain ⟨e, he, is⟩ := List.any_eq_true.mp returned
    split at is
    · exact ⟨_, he⟩
    · cases is

theorem reader_isReady : ∃ r, twoRecords.reader 0 = .ok r ∧ scripted.reader.IsReady r planOfTwo :=
  ⟨_, rfl, _, rfl, .call rfl (.dirty rfl (.call rfl (.call rfl (.finish rfl rfl))))⟩

theorem writer_isReady : ∃ w, twoRecords.writer 0 = .ok w ∧ scripted.writer.IsReady w scriptOfTwo :=
  ⟨_, rfl, _, rfl, .call rfl (.call rfl (.dirty rfl (.call rfl (.aside ⟨trivial, nofun⟩
    (.finish rfl rfl)))))⟩

theorem isSending_planOfTwo : ∀ e ∈ planOfTwo, e.IsSending := by
  intro e he
  simp only [planOfTwo, List.mem_cons, List.not_mem_nil, or_false] at he
  rcases he with rfl | rfl | rfl | rfl
  · exact ⟨nofun, rfl⟩
  · trivial
  · exact ⟨nofun, rfl⟩
  · exact ⟨nofun, rfl⟩

/-- The two records come to the writer, and the two dirty records are counted. -/
theorem well_behaved_succeeds_inRounds :
    (start {} 0 [twoRecords]).run scripted [.driver 0, .driver 0] = some justBegun ∧
      ∃ n, (course scripted justBegun rounds n).Delivered 0 [.empty, .ofColumns [.bool true]] 1 1 := by
  obtain ⟨r, hr, reads⟩ := reader_isReady
  obtain ⟨w, hw, writes⟩ := writer_isReady
  refine ⟨rfl, (well_behaved_succeeds scripted {} 0 [twoRecords] [.driver 0, .driver 0] rfl rfl hr hw
    reads isSending_planOfTwo writes rfl).2 rounds isFair_rounds fun n going => ?_⟩
  obtain ⟨calm, returned⟩ :=
    of_hasReturnedCalmly (show (course scripted justBegun rounds 121).hasReturnedCalmly = true by
      decide +kernel)
  rcases Nat.le_total n 121 with le | le
  · exact calm.of_course ⟨{}, 0, [twoRecords], [.driver 0, .driver 0], rfl⟩ le
  · obtain ⟨x, hx⟩ := returned
    exact absurd ⟨x, (eventsOf_course_mono scripted justBegun rounds 0 le).subset hx⟩ going

end Chronicle

end BatchSync
