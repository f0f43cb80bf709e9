import BatchSync.Proofs.Attempt.Conduct
import BatchSync.Proofs.Group.RootCause
import BatchSync.Proofs.Group.Tally

/-!
# Attempts of plugins that behave well

What is known of an attempt whose reader sends records and whose writer receives until it is told that
there are no more (`Trial.Behaves`), as long as its group is not stopped and it is not found to hang:
no failure is captured, the records are on their way, and what is ahead of the plugins is what is left
of their deeds. `Behaves.moves` keeps this in every step, and says which steps leave less work.

The channel is closed by the reader alone: the writer closes it after it was told the end of the stream,
which it is on a closed channel only, and a driver closes it behind a failure.
-/

namespace BatchSync

open AttemptEvent Deed

variable {ρ ω : Type}

/-! ## What is told of threads and drivers -/

theorem ReaderThread.Moves.told_eq {plugin : Reader ρ} {w : Surroundings} {l l' : Line}
    {t t' : ReaderThread ρ} {es : List AttemptEvent} (h : t.Moves plugin w l es l' t') :
    told es = [] := by
  cases h with
  | answer =>
    unfold ReaderThread.answers
    split <;> rfl
  | _ => rfl

theorem told_ofDriver {es : List AttemptEvent} (h : ∀ e ∈ es, e.IsOfDriver) : told es = [] := by
  unfold told
  rw [List.filterMap_eq_nil_iff]
  intro e he
  have := h e he
  cases e <;> first | rfl | cases this

/-- The records among what was told. -/
theorem given_eq_told (es : List AttemptEvent) : given es = (told es).filterMap id := by
  unfold given told
  rw [List.filterMap_filterMap]
  congr 1
  funext e
  cases e <;> rfl

theorem mem_told {es : List AttemptEvent} {x : Option Record} : x ∈ told es ↔ .handed x ∈ es := by
  unfold told
  rw [List.mem_filterMap]
  constructor
  · rintro ⟨e, he, hx⟩
    cases e <;> cases hx
    exact he
  · exact fun h => ⟨_, h, rfl⟩

/-- Without the news that there are no more, what was told are records. -/
theorem told_eq_given {es : List AttemptEvent} (more : .handed none ∉ es) :
    told es = (given es).map some := by
  have of_list : ∀ xs : List (Option Record), none ∉ xs → xs = (xs.filterMap id).map some := by
    intro xs
    induction xs with
    | nil => exact fun _ => rfl
    | cons x xs ih =>
      intro hn
      cases x with
      | none => exact absurd List.mem_cons_self hn
      | some r => exact congrArg (some r :: ·) (ih fun h => hn (List.mem_cons_of_mem _ h))
  rw [given_eq_told]
  exact of_list _ fun h => more (mem_told.mp h)

/-- Nothing comes after the news that there are no more. -/
theorem eq_nil_of_none_mem {all : List Record} {xs ys : List (Option Record)}
    (h : xs ++ ys = all.map some ++ [none]) (last : none ∈ xs) : ys = [] := by
  induction all generalizing xs with
  | nil =>
    cases xs with
    | nil => cases last
    | cons x xs => exact (List.append_eq_nil_iff.mp (List.cons.inj h).2).2
  | cons r all ih =>
    cases xs with
    | nil => cases last
    | cons x xs =>
      obtain ⟨rfl, rest⟩ := List.cons.inj h
      exact ih rest ((List.mem_cons.mp last).resolve_left nofun)

/-! ## Steps that concern the channel and the failure -/

/-- A thread that ends well has captured no failure. -/
theorem ThreadStage.Moves.failure_eq {s s' : TaskStatus} {g g' : ThreadStage} (h : Moves s g s' g')
    (well : g' = .working ∨ g' = .finished) : s'.failure = s.failure := by
  cases h with
  | work same => exact TaskStatus.failure_eq_of_standing same
  | step => rcases well with h | h <;> cases h
  | fail | leave | failed | close => rfl

theorem ReaderThread.OnPlan.stage {plugin : Reader ρ} {closed held : Bool} {phase : ReaderPhase ρ}
    {ds : List ReaderDeed} (h : phase.OnPlan plugin closed held ds) :
    phase.stage = .working ∨ phase.stage = .finished := by
  cases h with
  | finished => exact .inr rfl
  | _ => exact .inl rfl

theorem WriterThread.OnScript.stage {plugin : Writer ω} {phase : WriterPhase ω}
    {ds : List WriterDeed} (h : phase.OnScript plugin ds) :
    phase.stage = .working ∨ phase.stage = .finished := by
  cases h with
  | finished => exact .inr rfl
  | _ => exact .inl rfl

theorem ReaderThread.OnPlan.not_isRefused {plugin : Reader ρ} {closed held : Bool}
    {t : ReaderThread ρ} {ds : List ReaderDeed} (h : t.phase.OnPlan plugin closed held ds) :
    ¬ t.IsRefused := by
  obtain ⟨x, k, phase⟩ := t
  cases h with
  | calling on well => exact well.not_isRefused
  | terminating quiet well => exact well.not_isRefused
  | _ => exact id

/-- Once the channel is closed, a reader that behaves well has put everything in. -/
theorem ReaderThread.OnPlan.of_closed {plugin : Reader ρ} {held : Bool} {t : ReaderThread ρ}
    {ds : List ReaderDeed} (h : t.phase.OnPlan plugin true held ds) : ds = [] ∧ t.IsThrough := by
  obtain ⟨x, k, phase⟩ := t
  cases h with
  | init _ _ isOpen => cases isOpen
  | starting _ isOpen => cases isOpen
  | running _ isOpen => cases isOpen
  | calling on well => cases well.of_closed.1
  | terminating quiet well =>
    obtain ⟨-, rfl⟩ := well.of_closed
    exact ⟨rfl, trivial⟩
  | destroying | finished => exact ⟨rfl, trivial⟩

/-- A writer leaves the flow control alone, and closes the channel at its end. -/
theorem WriterThread.Moves.channel_eq {plugin : Writer ω} {w : Surroundings} {l l' : Line}
    {t t' : WriterThread ω} {es : List AttemptEvent} (h : t.Moves plugin w l es l' t') :
    l'.flow = l.flow ∧ (l'.channel.closed = l.channel.closed ∨ t.phase = .shutting ∨
      t.phase = .closing) := by
  cases h with
  | go hd => cases hd <;> exact ⟨rfl, .inl rfl⟩
  | aside => exact ⟨PluginAct.flow_beside _ _, .inl (by rw [PluginAct.channel_beside])⟩
  | shut => exact ⟨rfl, .inr (.inl rfl)⟩
  | close => exact ⟨rfl, .inr (.inr rfl)⟩
  | _ => exact ⟨rfl, .inl rfl⟩

/-- What a writer is handed is the next of the records on their way to it. If there is none, the channel
is drained; if there is one, it was not told the end of the stream before. -/
theorem WriterThread.Moves.handed {plugin : Writer ω} {w : Surroundings} {l l' : Line}
    {t t' : WriterThread ω} {es es' : List AttemptEvent} {drained : Prop} {failure : Option Failure}
    {ds : List WriterDeed} (hm : t.Moves plugin w l es' l' t') (h : t.Passage drained failure es)
    (on : t.phase.OnScript plugin ds) {x : Option Record} (hx : .handed x ∈ es') :
    x = t.coming.head? ∧ (t.coming = [] → drained) ∧ (t.coming ≠ [] → .handed none ∉ es) ∧
      answers ds ≠ [] := by
  have asks : ∀ {s : ω}, plugin.act s = .call .receive → plugin.Follows s ds → answers ds ≠ [] := by
    intro s ha on
    obtain ⟨y, rest, rfl, -⟩ := on.of_call ha
    exact nofun
  cases hm with
  | @next y k s ha ready =>
    cases List.mem_singleton.mp hx
    have ended : y.ended = true → drained ∧ y.incoming = [] := h.ended
    refine ⟨rfl, fun none_ => ?_, fun some_ told => some_ (ended (h.told told)).2, ?_⟩
    · exact (ended (ready.resolve_left fun some_ => some_ none_)).1
    · cases on with
      | running on => exact asks ha on
  | @back y k s batch =>
    cases List.mem_singleton.mp hx
    obtain ⟨empty, more, last⟩ := h.asking rfl
    have empty : y.incoming = [] := empty
    refine ⟨rfl, fun none_ => last ?_, fun _ told => ?_, ?_⟩
    · have none_ : y.incoming ++ batch = [] := none_
      rw [(List.append_eq_nil_iff.mp none_).2]
    · have ended := h.told told
      rw [more] at ended
      cases ended
    · cases on with
      | calling _ ha on => exact asks ha on
  | fails ends => cases List.mem_singleton.mp hx
  | panics ends => cases List.mem_singleton.mp hx
  | finish => cases List.mem_singleton.mp hx
  | _ => cases hx

/-! ## What is known of every attempt -/

/-- Before its threads are started, nobody keeps the sample of an attempt, and a driver that fails it
because it hangs has told so. -/
structure Trial.Quiet (u : Trial ρ ω) (es : List AttemptEvent) : Prop where
  free : u.attempt.threads = none → u.attempt.line.flow.held = false
  hanging : ∀ {j : Job ρ ω} {a : Nat} {f : Failing}, u.phase = some (.hanging j a f) →
    ∃ e, .hung e ∈ es

theorem DriverPhase.Tends.flow_eq {g : Group ρ ω} {t t' : Attempt ρ ω}
    {phase phase' : DriverPhase ρ ω} {es : List AttemptEvent} (h : phase.Tends g t es t' phase') :
    t'.line.flow = t.line.flow := by
  cases h <;> rfl

theorem Trial.Quiet.moves {p : GroupPlugins ρ ω} {g : Group ρ ω} {u u' : Trial ρ ω}
    {es es' : List AttemptEvent} (h : u.Quiet es) (hm : u.Moves p g es' u') :
    u'.Quiet (es ++ es') := by
  have before : ∀ {j a f}, u.phase = some (.hanging j a f) → ∃ e, .hung e ∈ es ++ es' := by
    intro j a f hp
    obtain ⟨e, he⟩ := h.hanging hp
    exact ⟨e, List.mem_append_left _ he⟩
  cases hm with
  | idle => exact ⟨h.free, before⟩
  | reader => exact ⟨nofun, before⟩
  | writer => exact ⟨nofun, before⟩
  | @driver phase phase' t t' es' ht =>
    refine ⟨fun none_ => ?_, fun {j a f} hp => ?_⟩
    · rcases ht.threads_eq with same | ⟨_, _, _, _, _, _, -, started⟩
      · exact ht.flow_eq ▸ h.free (same.symm.trans none_)
      · cases none_.symm.trans started
    · cases DriverPhase.held_eq_some hp
      cases ht with
      | findHung => exact ⟨_, List.mem_append_right _ List.mem_cons_self⟩
      | hang => exact before rfl

/-- All that is known of every attempt at any time. -/
structure Trial.Known (p : GroupPlugins ρ ω) (fatal : Option Failure) (u : Trial ρ ω)
    (es : List AttemptEvent) : Prop where
  standing : u.Standing fatal
  returned : u.Returned fatal es
  passes : u.Passes p es
  caused : u.Caused fatal es
  tallied : u.Tallied es
  quiet : u.Quiet es

theorem Trial.Known.moves {p : GroupPlugins ρ ω} {g : Group ρ ω} {u u' : Trial ρ ω}
    {es es' : List AttemptEvent} (h : u.Known p g.fatal es) (hm : u.Moves p g es' u') :
    u'.Known p g.fatal (es ++ es') where
  standing := h.standing.moves hm
  returned := h.returned.moves h.standing hm
  passes := h.passes.moves h.standing hm
  caused := h.caused.moves h.standing h.passes hm
  tallied := h.tallied.moves h.standing hm
  quiet := h.quiet.moves hm

theorem Chronicle.known_of_run {p : GroupPlugins ρ ω} {config : CoreConfig} {now : Int}
    {tasks : List (TaskSpec ρ ω)} {moves : List GroupMove} {c : Chronicle ρ ω}
    (h : (start config now tasks).run p moves = some c) {a : Nat} {u : Trial ρ ω}
    (hu : c.group.trial? a = some u) : u.Known p c.group.fatal (c.eventsOf a) := by
  refine trial_induction (I := fun fatal u es => u.Known p fatal es) ?_ ?_ ?_ h hu
  · exact fun g j a => ⟨Trial.standing_fresh g j a, nofun, Trial.passes_fresh g j a,
      Trial.caused_fresh g j a, Trial.tallied_fresh g j a, ⟨fun _ => rfl, nofun⟩⟩
  · exact fun hi => ⟨hi.standing.stop, hi.returned.stop, hi.passes, hi.caused.stop, hi.tallied,
      hi.quiet⟩
  · exact fun hi hm => hi.moves hm

/-! ## Attempts of plugins that behave well -/

/-- An instance on which `init` succeeds, and what its body does then. -/
def Plugin.IsReady {σ κ β : Type} (plugin : Plugin σ κ β) (s : σ) (ds : List (Deed κ β)) : Prop :=
  ∃ s', plugin.init s = (.ok, s') ∧ plugin.Follows s' ds

/-- A driver is making the plugins of an attempt, and they are ready. -/
def DriverPhase.Makes (p : GroupPlugins ρ ω) (plan : List ReaderDeed) (script : List WriterDeed) :
    DriverPhase ρ ω → Prop
  | .makingReader j _ => ∃ r w, j.spec.reader j.readers = .ok r ∧ j.spec.writer j.writers = .ok w ∧
      p.reader.IsReady r plan ∧ p.writer.IsReady w script
  | .makingWriter j _ r => ∃ w, j.spec.writer j.writers = .ok w ∧ p.reader.IsReady r plan ∧
      p.writer.IsReady w script
  | _ => False

/-- A driver that makes plugins that are ready goes on making them, or has started their threads. -/
theorem DriverPhase.Makes.tends {p : GroupPlugins ρ ω} {g : Group ρ ω} {t t' : Attempt ρ ω}
    {phase phase' : DriverPhase ρ ω} {es : List AttemptEvent} {plan : List ReaderDeed}
    {script : List WriterDeed} (makes : phase.Makes p plan script)
    (ht : phase.Tends g t es t' phase') :
    (t'.threads = t.threads ∧ phase'.held = some phase' ∧ phase'.Makes p plan script) ∨
      ∃ th, t'.threads = some th ∧ th.reader.phase.OnPlan p.reader false false plan ∧
        th.writer.phase.OnScript p.writer script := by
  cases ht with
  | makeReader made =>
    obtain ⟨r, w, hr, hw, ready⟩ := makes
    cases made.symm.trans hr
    exact .inl ⟨rfl, rfl, w, hw, ready⟩
  | makeReaderFails failed =>
    obtain ⟨r, w, hr, -⟩ := makes
    cases failed.symm.trans hr
  | makeWriter made =>
    obtain ⟨w, hw, ⟨r', hr, onR⟩, w', hi, onW⟩ := makes
    cases made.symm.trans hw
    exact .inr ⟨_, rfl, .init hr onR rfl rfl, .init hi onW⟩
  | makeWriterFails failed =>
    obtain ⟨w, hw, -⟩ := makes
    cases failed.symm.trans hw
  | _ => cases makes

/-- The collector of a side. -/
def AttemptThreads.collector (th : AttemptThreads ρ ω) : Side → DirtyCollector
  | .reader => th.reader.collector
  | .writer => th.writer.collector

/-- How many dirty records a side has reported. -/
def Attempt.collected (t : Attempt ρ ω) (side : Side) : Nat :=
  t.threads.elim 0 fun th => (th.collector side).collected

theorem Attempt.collected_eq {t : Attempt ρ ω} {th : AttemptThreads ρ ω}
    (threads : t.threads = some th) (side : Side) :
    t.collected side = (th.collector side).collected := by
  unfold collected
  rw [threads]
  rfl

/-- How much work is left to the threads of an attempt that have some deeds ahead of them. -/
def AttemptThreads.work (th : AttemptThreads ρ ω) (plan : List ReaderDeed)
    (script : List WriterDeed) : Nat :=
  th.reader.phase.work plan.length + th.writer.phase.work script.length

/-- Where an attempt stands whose plugins behave well, with what is ahead of them, if all records and
the numbers of all dirty records of both sides are these. -/
structure Trial.Behaves (p : GroupPlugins ρ ω) (all : List Record) (unread unwritten : Nat)
    (u : Trial ρ ω) (es : List AttemptEvent) (plan : List ReaderDeed) (script : List WriterDeed) :
    Prop where
  failure : u.attempt.status.failure = none
  unrefused : ¬ Refused es
  sending : ∀ e ∈ plan, e.IsSending
  records : begun es ++ sends plan = all
  replies : told es ++ answers script = all.map some ++ [none]
  unread : u.attempt.collected .reader + dirties plan = unread
  unwritten : u.attempt.collected .writer + dirties script = unwritten
  making : u.attempt.threads = none → ∃ phase, u.phase = some phase ∧ phase.Makes p plan script
  reader : ∀ {th : AttemptThreads ρ ω}, u.attempt.threads = some th →
    th.reader.phase.OnPlan p.reader u.attempt.line.channel.closed u.attempt.line.flow.held plan
  writer : ∀ {th : AttemptThreads ρ ω}, u.attempt.threads = some th →
    th.writer.phase.OnScript p.writer script

namespace Trial

variable {p : GroupPlugins ρ ω} {g : Group ρ ω} {u u' : Trial ρ ω} {es es' : List AttemptEvent}
  {all : List Record} {unread unwritten : Nat} {plan : List ReaderDeed} {script : List WriterDeed}

/-- An attempt whose plugins are about to be made. -/
theorem behaves_making {phase : DriverPhase ρ ω} {t : Attempt ρ ω}
    (known : Known p g.fatal ⟨some phase, t⟩ es) (unbegun : t.threads = none)
    (calm : t.status.failure = none) (sending : ∀ e ∈ plan, e.IsSending)
    (until_ : answers script = (sends plan).map some ++ [none]) (makes : phase.Makes p plan script) :
    Behaves p (sends plan) (dirties plan) (dirties script) ⟨some phase, t⟩ es plan script := by
  have ofd := (known.passes.untold unbegun).1
  obtain ⟨hb, -, -, hr, -⟩ := ofDriver ofd
  have clean : ∀ side, t.collected side = 0 := by
    intro side
    unfold Attempt.collected
    rw [unbegun]
    rfl
  refine ⟨calm, hr, sending, ?_, ?_, ?_, ?_, fun _ => ⟨phase, rfl, makes⟩, ?_, ?_⟩
  · rw [hb]; rfl
  · rw [told_ofDriver ofd]; exact until_
  · rw [clean, Nat.zero_add]
  · rw [clean, Nat.zero_add]
  · exact fun threads => nomatch unbegun.symm.trans threads
  · exact fun threads => nomatch unbegun.symm.trans threads

section Through

variable {u : Trial ρ ω} (h : u.Behaves p all unread unwritten es plan [])
include h

/-- A writer that is through with its script was told everything. -/
theorem Behaves.told_eq : told es = all.map some ++ [none] := by
  have replies := h.replies
  rw [answers, List.filterMap_nil, List.append_nil] at replies
  exact replies

theorem Behaves.handed_none : .handed none ∈ es :=
  mem_told.mp (h.told_eq ▸ List.mem_append_right _ List.mem_cons_self)

theorem Behaves.given_eq : given es = all := by
  rw [given_eq_told, h.told_eq]
  simp [List.filterMap_map]

end Through

/-- The body of the writer is handed what its script says. -/
theorem Behaves.right {phase : Option (DriverPhase ρ ω)} {t : Attempt ρ ω} {th : AttemptThreads ρ ω}
    {l : Line} {r : WriterThread ω}
    (h : Behaves p all unread unwritten ⟨phase, t⟩ es plan script) (passes : Passes p ⟨phase, t⟩ es)
    (threads : t.threads = some th)
    (hm : th.writer.Moves p.writer (g.surroundings t.task) t.line es' l r) {x : Option Record}
    (hx : .handed x ∈ es') : (answers script).head? = some x := by
  have onPlan := h.reader threads
  obtain ⟨rfl, drains, untold, asks⟩ := hm.handed (passes.writer threads) (h.writer threads) hx
  have whole := (passes.reader threads).whole h.unrefused (ReaderThread.OnPlan.not_isRefused onPlan)
  have told := h.replies
  cases hc : th.writer.coming with
  | cons first rest =>
    rw [hc] at untold whole
    rw [told_eq_given (untold nofun), ← h.records, whole, List.map_append, List.map_append,
      List.map_append, List.append_assoc, List.append_assoc, List.append_assoc] at told
    rw [List.append_cancel_left told]
    rfl
  | nil =>
    -- the channel is drained, so the reader has put in everything, and all of it was handed out
    obtain ⟨closed, empty⟩ := drains hc
    have closed : t.line.channel.closed = true := closed
    have onPlan : th.reader.phase.OnPlan p.reader true t.line.flow.held plan := closed ▸ onPlan
    obtain ⟨rfl, through⟩ := ReaderThread.OnPlan.of_closed onPlan
    have pending := ((passes.reader threads).through through h.failure).2
    have sent : all = given es := by
      rw [← h.records, whole, hc, empty, pending]
      simp [sends]
    have more : .handed none ∉ es := fun hn => asks (eq_nil_of_none_mem told (mem_told.mpr hn))
    rw [told_eq_given more, sent] at told
    rw [List.append_cancel_left told]
    rfl

theorem Behaves.reader_moves {phase : Option (DriverPhase ρ ω)} {t : Attempt ρ ω}
    {th : AttemptThreads ρ ω} {l : Line} {r : ReaderThread ρ} (logged : List LogEvent)
    (h : Behaves p all unread unwritten ⟨phase, t⟩ es plan script) (threads : t.threads = some th)
    (hm : th.reader.Moves p.reader (g.surroundings t.task) t.line es' l r) :
    ∃ plan', Behaves p all unread unwritten
        ⟨phase, { t with line := l, threads := some { th with reader := r }, logged }⟩ (es ++ es')
        plan' script ∧
      AttemptThreads.work { th with reader := r } plan' script < th.work plan script := by
  obtain ⟨plan', goes⟩ := hm.goesOn (h.reader threads) h.sending
  have collected := Attempt.collected_eq threads
  refine ⟨plan', ⟨?_, ?_, ?_, ?_, ?_, ?_, ?_, nofun, ?_, ?_⟩, ?_⟩
  · have well := ReaderThread.OnPlan.stage goes.onPlan
    exact (hm.stage.failure_eq well).trans h.failure
  · exact fun hr => (refused_append.mp hr).elim h.unrefused goes.unrefused
  · exact fun e he => h.sending e (goes.suffix.subset he)
  · rw [begun_append, List.append_assoc, goes.begun]
    exact h.records
  · rw [told_append, hm.told_eq, List.append_nil]
    exact h.replies
  · exact goes.dirty.trans (by rw [← h.unread, collected]; rfl)
  · rw [← h.unwritten, collected]
    rfl
  · rintro _ ⟨⟩
    exact goes.onPlan
  · have onScript := h.writer threads
    rintro _ ⟨⟩
    exact onScript
  · exact Nat.add_lt_add_right goes.work _

theorem Behaves.writer_moves {phase : Option (DriverPhase ρ ω)} {t : Attempt ρ ω}
    {th : AttemptThreads ρ ω} {l : Line} {r : WriterThread ω} (logged : List LogEvent)
    (h : Behaves p all unread unwritten ⟨phase, t⟩ es plan script) (passes : Passes p ⟨phase, t⟩ es)
    (threads : t.threads = some th)
    (hm : th.writer.Moves p.writer (g.surroundings t.task) t.line es' l r) :
    ∃ script', Behaves p all unread unwritten
        ⟨phase, { t with line := l, threads := some { th with writer := r }, logged }⟩ (es ++ es')
        plan script' ∧
      AttemptThreads.work { th with writer := r } plan script' < th.work plan script := by
  have onScript := h.writer threads
  obtain ⟨script', goes⟩ := hm.goesOn onScript fun x hx => h.right passes threads hm hx
  have collected := Attempt.collected_eq threads
  obtain ⟨flow, closes⟩ := hm.channel_eq
  -- a writer that closes the channel was told the end of the stream, on a closed channel
  have closed : l.channel.closed = t.line.channel.closed := by
    rcases closes with same | shutting | closing
    · exact same
    · rw [shutting] at onScript
      cases onScript
      have ended := (passes.writer threads).told h.handed_none
      have drained : t.line.channel.IsDrained := ((passes.writer threads).ended ended).1
      obtain ⟨cs, hc⟩ := hm.change
      exact (hc.of_closed drained.1).1.trans drained.1.symm
    · rw [closing] at onScript
      cases onScript
  refine ⟨script', ⟨?_, ?_, h.sending, ?_, ?_, ?_, ?_, nofun, ?_, ?_⟩, ?_⟩
  · have well := WriterThread.OnScript.stage goes.onScript
    exact (hm.stage.failure_eq well).trans h.failure
  · exact fun hr => (refused_append.mp hr).elim h.unrefused hm.sent_eq.2.2
  · rw [begun_append, hm.sent_eq.1, List.append_nil]
    exact h.records
  · rw [told_append, List.append_assoc, goes.told]
    exact h.replies
  · rw [← h.unread, collected]
    rfl
  · exact goes.dirty.trans (by rw [← h.unwritten, collected]; rfl)
  · rintro _ ⟨⟩
    show th.reader.phase.OnPlan p.reader l.channel.closed l.flow.held plan
    rw [closed, flow]
    exact h.reader threads
  · rintro _ ⟨⟩
    exact goes.onScript
  · exact Nat.add_lt_add_left goes.work _

/-- A driver captures no failure, unless its attempt hangs or its group was stopped. -/
theorem Behaves.tend_failure {phase phase' : DriverPhase ρ ω} {t t' : Attempt ρ ω}
    (h : Behaves p all unread unwritten ⟨some phase, t⟩ es plan script)
    (known : Known p g.fatal ⟨some phase, t⟩ es) (fatal : g.fatal = none)
    (unhung : ∀ f, .hung f ∉ es) (ht : phase.Tends g t es' t' phase') :
    t'.status.failure = none := by
  have knows := known.standing.held rfl
  cases hf : t'.status.failure with
  | none => rfl
  | some f =>
    rcases ht.captures h.failure hf with ⟨j, a, n, rfl⟩ | ⟨j, a, rfl, -⟩ | ⟨j, a, n, r, rfl⟩
    · obtain ⟨e, he⟩ := known.quiet.hanging rfl
      exact absurd he (unhung e)
    · cases fatal.symm.trans knows.2
    · rcases knows.2 with (⟨-, stopped⟩ | ⟨-, -, failed⟩) | fresh
      · cases fatal.symm.trans stopped
      · cases h.failure.symm.trans failed
      · obtain ⟨phase, hp, makes⟩ := h.making fresh.1
        cases hp
        cases makes

theorem Behaves.tend {phase phase' : DriverPhase ρ ω} {t t' : Attempt ρ ω}
    (h : Behaves p all unread unwritten ⟨some phase, t⟩ es plan script)
    (known : Known p g.fatal ⟨some phase, t⟩ es) (fatal : g.fatal = none)
    (unhung : ∀ f, .hung f ∉ es) (ht : phase.Tends g t es' t' phase') :
    Behaves p all unread unwritten ⟨phase'.held, t'⟩ (es ++ es') plan script := by
  obtain ⟨hb, -, -, hr, -⟩ := ofDriver ht.isOfDriver
  have channel := known.standing.channel_eq ht h.failure
  have failure := h.tend_failure known fatal unhung ht
  have unrefused : ¬ Refused (es ++ es') := fun h' => (refused_append.mp h').elim h.unrefused hr
  have begun : begun (es ++ es') ++ sends plan = all := by
    rw [begun_append, hb, List.append_nil]
    exact h.records
  have told : told (es ++ es') ++ answers script = all.map some ++ [none] := by
    rw [told_append, told_ofDriver ht.isOfDriver, List.append_nil]
    exact h.replies
  rcases ht.threads_eq with same | ⟨j, a, r, w, size, samples, rfl, started⟩
  · have collected : ∀ side, t'.collected side = t.collected side := by
      intro side
      unfold Attempt.collected
      rw [same]
    refine ⟨failure, unrefused, h.sending, begun, told, ?_, ?_, fun none_ => ?_, fun threads => ?_,
      fun threads => h.writer (same.symm.trans threads)⟩
    · exact (congrArg (· + _) (collected _)).trans h.unread
    · exact (congrArg (· + _) (collected _)).trans h.unwritten
    · obtain ⟨phase₁, hp, makes⟩ := h.making (same.symm.trans none_)
      cases hp
      rcases makes.tends ht with ⟨-, held, next⟩ | ⟨th, started, -⟩
      · exact ⟨phase', held, next⟩
      · cases none_.symm.trans started
    · rw [channel, ht.flow_eq]
      exact h.reader (same.symm.trans threads)
  · have unbegun : t.threads = none := (known.standing.held rfl).1
    have collected : ∀ side, t'.collected side = t.collected side := by
      intro side
      unfold Attempt.collected
      rw [unbegun, started]
      cases side <;> rfl
    have ready : ∀ {th}, t'.threads = some th →
        th.reader.phase.OnPlan p.reader false false plan ∧
          th.writer.phase.OnScript p.writer script := by
      intro th threads
      obtain ⟨phase, hp, makes⟩ := h.making unbegun
      cases hp
      rcases makes.tends ht with ⟨same, -⟩ | ⟨th', threads', ready⟩
      · cases threads.symm.trans (same.trans unbegun)
      · cases threads.symm.trans threads'
        exact ready
    refine ⟨failure, unrefused, h.sending, begun, told, ?_, ?_, fun none_ => ?_, ?_, ?_⟩
    · exact (congrArg (· + _) (collected _)).trans h.unread
    · exact (congrArg (· + _) (collected _)).trans h.unwritten
    · cases none_.symm.trans started
    · intro th threads
      rw [channel, ht.flow_eq, known.caused.unbegun unbegun, known.quiet.free unbegun]
      exact (ready threads).1
    · exact fun threads => (ready threads).2

/-- The threads of an attempt, its channel and its flow control are as they were. -/
structure Still (u u' : Trial ρ ω) : Prop where
  threads : u'.attempt.threads = u.attempt.threads
  channel : u'.attempt.line.channel = u.attempt.line.channel
  flow : u'.attempt.line.flow = u.attempt.line.flow

/-- An attempt goes on behaving well. A step of a thread leaves less work; any other step leaves the
threads alone, once they were started. -/
theorem Behaves.moves (h : u.Behaves p all unread unwritten es plan script)
    (known : u.Known p g.fatal es) (fatal : g.fatal = none) (unhung : ∀ f, .hung f ∉ es)
    (hm : u.Moves p g es' u') :
    ∃ plan' script', u'.Behaves p all unread unwritten (es ++ es') plan' script' ∧
      ((∃ th th', u.attempt.threads = some th ∧ u'.attempt.threads = some th' ∧
          th'.work plan' script' < th.work plan script) ∨
        (plan' = plan ∧ script' = script ∧ (u.attempt.threads.isSome = true → u.Still u'))) := by
  cases hm with
  | idle =>
    rw [List.append_nil]
    exact ⟨plan, script, h, .inr ⟨rfl, rfl, fun _ => ⟨rfl, rfl, rfl⟩⟩⟩
  | reader logged threads hm =>
    obtain ⟨plan', next, less⟩ := h.reader_moves logged threads hm
    exact ⟨plan', script, next, .inl ⟨_, _, threads, rfl, less⟩⟩
  | writer logged threads hm =>
    obtain ⟨script', next, less⟩ := h.writer_moves logged known.passes threads hm
    exact ⟨plan, script', next, .inl ⟨_, _, threads, rfl, less⟩⟩
  | @driver phase phase' t t' es' ht =>
    refine ⟨plan, script, h.tend known fatal unhung ht, .inr ⟨rfl, rfl, fun begun => ?_⟩⟩
    rcases ht.threads_eq with same | ⟨j, a, r, w, size, samples, rfl, started⟩
    · exact ⟨same, known.standing.channel_eq ht h.failure, ht.flow_eq⟩
    · have unbegun : t.threads = none := (known.standing.held rfl).1
      have begun : t.threads.isSome = true := begun
      rw [unbegun] at begun
      cases begun

end Trial

/-! ## The end -/

/-- An attempt has succeeded, and all records have come to the writer, as its counters say. -/
structure Attempt.HasDelivered (t : Attempt ρ ω) (es : List AttemptEvent) (all : List Record)
    (unread unwritten : Nat) : Prop where
  state : t.status.state = .succeeded
  failure : t.status.failure = none
  told : told es = all.map some ++ [none]
  read : t.status.count .readSucceedRecords = all.length % wordLimit
  received : t.status.count .writeReceivedRecords = all.length % wordLimit
  unread : t.status.count .readFailedRecords = unread % wordLimit
  unwritten : t.status.count .writeFailedRecords = unwritten % wordLimit

/-- An attempt that behaves well until it returns has delivered all records. -/
theorem Trial.Behaves.ends_well {p : GroupPlugins ρ ω} {u : Trial ρ ω} {es : List AttemptEvent}
    {all : List Record} {unread unwritten : Nat} {plan : List ReaderDeed} {script : List WriterDeed}
    (h : u.Behaves p all unread unwritten es plan script) (known : u.Known p none es)
    {x : Except Failure Unit} (hx : .returned x ∈ es) :
    x = .ok () ∧ u.attempt.HasDelivered es all unread unwritten := by
  have results := (known.returned x hx).2
  cases x with
  | error e =>
    rcases results with ⟨-, stopped⟩ | ⟨-, failed⟩
    · cases stopped
    · cases h.failure.symm.trans failed
  | ok =>
    have done : u.attempt.HasSucceeded := results
    refine ⟨rfl, ?_⟩
    obtain ⟨th, threads⟩ := Option.isSome_iff_exists.mp done.begun
    obtain ⟨endR, endW⟩ := done.isFinished threads
    have reader := h.reader threads
    have writer := h.writer threads
    rw [endR] at reader
    rw [endW] at writer
    cases reader
    cases writer
    -- nothing is left on the way to the writer
    have passage := known.passes.writer threads
    obtain ⟨drained, incoming⟩ := passage.ended (passage.told h.handed_none)
    have coming : u.attempt.coming = [] := by
      unfold Attempt.coming WriterThread.coming
      rw [threads, Option.elim_some, endW]
      exact incoming
    obtain ⟨log, accounts, conserves, left⟩ := known.tallied.traffic
    have left : Crossing.departures log = all := by
      rw [left, h.given_eq, coming, List.append_nil]
    have arrived : Crossing.arrivals log = all := by
      have hc : Crossing.departures log ++ u.attempt.line.channel.queue = Crossing.arrivals log :=
        conserves
      rw [← hc, left, drained.2, List.append_nil]
    obtain ⟨dirtyR, dirtyW⟩ := known.tallied.dirty threads
    have unread_ : th.reader.collector.collected = unread :=
      (Attempt.collected_eq threads .reader).symm.trans h.unread
    have unwritten_ : th.writer.collector.collected = unwritten :=
      (Attempt.collected_eq threads .writer).symm.trans h.unwritten
    exact {
      state := done.state
      failure := h.failure
      told := h.told_eq
      read := by rw [← arrived]; exact accounts.readRecords
      received := by rw [← left]; exact accounts.receivedRecords
      unread := by rw [← unread_]; exact dirtyR.count
      unwritten := by rw [← unwritten_]; exact dirtyW.count }

end BatchSync
