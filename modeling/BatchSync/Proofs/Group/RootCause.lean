import BatchSync.Proofs.Group.Passage
import BatchSync.Proofs.Hang.History

/-!
# The root cause is kept

The failure captured in an attempt is the one that came first: what a plugin ran into by itself, that
the attempt hangs, or why its group was stopped (`Original`). It is never the refusal that a reader meets
because the channel was closed after another failure.

As long as no failure is captured, no call was refused (`Trial.Calm`): the channel is closed by a reader
that has ended its stream, by a writer that was told so, or behind a failure that was captured before.
So whoever captures the first failure has not been refused anything.
-/

namespace BatchSync

open AttemptEvent

variable {ρ ω : Type}

/-- A failure that is nobody's consequence: a plugin ended in it before any call of the reader was
refused, the attempt was found to hang, or it was stopped with its group. -/
def Original (fatal : Option Failure) (es : List AttemptEvent) (f : Failure) : Prop :=
  (∃ side before after, es = before ++ .raised side f :: after ∧ ¬ Refused before) ∨
    (.hung f ∈ es ∧ ∃ task total elapsed, f = .taskHung task total elapsed) ∨
    (.stopped f ∈ es ∧ fatal = some f)

/-- The writer comes to a good end only after it was told the end of the stream, and the reader leaves
ending the stream to the engine. -/
structure Polite (es : List AttemptEvent) : Prop where
  writer : ∀ before after, es = before ++ .finished .writer :: after → .handed none ∈ before
  reader : .called .terminate ∉ es

namespace Original

variable {fatal : Option Failure} {es : List AttemptEvent} {f : Failure}

theorem append (h : Original fatal es f) (es' : List AttemptEvent) :
    Original fatal (es ++ es') f := by
  rcases h with ⟨side, before, after, rfl, calm⟩ | ⟨hung, form⟩ | ⟨stopped, hf⟩
  · refine .inl ⟨side, before, after ++ es', ?_, calm⟩
    rw [List.append_assoc, List.cons_append]
  · exact .inr (.inl ⟨List.mem_append_left _ hung, form⟩)
  · exact .inr (.inr ⟨List.mem_append_left _ stopped, hf⟩)

theorem stop {g : Failure} (h : Original none es f) : Original (some g) es f := by
  rcases h with own | hung | ⟨-, hf⟩
  · exact .inl own
  · exact .inr (.inl hung)
  · cases hf

/-- What a plugin ended in is original while no call was refused. -/
theorem of_raised {side : Side} (raised : .raised side f ∈ es) (calm : ¬ Refused es) :
    Original fatal es f := by
  obtain ⟨before, after, rfl⟩ := List.append_of_mem raised
  exact .inl ⟨side, before, after, rfl, not_refused_left calm⟩

end Original

/-- What is polite was polite before. -/
theorem Polite.of_append {a b : List AttemptEvent} (h : Polite (a ++ b)) : Polite a where
  writer := by
    rintro before after rfl
    exact h.writer before (after ++ b) (by rw [List.append_assoc, List.cons_append])
  reader := fun hr => h.reader (List.mem_append_left _ hr)

/-! ## Calls that do not end the stream -/

namespace Sending

/-- Whether a call may close the channel. -/
def Ends : Sending → Prop
  | .pushing _ ends => ends = true
  | .waiting _ ends _ => ends = true
  | .metering ends => ends = true
  | .pausing _ ends => ends = true
  | .closing => True
  | .returned _ => False

theorem ends_passed {ends : Bool} (h : (passed ends).Ends) : ends = true := by
  cases ends
  · cases h
  · rfl

theorem ends_entered {batch : List Record} {ends : Bool} (h : (entered batch ends).Ends) :
    ends = true := by
  unfold entered at h
  split at h
  · exact ends_passed h
  · exact h

/-- A step of a call that does not end the stream leaves an open channel open, and is not refused. -/
theorem Moves.of_open {l l' : Line} {now : Nanos} {cs : List Crossing} {d d' : Sending}
    (h : d.Moves l now cs l' d') (isOpen : l.channel.closed = false) :
    (¬ d.Ends → ¬ d'.Ends) ∧ ¬ d'.IsRefused ∧
      (l'.channel.closed = false ∨ (d.Ends ∧ d' = .returned (.ok ()))) := by
  have offered : ∀ {d : Sending} {batch : List Record} {ends : Bool}, d.Offers batch ends →
      ends = true → d.Ends := by
    intro d batch ends offer he
    cases offer <;> exact he
  cases h with
  | wait => exact ⟨id, id, .inl isOpen⟩
  | refuse offer closed => rw [isOpen] at closed; cases closed
  | enter offer =>
    exact ⟨fun h he => h (offered offer (ends_entered he)), (isIn_entered _ _).not_isRefused,
      .inl isOpen⟩
  | meter =>
    exact ⟨fun h he => h (ends_passed he), (isIn_passed _).not_isRefused, .inl isOpen⟩
  | throttle => exact ⟨id, id, .inl isOpen⟩
  | resume =>
    exact ⟨fun h he => h (ends_passed he), (isIn_passed _).not_isRefused, .inl isOpen⟩
  | close => exact ⟨fun _ => id, id, .inr ⟨trivial, rfl⟩⟩

end Sending

/-! ## Threads that have not failed -/

/-- A plugin that is about to fail its attempt has told why. -/
def Failing.Owes (side : Side) (es : List AttemptEvent) : Failing → Prop
  | .checking f _ => .raised side f ∈ es
  | .capturing f _ => .raised side f ∈ es
  | _ => True

theorem Failing.Owes.append {side : Side} {es : List AttemptEvent} {f : Failing}
    (h : f.Owes side es) (es' : List AttemptEvent) : f.Owes side (es ++ es') := by
  cases f with
  | checking | capturing => exact List.mem_append_left _ h
  | settling | done => trivial

/-- A failure that was checked is captured next, if it is not dropped. -/
theorem Failing.step_checking (s : TaskStatus) (f : Failure) (n : Int) :
    ((Failing.checking f n).step s).2 = .done ∨ ((Failing.checking f n).step s).2 = .capturing f n := by
  unfold Failing.step
  dsimp only
  split
  · exact .inl rfl
  · exact .inr rfl

theorem Failing.Owes.step {side : Side} {es : List AttemptEvent} {f : Failing} (h : f.Owes side es)
    (s : TaskStatus) : (f.step s).2.Owes side es := by
  cases f with
  | checking f n =>
    rcases Failing.step_checking s f n with next | next <;> rw [next]
    · trivial
    · exact h
  | capturing | settling | done => trivial

namespace ReaderThread

/-- Whether the reader will put nothing more into the channel. -/
def IsBehind {ρ : Type} (t : ReaderThread ρ) : Prop :=
  match t.phase with
  | .terminating _ (.returned _) => True
  | .destroying _ _ => True
  | .failing _ => True
  | .closing => True
  | .finished => True
  | _ => False

/-- The reader fails only for reasons that were told. -/
def Owes {ρ : Type} (es : List AttemptEvent) (t : ReaderThread ρ) : Prop :=
  match t.phase with
  | .destroying _ (.error e) => .raised .reader (.ofPlugin e) ∈ es
  | .failing f => f.Owes .reader es
  | _ => True

/-- A reader that has met no refusal: the channel is open for as long as it puts records in, and what
it fails for is its own. -/
structure Calm (closed : Bool) (es : List AttemptEvent) (t : ReaderThread ρ) : Prop where
  unrefused : ¬ t.IsRefused
  behind : closed = true → t.IsBehind
  open_ended : ∀ {s : ρ} {d : Sending}, t.phase = .calling s d → ¬ d.Ends
  owes : t.Owes es

theorem Owes.append {t : ReaderThread ρ} {es : List AttemptEvent} (h : t.Owes es)
    (es' : List AttemptEvent) : t.Owes (es ++ es') := by
  obtain ⟨x, k, phase⟩ := t
  cases phase with
  | destroying s r =>
    cases r with
    | ok => trivial
    | error e => exact List.mem_append_left _ h
  | failing f => exact Failing.Owes.append h es'
  | _ => trivial

end ReaderThread

namespace WriterThread

/-- The writer fails only for reasons that were told. -/
def Owes {ω : Type} (es : List AttemptEvent) (t : WriterThread ω) : Prop :=
  match t.phase with
  | .destroying _ (.error e) => .raised .writer (.ofPlugin e) ∈ es
  | .failing f => f.Owes .writer es
  | _ => True

/-- A writer that comes to a good end on a closed channel alone, and fails for reasons of its own. -/
structure Calm (closed : Bool) (es : List AttemptEvent) (t : WriterThread ω) : Prop where
  shut : (∃ s, t.phase = .destroying s (.ok ())) ∨ t.phase = .shutting → closed = true
  owes : t.Owes es

theorem Owes.append {t : WriterThread ω} {es : List AttemptEvent} (h : t.Owes es)
    (es' : List AttemptEvent) : t.Owes (es ++ es') := by
  obtain ⟨x, k, phase⟩ := t
  cases phase with
  | destroying s r =>
    cases r with
    | ok => trivial
    | error e => exact List.mem_append_left _ h
  | failing f => exact Failing.Owes.append h es'
  | _ => trivial

end WriterThread

/-! ## Who captures the first failure -/

/-- The first failure is captured by the step that captures it. -/
theorem Failing.captures {s : TaskStatus} {g : Failing} {f : Failure} (none_ : s.failure = none)
    (h : (g.step s).1.failure = some f) : ∃ n, g = .capturing f n := by
  cases g with
  | checking e n =>
    unfold step at h
    dsimp only at h
    split at h <;> cases none_.symm.trans h
  | capturing e n =>
    have h : s.failure.or (some e) = some f := h
    rw [none_] at h
    cases h
    exact ⟨n, rfl⟩
  | settling n => cases none_.symm.trans ((TaskStatus.failure_settleFailed s n).symm.trans h)
  | done => cases none_.symm.trans h

theorem ThreadStage.Moves.captures {s s' : TaskStatus} {g g' : ThreadStage} {f : Failure}
    (hm : Moves s g s' g') (none_ : s.failure = none) (h : s'.failure = some f) :
    ∃ n, g = .failing (.capturing f n) := by
  cases hm with
  | work same => cases none_.symm.trans ((TaskStatus.failure_eq_of_standing same).symm.trans h)
  | step =>
    obtain ⟨n, rfl⟩ := Failing.captures none_ h
    exact ⟨n, rfl⟩
  | fail | leave | failed | close => cases none_.symm.trans h

/-- A failure that a thread captures is one that was told. -/
theorem ReaderThread.Owes.of_capturing {ρ : Type} {t : ReaderThread ρ} {es : List AttemptEvent}
    {f : Failure} {n : Int} (h : t.Owes es) (at_ : t.phase.stage = .failing (.capturing f n)) :
    .raised .reader f ∈ es := by
  obtain ⟨x, k, phase⟩ := t
  cases phase <;> cases at_
  exact h

theorem WriterThread.Owes.of_capturing {ω : Type} {t : WriterThread ω} {es : List AttemptEvent}
    {f : Failure} {n : Int} (h : t.Owes es) (at_ : t.phase.stage = .failing (.capturing f n)) :
    .raised .writer f ∈ es := by
  obtain ⟨x, k, phase⟩ := t
  cases phase <;> cases at_
  exact h

/-! ## Steps of threads that have not failed -/

namespace ReaderThread

variable {plugin : Reader ρ} {w : Surroundings} {l l' : Line} {t t' : ReaderThread ρ}
  {es es' : List AttemptEvent}

theorem Calm.mono {closed : Bool} (h : t.Calm closed es) (es' : List AttemptEvent) :
    t.Calm closed (es ++ es') :=
  ⟨h.unrefused, h.behind, h.open_ended, h.owes.append es'⟩

/-- A calm reader that still puts records in finds the channel open. -/
theorem Calm.isOpen {closed : Bool} (h : t.Calm closed es) (before : ¬ t.IsBehind) :
    closed = false :=
  Bool.eq_false_iff.mpr fun hc => before (h.behind hc)

/-- Only a call that terminates ends the stream. -/
theorem not_ends_start (x : Exchanger) {c : SenderCall} (polite : c ≠ .terminate) :
    ¬ (c.start x).2.Ends := by
  cases c with
  | send r =>
    unfold SenderCall.start Exchanger.send
    dsimp only
    split
    · exact nofun
    · exact id
  | flush => exact nofun
  | terminate => exact absurd rfl polite

/-- A call of a calm reader goes on. -/
theorem Calm.go {x : Exchanger} {k : DirtyCollector} {s : ρ} {d d' : Sending} {now : Nanos}
    {cs : List Crossing} (h : Calm l.channel.closed es ⟨x, k, .calling s d⟩)
    (hd : d.Moves l now cs l' d') : Calm l'.channel.closed es ⟨x, k, .calling s d'⟩ := by
  obtain ⟨ends, calm, open_⟩ := hd.of_open (h.isOpen id)
  have notEnds : ¬ d.Ends := h.open_ended rfl
  refine ⟨calm, fun hc => ?_, ?_, trivial⟩
  · rcases open_ with isOpen | ⟨he, -⟩
    · rw [isOpen] at hc; cases hc
    · exact absurd he notEnds
  · rintro _ _ ⟨⟩
    exact ends notEnds

/-- The call that ends the stream of a calm reader goes on, and is through once the channel is closed. -/
theorem Calm.ending {x : Exchanger} {k : DirtyCollector} {s : ρ} {d d' : Sending} {now : Nanos}
    {cs : List Crossing} (h : Calm l.channel.closed es ⟨x, k, .terminating s d⟩)
    (hd : d.Moves l now cs l' d') : Calm l'.channel.closed es ⟨x, k, .terminating s d'⟩ := by
  have before : ¬ IsBehind ⟨x, k, .terminating s d⟩ := by
    intro hb
    cases d with
    | returned r => exact Sending.not_moves_returned hd
    | _ => exact hb
  obtain ⟨-, calm, open_⟩ := hd.of_open (h.isOpen before)
  refine ⟨calm, fun hc => ?_, nofun, trivial⟩
  rcases open_ with isOpen | ⟨-, rfl⟩
  · rw [isOpen] at hc; cases hc
  · trivial

/-- A call of a calm reader comes back well. -/
theorem Calm.not_refused_answers {x : Exchanger} {k : DirtyCollector} {s : ρ} {closed : Bool}
    {r : Except Failure Unit} (h : Calm closed es ⟨x, k, .calling s (.returned r)⟩) :
    ¬ Refused (answers plugin s r) := by
  cases r with
  | error f => exact absurd trivial h.unrefused
  | ok u =>
    unfold answers
    split
    · exact fun hr => refused_singleton.mp hr
    · exact not_refused_nil

/-- A reader stays calm for as long as no failure is captured. -/
theorem Moves.calm (hm : t.Moves plugin w l es' l' t') (h : t.Calm l.channel.closed es)
    (none_ : l.status.failure = none) (backed : t.phase.stage.Backed l.status.failure)
    (polite : .called .terminate ∉ es') (none' : l'.status.failure = none) :
    t'.Calm l'.channel.closed (es ++ es') ∧ ¬ Refused es' := by
  rw [none_] at backed
  cases hm with
  | init => exact ⟨⟨id, fun hc => absurd (h.behind hc) id, nofun, trivial⟩, not_refused_nil⟩
  | start => exact ⟨⟨id, fun hc => absurd (h.behind hc) id, nofun, trivial⟩, not_refused_nil⟩
  | @call x k s c =>
    have not_terminate : c ≠ .terminate := by
      rintro rfl
      exact polite (List.mem_singleton.mpr rfl)
    refine ⟨⟨(c.pending_start x).2, fun hc => absurd (h.behind hc) id, ?_, trivial⟩,
      fun hr => refused_singleton.mp hr⟩
    rintro _ _ ⟨⟩
    exact not_ends_start x not_terminate
  | dirty => exact ⟨⟨id, fun hc => absurd (h.behind hc) id, nofun, trivial⟩, not_refused_nil⟩
  | aside =>
    rw [PluginAct.channel_beside]
    exact ⟨⟨id, fun hc => absurd (h.behind hc) id, nofun, trivial⟩, not_refused_nil⟩
  | finish =>
    exact ⟨⟨id, fun hc => absurd (h.behind hc) id, nofun, trivial⟩,
      fun hr => refused_singleton.mp hr⟩
  | fails ends =>
    exact ⟨⟨id, fun _ => trivial, nofun, List.mem_append_right _ List.mem_cons_self⟩,
      fun hr => refused_singleton.mp hr⟩
  | panics ends =>
    exact ⟨⟨id, fun _ => trivial, nofun, List.mem_append_right _ List.mem_cons_self⟩,
      fun hr => refused_singleton.mp hr⟩
  | go hd =>
    rw [List.append_nil]
    exact ⟨h.go hd, not_refused_nil⟩
  | answer => exact ⟨⟨id, fun hc => absurd (h.behind hc) id, nofun, trivial⟩, h.not_refused_answers⟩
  | ending hd =>
    rw [List.append_nil]
    exact ⟨h.ending hd, not_refused_nil⟩
  | @ended x k s r =>
    cases r with
    | error f => exact absurd trivial h.unrefused
    | ok u =>
      exact ⟨⟨id, fun _ => trivial, nofun, trivial⟩, fun hr => refused_singleton.mp hr⟩
  | leave => exact ⟨⟨id, fun _ => trivial, nofun, trivial⟩, not_refused_nil⟩
  | fail => exact ⟨⟨id, fun _ => trivial, nofun, h.owes.append []⟩, not_refused_nil⟩
  | settle =>
    exact ⟨⟨id, fun _ => trivial, nofun, Failing.Owes.step (h.owes.append []) _⟩, not_refused_nil⟩
  | settled => cases backed
  | close => cases backed

end ReaderThread

namespace WriterThread

variable {plugin : Writer ω} {w : Surroundings} {l l' : Line} {t t' : WriterThread ω}
  {es es' : List AttemptEvent}

theorem Calm.mono {closed closed' : Bool} (h : t.Calm closed es)
    (closes : closed = true → closed' = true) (es' : List AttemptEvent) :
    t.Calm closed' (es ++ es') :=
  ⟨fun hp => closes (h.shut hp), h.owes.append es'⟩

/-- A writer stays calm for as long as no failure is captured, and does not close an open channel. -/
theorem Moves.calm (hm : t.Moves plugin w l es' l' t') (h : t.Calm l.channel.closed es)
    (passage : t.Passage l.channel.IsDrained l.status.failure es)
    (none_ : l.status.failure = none) (backed : t.phase.stage.Backed l.status.failure)
    (polite : Polite (es ++ es')) :
    t'.Calm l'.channel.closed (es ++ es') ∧ l'.channel.closed = l.channel.closed := by
  rw [none_] at backed
  have working : ∀ {phase : WriterPhase ω}, (∃ s, phase = .destroying s (.ok ())) ∨
      phase = .shutting → phase.stage = .working := by
    rintro _ (⟨s, rfl⟩ | rfl) <;> rfl
  cases hm with
  | init => exact ⟨⟨nofun, trivial⟩, rfl⟩
  | start => exact ⟨⟨nofun, trivial⟩, rfl⟩
  | ask => exact ⟨⟨nofun, trivial⟩, rfl⟩
  | next => exact ⟨⟨nofun, trivial⟩, rfl⟩
  | dirty => exact ⟨⟨nofun, trivial⟩, rfl⟩
  | aside => rw [PluginAct.channel_beside]; exact ⟨⟨nofun, trivial⟩, rfl⟩
  | finish =>
    -- a writer that is polite was told the end of the stream, on a channel that was closed
    have told := polite.writer es [] rfl
    exact ⟨⟨fun _ => (passage.ended (passage.told told)).1.1, trivial⟩, rfl⟩
  | fails ends => exact ⟨⟨nofun, List.mem_append_right _ List.mem_cons_self⟩, rfl⟩
  | panics ends => exact ⟨⟨nofun, List.mem_append_right _ List.mem_cons_self⟩, rfl⟩
  | go hd => cases hd <;> exact ⟨⟨nofun, trivial⟩, rfl⟩
  | back => exact ⟨⟨nofun, trivial⟩, rfl⟩
  | leave => exact ⟨⟨fun _ => h.shut (.inl ⟨_, rfl⟩), trivial⟩, rfl⟩
  | fail => exact ⟨⟨nofun, h.owes.append []⟩, rfl⟩
  | shut => exact ⟨⟨nofun, trivial⟩, (h.shut (.inr rfl)).symm⟩
  | settle => exact ⟨⟨nofun, Failing.Owes.step (h.owes.append []) _⟩, rfl⟩
  | settled => cases backed
  | close => cases backed

end WriterThread

/-! ## Drivers -/

/-- A driver that is about to fail its attempt because it hangs has told so. -/
def DriverPhase.Owes (es : List AttemptEvent) : DriverPhase ρ ω → Prop
  | .hanging _ _ (.checking f _) => .hung f ∈ es ∧ ∃ task total elapsed, f = .taskHung task total elapsed
  | .hanging _ _ (.capturing f _) =>
    .hung f ∈ es ∧ ∃ task total elapsed, f = .taskHung task total elapsed
  | _ => True

theorem DriverPhase.Owes.append {phase : DriverPhase ρ ω} {es : List AttemptEvent}
    (h : phase.Owes es) (es' : List AttemptEvent) : phase.Owes (es ++ es') := by
  cases phase with
  | hanging j a f =>
    cases f with
    | checking | capturing => exact ⟨List.mem_append_left _ h.1, h.2⟩
    | settling | done => trivial
  | _ => trivial

/-- What the monitor finds is that a task hangs. -/
theorem HangMonitor.look_hung {m : HangMonitor} {now : Int} {task : Nat} {s : TaskStatus}
    {f : Failure} (h : (m.look now task s).hung = some f) :
    ∃ task total elapsed, f = .taskHung task total elapsed := by
  obtain ⟨p, -, rfl⟩ := look_hung_eq_some_iff.mp h
  exact ⟨_, _, _, rfl⟩

namespace DriverPhase

variable {g : Group ρ ω} {t t' : Attempt ρ ω} {phase phase' : DriverPhase ρ ω}
  {es es' : List AttemptEvent}

/-- A driver captures the first failure of an attempt that hangs, was stopped, or was not begun. -/
theorem Tends.captures (h : phase.Tends g t es t' phase') {f : Failure}
    (none_ : t.status.failure = none) (hf : t'.status.failure = some f) :
    (∃ j a n, phase = .hanging j a (.capturing f n)) ∨
      (∃ j a, phase = .stopping j a f ∧ es = [.stopped f]) ∨
      (∃ j a n r, phase = .failing j a (.capturing f n) r) := by
  cases h with
  | @hang j a =>
    obtain ⟨n, rfl⟩ := Failing.captures none_ hf
    exact .inl ⟨j, a, n, rfl⟩
  | @stop j a t e =>
    have hf : t.status.failure.or (some e) = some f := hf
    rw [none_] at hf
    cases hf
    exact .inr (.inl ⟨j, a, rfl, rfl⟩)
  | @fail j a t f r =>
    obtain ⟨n, rfl⟩ := Failing.captures none_ hf
    exact .inr (.inr ⟨j, a, n, r, rfl⟩)
  | kill | settle =>
    have hf : (t.status.moveTo _).failure = some f := hf
    rw [TaskStatus.failure_moveTo, none_] at hf
    cases hf
  | _ => cases none_.symm.trans hf

/-- A driver leaves the channel alone, unless the attempt is finished. -/
theorem Tends.channel_eq (h : phase.Tends g t es t' phase') :
    t'.line.channel = t.line.channel ∨
      ((∃ j a, phase = .leaving j a) ∧ t.status.isFinished = true) := by
  cases h with
  | shut finished => exact .inr ⟨⟨_, _, rfl⟩, finished⟩
  | _ => exact .inl rfl

/-- Before a driver fails its attempt because it hangs, it tells so. -/
theorem Tends.owes (h : phase.Tends g t es' t' phase') (owes : phase.Owes es) :
    phase'.Owes (es ++ es') := by
  cases h with
  | findHung hung =>
    exact ⟨List.mem_append_right _ List.mem_cons_self, HangMonitor.look_hung hung⟩
  | @hang j a t f going =>
    cases f with
    | checking f n =>
      rcases Failing.step_checking t.status f n with next | next <;> rw [next]
      · trivial
      · exact ⟨List.mem_append_left _ owes.1, owes.2⟩
    | capturing | settling | done => trivial
  | _ => trivial

end DriverPhase

/-! ## Attempts without a failure -/

/-- What is known of an attempt whose threads run and that has captured no failure. -/
structure Trial.Calm (u : Trial ρ ω) (th : AttemptThreads ρ ω) (es : List AttemptEvent) : Prop where
  unrefused : ¬ Refused es
  reader : th.reader.Calm u.attempt.line.channel.closed es
  writer : th.writer.Calm u.attempt.line.channel.closed es
  driver : ∀ {phase : DriverPhase ρ ω}, u.phase = some phase → phase.Owes es

/-- What is known of the failure of an attempt: there is none yet, and everything is calm, or it is
original. -/
structure Trial.Caused (fatal : Option Failure) (u : Trial ρ ω) (es : List AttemptEvent) : Prop where
  unbegun : u.attempt.threads = none → u.attempt.line.channel.closed = false
  calm : Polite es → u.attempt.status.failure = none → ∀ {th : AttemptThreads ρ ω},
    u.attempt.threads = some th → u.Calm th es
  captured : Polite es → u.attempt.threads.isSome = true → ∀ {f : Failure},
    u.attempt.status.failure = some f → Original fatal es f

namespace Trial

variable {p : GroupPlugins ρ ω} {g : Group ρ ω} {u u' : Trial ρ ω} {es es' : List AttemptEvent}

theorem caused_fresh (g : Group ρ ω) (j : Job ρ ω) (a : Nat) :
    Caused none ⟨some (.makingReader j a), g.freshAttempt j.spec⟩ [] :=
  ⟨fun _ => rfl, fun _ _ => nofun, fun _ => nofun⟩

theorem Caused.stop {f : Failure} (h : u.Caused none es) : u.Caused (some f) es :=
  ⟨h.unbegun, h.calm, fun polite begun _ hf => (h.captured polite begun hf).stop⟩

/-- The failure that a status has captured after a step: the one that was there, or one that came. -/
theorem captured_or {s s' : TaskStatus} (grows : s.Grows s') {f : Failure}
    (hf : s'.failure = some f) : s.failure = some f ∨ s.failure = none := by
  cases hs : s.failure with
  | none => exact .inr rfl
  | some e =>
    rw [grows.failure e hs] at hf
    exact .inl hf

theorem Caused.reader_moves {phase : Option (DriverPhase ρ ω)} {t : Attempt ρ ω}
    {th : AttemptThreads ρ ω} {l : Line} {r : ReaderThread ρ} (logged : List LogEvent)
    (h : Caused g.fatal ⟨phase, t⟩ es) (standing : Standing g.fatal ⟨phase, t⟩)
    (threads : t.threads = some th)
    (hm : th.reader.Moves p.reader (g.surroundings t.task) t.line es' l r) :
    Caused g.fatal ⟨phase, { t with line := l, threads := some { th with reader := r }, logged }⟩
      (es ++ es') := by
  have grows : t.status.Grows l.status := hm.stage.grows
  obtain ⟨cs, hc⟩ := hm.change
  refine ⟨nofun, ?_, ?_⟩
  · rintro polite none' _ ⟨⟩
    have none_ := grows.eq_none none'
    have before := h.calm polite.of_append none_ threads
    have uncalled : .called .terminate ∉ es' := fun hr =>
      polite.reader (List.mem_append_right _ hr)
    obtain ⟨calm, unrefused⟩ := hm.calm before.reader none_
      (standing.backed threads .reader) uncalled none'
    refine ⟨fun hr => ?_, calm, ?_, fun hp => (before.driver hp).append es'⟩
    · exact (refused_append.mp hr).elim before.unrefused unrefused
    · exact before.writer.mono (fun closed => (hc.of_closed closed).1) es'
  · intro polite _ f hf
    rcases captured_or grows hf with same | none_
    · exact (h.captured polite.of_append (Option.isSome_iff_exists.mpr ⟨th, threads⟩) same).append _
    · have before := h.calm polite.of_append none_ threads
      obtain ⟨n, at_⟩ := hm.stage.captures none_ hf
      exact (Original.of_raised (before.reader.owes.of_capturing at_) before.unrefused).append _

theorem Caused.writer_moves {phase : Option (DriverPhase ρ ω)} {t : Attempt ρ ω}
    {th : AttemptThreads ρ ω} {l : Line} {r : WriterThread ω} (logged : List LogEvent)
    (h : Caused g.fatal ⟨phase, t⟩ es) (standing : Standing g.fatal ⟨phase, t⟩)
    (passes : Passes p ⟨phase, t⟩ es) (threads : t.threads = some th)
    (hm : th.writer.Moves p.writer (g.surroundings t.task) t.line es' l r) :
    Caused g.fatal ⟨phase, { t with line := l, threads := some { th with writer := r }, logged }⟩
      (es ++ es') := by
  have grows : t.status.Grows l.status := hm.stage.grows
  refine ⟨nofun, ?_, ?_⟩
  · rintro polite none' _ ⟨⟩
    have none_ := grows.eq_none none'
    have before := h.calm polite.of_append none_ threads
    obtain ⟨calm, same⟩ := hm.calm before.writer (passes.writer threads) none_
      (standing.backed threads .writer) polite
    refine ⟨fun hr => ?_, ?_, calm, fun hp => (before.driver hp).append es'⟩
    · exact (refused_append.mp hr).elim before.unrefused hm.sent_eq.2.2
    · show th.reader.Calm l.channel.closed _
      rw [same]
      exact before.reader.mono es'
  · intro polite _ f hf
    rcases captured_or grows hf with same | none_
    · exact (h.captured polite.of_append (Option.isSome_iff_exists.mpr ⟨th, threads⟩) same).append _
    · have before := h.calm polite.of_append none_ threads
      obtain ⟨n, at_⟩ := hm.stage.captures none_ hf
      exact (Original.of_raised (before.writer.owes.of_capturing at_) before.unrefused).append _

/-- While there is no failure, a driver does nothing to the channel. -/
theorem Standing.channel_eq {phase phase' : DriverPhase ρ ω} {t t' : Attempt ρ ω}
    (h : Standing g.fatal ⟨some phase, t⟩) (ht : phase.Tends g t es t' phase')
    (none_ : t.status.failure = none) : t'.line.channel = t.line.channel := by
  rcases ht.channel_eq with same | ⟨⟨j, a, rfl⟩, fin⟩
  · exact same
  · have going : t.IsGoing := (h.held rfl).1
    have running : t.status.isFinished = false := h.running none_ going.2
    rw [fin] at running
    cases running

/-- The failure that a driver captures is original. -/
theorem Caused.tend_captured {phase phase' : DriverPhase ρ ω} {t t' : Attempt ρ ω}
    (h : Caused g.fatal ⟨some phase, t⟩ es) (standing : Standing g.fatal ⟨some phase, t⟩)
    (ht : phase.Tends g t es' t' phase') (polite : Polite es) (none_ : t.status.failure = none)
    (begun : t'.threads.isSome = true) {f : Failure} (hf : t'.status.failure = some f) :
    Original g.fatal (es ++ es') f := by
  rcases ht.captures none_ hf with ⟨j, a, n, rfl⟩ | ⟨j, a, rfl, rfl⟩ | ⟨j, a, n, r, rfl⟩
  · obtain ⟨th, threads⟩ := Option.isSome_iff_exists.mp (standing.held rfl).1.1
    obtain ⟨hung, form⟩ := (h.calm polite none_ threads).driver rfl
    exact .inr (.inl ⟨List.mem_append_left _ hung, form⟩)
  · exact .inr (.inr ⟨List.mem_append_right _ List.mem_cons_self, (standing.held rfl).2⟩)
  · -- the driver itself fails only what has failed already, or was never begun
    rcases (standing.held rfl).2 with (⟨killed, -⟩ | ⟨-, -, failed⟩) | fresh
    · have going : t.status.state ≠ .succeeded := fun hs => nomatch killed.symm.trans hs
      have fin := TaskStatus.isFinished_of_killed killed
      cases fin.symm.trans (standing.running none_ going)
    · cases none_.symm.trans failed
    · rcases ht.threads_eq with eq | ⟨_, _, _, _, _, _, he, -⟩
      · rw [eq, fresh.1] at begun
        cases begun
      · cases he

theorem Caused.tend {phase phase' : DriverPhase ρ ω} {t t' : Attempt ρ ω}
    (h : Caused g.fatal ⟨some phase, t⟩ es) (standing : Standing g.fatal ⟨some phase, t⟩)
    (passes : Passes p ⟨some phase, t⟩ es) (ht : phase.Tends g t es' t' phase') :
    Caused g.fatal ⟨phase'.held, t'⟩ (es ++ es') := by
  have grows : t.status.Grows t'.status := (Moves.driver (p := p) ht).grows
  have unrefused := (ofDriver ht.isOfDriver).2.2.2.1
  have unbegun : t'.threads = none → t.threads = none := by
    intro none_
    rcases ht.threads_eq with same | ⟨j, a, r, w, size, samples, -, started⟩
    · exact same.symm.trans none_
    · cases none_.symm.trans started
  refine ⟨fun none_ => ?_, fun polite none' th threads => ?_, fun polite begun f hf => ?_⟩
  · rcases ht.channel_eq with same | ⟨⟨j, a, rfl⟩, -⟩
    · exact (congrArg Channel.closed same).trans (h.unbegun (unbegun none_))
    · have going : t.IsGoing := (standing.held rfl).1
      have begun := going.1
      rw [unbegun none_] at begun
      cases begun
  · have none_ := grows.eq_none none'
    have closed := congrArg Channel.closed (standing.channel_eq ht none_)
    have owes : phase.Owes es → ∀ {ph : DriverPhase ρ ω}, phase'.held = some ph →
        ph.Owes (es ++ es') := by
      intro owes ph hp
      have next := ht.owes owes
      unfold DriverPhase.held at hp
      split at hp
      · cases hp
        exact next
      · cases hp
    rcases ht.threads_eq with same | ⟨j, a, r, w, size, samples, rfl, started⟩
    · have before := h.calm polite.of_append none_ (same.symm.trans threads)
      refine ⟨fun hr => ?_, ?_, ?_, owes (before.driver rfl)⟩
      · exact (refused_append.mp hr).elim before.unrefused unrefused
      · show th.reader.Calm t'.line.channel.closed _
        rw [closed]
        exact before.reader.mono es'
      · show th.writer.Calm t'.line.channel.closed _
        rw [closed]
        exact before.writer.mono id es'
    · have fresh : t.IsFresh := standing.held rfl
      have isOpen : t'.line.channel.closed = false := closed.trans (h.unbegun fresh.1)
      cases started.symm.trans threads
      refine ⟨fun hr => ?_, ⟨id, fun hc => ?_, nofun, trivial⟩, ⟨nofun, trivial⟩, owes trivial⟩
      · have before := (ofDriver (passes.untold fresh.1).1).2.2.2.1
        exact (refused_append.mp hr).elim before unrefused
      · have hc : t'.line.channel.closed = true := hc
        rw [isOpen] at hc
        cases hc
  · rcases captured_or grows hf with same | none_
    · have begun : t.threads.isSome = true := by
        cases hth : t.threads with
        | some th => rfl
        | none =>
          rcases ht.threads_eq with eq | ⟨j, a, r, w, size, samples, rfl, -⟩
          · have begun : t'.threads.isSome = true := begun
            rw [eq, hth] at begun
            cases begun
          · have fresh : t.IsFresh := standing.held rfl
            cases fresh.2.2.symm.trans same
      exact (h.captured polite.of_append begun same).append _
    · exact h.tend_captured standing ht polite.of_append none_ begun hf

theorem Caused.moves (h : u.Caused g.fatal es) (standing : u.Standing g.fatal)
    (passes : u.Passes p es) (hm : u.Moves p g es' u') : u'.Caused g.fatal (es ++ es') := by
  cases hm with
  | idle => rw [List.append_nil]; exact h
  | reader logged threads hm => exact h.reader_moves logged standing threads hm
  | writer logged threads hm => exact h.writer_moves logged standing passes threads hm
  | driver ht => exact h.tend standing passes ht

end Trial

/-! ## Runs -/

namespace Chronicle

variable {p : GroupPlugins ρ ω}

theorem caused_of_run {config : CoreConfig} {now : Int} {tasks : List (TaskSpec ρ ω)}
    {moves : List GroupMove} {c : Chronicle ρ ω}
    (h : (start config now tasks).run p moves = some c) {a : Nat} {u : Trial ρ ω}
    (hu : c.group.trial? a = some u) : u.Caused c.group.fatal (c.eventsOf a) := by
  refine (trial_induction
    (I := fun fatal u es => u.Standing fatal ∧ u.Passes p es ∧ u.Caused fatal es) ?_ ?_ ?_ h hu).2.2
  · exact fun g j a =>
      ⟨Trial.standing_fresh g j a, Trial.passes_fresh g j a, Trial.caused_fresh g j a⟩
  · exact fun hi => ⟨hi.1.stop, hi.2.1, hi.2.2.stop⟩
  · exact fun hi hm => ⟨hi.1.moves hm, hi.2.1.moves hi.1 hm, hi.2.2.moves hi.1 hi.2.1 hm⟩

/-- **The root cause is kept.** Take an attempt whose plugins were made, in which the writer comes to a
good end only after it was told the end of the stream, and the reader leaves ending the stream to the
engine. However the threads, the drivers and the clock take turns:
1. The failure captured in its status, if there is one, is original: a plugin ended in it before any
   call of the reader was refused, or the attempt was found to hang, or its group was stopped with it.
2. Once the attempt has returned, and not succeeded, a failure is captured, and what it returned is
   that failure, or why the group was stopped if the attempt was killed. -/
theorem root_cause_kept (p : GroupPlugins ρ ω) (config : CoreConfig) (now : Int)
    (tasks : List (TaskSpec ρ ω)) (moves : List GroupMove) {c : Chronicle ρ ω}
    (hc : (start config now tasks).run p moves = some c) {a : Nat} {t : Attempt ρ ω}
    (found : c.group.attempts[a]? = some t) (made : t.threads.isSome = true)
    (polite : Polite (c.eventsOf a)) :
    (∀ f, t.status.failure = some f → Original c.group.fatal (c.eventsOf a) f) ∧
    (∀ r, .returned r ∈ c.eventsOf a → t.status.state ≠ .succeeded →
      ∃ f, t.status.failure = some f ∧ Original c.group.fatal (c.eventsOf a) f ∧
        ((t.status.state = .failed ∧ r = .error f) ∨
          (t.status.state = .killed ∧ ∃ e, c.group.fatal = some e ∧ r = .error e))) := by
  have hu := Group.trial?_of_attempt found
  have original : ∀ f, t.status.failure = some f → Original c.group.fatal (c.eventsOf a) f :=
    fun f hf => (caused_of_run hc hu).captured polite made hf
  obtain ⟨standing, returned⟩ := standing_of_run hc hu
  refine ⟨original, fun r hr going => ?_⟩
  have results := (returned r hr).2
  cases r with
  | ok u => exact absurd results.state going
  | error e =>
    have fin : t.status.isFinished = true := results.isFinished
    obtain ⟨f, hf⟩ := Option.isSome_iff_exists.mp ((standing.captured fin).resolve_left going)
    refine ⟨f, hf, original f hf, ?_⟩
    rcases results with ⟨killed, fatal⟩ | ⟨failed, captured⟩
    · exact .inr ⟨killed, e, fatal, rfl⟩
    · cases hf.symm.trans captured
      exact .inl ⟨failed, rfl⟩

/-- The writer fails after the first record, and the reader is refused because of that. -/
def writerFailsFirst : List GroupMove :=
  List.replicate 5 (.driver 0) ++ List.replicate 8 (.reader 0) ++ List.replicate 13 (.writer 0) ++
    List.replicate 8 (.reader 0) ++ List.replicate 8 (.driver 0)

/-- Whether an event neither ends the body of the writer well nor ends the stream early. -/
def isModest : AttemptEvent → Bool
  | .finished .writer => false
  | .called .terminate => false
  | _ => true

theorem polite_of_isModest {es : List AttemptEvent} (h : es.all isModest = true) : Polite es where
  writer := by
    rintro before after rfl
    have hm := List.all_eq_true.mp h (.finished .writer)
      (List.mem_append_right _ List.mem_cons_self)
    cases hm
  reader := fun hr => nomatch List.all_eq_true.mp h (.called .terminate) hr

/-- What the writer ran into stays the failure of the attempt, though the reader was refused later. -/
theorem root_cause_kept_writerFailsFirst :
    ∃ (c : Chronicle ScriptedReader ScriptedWriter) (t : Attempt ScriptedReader ScriptedWriter),
      (start {} 0 [.ofScripts 0 [.send .empty, .flush, .poll]
        [.receive (some 1) none, .shared (.fail (.message "disk full" []))]]).run scripted
          writerFailsFirst = some c ∧
      c.group.attempts[0]? = some t ∧ t.threads.isSome = true ∧ Polite (c.eventsOf 0) ∧
      .answered .flush (.error .channelClosed) ∈ c.eventsOf 0 ∧
      (∀ f, t.status.failure = some f → Original c.group.fatal (c.eventsOf 0) f) ∧
      t.status.failure = some (.plugin (.message "disk full" [])) := by
  refine ⟨_, _, rfl, rfl, rfl, polite_of_isModest rfl, ?_, ?_, rfl⟩
  · exact List.mem_of_getElem? (i := 7) rfl
  · exact (root_cause_kept scripted {} 0 [.ofScripts 0 [.send .empty, .flush, .poll]
      [.receive (some 1) none, .shared (.fail (.message "disk full" []))]] writerFailsFirst
      rfl rfl rfl (polite_of_isModest rfl)).1

end Chronicle

end BatchSync
