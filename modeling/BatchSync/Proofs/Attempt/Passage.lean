import BatchSync.Proofs.Attempt.Threads
import BatchSync.Proofs.Channel.Order

/-!
# The way of the records of an attempt

Records go from the body of the reader through its exchanger, the channel and the exchanger of the
writer to the body of the writer. What the reader began to send is, from the first record on, what the
writer was handed, what is on its way to it, what is queued, and what was not yet put in
(`ReaderThread.Passage`), as long as no call was refused; and a call is refused only by a closed channel.
A reader that came to a good end was refused nothing and has put in everything.

The writer is told the end of the stream only on a channel that is closed and drained
(`WriterThread.Passage`).
-/

namespace BatchSync

/-! ## What is told of records -/

namespace AttemptEvent

/-- The record that the body of the reader begins to send. -/
def begun? : AttemptEvent → Option Record
  | .called (.send r) => some r
  | _ => none

/-- The record that the body of the reader has sent with success. -/
def sent? : AttemptEvent → Option Record
  | .answered (.send r) (.ok ()) => some r
  | _ => none

/-- The record that the body of the writer is handed. -/
def given? : AttemptEvent → Option Record
  | .handed x => x
  | _ => none

/-- A call of the reader that came back with a failure. -/
def IsRefusal : AttemptEvent → Prop
  | .answered _ (.error _) => True
  | .ended (.error _) => True
  | _ => False

/-- What is told of drivers, not of threads. -/
def IsOfDriver : AttemptEvent → Prop
  | .hung _ => True
  | .stopped _ => True
  | .returned _ => True
  | _ => False

/-- The records that the reader began to send. -/
def begun (es : List AttemptEvent) : List Record := es.filterMap begun?

/-- The records that the reader has sent with success. -/
def sent (es : List AttemptEvent) : List Record := es.filterMap sent?

/-- The records that the writer was handed. -/
def given (es : List AttemptEvent) : List Record := es.filterMap given?

/-- Whether a call of the reader was refused. -/
def Refused (es : List AttemptEvent) : Prop := ∃ e ∈ es, e.IsRefusal

@[simp] theorem begun_append (a b : List AttemptEvent) : begun (a ++ b) = begun a ++ begun b :=
  List.filterMap_append

@[simp] theorem sent_append (a b : List AttemptEvent) : sent (a ++ b) = sent a ++ sent b :=
  List.filterMap_append

@[simp] theorem given_append (a b : List AttemptEvent) : given (a ++ b) = given a ++ given b :=
  List.filterMap_append

theorem refused_append {a b : List AttemptEvent} : Refused (a ++ b) ↔ Refused a ∨ Refused b := by
  unfold Refused
  constructor
  · rintro ⟨e, he, hr⟩
    rcases List.mem_append.mp he with he | he
    · exact .inl ⟨e, he, hr⟩
    · exact .inr ⟨e, he, hr⟩
  · rintro (⟨e, he, hr⟩ | ⟨e, he, hr⟩)
    · exact ⟨e, List.mem_append_left _ he, hr⟩
    · exact ⟨e, List.mem_append_right _ he, hr⟩

theorem not_refused_left {a b : List AttemptEvent} (h : ¬ Refused (a ++ b)) : ¬ Refused a :=
  fun hr => h (refused_append.mpr (.inl hr))

theorem not_refused_nil : ¬ Refused [] := fun ⟨_, he, _⟩ => List.not_mem_nil he

theorem refused_singleton {e : AttemptEvent} : Refused [e] ↔ e.IsRefusal := by
  simp [Refused]

/-- What is told of drivers concerns no records. -/
theorem ofDriver {es : List AttemptEvent} (h : ∀ e ∈ es, e.IsOfDriver) :
    begun es = [] ∧ sent es = [] ∧ given es = [] ∧ ¬ Refused es ∧ .handed none ∉ es := by
  have none_ : ∀ f : AttemptEvent → Option Record, (∀ e, e.IsOfDriver → f e = none) →
      es.filterMap f = [] := by
    intro f hf
    rw [List.filterMap_eq_nil_iff]
    exact fun e he => hf e (h e he)
  refine ⟨none_ _ ?_, none_ _ ?_, none_ _ ?_, ?_, fun he => h _ he⟩
  · intro e he; cases e <;> first | rfl | cases he
  · intro e he; cases e <;> first | rfl | cases he
  · intro e he; cases e <;> first | rfl | cases he
  · rintro ⟨e, he, hr⟩
    have := h e he
    cases e <;> first | cases hr | cases this

end AttemptEvent

open AttemptEvent

/-! ## Calls on the way in -/

namespace Sending

/-- The records that a call has still to put in. -/
def pending : Sending → List Record
  | .pushing batch _ => batch
  | .waiting batch _ _ => batch
  | _ => []

/-- Whether the batch of a call was refused. -/
def IsRefused : Sending → Prop
  | .returned (.error _) => True
  | _ => False

/-- Whether the batch of a call was let in. -/
def IsIn : Sending → Prop
  | .metering _ => True
  | .pausing _ _ => True
  | .closing => True
  | .returned (.ok ()) => True
  | _ => False

theorem isIn_passed (ends : Bool) : (passed ends).IsIn := by cases ends <;> trivial

theorem isIn_entered (batch : List Record) (ends : Bool) : (entered batch ends).IsIn := by
  unfold entered
  split
  · exact isIn_passed ends
  · trivial

theorem IsIn.not_isRefused {d : Sending} (h : d.IsIn) : ¬ d.IsRefused := by
  intro hr
  cases d with
  | returned r => cases r <;> first | exact h | exact hr
  | _ => exact hr

theorem IsIn.pending_eq {d : Sending} (h : d.IsIn) : d.pending = [] := by
  cases d with
  | pushing | waiting => cases h
  | _ => rfl

theorem Offers.pending_eq {d : Sending} {batch : List Record} {ends : Bool}
    (h : d.Offers batch ends) : d.pending = batch ∧ ¬ d.IsRefused := by
  cases h <;> exact ⟨rfl, id⟩

/-- A step of a call puts its batch in as a whole, or is refused by a closed channel. -/
theorem Moves.passes {l l' : Line} {now : Nanos} {cs : List Crossing} {d d' : Sending}
    (h : d.Moves l now cs l' d') :
    (d'.IsRefused → l'.channel.closed = true) ∧ ¬ d.IsRefused ∧
      (¬ d'.IsRefused → l'.channel.queue ++ d'.pending = l.channel.queue ++ d.pending) ∧
      (d'.IsIn → d.IsIn ∨ l.channel.closed = false) := by
  have going : ∀ {d' : Sending}, d'.IsIn → l'.channel.queue = l.channel.queue →
      l'.channel.queue ++ d'.pending = l.channel.queue ++ [] := by
    intro d' isIn same
    rw [isIn.pending_eq, same]
  cases h with
  | wait => exact ⟨nofun, id, fun _ => rfl, nofun⟩
  | refuse offer closed =>
    exact ⟨fun _ => closed, offer.pending_eq.2, fun h => absurd trivial h, nofun⟩
  | @enter d batch ends offer waited isOpen =>
    have isIn := isIn_entered batch ends
    refine ⟨fun h => absurd h isIn.not_isRefused, offer.pending_eq.2, fun _ => ?_,
      fun _ => .inr isOpen⟩
    rw [isIn.pending_eq, offer.pending_eq.1, List.append_nil]
    rfl
  | meter =>
    exact ⟨fun h => absurd h (isIn_passed _).not_isRefused, id, fun _ => going (isIn_passed _) rfl,
      fun _ => .inl trivial⟩
  | throttle => exact ⟨nofun, id, fun _ => rfl, fun _ => .inl trivial⟩
  | resume =>
    exact ⟨fun h => absurd h (isIn_passed _).not_isRefused, id, fun _ => going (isIn_passed _) rfl,
      fun _ => .inl trivial⟩
  | close => exact ⟨nofun, id, fun _ => rfl, fun _ => .inl trivial⟩

end Sending

/-- The record of a call. -/
def SenderCall.records : SenderCall → List Record
  | .send r => [r]
  | _ => []

/-- A call that begins adds its record to what is pending. -/
theorem SenderCall.pending_start (c : SenderCall) (x : Exchanger) :
    (c.start x).2.pending ++ (c.start x).1.outgoing = x.outgoing ++ c.records ∧
      ¬ (c.start x).2.IsRefused := by
  cases c with
  | send r =>
    unfold start Exchanger.send
    dsimp only
    split
    · exact ⟨List.append_nil _, id⟩
    · exact ⟨rfl, id⟩
  | flush => exact ⟨rfl, id⟩
  | terminate => exact ⟨rfl, id⟩

/-! ## The thread of the reader -/

namespace ReaderThread

variable {ρ : Type}

/-- The records that are not yet put in. -/
def pending (t : ReaderThread ρ) : List Record :=
  match t.phase with
  | .calling _ d => d.pending ++ t.exchanger.outgoing
  | .terminating _ d => d.pending ++ t.exchanger.outgoing
  | _ => t.exchanger.outgoing

/-- Whether the thread is in a call that was refused. -/
def IsRefused (t : ReaderThread ρ) : Prop :=
  match t.phase with
  | .calling _ d => d.IsRefused
  | .terminating _ d => d.IsRefused
  | _ => False

/-- The record that the body is just sending. -/
def inHand (plugin : Reader ρ) (t : ReaderThread ρ) : List Record :=
  match t.phase with
  | .calling s _ =>
    match plugin.act s with
    | .call c => c.records
    | _ => []
  | _ => []

/-- Whether everything was put in behind a body that came to a good end. -/
def IsThrough (t : ReaderThread ρ) : Prop :=
  match t.phase with
  | .terminating _ d => d.IsIn
  | .destroying _ (.ok ()) => True
  | .finished => True
  | _ => False

/-- Where the records of a reader are: after those that have arrived in the channel come those that are
still pending, unless a call was refused, which happens on a closed channel alone. -/
structure Passage (plugin : Reader ρ) (closed : Bool) (failure : Option Failure)
    (arrived : List Record) (es : List AttemptEvent) (t : ReaderThread ρ) : Prop where
  calls : ∀ {s : ρ} {d : Sending}, t.phase = .calling s d → ∃ c, plugin.act s = .call c
  emptied : ∀ {s : ρ} {d : Sending}, t.phase = .terminating s d → t.exchanger.outgoing = []
  refused : Refused es ∨ t.IsRefused → closed = true
  whole : ¬ Refused es → ¬ t.IsRefused → begun es = arrived ++ t.pending
  sent : ¬ Refused es → begun es = AttemptEvent.sent es ++ t.inHand plugin
  through : t.IsThrough → failure = none → ¬ Refused es ∧ t.pending = []

variable {plugin : Reader ρ} {closed : Bool} {failure : Option Failure} {arrived : List Record}
  {es : List AttemptEvent} {t : ReaderThread ρ}

theorem passage_make (es : List AttemptEvent) (none_ : ∀ e ∈ es, e.IsOfDriver) (size samples : Nat)
    (s : ρ) : Passage plugin closed failure [] es (make size samples s) := by
  obtain ⟨hb, hs, -, hr, -⟩ := ofDriver none_
  refine ⟨nofun, nofun, fun h => absurd h ?_, fun _ _ => hb, fun _ => ?_, nofun⟩
  · rintro (h | h)
    · exact hr h
    · exact h
  · rw [hb, hs]
    rfl

/-- Others may close the channel and capture a failure, and what has arrived may move on. -/
theorem Passage.mono {closed' : Bool} {failure' : Option Failure} {es' : List AttemptEvent}
    (h : t.Passage plugin closed failure arrived es)
    (hc : closed = true → closed' = true) (hf : failure' = none → failure = none)
    (hb : begun es' = []) (hs : AttemptEvent.sent es' = []) (hr : ¬ Refused es') :
    t.Passage plugin closed' failure' arrived (es ++ es') := by
  have same : Refused (es ++ es') ↔ Refused es := by
    rw [refused_append]
    exact ⟨fun h => h.resolve_right hr, .inl⟩
  refine ⟨h.calls, h.emptied, ?_, ?_, ?_, ?_⟩
  · rw [same]
    exact fun hr => hc (h.refused hr)
  · rw [same, begun_append, hb, List.append_nil]
    exact h.whole
  · rw [same, begun_append, hb, sent_append, hs, List.append_nil, List.append_nil]
    exact h.sent
  · rw [same]
    exact fun through none_ => h.through through (hf none_)

/-- A step of the thread that is nothing but a change of its phase. -/
theorem Passage.rest {failure' : Option Failure} {t' : ReaderThread ρ} {es' : List AttemptEvent}
    (h : t.Passage plugin closed failure arrived es) (pending : t'.pending = t.pending)
    (refused : t'.IsRefused → t.IsRefused) (calm : ¬ t.IsRefused) (hand : t.inHand plugin = [])
    (calls : ∀ s d, t'.phase ≠ .calling s d)
    (emptied : ∀ {s d}, t'.phase = .terminating s d → t'.exchanger.outgoing = [])
    (through : t'.IsThrough → failure' = none → t.IsThrough ∧ failure = none)
    (hb : begun es' = []) (hs : AttemptEvent.sent es' = []) (hr : ¬ Refused es') :
    t'.Passage plugin closed failure' arrived (es ++ es') := by
  have same : Refused (es ++ es') ↔ Refused es := by
    rw [refused_append]
    exact ⟨fun h => h.resolve_right hr, .inl⟩
  have hand' : t'.inHand plugin = [] := by
    obtain ⟨x, k, phase⟩ := t'
    cases phase with
    | calling s d => exact absurd rfl (calls s d)
    | _ => rfl
  refine ⟨fun he => absurd he (calls _ _), emptied, ?_, ?_, ?_, ?_⟩
  · rw [same]
    exact fun hr => h.refused (hr.imp id refused)
  · rw [same, begun_append, hb, List.append_nil, pending]
    exact fun hr _ => h.whole hr calm
  · rw [same, begun_append, hb, sent_append, hs, List.append_nil, List.append_nil, hand', ← hand]
    exact h.sent
  · rw [same, pending]
    intro ht hf
    obtain ⟨ht, hf⟩ := through ht hf
    exact h.through ht hf

/-- Once a call was refused, nothing is said of the records. -/
theorem passage_of_refused (refused : Refused es) (shut : closed = true)
    (calls : ∀ s d, t.phase ≠ .calling s d) (ends : ∀ s d, t.phase ≠ .terminating s d)
    (through : ¬ t.IsThrough) : t.Passage plugin closed failure arrived es :=
  ⟨fun he => absurd he (calls _ _), fun he => absurd he (ends _ _), fun _ => shut,
    fun hr => absurd refused hr, fun hr => absurd refused hr, fun ht => absurd ht through⟩

theorem inHand_calling {x : Exchanger} {k : DirtyCollector} {s : ρ} {d : Sending} {c : SenderCall}
    (hc : plugin.act s = .call c) : inHand plugin ⟨x, k, .calling s d⟩ = c.records := by
  unfold inHand
  dsimp only
  rw [hc]

/-- A call begins with its record in hand. -/
theorem Passage.call {x : Exchanger} {k : DirtyCollector} {s : ρ} {c : SenderCall}
    (h : Passage plugin closed failure arrived es ⟨x, k, .running s⟩) (hc : plugin.act s = .call c) :
    Passage plugin closed failure arrived (es ++ [.called c])
      ⟨(c.start x).1, k, .calling s (c.start x).2⟩ := by
  obtain ⟨hp, hn⟩ := c.pending_start x
  have hb : begun [.called c] = c.records := by cases c <;> rfl
  have calm : ¬ Refused [.called c] := fun hr => refused_singleton.mp hr
  refine ⟨?_, nofun, ?_, fun hr _ => ?_, fun hr => ?_, nofun⟩
  · rintro _ _ ⟨⟩
    exact ⟨c, hc⟩
  · rintro (hr | hr)
    · exact h.refused (.inl ((refused_append.mp hr).resolve_right calm))
    · exact absurd hr hn
  · rw [begun_append, h.whole (not_refused_left hr) id, hb, List.append_assoc]
    exact congrArg _ hp.symm
  · have hs : AttemptEvent.sent [.called c] = [] := rfl
    rw [begun_append, sent_append, h.sent (not_refused_left hr), hb, hs, inHand_calling hc,
      List.append_nil]
    exact congrArg (· ++ c.records) (List.append_nil _)

/-- A call that comes back well has sent its record. -/
theorem Passage.answer {x : Exchanger} {k : DirtyCollector} {s s' : ρ} {c : SenderCall}
    (h : Passage plugin closed failure arrived es ⟨x, k, .calling s (.returned (.ok ()))⟩)
    (hc : plugin.act s = .call c) :
    Passage plugin closed failure arrived (es ++ [.answered c (.ok ())]) ⟨x, k, .running s'⟩ := by
  have hs : AttemptEvent.sent [.answered c (.ok ())] = c.records := by cases c <;> rfl
  have hb : begun [.answered c (.ok ())] = [] := rfl
  have calm : ¬ Refused [.answered c (.ok ())] := fun hr => refused_singleton.mp hr
  refine ⟨nofun, nofun, ?_, fun hr _ => ?_, fun hr => ?_, nofun⟩
  · rintro (hr | hr)
    · exact h.refused (.inl ((refused_append.mp hr).resolve_right calm))
    · exact absurd hr id
  · rw [begun_append, hb, List.append_nil, h.whole (not_refused_left hr) id]
    rfl
  · rw [begun_append, hb, List.append_nil, h.sent (not_refused_left hr), inHand_calling hc,
      sent_append, hs]
    exact (List.append_nil _).symm

/-- A step of a call keeps the order of what has arrived and what is still pending. -/
theorem arrived_append {l l' : Line} {d d' : Sending}
    (hq : l'.channel.queue ++ d'.pending = l.channel.queue ++ d.pending) (got out : List Record) :
    got ++ l.channel.queue ++ (d.pending ++ out) = got ++ l'.channel.queue ++ (d'.pending ++ out) := by
  rw [List.append_assoc, ← List.append_assoc l.channel.queue, ← hq, List.append_assoc,
    List.append_assoc]

/-- A call is refused on a closed channel alone. -/
theorem closed_of_moves {l l' : Line} {d d' : Sending} {now : Nanos} {cs : List Crossing}
    (hd : d.Moves l now cs l' d') (shut : Refused es → l.channel.closed = true)
    (refused : Refused es ∨ d'.IsRefused) : l'.channel.closed = true := by
  rcases refused with hr | hr
  · exact (hd.change.of_closed (shut hr)).1
  · exact hd.passes.1 hr

/-- A call of the body goes on. -/
theorem Passage.go {x : Exchanger} {k : DirtyCollector} {s : ρ} {l l' : Line} {d d' : Sending}
    {now : Nanos} {cs : List Crossing} {got : List Record}
    (h : Passage plugin l.channel.closed l.status.failure (got ++ l.channel.queue) es
      ⟨x, k, .calling s d⟩) (hd : d.Moves l now cs l' d') :
    Passage plugin l'.channel.closed l'.status.failure (got ++ l'.channel.queue) es
      ⟨x, k, .calling s d'⟩ := by
  obtain ⟨-, hn, hq, -⟩ := hd.passes
  refine ⟨?_, nofun, closed_of_moves hd fun hr => h.refused (.inl hr), fun hr hr' => ?_, h.sent, nofun⟩
  · rintro _ _ ⟨⟩
    exact h.calls rfl
  · exact (h.whole hr hn).trans (arrived_append (hq hr') got x.outgoing)

/-- The call that ends the stream goes on. -/
theorem Passage.ending {x : Exchanger} {k : DirtyCollector} {s : ρ} {l l' : Line} {d d' : Sending}
    {now : Nanos} {cs : List Crossing} {got : List Record}
    (h : Passage plugin l.channel.closed l.status.failure (got ++ l.channel.queue) es
      ⟨x, k, .terminating s d⟩) (hd : d.Moves l now cs l' d') :
    Passage plugin l'.channel.closed l'.status.failure (got ++ l'.channel.queue) es
      ⟨x, k, .terminating s d'⟩ := by
  obtain ⟨-, hn, hq, hi⟩ := hd.passes
  have same : l'.status.failure = l.status.failure := congrArg Prod.snd hd.standing_eq
  have emptied : x.outgoing = [] := h.emptied rfl
  refine ⟨nofun, fun _ => emptied, closed_of_moves hd fun hr => h.refused (.inl hr),
    fun hr hr' => ?_, h.sent, fun isIn hf => ?_⟩
  · exact (h.whole hr hn).trans (arrived_append (hq hr') got x.outgoing)
  · have isIn : d'.IsIn := isIn
    have pending : d'.pending ++ x.outgoing = [] := by rw [isIn.pending_eq, emptied]; rfl
    refine ⟨?_, pending⟩
    rcases hi isIn with before | isOpen
    · exact (h.through before (same.symm.trans hf)).1
    · intro hr
      have closed := h.refused (.inl hr)
      rw [isOpen] at closed
      cases closed

/-- A step of the thread of the reader keeps the records on their way. -/
theorem Moves.passage {w : Surroundings} {l l' : Line} {t t' : ReaderThread ρ}
    {es' : List AttemptEvent} {got : List Record} (hm : t.Moves plugin w l es' l' t')
    (h : t.Passage plugin l.channel.closed l.status.failure (got ++ l.channel.queue) es)
    (behind : t.phase.stage = .closing → l.status.failure.isSome = true) :
    t'.Passage plugin l'.channel.closed l'.status.failure (got ++ l'.channel.queue) (es ++ es') := by
  cases hm with
  | init => exact h.rest rfl id id rfl nofun nofun nofun rfl rfl not_refused_nil
  | start => exact h.rest rfl id id rfl nofun nofun nofun rfl rfl not_refused_nil
  | call hc => exact h.call hc
  | dirty => exact h.rest rfl id id rfl nofun nofun nofun rfl rfl not_refused_nil
  | aside =>
    rw [PluginAct.channel_beside]
    exact h.rest rfl id id rfl nofun nofun nofun rfl rfl not_refused_nil
  | @finish x k s hf =>
    have pending : pending ⟨x.terminate.1, k, .terminating s x.terminate.2⟩ = x.outgoing :=
      List.append_nil _
    exact h.rest pending id id rfl nofun (fun _ => rfl) nofun rfl rfl (fun hr => refused_singleton.mp hr)
  | fails ends =>
    cases ends <;> exact h.rest rfl id id rfl nofun nofun nofun rfl rfl (fun hr => refused_singleton.mp hr)
  | panics ends =>
    cases ends <;> exact h.rest rfl id id rfl nofun nofun nofun rfl rfl (fun hr => refused_singleton.mp hr)
  | go hd =>
    rw [List.append_nil]
    exact h.go hd
  | @answer x k s r =>
    obtain ⟨c, hc⟩ := h.calls rfl
    have ha : answers plugin s r = [.answered c r] := by unfold answers; rw [hc]
    rw [ha]
    cases r with
    | error f =>
      exact passage_of_refused (refused_append.mpr (.inr (refused_singleton.mpr trivial)))
        (h.refused (.inr trivial)) nofun nofun id
    | ok u => exact h.answer hc
  | ending hd =>
    rw [List.append_nil]
    exact h.ending hd
  | @ended x k s r =>
    cases r with
    | error f =>
      exact passage_of_refused (refused_append.mpr (.inr (refused_singleton.mpr trivial)))
        (h.refused (.inr trivial)) nofun nofun id
    | ok u =>
      exact h.rest rfl id id rfl nofun nofun (fun _ hf => ⟨trivial, hf⟩) rfl rfl
        (fun hr => refused_singleton.mp hr)
  | leave => exact h.rest rfl id id rfl nofun nofun (fun _ hf => ⟨trivial, hf⟩) rfl rfl not_refused_nil
  | fail => exact h.rest rfl id id rfl nofun nofun nofun rfl rfl not_refused_nil
  | settle => exact h.rest rfl id id rfl nofun nofun nofun rfl rfl not_refused_nil
  | settled => exact h.rest rfl id id rfl nofun nofun nofun rfl rfl not_refused_nil
  | @close x k =>
    have some_ := behind rfl
    have hc : l.channel.closed = true → l.close.channel.closed = true := fun _ => rfl
    have h := h.mono hc id rfl rfl not_refused_nil
    rw [List.append_nil] at h
    refine h.rest rfl id id rfl nofun nofun ?_ rfl rfl not_refused_nil
    intro _ hf
    have hf : l.status.failure = none := hf
    rw [hf] at some_
    cases some_

end ReaderThread

/-! ## The thread of the writer -/

/-- The records that a call on the way out has brought. -/
def Receiving.batch : Receiving → List Record
  | .returned batch => batch
  | _ => []

theorem Receiving.Asks.batch_eq {d : Receiving} {want : Line.Want} (h : d.Asks want) :
    d.batch = [] := by
  cases h <;> rfl

/-- Handing out moves a record from the exchanger to what was given. -/
theorem Exchanger.given_next (x : Exchanger) :
    given [.handed x.next.2] ++ x.next.1.incoming = x.incoming := by
  obtain ⟨size, outgoing, incoming, ended⟩ := x
  cases incoming <;> rfl

namespace WriterThread

variable {ω : Type}

/-- The records that are on their way to the body. -/
def coming (t : WriterThread ω) : List Record :=
  match t.phase with
  | .calling _ d => t.exchanger.incoming ++ d.batch
  | _ => t.exchanger.incoming

/-- Whether the body has come to a good end. -/
def IsThrough (t : WriterThread ω) : Prop :=
  match t.phase with
  | .destroying _ (.ok ()) => True
  | .shutting => True
  | .finished => True
  | _ => False

/-- The end of the stream is seen on a drained channel alone, and told after all records. -/
structure Passage (drained : Prop) (failure : Option Failure) (es : List AttemptEvent)
    (t : WriterThread ω) : Prop where
  ended : t.exchanger.ended = true → drained ∧ t.exchanger.incoming = []
  asking : ∀ {s : ω} {d : Receiving}, t.phase = .calling s d →
    t.exchanger.incoming = [] ∧ t.exchanger.ended = false ∧ (d = .returned [] → drained)
  told : .handed none ∈ es → t.exchanger.ended = true
  through : t.IsThrough → failure = none → .finished .writer ∈ es

variable {drained : Prop} {failure : Option Failure} {es : List AttemptEvent} {t : WriterThread ω}

theorem passage_make (es : List AttemptEvent) (none_ : ∀ e ∈ es, e.IsOfDriver) (size samples : Nat)
    (s : ω) : Passage drained failure es (make size samples s) :=
  ⟨nofun, nofun, fun h => absurd h (ofDriver none_).2.2.2.2, nofun⟩

/-- Others may drain the channel and capture a failure. -/
theorem Passage.mono {drained' : Prop} {failure' : Option Failure} {es' : List AttemptEvent}
    (h : t.Passage drained failure es) (hd : drained → drained')
    (hf : failure' = none → failure = none) (ht : .handed none ∉ es') :
    t.Passage drained' failure' (es ++ es') where
  ended := fun he => (h.ended he).imp hd id
  asking := fun hp => by
    obtain ⟨empty, more, last⟩ := h.asking hp
    exact ⟨empty, more, fun hb => hd (last hb)⟩
  told := fun he => h.told ((List.mem_append.mp he).resolve_right ht)
  through := fun through none_ => List.mem_append_left _ (h.through through (hf none_))

/-- A step of the thread that leaves the exchanger alone, and makes no call. -/
theorem Passage.rest {failure' : Option Failure} {t' : WriterThread ω} {es' : List AttemptEvent}
    (h : t.Passage drained failure es) (same : t'.exchanger = t.exchanger)
    (calls : ∀ s d, t'.phase ≠ .calling s d) (told : .handed none ∉ es')
    (through : t'.IsThrough → failure' = none →
      .finished .writer ∈ es' ∨ (t.IsThrough ∧ failure = none)) :
    t'.Passage drained failure' (es ++ es') where
  ended := by rw [same]; exact h.ended
  asking := fun hp => absurd hp (calls _ _)
  told := fun he => by rw [same]; exact h.told ((List.mem_append.mp he).resolve_right told)
  through := fun ht hf => by
    rcases through ht hf with here | ⟨ht, hf⟩
    · exact List.mem_append_right _ here
    · exact List.mem_append_left _ (h.through ht hf)

/-- The body is handed what the exchanger has, or the end of the stream if there is nothing more. -/
theorem Passage.hand {k : DirtyCollector} {s : ω} {x : Exchanger}
    (ended : x.ended = true → drained ∧ x.incoming = [])
    (ready : x.incoming ≠ [] ∨ x.ended = true) (told : .handed none ∈ es → x.ended = true) :
    Passage drained failure (es ++ [.handed x.next.2]) ⟨x.next.1, k, .running s⟩ where
  ended := fun he => by
    obtain ⟨hd, empty⟩ := ended he
    refine ⟨hd, ?_⟩
    show x.incoming.tail = []
    rw [empty]
    rfl
  asking := nofun
  told := fun he => by
    rcases List.mem_append.mp he with he | he
    · exact told he
    · have hn : x.incoming.head? = none :=
        (AttemptEvent.handed.inj (List.mem_singleton.mp he)).symm
      exact ready.resolve_left fun h => h (List.head?_eq_none_iff.mp hn)
  through := nofun

theorem given_hand (x : Exchanger) (es : List AttemptEvent) (rest : List Record) :
    given (es ++ [.handed x.next.2]) ++ (x.next.1.incoming ++ rest) =
      given es ++ (x.incoming ++ rest) := by
  rw [given_append, List.append_assoc, ← List.append_assoc (given [_]), x.given_next]

/-- A batch that was taken is handed out from its first record on. -/
theorem Passage.back {k : DirtyCollector} {s s' : ω} {x : Exchanger} {batch : List Record}
    (h : Passage drained failure es ⟨x, k, .calling s (.returned batch)⟩) :
    Passage drained failure (es ++ [.handed (x.accept batch).next.2])
      ⟨(x.accept batch).next.1, k, .running s'⟩ := by
  obtain ⟨empty, more, last⟩ := h.asking rfl
  have empty : x.incoming = [] := empty
  have more : x.ended = false := more
  have hi : (x.accept batch).incoming = batch := by simp [Exchanger.accept, empty]
  have he : (x.accept batch).ended = batch.isEmpty := by simp [Exchanger.accept, more]
  refine .hand ?_ ?_ fun told => ?_
  · rw [he, hi]
    intro hb
    cases List.isEmpty_iff.mp hb
    exact ⟨last rfl, rfl⟩
  · rw [he, hi]
    cases batch with
    | nil => exact .inr rfl
    | cons => exact .inl (List.cons_ne_nil _ _)
  · cases more.symm.trans (h.told told)

/-- A step of a call of the writer takes the first records off the channel, or sees it drained. -/
theorem Passage.go {l l' : Line} {now : Nanos} {cs : List Crossing} {k : DirtyCollector} {s : ω}
    {x : Exchanger} {d d' : Receiving} {failure' : Option Failure}
    (h : Passage l.channel.IsDrained failure es ⟨x, k, .calling s d⟩) (hd : d.Moves l now cs l' d') :
    Passage l'.channel.IsDrained failure' es ⟨x, k, .calling s d'⟩ ∧
      x.incoming ++ d'.batch ++ l'.channel.queue = x.incoming ++ d.batch ++ l.channel.queue := by
  obtain ⟨empty, more, -⟩ := h.asking rfl
  refine ⟨⟨fun he => absurd (more.symm.trans he) nofun, ?_, h.told, nofun⟩, ?_⟩
  · rintro _ _ ⟨⟩
    refine ⟨empty, more, fun hb => ?_⟩
    cases hd with
    | wait => cases hb
    | @take _ want asks waited ready =>
      have hn : l.channel.queue.take want.most = [] := Receiving.returned.inj hb
      have drained := (Channel.take_eq_nil_iff want.most_pos ready).mp hn
      exact (Line.Change.release _ waited want.most_pos ready).of_isDrained drained
  · cases hd with
    | wait => rfl
    | @take _ want asks waited ready =>
      show x.incoming ++ l.channel.queue.take want.most ++ l.channel.queue.drop want.most =
        x.incoming ++ d.batch ++ l.channel.queue
      rw [asks.batch_eq, List.append_nil, List.append_assoc, List.take_append_drop]

/-- A step of the thread of the writer keeps the records on their way. -/
theorem Moves.passage {plugin : Writer ω} {w : Surroundings} {l l' : Line} {t t' : WriterThread ω}
    {es' : List AttemptEvent} (hm : t.Moves plugin w l es' l' t')
    (h : t.Passage l.channel.IsDrained l.status.failure es)
    (behind : t.phase.stage = .closing → l.status.failure.isSome = true) :
    t'.Passage l'.channel.IsDrained l'.status.failure (es ++ es') ∧
      given (es ++ es') ++ (t'.coming ++ l'.channel.queue) =
        given es ++ (t.coming ++ l.channel.queue) := by
  have quiet : ∀ {coming : List Record} {e : List AttemptEvent}, given e = [] →
      given (es ++ e) ++ coming = given es ++ coming := by
    intro coming e he
    rw [given_append, he, List.append_nil]
  cases hm with
  | init => exact ⟨h.rest rfl nofun nofun nofun, quiet rfl⟩
  | start => exact ⟨h.rest rfl nofun nofun nofun, quiet rfl⟩
  | @ask x k s hc empty more =>
    refine ⟨⟨fun he => ?_, ?_, ?_, nofun⟩, ?_⟩
    · rw [more] at he; cases he
    · rintro _ _ ⟨⟩
      exact ⟨empty, more, nofun⟩
    · rw [List.append_nil]; exact h.told
    · rw [List.append_nil]
      show _ ++ (x.incoming ++ [] ++ _) = _
      rw [List.append_nil]
      rfl
  | @next x k s hc ready => exact ⟨.hand h.ended ready h.told, given_hand x es _⟩
  | dirty => exact ⟨h.rest rfl nofun nofun nofun, quiet rfl⟩
  | aside =>
    rw [PluginAct.channel_beside]
    exact ⟨h.rest rfl nofun nofun nofun, quiet rfl⟩
  | finish => exact ⟨h.rest rfl nofun nofun (fun _ _ => .inl List.mem_cons_self), quiet rfl⟩
  | fails ends => cases ends <;> exact ⟨h.rest rfl nofun nofun nofun, quiet rfl⟩
  | panics ends => cases ends <;> exact ⟨h.rest rfl nofun nofun nofun, quiet rfl⟩
  | @go x k s d d' cs _ hd =>
    obtain ⟨passage, same⟩ := h.go hd
    rw [List.append_nil]
    exact ⟨passage, congrArg (given es ++ ·) same⟩
  | @back x k s batch =>
    exact ⟨h.back, given_hand (x.accept batch) es _⟩
  | leave => exact ⟨h.rest rfl nofun nofun fun _ hf => .inr ⟨trivial, hf⟩, quiet rfl⟩
  | fail => exact ⟨h.rest rfl nofun nofun nofun, quiet rfl⟩
  | shut =>
    have h : Passage l.close.channel.IsDrained _ (es ++ []) _ :=
      h.mono (fun hd => ⟨rfl, hd.2⟩) id List.not_mem_nil
    rw [List.append_nil] at h
    exact ⟨h.rest rfl nofun nofun fun _ hf => .inr ⟨trivial, hf⟩, quiet rfl⟩
  | settle => exact ⟨h.rest rfl nofun nofun nofun, quiet rfl⟩
  | settled => exact ⟨h.rest rfl nofun nofun nofun, quiet rfl⟩
  | close =>
    have some_ := behind rfl
    have h : Passage l.close.channel.IsDrained _ (es ++ []) _ :=
      h.mono (fun hd => ⟨rfl, hd.2⟩) id List.not_mem_nil
    rw [List.append_nil] at h
    refine ⟨h.rest rfl nofun nofun fun _ hf => ?_, quiet rfl⟩
    have hf : l.status.failure = none := hf
    rw [hf] at some_
    cases some_

end WriterThread

end BatchSync
