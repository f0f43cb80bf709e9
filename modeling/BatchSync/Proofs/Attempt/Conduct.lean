import BatchSync.Proofs.Attempt.Passage
import BatchSync.Proofs.Channel.Delivery

/-!
# Plugins that behave well

What a plugin does from one of its states on, up to a good end, is a list of deeds, if its calls are
answered as these say (`Plugin.Follows`). A reader behaves well if it sends records and flushes them as
long as that goes well; a writer, if it receives until it is told that there are no more.

1. `ReaderThread.Moves.goesOn` and `WriterThread.Moves.goesOn`: every step of a thread leaves less of
   the deeds ahead of it, and less work.
2. `ReaderPhase.OnPlan.can_step` and `WriterPhase.OnScript.can_step`: until it has ended, a thread can
   take a step, unless it waits for the channel, or for some time to pass.
-/

namespace BatchSync

open AttemptEvent

/-! ## Deeds -/

/-- Whether an act concerns nobody but the plugin and those who look on, and never has to wait. -/
def PluginAct.IsFree {κ : Type} (a : PluginAct κ) : Prop :=
  a.IsAside ∧ ∀ ready, a = .wait ready → ∀ o, ready o = true

/-- What a plugin does before it comes to its end. -/
inductive Deed (κ β : Type) where
  /-- It makes a call, and is given an answer. -/
  | call (c : κ) (answer : β)
  /-- It reports a dirty record. -/
  | dirty (r : Record) (e : PluginError)
  /-- It does something that concerns nobody else. -/
  | aside

abbrev ReaderDeed := Deed SenderCall (Except Failure Unit)

abbrev WriterDeed := Deed ReceiverCall (Option Record)

namespace Deed

variable {κ β : Type}

def answer? : Deed κ β → Option β
  | call _ x => some x
  | _ => none

def isDirty : Deed κ β → Bool
  | dirty _ _ => true
  | _ => false

/-- The answers that are given. -/
def answers (ds : List (Deed κ β)) : List β := ds.filterMap answer?

/-- How many dirty records are reported. -/
def dirties (ds : List (Deed κ β)) : Nat := ds.countP isDirty

/-- The record that is sent. -/
def records : ReaderDeed → List Record
  | call c _ => c.records
  | _ => []

/-- The records that are sent. -/
def sends (ds : List ReaderDeed) : List Record := ds.flatMap records

/-- Whether a call goes well, and does not end the stream. -/
def IsSending : ReaderDeed → Prop
  | call c x => c ≠ .terminate ∧ x = .ok ()
  | _ => True

theorem sends_cons (e : ReaderDeed) (ds : List ReaderDeed) : sends (e :: ds) = e.records ++ sends ds :=
  List.flatMap_cons

theorem dirties_cons (e : Deed κ β) (ds : List (Deed κ β)) :
    dirties (e :: ds) = dirties ds + if e.isDirty then 1 else 0 := List.countP_cons

end Deed

open Deed

/-- From a state on, a plugin does this and then comes to a good end, if its calls are answered so. -/
inductive Plugin.Follows {σ κ β : Type} (plugin : Plugin σ κ β) : σ → List (Deed κ β) → Prop
  | finish {s : σ} (h : plugin.act s = .finish .ok) (quiet : plugin.destroy s = none) :
      Follows plugin s []
  | call {s : σ} {c : κ} {x : β} {ds : List (Deed κ β)} (h : plugin.act s = .call c)
      (on : Follows plugin (plugin.resume s (some x)) ds) : Follows plugin s (.call c x :: ds)
  | dirty {s : σ} {r : Record} {e : PluginError} {ds : List (Deed κ β)}
      (h : plugin.act s = .collect r e) (on : Follows plugin (plugin.resume s none) ds) :
      Follows plugin s (.dirty r e :: ds)
  | aside {s : σ} {ds : List (Deed κ β)} (h : (plugin.act s).IsFree)
      (on : Follows plugin (plugin.resume s none) ds) : Follows plugin s (.aside :: ds)

namespace Plugin.Follows

variable {σ κ β : Type} {plugin : Plugin σ κ β} {s : σ} {ds : List (Deed κ β)}

theorem of_call (h : plugin.Follows s ds) {c : κ} (ha : plugin.act s = .call c) :
    ∃ x rest, ds = .call c x :: rest ∧ plugin.Follows (plugin.resume s (some x)) rest := by
  cases h with
  | finish h => rw [ha] at h; cases h
  | call h on => rw [ha] at h; cases h; exact ⟨_, _, rfl, on⟩
  | dirty h => rw [ha] at h; cases h
  | aside h => rw [ha] at h; cases h.1

theorem of_collect (h : plugin.Follows s ds) {r : Record} {e : PluginError}
    (ha : plugin.act s = .collect r e) :
    ∃ rest, ds = .dirty r e :: rest ∧ plugin.Follows (plugin.resume s none) rest := by
  cases h with
  | finish h => rw [ha] at h; cases h
  | call h => rw [ha] at h; cases h
  | dirty h on => rw [ha] at h; cases h; exact ⟨_, rfl, on⟩
  | aside h => rw [ha] at h; cases h.1

theorem of_aside (h : plugin.Follows s ds) (ha : (plugin.act s).IsAside) :
    ∃ rest, ds = .aside :: rest ∧ plugin.Follows (plugin.resume s none) rest := by
  cases h with
  | finish h => rw [h] at ha; cases ha
  | call h => rw [h] at ha; cases ha
  | dirty h => rw [h] at ha; cases ha
  | aside h on => exact ⟨_, rfl, on⟩

theorem of_finish (h : plugin.Follows s ds) {e : Ending} (ha : plugin.act s = .finish e) :
    e = .ok ∧ ds = [] ∧ plugin.destroy s = none := by
  cases h with
  | finish h quiet => rw [ha] at h; cases h; exact ⟨rfl, rfl, quiet⟩
  | call h => rw [ha] at h; cases h
  | dirty h => rw [ha] at h; cases h
  | aside h => rw [ha] at h; cases h.1

/-- A plugin that behaves well never waits for long. -/
theorem ready_of_wait (h : plugin.Follows s ds) {ready : Outlook → Bool}
    (ha : plugin.act s = .wait ready) (o : Outlook) : ready o = true := by
  cases h with
  | finish h => rw [ha] at h; cases h
  | call h => rw [ha] at h; cases h
  | dirty h => rw [ha] at h; cases h
  | aside free => exact free.2 ready ha o

end Plugin.Follows

/-! ## Calls that go well -/

namespace Sending

theorem GoesWell.not_isRefused {last closed held : Bool} {d : Sending} {batch : List Record}
    (h : d.GoesWell last closed held batch) : ¬ d.IsRefused := by
  cases h with
  | offering offer => exact offer.pending_eq.2
  | metering | pausing | closing | returned => exact id

/-- A call that goes well on a closed channel has closed it. -/
theorem GoesWell.of_closed {last held : Bool} {d : Sending} {batch : List Record}
    (h : d.GoesWell last true held batch) : last = true ∧ d = .returned (.ok ()) := by
  cases h with
  | offering _ isOpen => cases isOpen
  | metering isOpen => cases isOpen
  | pausing _ isOpen => cases isOpen
  | closing _ isOpen => cases isOpen
  | returned ended => exact ⟨ended.symm, rfl⟩

/-- A call that goes well can go on from some time on, unless it has returned, or waits for room. -/
theorem GoesWell.goes_on {l : Line} {last : Bool} {d : Sending} {batch : List Record}
    (h : d.GoesWell last l.channel.closed l.flow.held batch) :
    d = .returned (.ok ()) ∨ l.channel.queue ≠ [] ∨
      ∃ since, ∀ (l' : Line) (now : Nanos), l'.channel = l.channel → l'.flow = l.flow →
        since ≤ now → (d.step l' now).isSome = true := by
  cases h with
  | offering offer isOpen free =>
    cases room : l.channel.delays batch with
    | true => exact .inr (.inl (Channel.delays_iff.mp room).2.2.1)
    | false =>
      refine .inr (.inr ⟨0, fun l' now channel _ _ => ?_⟩)
      obtain ⟨waited, hs⟩ := offer.step_eq (l := l') now (by rw [channel]; exact isOpen)
        (by rw [channel]; exact room)
      rw [hs]
      rfl
  | metering isOpen free =>
    refine .inr (.inr ⟨0, fun l' now _ flow _ => ?_⟩)
    show ((l'.flow.meter l'.status now).map _).isSome = true
    rw [Option.isSome_map, flow]
    cases hm : l.flow.meter l'.status now with
    | none => rw [FlowControl.held_of_meter_eq_none hm] at free; cases free
    | some r => rfl
  | pausing p isOpen =>
    refine .inr (.inr ⟨p.ends, fun l' now _ _ since => ?_⟩)
    have due : (l'.channel.closed || decide (p.ends ≤ now)) = true := by
      rw [decide_eq_true since, Bool.or_true]
    rw [Sending.step, if_pos due]
    rfl
  | closing => exact .inr (.inr ⟨0, fun _ _ _ _ _ => rfl⟩)
  | returned => exact .inl rfl

/-- A thread in a call that goes well can go on from some time on, unless it waits for room. -/
theorem GoesWell.lets_go_on {l : Line} {last : Bool} {d : Sending} {batch : List Record}
    (h : d.GoesWell last l.channel.closed l.flow.held batch) {can : Surroundings → Line → Prop}
    (back : d = .returned (.ok ()) → ∀ w l', can w l')
    (goes : ∀ (w : Surroundings) (l' : Line), (d.step l' w.instant).isSome = true → can w l') :
    l.channel.queue ≠ [] ∨ ∃ since, ∀ (w : Surroundings) (l' : Line), l'.channel = l.channel →
      l'.flow = l.flow → since ≤ w.instant → can w l' := by
  rcases h.goes_on with returned | queued | ⟨since, steps⟩
  · exact .inr ⟨0, fun w l' _ _ _ => back returned w l'⟩
  · exact .inl queued
  · exact .inr ⟨since, fun w l' channel flow due => goes w l' (steps l' w.instant channel flow due)⟩

end Sending

/-- A call that begins goes well, if it does not end the stream. -/
theorem SenderCall.goesWell_start {closed held : Bool} {c : SenderCall} (going : c ≠ .terminate)
    (x : Exchanger) (isOpen : closed = false) (free : held = false) :
    ∃ batch, (c.start x).2.GoesWell false closed held batch := by
  cases c with
  | send r =>
    unfold start Exchanger.send
    dsimp only
    split
    · exact ⟨_, .offering (.pushing _ _) isOpen free⟩
    · exact ⟨_, .returned isOpen free⟩
  | flush => exact ⟨_, .offering (.pushing _ _) isOpen free⟩
  | terminate => exact absurd rfl going

/-! ## Readers that send -/

/-- Where a reader that behaves well is, with the deeds that are ahead of it: the channel is open until
it has ended the stream, and the sample is kept by nobody else. -/
inductive ReaderPhase.OnPlan {ρ : Type} (plugin : Reader ρ) (closed held : Bool) :
    ReaderPhase ρ → List ReaderDeed → Prop
  | init {s s' : ρ} {ds : List ReaderDeed} (h : plugin.init s = (.ok, s'))
      (on : plugin.Follows s' ds) (isOpen : closed = false) (free : held = false) :
      OnPlan plugin closed held (.init s) ds
  | starting {s : ρ} {ds : List ReaderDeed} (on : plugin.Follows s ds) (isOpen : closed = false)
      (free : held = false) : OnPlan plugin closed held (.starting s) ds
  | running {s : ρ} {ds : List ReaderDeed} (on : plugin.Follows s ds) (isOpen : closed = false)
      (free : held = false) : OnPlan plugin closed held (.running s) ds
  | calling {s : ρ} {d : Sending} {batch : List Record} {ds : List ReaderDeed}
      (on : plugin.Follows (plugin.resume s (some (.ok ()))) ds)
      (well : d.GoesWell false closed held batch) : OnPlan plugin closed held (.calling s d) ds
  | terminating {s : ρ} {d : Sending} {batch : List Record} (quiet : plugin.destroy s = none)
      (well : d.GoesWell true closed held batch) : OnPlan plugin closed held (.terminating s d) []
  | destroying {s : ρ} (quiet : plugin.destroy s = none) (ended : closed = true) :
      OnPlan plugin closed held (.destroying s (.ok ())) []
  | finished (ended : closed = true) : OnPlan plugin closed held .finished []

/-- How many steps a reader takes at most that has some number of deeds ahead of it: eight for each,
eight to end the stream, and a few more. -/
def ReaderPhase.work {ρ : Type} (ahead : Nat) : ReaderPhase ρ → Nat
  | .init _ => 8 * ahead + 10
  | .starting _ => 8 * ahead + 9
  | .running _ => 8 * ahead + 8
  | .calling _ d => 8 * ahead + 9 + d.work
  | .terminating _ d => 2 + d.work
  | .destroying _ _ => 1
  | _ => 0

namespace ReaderThread

variable {ρ : Type} {plugin : Reader ρ} {w : Surroundings} {l l' : Line} {t t' : ReaderThread ρ}
  {es : List AttemptEvent} {ds ds' : List ReaderDeed}

/-- What a step of a reader that behaves well leaves of the deeds that were ahead of it. -/
structure GoesOn (plugin : Reader ρ) (l' : Line) (t t' : ReaderThread ρ) (es : List AttemptEvent)
    (ds ds' : List ReaderDeed) : Prop where
  onPlan : t'.phase.OnPlan plugin l'.channel.closed l'.flow.held ds'
  suffix : ds' <:+ ds
  begun : begun es ++ sends ds' = sends ds
  unrefused : ¬ Refused es
  dirty : t'.collector.collected + dirties ds' = t.collector.collected + dirties ds
  work : t'.phase.work ds'.length < t.phase.work ds.length

/-- Nothing in the plan of a reader that behaves well ends it badly. -/
theorem OnPlan.not_ends {phase : ReaderPhase ρ} {closed held : Bool} {e : Ending} {s : ρ}
    (h : phase.OnPlan plugin closed held ds) (ends : phase.Ends plugin e s) : e = .ok := by
  cases ends with
  | init hi =>
    cases h with
    | init h => rw [hi] at h; cases h; rfl
  | body ha =>
    cases h with
    | running on => exact (on.of_finish ha).1
  | destroy r hd =>
    cases h with
    | destroying quiet => rw [hd] at quiet; cases quiet

/-- A step of which nothing is told but what went well leaves the deeds that are ahead. -/
theorem goesOn_same (on : t'.phase.OnPlan plugin l'.channel.closed l'.flow.held ds)
    (silent : begun es = []) (unrefused : ¬ Refused es) (collector : t'.collector = t.collector)
    (work : t'.phase.work ds.length < t.phase.work ds.length) : GoesOn plugin l' t t' es ds ds where
  onPlan := on
  suffix := List.suffix_rfl
  begun := by rw [silent]; rfl
  unrefused := unrefused
  dirty := by rw [collector]
  work := work

section Body

variable {x : Exchanger} {k : DirtyCollector} {s : ρ}

theorem goesOn_call {c : SenderCall} (ha : plugin.act s = .call c) (on : plugin.Follows s ds)
    (isOpen : l.channel.closed = false) (free : l.flow.held = false) (sending : ∀ e ∈ ds, e.IsSending) :
    ∃ ds', GoesOn plugin l ⟨x, k, .running s⟩ ⟨(c.start x).1, k, .calling s (c.start x).2⟩ [.called c]
      ds ds' := by
  obtain ⟨y, rest, rfl, next⟩ := on.of_call ha
  obtain ⟨going, rfl⟩ := sending _ List.mem_cons_self
  obtain ⟨batch, well⟩ := c.goesWell_start going x isOpen free
  refine ⟨rest, .calling next well, List.suffix_cons _ _, ?_, fun hr => refused_singleton.mp hr, rfl, ?_⟩
  · rw [sends_cons]
    cases c <;> rfl
  · have := (c.start x).2.work_le
    simp only [ReaderPhase.work, List.length_cons]
    omega

theorem goesOn_dirty {r : Record} {e : PluginError} {f : TaskStatus → TaskStatus}
    (ha : plugin.act s = .collect r e) (on : plugin.Follows s ds) (isOpen : l.channel.closed = false)
    (free : l.flow.held = false) :
    ∃ ds', GoesOn plugin (l.mapStatus f) ⟨x, k, .running s⟩
      ⟨x, { k with collected := k.collected + 1 }, .running (plugin.resume s none)⟩ [] ds ds' := by
  obtain ⟨rest, rfl, next⟩ := on.of_collect ha
  refine ⟨rest, .running next isOpen free, List.suffix_cons _ _, ?_, not_refused_nil, ?_, ?_⟩
  · rw [sends_cons]; rfl
  · rw [dirties_cons]
    show k.collected + 1 + dirties rest = k.collected + (dirties rest + 1)
    omega
  · simp only [ReaderPhase.work, List.length_cons]
    omega

theorem goesOn_aside (ha : (plugin.act s).IsAside) (on : plugin.Follows s ds)
    (isOpen : l.channel.closed = false) (free : l.flow.held = false) :
    ∃ ds', GoesOn plugin ((plugin.act s).beside l) ⟨x, k, .running s⟩
      ⟨x, k, .running (plugin.resume s none)⟩ [] ds ds' := by
  obtain ⟨rest, rfl, next⟩ := on.of_aside ha
  refine ⟨rest, ?_, List.suffix_cons _ _, ?_, not_refused_nil, ?_, ?_⟩
  · rw [PluginAct.channel_beside, PluginAct.flow_beside]
    exact .running next isOpen free
  · rw [sends_cons]; rfl
  · rw [dirties_cons]; rfl
  · simp only [ReaderPhase.work, List.length_cons]
    omega

theorem goesOn_finish (ha : plugin.act s = .finish .ok) (on : plugin.Follows s ds)
    (isOpen : l.channel.closed = false) (free : l.flow.held = false) :
    ∃ ds', GoesOn plugin l ⟨x, k, .running s⟩ ⟨x.terminate.1, k, .terminating s x.terminate.2⟩
      [.finished .reader] ds ds' := by
  obtain ⟨-, rfl, quiet⟩ := on.of_finish ha
  refine ⟨[], goesOn_same (.terminating quiet (.offering (.pushing _ _) isOpen free)) rfl
    (fun hr => refused_singleton.mp hr) rfl ?_⟩
  show 2 + 5 < 8
  omega

/-- The call of a reader that behaves well is answered well. -/
theorem goesOn_answer {r : Except Failure Unit} {batch : List Record}
    (on : plugin.Follows (plugin.resume s (some (.ok ()))) ds)
    (well : (Sending.returned r).GoesWell false l.channel.closed l.flow.held batch) :
    ∃ ds', GoesOn plugin l ⟨x, k, .calling s (.returned r)⟩ ⟨x, k, .running (plugin.resume s (some r))⟩
      (answers plugin s r) ds ds' := by
  cases well with
  | offering offer => cases offer
  | returned isOpen free =>
    refine ⟨ds, goesOn_same (.running on isOpen free) ?_ ?_ rfl ?_⟩
    · unfold answers; split <;> rfl
    · unfold answers
      split
      · exact fun hr => refused_singleton.mp hr
      · exact not_refused_nil
    · simp only [ReaderPhase.work]
      omega

end Body

/-- A step of a reader that behaves well leaves less ahead of it. -/
theorem Moves.goesOn (hm : t.Moves plugin w l es l' t')
    (h : t.phase.OnPlan plugin l.channel.closed l.flow.held ds)
    (sending : ∀ e ∈ ds, e.IsSending) : ∃ ds', GoesOn plugin l' t t' es ds ds' := by
  cases hm with
  | init hi =>
    cases h with
    | init hi' on isOpen free =>
      rw [hi] at hi'
      cases hi'
      exact ⟨ds, goesOn_same (.starting on isOpen free) rfl not_refused_nil rfl (Nat.lt_succ_self _)⟩
  | start =>
    cases h with
    | starting on isOpen free =>
      exact ⟨ds, goesOn_same (.running on isOpen free) rfl not_refused_nil rfl (Nat.lt_succ_self _)⟩
  | call ha => cases h with | running on isOpen free => exact goesOn_call ha on isOpen free sending
  | dirty ha => cases h with | running on isOpen free => exact goesOn_dirty ha on isOpen free
  | aside ha => cases h with | running on isOpen free => exact goesOn_aside ha on isOpen free
  | finish ha => cases h with | running on isOpen free => exact goesOn_finish ha on isOpen free
  | fails ends => exact nomatch OnPlan.not_ends h ends
  | panics ends => exact nomatch OnPlan.not_ends h ends
  | go hd =>
    cases h with
    | calling on well =>
      obtain ⟨batch, well, -⟩ := well.step hd
      have := hd.work_lt
      refine ⟨ds, goesOn_same (.calling on well) rfl not_refused_nil rfl ?_⟩
      simp only [ReaderPhase.work]
      omega
  | answer => cases h with | calling on well => exact goesOn_answer on well
  | ending hd =>
    cases h with
    | terminating quiet well =>
      obtain ⟨batch, well, -⟩ := well.step hd
      have := hd.work_lt
      refine ⟨[], goesOn_same (.terminating quiet well) rfl not_refused_nil rfl ?_⟩
      simp only [ReaderPhase.work]
      omega
  | ended r =>
    cases h with
    | terminating quiet well =>
      cases well with
      | offering offer => cases offer
      | returned ended free =>
        exact ⟨[], goesOn_same (.destroying quiet ended) rfl (fun hr => refused_singleton.mp hr) rfl
          (Nat.lt_succ_self 1)⟩
  | leave =>
    cases h with
    | destroying quiet ended =>
      exact ⟨[], goesOn_same (.finished ended) rfl not_refused_nil rfl (Nat.lt_succ_self 0)⟩
  | fail | settle | settled | close => cases h

/-- A body that does not have to wait can act. -/
theorem act_isSome {s : ρ} (ready : ∀ r, plugin.act s = .wait r → ∀ o, r o = true) :
    (act plugin w l t s).isSome = true := by
  unfold act
  cases ha : plugin.act s with
  | wait r =>
    dsimp only
    rw [ready r ha, if_pos rfl]
    rfl
  | finish e => cases e <;> rfl
  | _ => rfl

/-- A reader that behaves well can go on from some time on, unless it has ended the stream and itself,
or waits for room. -/
theorem OnPlan.can_step (h : t.phase.OnPlan plugin l.channel.closed l.flow.held ds) :
    (t.phase = .finished ∧ l.channel.closed = true) ∨ l.channel.queue ≠ [] ∨
      ∃ since, ∀ (w : Surroundings) (l' : Line), l'.channel = l.channel → l'.flow = l.flow →
        since ≤ w.instant → (t.step plugin w l').isSome = true := by
  obtain ⟨x, k, phase⟩ := t
  have at_once : (∀ (w : Surroundings) (l' : Line),
      (step plugin w l' ⟨x, k, phase⟩).isSome = true) → ∃ since, ∀ (w : Surroundings) (l' : Line),
      l'.channel = l.channel → l'.flow = l.flow → since ≤ w.instant →
      (step plugin w l' ⟨x, k, phase⟩).isSome = true :=
    fun h => ⟨0, fun w l' _ _ _ => h w l'⟩
  cases h with
  | init | starting => exact .inr (.inr (at_once fun _ _ => rfl))
  | @running s ds on =>
    exact .inr (.inr (at_once fun w l' => act_isSome fun r ha => on.ready_of_wait ha))
  | @calling s d batch ds on well =>
    refine .inr (well.lets_go_on (fun returned _ _ => returned ▸ rfl) fun w l' hd => ?_)
    cases d with
    | returned r => cases hd
    | _ => simpa only [step, Option.isSome_map] using hd
  | @terminating s d batch quiet well =>
    refine .inr (well.lets_go_on (fun returned _ _ => returned ▸ rfl) fun w l' hd => ?_)
    cases d with
    | returned r => cases hd
    | _ => simpa only [step, Option.isSome_map] using hd
  | destroying => exact .inr (.inr (at_once fun _ _ => rfl))
  | finished ended => exact .inl ⟨rfl, ended⟩

end ReaderThread

/-! ## Writers that receive -/

/-- Where a writer that behaves well is, with the deeds that are ahead of it. The call that it is in is
one of them. -/
inductive WriterPhase.OnScript {ω : Type} (plugin : Writer ω) : WriterPhase ω → List WriterDeed → Prop
  | init {s s' : ω} {ds : List WriterDeed} (h : plugin.init s = (.ok, s'))
      (on : plugin.Follows s' ds) : OnScript plugin (.init s) ds
  | starting {s : ω} {ds : List WriterDeed} (on : plugin.Follows s ds) :
      OnScript plugin (.starting s) ds
  | running {s : ω} {ds : List WriterDeed} (on : plugin.Follows s ds) :
      OnScript plugin (.running s) ds
  | calling {s : ω} {ds : List WriterDeed} (d : Receiving) (h : plugin.act s = .call .receive)
      (on : plugin.Follows s ds) : OnScript plugin (.calling s d) ds
  | destroying {s : ω} (quiet : plugin.destroy s = none) : OnScript plugin (.destroying s (.ok ())) []
  | shutting : OnScript plugin .shutting []
  | finished : OnScript plugin .finished []

/-- How many steps a writer takes at most that has some number of deeds ahead of it: four for each, and
a few more. -/
def WriterPhase.work {ω : Type} (ahead : Nat) : WriterPhase ω → Nat
  | .init _ => 4 * ahead + 6
  | .starting _ => 4 * ahead + 5
  | .running _ => 4 * ahead + 4
  | .calling _ d => 4 * ahead + 1 + d.work
  | .destroying _ _ => 2
  | .shutting => 1
  | _ => 0

/-- What the body of the writer was handed: records, and the news that there are no more. -/
def AttemptEvent.handed? : AttemptEvent → Option (Option Record)
  | .handed x => some x
  | _ => none

/-- All that the body of the writer was handed. -/
def AttemptEvent.told (es : List AttemptEvent) : List (Option Record) := es.filterMap handed?

@[simp] theorem AttemptEvent.told_append (a b : List AttemptEvent) : told (a ++ b) = told a ++ told b :=
  List.filterMap_append

namespace WriterThread

variable {ω : Type} {plugin : Writer ω} {w : Surroundings} {l l' : Line} {t t' : WriterThread ω}
  {es : List AttemptEvent} {ds ds' : List WriterDeed}

/-- What a step of a writer that behaves well leaves of the deeds that were ahead of it. -/
structure GoesOn (plugin : Writer ω) (t t' : WriterThread ω) (es : List AttemptEvent)
    (ds ds' : List WriterDeed) : Prop where
  onScript : t'.phase.OnScript plugin ds'
  told : told es ++ answers ds' = answers ds
  dirty : t'.collector.collected + dirties ds' = t.collector.collected + dirties ds
  work : t'.phase.work ds'.length < t.phase.work ds.length

theorem OnScript.not_ends {phase : WriterPhase ω} {e : Ending} {s : ω}
    (h : phase.OnScript plugin ds) (ends : phase.Ends plugin e s) : e = .ok := by
  cases ends with
  | init hi =>
    cases h with
    | init h => rw [hi] at h; cases h; rfl
  | body ha =>
    cases h with
    | running on => exact (on.of_finish ha).1
  | destroy r hd =>
    cases h with
    | destroying quiet => rw [hd] at quiet; cases quiet

/-- A step of which nothing is told leaves the deeds that are ahead. -/
theorem goesOn_same (on : t'.phase.OnScript plugin ds) (silent : AttemptEvent.told es = [])
    (collector : t'.collector = t.collector) (work : t'.phase.work ds.length < t.phase.work ds.length) :
    GoesOn plugin t t' es ds ds where
  onScript := on
  told := by rw [silent]; rfl
  dirty := by rw [collector]
  work := work

section Body

variable {x x' : Exchanger} {k : DirtyCollector} {s : ω}

/-- A writer that is handed what its next deed says has done that deed. -/
theorem goesOn_handed {phase : WriterPhase ω} {handed : Option Record} (ha : plugin.act s = .call .receive)
    (on : plugin.Follows s ds) (right : (answers ds).head? = some handed)
    (work : 4 * ds.length < phase.work ds.length) :
    ∃ ds', GoesOn plugin ⟨x, k, phase⟩ ⟨x', k, .running (plugin.resume s (some handed))⟩ [.handed handed]
      ds ds' := by
  obtain ⟨y, rest, rfl, next⟩ := on.of_call ha
  cases right
  refine ⟨rest, .running next, rfl, rfl, Nat.lt_of_le_of_lt ?_ work⟩
  simp only [WriterPhase.work, List.length_cons]
  omega

theorem goesOn_dirty {r : Record} {e : PluginError} (ha : plugin.act s = .collect r e)
    (on : plugin.Follows s ds) :
    ∃ ds', GoesOn plugin ⟨x, k, .running s⟩
      ⟨x, { k with collected := k.collected + 1 }, .running (plugin.resume s none)⟩ [] ds ds' := by
  obtain ⟨rest, rfl, next⟩ := on.of_collect ha
  refine ⟨rest, .running next, rfl, ?_, ?_⟩
  · rw [dirties_cons]
    show k.collected + 1 + dirties rest = k.collected + (dirties rest + 1)
    omega
  · simp only [WriterPhase.work, List.length_cons]
    omega

theorem goesOn_aside (ha : (plugin.act s).IsAside) (on : plugin.Follows s ds) :
    ∃ ds', GoesOn plugin ⟨x, k, .running s⟩ ⟨x, k, .running (plugin.resume s none)⟩ [] ds ds' := by
  obtain ⟨rest, rfl, next⟩ := on.of_aside ha
  refine ⟨rest, .running next, rfl, by rw [dirties_cons]; rfl, ?_⟩
  simp only [WriterPhase.work, List.length_cons]
  omega

end Body

/-- A writer goes on with its deeds, if what it is handed is what these say. -/
theorem Moves.goesOn (hm : t.Moves plugin w l es l' t') (h : t.phase.OnScript plugin ds)
    (right : ∀ x, .handed x ∈ es → (answers ds).head? = some x) :
    ∃ ds', GoesOn plugin t t' es ds ds' := by
  cases hm with
  | init hi =>
    cases h with
    | init hi' on =>
      rw [hi] at hi'
      cases hi'
      exact ⟨ds, goesOn_same (.starting on) rfl rfl (Nat.lt_succ_self _)⟩
  | start =>
    cases h with
    | starting on => exact ⟨ds, goesOn_same (.running on) rfl rfl (Nat.lt_succ_self _)⟩
  | ask ha =>
    cases h with
    | running on =>
      refine ⟨ds, goesOn_same (.calling _ ha on) rfl rfl ?_⟩
      show 4 * ds.length + 1 + 2 < 4 * ds.length + 4
      omega
  | next ha =>
    cases h with
    | running on => exact goesOn_handed ha on (right _ List.mem_cons_self) (Nat.lt_add_of_pos_right (by decide))
  | dirty ha => cases h with | running on => exact goesOn_dirty ha on
  | aside ha => cases h with | running on => exact goesOn_aside ha on
  | finish ha =>
    cases h with
    | running on =>
      obtain ⟨-, rfl, quiet⟩ := on.of_finish ha
      exact ⟨[], goesOn_same (.destroying quiet) rfl rfl (by show 2 < 4; omega)⟩
  | fails ends => exact nomatch OnScript.not_ends h ends
  | panics ends => exact nomatch OnScript.not_ends h ends
  | go hd =>
    cases h with
    | calling _ ha on =>
      have := hd.work_lt
      refine ⟨ds, goesOn_same (.calling _ ha on) rfl rfl ?_⟩
      simp only [WriterPhase.work]
      omega
  | back batch =>
    cases h with
    | calling _ ha on =>
      refine goesOn_handed ha on (right _ List.mem_cons_self) ?_
      simp only [WriterPhase.work]
      omega
  | leave => cases h with | destroying => exact ⟨[], goesOn_same .shutting rfl rfl (Nat.lt_succ_self 1)⟩
  | shut => cases h with | shutting => exact ⟨[], goesOn_same .finished rfl rfl (Nat.lt_succ_self 0)⟩
  | fail | settle | settled | close => cases h

theorem act_isSome {s : ω} (ready : ∀ r, plugin.act s = .wait r → ∀ o, r o = true) :
    (act plugin w l t s).isSome = true := by
  unfold act
  cases ha : plugin.act s with
  | call c =>
    cases c
    dsimp only
    cases t.exchanger.refill? <;> rfl
  | wait r =>
    dsimp only
    rw [ready r ha, if_pos rfl]
    rfl
  | finish e => cases e <;> rfl
  | _ => rfl

/-- A writer that behaves well can go on, unless it has ended, or waits for records. -/
theorem OnScript.can_step (h : t.phase.OnScript plugin ds) :
    t.phase = .finished ∨ l.channel.isDry = true ∨
      ∀ (w : Surroundings) (l' : Line), l'.channel = l.channel → (t.step plugin w l').isSome = true := by
  obtain ⟨x, k, phase⟩ := t
  cases h with
  | init | starting => exact .inr (.inr fun _ _ _ => rfl)
  | @running s ds on =>
    exact .inr (.inr fun w l' _ => act_isSome fun r ha => on.ready_of_wait ha)
  | @calling s ds d ha on =>
    cases dry : l.channel.isDry with
    | true => exact .inr (.inl rfl)
    | false =>
      refine .inr (.inr fun w l' channel => ?_)
      have ready : l'.channel.isDry = false := by rw [channel]; exact dry
      cases d with
      | returned batch => rfl
      | taking want =>
        obtain ⟨waited, hs⟩ := (Receiving.Asks.taking want).step_eq w.instant ready
        simp only [step, hs, Option.map_some, Option.isSome_some]
      | waiting want since =>
        obtain ⟨waited, hs⟩ := (Receiving.Asks.waiting want since).step_eq w.instant ready
        simp only [step, hs, Option.map_some, Option.isSome_some]
  | destroying | shutting => exact .inr (.inr fun _ _ _ => rfl)
  | finished => exact .inl rfl

end WriterThread

end BatchSync
