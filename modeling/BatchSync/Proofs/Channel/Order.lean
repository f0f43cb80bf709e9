import BatchSync.Proofs.Channel.Traffic

/-!
# Order on a channel

What left a channel, followed by what is queued in it, is what entered it (`Change.conserve`), and what
entered it are the batches of the calls that were admitted, each of them once (`Traffic.Orderly`).

A call on the way in is admitted or refused. What has come of it can be read off its stage
(`Request.Stands`): every step of a call keeps this, and what a call returns says whether it was
admitted. A closed channel admits nothing any more; once it is drained, calls on the way out come back
with nothing, and nothing can change that.
-/

namespace BatchSync

open Crossing

/-! ## Conservation -/

/-- What left a line and what is queued on it make up what entered it. -/
def Line.Conserves (l : Line) (log : List Crossing) : Prop :=
  departures log ++ l.channel.queue = arrivals log

theorem Line.Change.conserve {l l' : Line} {log cs : List Crossing} (h : l.Conserves log)
    (hc : l.Change cs l') : l'.Conserves (log ++ cs) := by
  unfold Line.Conserves at *
  rw [departures_append, arrivals_append]
  cases hc with
  | enter batch waited isOpen room =>
    show departures log ++ [] ++ (l.channel.queue ++ batch) = arrivals log ++ (batch ++ [])
    rw [← h]
    simp
  | release n waited pos ready =>
    show departures log ++ (l.channel.queue.take n ++ []) ++ l.channel.queue.drop n =
      arrivals log ++ []
    rw [← h]
    simp
  | idle | reflow | close | restate =>
    rw [departures, arrivals, List.append_nil, List.append_nil]
    exact h

/-! ## What has come of a call -/

/-- A batch that enters. -/
def Crossing.batch? : Crossing → Option (List Record)
  | .entered batch => some batch
  | .left _ => none

/-- The stages of a call, each with the batches that have entered by it. -/
inductive Request.Stands (q : Request) : Stage → List (List Record) → Prop
  | offering {d : Sending} {batch : List Record} (asks : q.batch? = some batch)
      (offer : d.Offers batch false) : Stands q (.sending d) []
  | refused {batch : List Record} (asks : q.batch? = some batch) :
      Stands q (.sending (.returned (.error .channelClosed))) []
  | metering {batch : List Record} (asks : q.batch? = some batch) :
      Stands q (.sending (.metering false)) [batch]
  | pausing {batch : List Record} (asks : q.batch? = some batch) (p : Pause) :
      Stands q (.sending (.pausing p false)) [batch]
  | accepted {batch : List Record} (asks : q.batch? = some batch) :
      Stands q (.sending (.returned (.ok ()))) [batch]
  | asking {r : Receiving} {want : Line.Want} (asks : q.want? = some want) (h : r.Asks want) :
      Stands q (.receiving r) []
  | served {want : Line.Want} (asks : q.want? = some want) (batch : List Record) :
      Stands q (.receiving (.returned batch)) []
  | closing (asks : q = .close) : Stands q .closing []
  | closed (asks : q = .close) : Stands q .closed []

namespace Request

/-- A call begins with nothing done. -/
theorem stands_opening (q : Request) : q.Stands q.opening [] := by
  cases q with
  | put r => exact .offering rfl (.pushing [r] false)
  | putAll batch => exact .offering rfl (.pushing batch false)
  | take => exact .asking rfl (.taking .one)
  | takeAll most => exact .asking rfl (.taking (.upTo most))
  | close => exact .closing rfl

/-- A step of a call leaves it where a call can stand. -/
theorem Stands.step {q : Request} {l l' : Line} {now : Nanos} {g g' : Stage}
    {es : List (List Record)} {cs : List Crossing} (h : q.Stands g es)
    (hm : g.Moves l now cs l' g') : q.Stands g' (es ++ cs.filterMap Crossing.batch?) := by
  cases h with
  | @offering d batch asks offer =>
    cases hm with
    | sending hm =>
      cases offer with
      | pushing =>
        cases hm with
        | wait full => exact .offering asks (.waiting batch false now)
        | refuse offer closed => exact .refused asks
        | enter offer waited isOpen room =>
          cases offer
          unfold Sending.entered
          split
          · exact .accepted asks
          · exact .metering asks
      | waiting since =>
        cases hm with
        | refuse offer closed => exact .refused asks
        | enter offer waited isOpen room =>
          cases offer
          unfold Sending.entered
          split
          · exact .accepted asks
          · exact .metering asks
  | refused asks => cases hm with | sending hm => exact absurd hm Sending.not_moves_returned
  | accepted asks => cases hm with | sending hm => exact absurd hm Sending.not_moves_returned
  | metering asks =>
    cases hm with
    | sending hm =>
      cases hm with
      | refuse offer => cases offer
      | enter offer => cases offer
      | meter flow => exact .accepted asks
      | throttle flow p => exact .pausing asks p
  | pausing asks p =>
    cases hm with
    | sending hm =>
      cases hm with
      | refuse offer => cases offer
      | enter offer => cases offer
      | resume p due => exact .accepted asks
  | asking asks h =>
    cases hm with
    | receiving hm =>
      cases hm with
      | wait dry => cases h; exact .asking asks (.waiting _ now)
      | take _ waited ready => exact .served asks _
  | served asks batch => cases hm with | receiving hm => exact absurd hm Receiving.not_moves_returned
  | closing asks => cases hm with | close => exact .closed asks
  | closed => cases hm

end Request

/-! ## The calls that were admitted -/

namespace Traffic

/-- The batches that have entered by a call. -/
def entries (s : Traffic) (i : Nat) : List (List Record) :=
  s.log.filterMap fun p => if p.1 = i then p.2.batch? else none

/-- The calls that were admitted, in the order of their admission. -/
def admitted (s : Traffic) : List Nat := s.log.filterMap fun p => p.2.batch?.map fun _ => p.1

/-- The batch that a call puts in, if it does. -/
def batch? (s : Traffic) (i : Nat) : Option (List Record) :=
  (s.calls[i]?).bind fun call => call.request.batch?

/-- The records that a call puts in. -/
def argument (s : Traffic) (i : Nat) : List Record := (s.batch? i).getD []

/-- What a call on the way in has returned, if it has. -/
def returned? (s : Traffic) (i : Nat) : Option (Except Failure Unit) :=
  match s.stage? i with
  | some (.sending (.returned r)) => some r
  | _ => none

/-- The records that a call on the way out has returned, if it has. None of them is the end of the
stream. -/
def taken? (s : Traffic) (i : Nat) : Option (List Record) :=
  match s.stage? i with
  | some (.receiving (.returned batch)) => some batch
  | _ => none

theorem returned?_eq_some_iff {s : Traffic} {i : Nat} {r : Except Failure Unit} :
    s.returned? i = some r ↔ s.stage? i = some (.sending (.returned r)) := by
  unfold returned?
  split
  · rename_i h; rw [h]; simp
  · rename_i h; simpa using h r

theorem taken?_eq_some_iff {s : Traffic} {i : Nat} {batch : List Record} :
    s.taken? i = some batch ↔ s.stage? i = some (.receiving (.returned batch)) := by
  unfold taken?
  split
  · rename_i h; rw [h]; simp
  · rename_i h; simpa using h batch

/-- Every call stands where its stage says, and nothing has entered by calls that were never made. -/
structure Orderly (s : Traffic) : Prop where
  stands : ∀ {i : Nat} {call : Call}, s.calls[i]? = some call →
    call.request.Stands call.stage (s.entries i)
  fresh : ∀ {i : Nat}, s.calls[i]? = none → s.entries i = []

theorem orderly_ofConfig (c : ChannelConfig) (status : TaskStatus) (now : Nanos) :
    (ofConfig c status now).Orderly where
  stands h := by simp [ofConfig] at h
  fresh _ := rfl

/-- A call that goes on adds to its own entries only. -/
theorem entries_advance (s : Traffic) (i j : Nat) (call : Call) (cs : List Crossing) (line : Line)
    (stage : Stage) :
    (s.advance i call cs line stage).entries j =
      s.entries j ++ if i = j then cs.filterMap Crossing.batch? else [] := by
  unfold entries advance
  rw [List.filterMap_append, List.filterMap_map]
  have hf : ((fun p : Nat × Crossing => if p.1 = j then p.2.batch? else none) ∘ fun c => (i, c)) =
      fun c => if i = j then c.batch? else none := by
    funext c
    rfl
  rw [hf]
  by_cases h : i = j
  · simp [h]
  · simp [h]

theorem Orderly.steps {s t : Traffic} {m : Move} (h : s.Orderly) (hm : s.Steps m t) : t.Orderly := by
  cases hm with
  | call q =>
    constructor
    · intro i call hi
      rw [List.getElem?_append] at hi
      split at hi
      · exact h.stands hi
      · rename_i hl
        have he : s.entries i = [] := h.fresh (List.getElem?_eq_none (by omega))
        obtain ⟨-, rfl⟩ : _ ∧ ⟨q, q.opening⟩ = call := by simpa [List.getElem?_singleton] using hi
        show q.Stands q.opening (s.entries i)
        rw [he]
        exact q.stands_opening
    · intro i hi
      have hl := List.getElem?_eq_none_iff.mp hi
      rw [List.length_append] at hl
      exact h.fresh (List.getElem?_eq_none (by omega))
  | @go i call cs line stage found hm =>
    constructor
    · intro j other hj
      rw [entries_advance]
      simp only [advance] at hj
      by_cases hij : i = j
      · subst hij
        rw [if_pos rfl]
        rw [List.getElem?_set_self (List.getElem?_eq_some_iff.mp found).1] at hj
        cases hj
        exact (h.stands found).step hm
      · rw [if_neg hij, List.append_nil]
        rw [List.getElem?_set_ne hij] at hj
        exact h.stands hj
    · intro j hj
      have hl := List.getElem?_eq_none_iff.mp hj
      simp only [advance, List.length_set] at hl
      have hij : i ≠ j := by
        have := (List.getElem?_eq_some_iff.mp found).1
        omega
      rw [entries_advance, if_neg hij, List.append_nil]
      exact h.fresh (List.getElem?_eq_none hl)
  | elapse span => exact ⟨h.stands, h.fresh⟩
  | restate status agrees => exact ⟨h.stands, h.fresh⟩

theorem Orderly.run {s t : Traffic} {moves : List Move} (h : s.Orderly) (hr : s.run moves = some t) :
    t.Orderly :=
  run_invariant (P := Orderly) Orderly.steps h hr

/-- Nothing, or the batch of the call, has entered by a call. -/
theorem Orderly.entries_eq {s : Traffic} (h : s.Orderly) (i : Nat) :
    s.entries i = [] ∨ ∃ batch, s.batch? i = some batch ∧ s.entries i = [batch] := by
  cases hc : s.calls[i]? with
  | none => exact .inl (h.fresh hc)
  | some call =>
    obtain ⟨q, g⟩ := call
    have hs : q.Stands g (s.entries i) := h.stands hc
    have hb : s.batch? i = q.batch? := by rw [batch?, hc]; rfl
    generalize s.entries i = es at hs
    rw [hb]
    cases hs with
    | metering asks => exact .inr ⟨_, asks, rfl⟩
    | pausing asks => exact .inr ⟨_, asks, rfl⟩
    | accepted asks => exact .inr ⟨_, asks, rfl⟩
    | _ => exact .inl rfl

/-- A call stands as often among the admitted ones as batches have entered by it. -/
theorem count_admitted (s : Traffic) (i : Nat) : s.admitted.count i = (s.entries i).length := by
  unfold admitted entries
  induction s.log with
  | nil => rfl
  | cons p log ih =>
    obtain ⟨j, c⟩ := p
    rw [List.filterMap_cons, List.filterMap_cons]
    cases c with
    | left batch => simpa [Crossing.batch?] using ih
    | entered batch =>
      by_cases hj : j = i
      · simpa [Crossing.batch?, hj] using ih
      · simpa [Crossing.batch?, hj, List.count_cons] using ih

theorem mem_admitted {s : Traffic} {i : Nat} : i ∈ s.admitted ↔ s.entries i ≠ [] := by
  rw [← List.count_pos_iff, count_admitted, List.length_pos_iff]

/-- A call is admitted once at most. -/
theorem Orderly.nodup_admitted {s : Traffic} (h : s.Orderly) : s.admitted.Nodup := by
  rw [List.nodup_iff_count]
  intro i
  rw [count_admitted]
  rcases h.entries_eq i with he | ⟨batch, -, he⟩
  · rw [he]; exact Nat.zero_le 1
  · rw [he]; exact Nat.le_refl 1

/-- If every batch in a log is the argument of its call, then what entered are the arguments of the
calls, in order. -/
theorem arrivals_eq_flatMap {log : List (Nat × Crossing)} {argument : Nat → List Record}
    (h : ∀ i batch, (i, .entered batch) ∈ log → argument i = batch) :
    arrivals (log.map Prod.snd) =
      (log.filterMap fun p => p.2.batch?.map fun _ => p.1).flatMap argument := by
  induction log with
  | nil => rfl
  | cons p log ih =>
    have ih := ih fun i batch hp => h i batch (List.mem_cons_of_mem _ hp)
    obtain ⟨i, c⟩ := p
    cases c with
    | left batch => exact ih
    | entered batch =>
      show batch ++ arrivals (log.map Prod.snd) = List.flatMap argument (i :: _)
      rw [List.flatMap_cons, ih, h i batch List.mem_cons_self]

/-- A batch that entered is the argument of its call. -/
theorem Orderly.argument_eq {s : Traffic} (h : s.Orderly) {i : Nat} {batch : List Record}
    (hp : (i, .entered batch) ∈ s.log) : s.argument i = batch := by
  have he : batch ∈ s.entries i :=
    List.mem_filterMap.mpr ⟨(i, .entered batch), hp, by simp [Crossing.batch?]⟩
  rcases h.entries_eq i with h0 | ⟨b, hb, h1⟩
  · rw [h0] at he; cases he
  · rw [h1, List.mem_singleton] at he
    rw [argument, hb, he]; rfl

/-- What entered are the batches of the admitted calls, in the order of their admission. -/
theorem Orderly.arrivals_eq {s : Traffic} (h : s.Orderly) :
    arrivals s.crossings = s.admitted.flatMap s.argument :=
  arrivals_eq_flatMap fun _ _ hp => h.argument_eq hp

/-- A call on the way in returns without failure if it was admitted, and fails because the channel is
closed if it was not. -/
theorem Orderly.returned {s : Traffic} (h : s.Orderly) {i : Nat} {r : Except Failure Unit}
    (hr : s.returned? i = some r) :
    (r = .ok () ∧ i ∈ s.admitted) ∨ (r = .error .channelClosed ∧ i ∉ s.admitted) := by
  obtain ⟨q, hc⟩ := found_of_stage? (returned?_eq_some_iff.mp hr)
  have hs : q.Stands (.sending (.returned r)) (s.entries i) := h.stands hc
  rw [mem_admitted]
  generalize s.entries i = es at hs
  cases hs with
  | offering asks offer => cases offer
  | refused => exact .inr ⟨rfl, fun he => he rfl⟩
  | accepted => exact .inl ⟨rfl, by simp⟩

/-- A step of a call on the way in that does not admit it does nothing to the line. -/
theorem Orderly.line_eq_of_not_admitted {s t : Traffic} (h : s.Orderly) {i : Nat}
    {batch : List Record} (hb : s.batch? i = some batch) (hm : s.Steps (.go i) t)
    (out : i ∉ t.admitted) : t.line = s.line := by
  cases hm with
  | @go _ call cs line stage found hm =>
    rw [mem_admitted, Classical.not_not, entries_advance, if_pos rfl, List.append_eq_nil_iff] at out
    obtain ⟨q, g⟩ := call
    have hs : q.Stands g (s.entries i) := h.stands found
    have hq : q.batch? = some batch := by rw [← hb, batch?, found]; rfl
    rw [out.1] at hs
    show line = s.line
    cases hs with
    | offering asks offer =>
      cases hm with
      | sending hm =>
        cases hm with
        | wait => rfl
        | refuse => rfl
        | enter => exact absurd out.2 (by simp [Crossing.batch?])
        | meter => cases offer
        | throttle => cases offer
        | resume => cases offer
        | close => cases offer
    | refused => cases hm with | sending hm => exact absurd hm Sending.not_moves_returned
    | asking asks => cases q <;> cases asks <;> cases hq
    | served asks => cases q <;> cases asks <;> cases hq
    | closing asks => rw [asks] at hq; cases hq
    | closed asks => rw [asks] at hq; cases hq

end Traffic

/-! ## The end of the stream -/

/-- Nothing is queued, and nothing can enter any more. -/
def Channel.IsDrained (c : Channel) : Prop := c.closed = true ∧ c.queue = []

/-- Taking from a channel that is not dry yields nothing exactly if the channel is drained. -/
theorem Channel.take_eq_nil_iff {c : Channel} {n : Nat} (pos : 0 < n) (ready : c.isDry = false) :
    c.queue.take n = [] ↔ c.IsDrained := by
  rw [Bool.eq_false_iff, Ne, isDry_iff] at ready
  unfold IsDrained
  rw [List.take_eq_nil_iff]
  constructor
  · intro h
    have he : c.queue = [] := h.resolve_left (Nat.ne_of_gt pos)
    exact ⟨by simpa [he] using ready, he⟩
  · exact fun h => .inr h.2

/-- A closed channel stays closed, and nothing enters it. -/
theorem Line.Change.of_closed {l l' : Line} {cs : List Crossing} (h : l.Change cs l')
    (closed : l.channel.closed = true) :
    l'.channel.closed = true ∧ cs.filterMap Crossing.batch? = [] := by
  cases h with
  | enter batch waited isOpen => rw [isOpen] at closed; cases closed
  | close => exact ⟨rfl, rfl⟩
  | idle | release | reflow | restate => exact ⟨closed, rfl⟩

/-- A drained channel stays drained. -/
theorem Line.Change.of_isDrained {l l' : Line} {cs : List Crossing} (h : l.Change cs l')
    (drained : l.channel.IsDrained) : l'.channel.IsDrained := by
  refine ⟨(h.of_closed drained.1).1, ?_⟩
  have he := drained.2
  cases h with
  | enter batch waited isOpen => have hc := drained.1; rw [isOpen] at hc; cases hc
  | release n waited => show l.channel.queue.drop n = []; rw [he]; exact List.drop_nil
  | idle | reflow | close | restate => exact he

namespace Traffic

theorem admitted_eq_of_log {s t : Traffic} {i : Nat} {cs : List Crossing}
    (h : t.log = s.log ++ cs.map fun c => (i, c)) (hc : cs.filterMap Crossing.batch? = []) :
    t.admitted = s.admitted := by
  have hm : (cs.map fun c => (i, c)).filterMap (fun p => p.2.batch?.map fun _ => p.1) = [] := by
    simpa [List.filterMap_map, Function.comp_def] using hc
  unfold admitted
  rw [h, List.filterMap_append, hm, List.append_nil]

/-- A channel that is closed stays so, and no call is admitted to it any more. -/
theorem run_of_closed {s t : Traffic} {moves : List Move} (h : s.run moves = some t)
    (closed : s.line.channel.closed = true) :
    t.line.channel.closed = true ∧ t.admitted = s.admitted := by
  refine run_invariant (P := fun u => u.line.channel.closed = true ∧ u.admitted = s.admitted) ?_
    ⟨closed, rfl⟩ h
  intro u v m hu hm
  cases hm with
  | call q => exact hu
  | elapse span => exact hu
  | restate status agrees => exact hu
  | go found hm =>
    obtain ⟨hc, he⟩ := hm.change.of_closed hu.1
    exact ⟨hc, (admitted_eq_of_log rfl he).trans hu.2⟩

theorem run_of_isDrained {s t : Traffic} {moves : List Move} (h : s.run moves = some t)
    (drained : s.line.channel.IsDrained) : t.line.channel.IsDrained :=
  run_changes (P := fun l _ => l.channel.IsDrained) (fun hl hc => hc.of_isDrained hl) drained h

/-- A call on the way out comes back with nothing exactly if the channel is drained. -/
theorem taken_eq_nil_iff {s t : Traffic} {i : Nat} {batch : List Record} (hm : s.Steps (.go i) t)
    (h : t.taken? i = some batch) : batch = [] ↔ s.line.channel.IsDrained := by
  rw [taken?_eq_some_iff] at h
  cases hm with
  | @go _ call _ _ _ found hm =>
    obtain ⟨q, g⟩ := call
    rw [stage?_advance_self found] at h
    cases h
    cases hm with
    | receiving hm =>
      cases hm with
      | @take _ want asks waited ready => exact Channel.take_eq_nil_iff want.most_pos ready

/-- On a drained channel a call on the way out does not wait, and comes back with nothing. -/
theorem takes_nothing {s : Traffic} (drained : s.line.channel.IsDrained) {i : Nat} {r : Receiving}
    {want : Line.Want} (h : s.stage? i = some (.receiving r)) (asks : r.Asks want) :
    ∃ t, s.step (.go i) = some t ∧ t.taken? i = some [] := by
  have ready : s.line.channel.isDry = false := by
    rw [Bool.eq_false_iff, Ne, Channel.isDry_iff, drained.1]
    exact fun hd => Bool.false_ne_true hd.2.symm
  obtain ⟨waited, hr⟩ := asks.step_eq s.now ready
  rw [drained.2, List.take_nil] at hr
  have hg : Stage.step s.line s.now (.receiving r) =
      some ([.left []], s.line.release want.most waited, .receiving (.returned [])) := by
    simp only [Stage.step, hr, Option.map_some]; rfl
  obtain ⟨t, ht, -, hi, -⟩ := step_go h hg
  exact ⟨t, ht, taken?_eq_some_iff.mpr hi⟩

/-! ## Admitted calls come back -/

/-- The sample is kept only by a call that pauses. -/
def HeldByPause (s : Traffic) : Prop :=
  s.line.flow.held = true → ∃ i p ends, s.stage? i = some (.sending (.pausing p ends))

theorem HeldByPause.steps {s t : Traffic} {m : Move} (h : s.HeldByPause) (hm : s.Steps m t) :
    t.HeldByPause := by
  intro held
  cases hm with
  | call q =>
    obtain ⟨i, p, ends, hi⟩ := h held
    obtain ⟨q', found⟩ := found_of_stage? hi
    refine ⟨i, p, ends, ?_⟩
    show ((s.calls ++ [⟨q, q.opening⟩])[i]?).map Call.stage = _
    rw [List.getElem?_append_left (List.getElem?_eq_some_iff.mp found).1, found]
    rfl
  | elapse span => exact h held
  | restate status agrees => exact h held
  | @go j call cs line stage found hm =>
    rcases hm.held held with ⟨p, ends, rfl⟩ | ⟨kept, other⟩
    · exact ⟨j, p, ends, stage?_advance_self found _ _ _⟩
    · obtain ⟨i, p, ends, hi⟩ := h kept
      have hij : j ≠ i := by
        rintro rfl
        rw [stage?, found] at hi
        exact other p ends (Option.some.inj hi)
      refine ⟨i, p, ends, ?_⟩
      rw [stage?_advance_of_ne hij]
      exact hi

theorem HeldByPause.run {s t : Traffic} {moves : List Move} (h : s.HeldByPause)
    (hr : s.run moves = some t) : t.HeldByPause :=
  run_invariant (P := HeldByPause) HeldByPause.steps h hr

/-- A call that pauses goes on when its pause is over, and gives the sample free. -/
theorem run_of_pausing {s : Traffic} {i : Nat} {p : Pause} {ends : Bool}
    (h : s.stage? i = some (.sending (.pausing p ends))) :
    ∃ t, s.run [.elapse p.ends, .go i] = some t ∧
      t.stage? i = some (.sending (.passed ends)) ∧ t.line.flow.held = false ∧
      ∀ j, i ≠ j → t.stage? j = s.stage? j := by
  have hg : Stage.step s.line (s.now + p.ends) (.sending (.pausing p ends)) =
      some ([], { s.line with flow := s.line.flow.resume p (s.now + p.ends) },
        .sending (.passed ends)) := by
    simp [Stage.step, Sending.step, Sending.crossings]
  obtain ⟨t, ht, hl, hi, hj⟩ := step_go (s := { s with now := s.now + p.ends }) h hg
  refine ⟨t, ?_, hi, by rw [hl]; rfl, hj⟩
  rw [run_cons rfl, run_cons ht]
  rfl

/-- A call that is metered while the sample is free comes to its end, after a pause at most. -/
theorem run_of_metering {s : Traffic} {i : Nat} {ends : Bool}
    (h : s.stage? i = some (.sending (.metering ends))) (free : s.line.flow.held = false) :
    ∃ moves t, s.run moves = some t ∧ t.stage? i = some (.sending (.passed ends)) := by
  cases hm : s.line.flow.meter s.line.status s.now with
  | none => rw [FlowControl.held_of_meter_eq_none hm] at free; cases free
  | some r =>
    obtain ⟨flow, p⟩ := r
    cases p with
    | none =>
      have hg : Stage.step s.line s.now (.sending (.metering ends)) =
          some ([], { s.line with flow }, .sending (.passed ends)) := by
        simp [Stage.step, Sending.step, Sending.crossings, hm]
      obtain ⟨t, ht, -, hi, -⟩ := step_go h hg
      exact ⟨[.go i], t, by rw [run_cons ht]; rfl, hi⟩
    | some p =>
      have hg : Stage.step s.line s.now (.sending (.metering ends)) =
          some ([], { s.line with flow }, .sending (.pausing p ends)) := by
        simp [Stage.step, Sending.step, Sending.crossings, hm]
      obtain ⟨u, hu, -, hi, -⟩ := step_go h hg
      obtain ⟨t, ht, hi, -, -⟩ := run_of_pausing hi
      exact ⟨.go i :: [.elapse p.ends, .go i], t, (run_cons hu _).trans ht, hi⟩

/-- A call that was admitted can always go on until it returns without failure. -/
theorem run_of_admitted {s : Traffic} (ho : s.Orderly) (hh : s.HeldByPause) {i : Nat}
    (h : i ∈ s.admitted) : ∃ moves t, s.run moves = some t ∧ t.returned? i = some (.ok ()) := by
  simp only [returned?_eq_some_iff]
  rw [mem_admitted] at h
  rcases ho.entries_eq i with he | ⟨batch, hb, -⟩
  · exact absurd he h
  obtain ⟨⟨q, g⟩, found, -⟩ := Option.bind_eq_some_iff.mp hb
  have hs : q.Stands g (s.entries i) := ho.stands found
  have hi : s.stage? i = some g := by rw [stage?, found]; rfl
  generalize s.entries i = es at hs h
  cases hs with
  | accepted => exact ⟨[], s, rfl, hi⟩
  | pausing asks p =>
    obtain ⟨t, ht, hr, -, -⟩ := run_of_pausing hi
    exact ⟨_, t, ht, hr⟩
  | metering asks =>
    cases held : s.line.flow.held with
    | false => exact run_of_metering hi held
    | true =>
      -- whoever keeps the sample gives it free first
      obtain ⟨j, p, ends, hj⟩ := hh held
      obtain ⟨u, hu, -, free, others⟩ := run_of_pausing hj
      have hij : j ≠ i := by
        rintro rfl
        rw [hi] at hj
        cases hj
      obtain ⟨moves, t, ht, hr⟩ := run_of_metering ((others i hij).trans hi) free
      exact ⟨_, t, (run_append hu).trans ht, hr⟩
  | _ => exact absurd rfl h

/-! ## The order of the traffic -/

theorem heldByPause_ofConfig (c : ChannelConfig) (status : TaskStatus) (now : Nanos) :
    (ofConfig c status now).HeldByPause := by
  intro held
  cases held

theorem conserves_of_run {c : ChannelConfig} {status : TaskStatus} {now : Nanos}
    {moves : List Move} {s : Traffic} (hs : (ofConfig c status now).run moves = some s) :
    s.line.Conserves s.crossings :=
  run_changes (P := Line.Conserves) (fun hl hc => hc.conserve hl) (by rfl) hs

/-- **First in, first out, exactly once.** In every state that an interleaving of calls leads to:
1. What left, followed by what is queued, are the batches of the admitted calls, in the order of their
   admission, each once.
2. A call on the way in returns without failure exactly if it was admitted, and every admitted call can
   go on until it returns.
3. No step of a call that is not admitted does anything to the line.
4. A closed channel stays closed, and admits no call any more.
5. A call on the way out comes back with nothing exactly if the channel is closed and empty, and from
   then on all of them do, at once. -/
theorem fifo_exactly_once (c : ChannelConfig) (status : TaskStatus) (now : Nanos)
    (moves more : List Move) {s t : Traffic} (hs : (ofConfig c status now).run moves = some s)
    (ht : s.run more = some t) :
    (departures s.crossings ++ s.line.channel.queue = s.admitted.flatMap s.argument ∧
      s.admitted.Nodup) ∧
    ((∀ i r, s.returned? i = some r →
        (r = .ok () ∧ i ∈ s.admitted) ∨ (r = .error .channelClosed ∧ i ∉ s.admitted)) ∧
      ∀ i ∈ s.admitted, (s.batch? i).isSome ∧
        ∃ later u, s.run later = some u ∧ u.returned? i = some (.ok ())) ∧
    (∀ i u, (s.batch? i).isSome → s.step (.go i) = some u → i ∉ u.admitted → u.line = s.line) ∧
    (s.line.channel.closed = true →
      t.line.channel.closed = true ∧ t.admitted = s.admitted) ∧
    (∀ i u batch, s.step (.go i) = some u → u.taken? i = some batch →
      (batch = [] ↔ s.line.channel.IsDrained)) ∧
    (s.line.channel.IsDrained → t.line.channel.IsDrained ∧
      ∀ i r want, t.stage? i = some (.receiving r) → r.Asks want →
        ∃ u, t.step (.go i) = some u ∧ u.taken? i = some []) := by
  have ho : s.Orderly := (orderly_ofConfig c status now).run hs
  have hh : s.HeldByPause := (heldByPause_ofConfig c status now).run hs
  refine ⟨⟨?_, ho.nodup_admitted⟩, ⟨fun i r hr => ho.returned hr, fun i hi => ⟨?_, ?_⟩⟩,
    ?_, ?_, ?_, ?_⟩
  · rw [← ho.arrivals_eq]
    exact conserves_of_run hs
  · rcases ho.entries_eq i with he | ⟨batch, hb, -⟩
    · exact absurd he (mem_admitted.mp hi)
    · rw [hb]; rfl
  · exact run_of_admitted ho hh hi
  · intro i u hb hu out
    obtain ⟨batch, hb⟩ := Option.isSome_iff_exists.mp hb
    exact ho.line_eq_of_not_admitted hb (steps_of_step hu) out
  · exact fun closed => run_of_closed ht closed
  · exact fun i u batch hu hb => taken_eq_nil_iff (steps_of_step hu) hb
  · intro drained
    have hd := run_of_isDrained ht drained
    exact ⟨hd, fun i r want hi asks => takes_nothing hd hi asks⟩

/-- A batch goes through a channel of one record, and a put that waits behind it is refused when the
channel is closed. -/
def refusal : List Move :=
  [.call (.putAll [.ofColumns [.bool true], .empty]), .call (.put .empty), .call (.takeAll 0),
    .go 0, .go 1, .go 0, .go 2, .call .close, .go 3, .go 1]

/-- The channel after `refusal` is drained. -/
def draining : List Move := [.call (.takeAll 5), .go 4, .call .take, .go 5]

theorem fifo_exactly_once_refusal :
    ∃ s t, (ofConfig { capacity := 1 } .initial 0).run refusal = some s ∧
      s.run draining = some t ∧ s.returned? 1 = some (.error .channelClosed) ∧
      t.taken? 5 = some [] ∧ s.admitted = [0] ∧
      departures s.crossings ++ s.line.channel.queue = s.admitted.flatMap s.argument :=
  ⟨_, _, rfl, rfl, rfl, rfl, rfl,
    (fifo_exactly_once { capacity := 1 } .initial 0 refusal draining rfl rfl).1.1⟩

end Traffic

end BatchSync
