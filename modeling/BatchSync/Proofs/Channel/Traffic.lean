import BatchSync.Proofs.Channel.Changes

/-!
# Traffic on a channel

Any number of callers put records into a channel, take records out of it and close it. A call is known
by its place in the order in which the calls were made, and it goes on step by step (`Stage.step`);
between any two steps others may act, time may pass, and the status of the task may be changed by
others as long as they leave alone what the channel counts. What crossed the channel is kept in a log,
with the calls by which it did.

An interleaving is a list of moves (`Traffic.run`). `steps_of_step` says all that a move can do, and
`run_invariant` and `run_changes` carry what every move keeps over a whole run.
-/

namespace BatchSync

/-! ## Calls -/

/-- What a caller asks of a channel. -/
inductive Request where
  | put (r : Record)
  | putAll (batch : List Record)
  | take
  | takeAll (most : Nat)
  | close

/-- How far a call has come. -/
inductive Stage where
  | sending (d : Sending)
  | receiving (r : Receiving)
  /-- About to close the channel. -/
  | closing
  | closed

namespace Request

/-- The batch that is to be put in. -/
def batch? : Request → Option (List Record)
  | .put r => some [r]
  | .putAll batch => some batch
  | _ => none

/-- What is to be taken out. -/
def want? : Request → Option Line.Want
  | .take => some .one
  | .takeAll most => some (.upTo most)
  | _ => none

/-- Where a call begins. -/
def opening : Request → Stage
  | .put r => .sending (.pushing [r] false)
  | .putAll batch => .sending (.pushing batch false)
  | .take => .receiving (.taking .one)
  | .takeAll most => .receiving (.taking (.upTo most))
  | .close => .closing

end Request

namespace Stage

/-- The next stage of a call on a line, at a time, with what crosses the channel. There is none for a
call that has returned or has to wait. -/
def step (l : Line) (now : Nanos) : Stage → Option (List Crossing × Line × Stage)
  | .sending d => (d.step l now).map fun p => (d.crossings l, p.1, .sending p.2)
  | .receiving r => (r.step l now).map fun p => (p.2.crossings, p.1, .receiving p.2)
  | .closing => some ([], l.close, .closed)
  | .closed => none

/-- All that a step of a call can do. -/
inductive Moves (l : Line) (now : Nanos) : Stage → List Crossing → Line → Stage → Prop
  | sending {d d' : Sending} {cs : List Crossing} {l' : Line} (h : d.Moves l now cs l' d') :
      Moves l now (.sending d) cs l' (.sending d')
  | receiving {r r' : Receiving} {cs : List Crossing} {l' : Line} (h : r.Moves l now cs l' r') :
      Moves l now (.receiving r) cs l' (.receiving r')
  | close : Moves l now .closing [] l.close .closed

theorem moves_of_step {l l' : Line} {now : Nanos} {g g' : Stage} {cs : List Crossing}
    (h : g.step l now = some (cs, l', g')) : g.Moves l now cs l' g' := by
  cases g with
  | sending d =>
    obtain ⟨⟨l₁, d₁⟩, hd, e⟩ := Option.map_eq_some_iff.mp h
    cases e
    exact .sending (Sending.moves_of_step hd)
  | receiving r =>
    obtain ⟨⟨l₁, r₁⟩, hr, e⟩ := Option.map_eq_some_iff.mp h
    cases e
    exact .receiving (Receiving.moves_of_step hr)
  | closing => cases h; exact .close
  | closed => cases h

theorem Moves.change {l l' : Line} {now : Nanos} {g g' : Stage} {cs : List Crossing}
    (h : g.Moves l now cs l' g') : l.Change cs l' := by
  cases h with
  | sending h => exact h.change
  | receiving h => exact h.change
  | close => exact .close

/-- A step after which the sample is kept has come to a pause, or was taken by a call that does not
pause while another one keeps it. -/
theorem Moves.held {l l' : Line} {now : Nanos} {g g' : Stage} {cs : List Crossing}
    (h : g.Moves l now cs l' g') (held : l'.flow.held = true) :
    (∃ p ends, g' = .sending (.pausing p ends)) ∨
      (l.flow.held = true ∧ ∀ p ends, g ≠ .sending (.pausing p ends)) := by
  cases h with
  | close => exact .inr ⟨held, fun p ends e => by cases e⟩
  | receiving h =>
    refine .inr ⟨?_, fun p ends e => by cases e⟩
    cases h <;> exact held
  | sending h =>
    cases h with
    | throttle flow p => exact .inl ⟨p, _, rfl⟩
    | resume p due => cases held
    | wait => exact .inr ⟨held, fun p ends e => by cases e⟩
    | close => exact .inr ⟨held, fun p ends e => by cases e⟩
    | refuse offer => exact .inr ⟨held, fun p ends e => by cases e; cases offer⟩
    | enter offer => exact .inr ⟨held, fun p ends e => by cases e; cases offer⟩
    | meter flow metered =>
      refine .inr ⟨?_, fun p ends e => by cases e⟩
      cases FlowControl.metered_of_meter metered <;> exact held

/-- A step leaves the sample, or takes it from the counters, or from what a pausing call remembers. -/
theorem Moves.sample {l l' : Line} {now : Nanos} {g g' : Stage} {cs : List Crossing}
    (h : g.Moves l now cs l' g') :
    l'.flow.sample = l.flow.sample ∨
      (l'.flow.sample.bytes = l.status.count .readSucceedBytes ∧
        l'.flow.sample.records = l.status.count .readSucceedRecords) ∨
      ∃ p ends, g = .sending (.pausing p ends) ∧ l'.flow.sample.bytes = p.bytes ∧
        l'.flow.sample.records = p.records := by
  cases h with
  | close => exact .inl rfl
  | receiving h => cases h <;> exact .inl rfl
  | sending h =>
    cases h with
    | wait => exact .inl rfl
    | refuse => exact .inl rfl
    | enter => exact .inl rfl
    | close => exact .inl rfl
    | resume p due => exact .inr (.inr ⟨p, _, rfl, rfl, rfl⟩)
    | meter flow metered =>
      cases FlowControl.metered_of_meter metered with
      | pass => exact .inl rfl
      | sample => exact .inr (.inl ⟨rfl, rfl⟩)
    | throttle flow p metered =>
      cases FlowControl.metered_of_meter metered with
      | throttle => exact .inl rfl

end Stage

/-- A call, with what it asks for. -/
structure Call where
  request : Request
  stage : Stage

/-! ## The moves of all callers -/

/-- A line under its callers: the calls in the order in which they were made, and what crossed the
channel, by which call. -/
structure Traffic where
  line : Line
  now : Nanos
  calls : List Call
  log : List (Nat × Crossing)

/-- What can happen. -/
inductive Move where
  /-- Someone makes a call. -/
  | call (r : Request)
  /-- A call goes on. -/
  | go (i : Nat)
  /-- Time passes. -/
  | elapse (span : Nanos)
  /-- Others change the status of the task. -/
  | restate (status : TaskStatus)

/-- The call that a move makes, if it makes one. -/
def Move.request? : Move → Option Request
  | .call r => some r
  | _ => none

namespace Traffic

/-- A new channel, before any call. -/
def ofConfig (c : ChannelConfig) (status : TaskStatus) (now : Nanos) : Traffic :=
  ⟨.ofConfig c status now, now, [], []⟩

/-- What crossed the channel so far. -/
def crossings (s : Traffic) : List Crossing := s.log.map Prod.snd

/-- The traffic after a call went on. -/
def advance (s : Traffic) (i : Nat) (call : Call) (cs : List Crossing) (line : Line) (stage : Stage) :
    Traffic :=
  { s with
    line
    calls := s.calls.set i { call with stage }
    log := s.log ++ cs.map fun c => (i, c) }

/-- What a move leads to, if it can happen. -/
def step (s : Traffic) : Move → Option Traffic
  | .call r => some { s with calls := s.calls ++ [⟨r, r.opening⟩] }
  | .go i =>
    match s.calls[i]? with
    | none => none
    | some call =>
      (call.stage.step s.line s.now).map fun (cs, line, stage) => s.advance i call cs line stage
  | .elapse span => some { s with now := s.now + span }
  | .restate status =>
    if s.line.status.Agrees status then some { s with line := { s.line with status } } else none

/-- What an interleaving leads to, if all of its moves can happen one after the other. -/
def run (s : Traffic) : List Move → Option Traffic
  | [] => some s
  | m :: rest =>
    match s.step m with
    | none => none
    | some s => s.run rest

/-- All that a move can do. -/
inductive Steps (s : Traffic) : Move → Traffic → Prop
  | call (r : Request) : Steps s (.call r) { s with calls := s.calls ++ [⟨r, r.opening⟩] }
  | go {i : Nat} {call : Call} {cs : List Crossing} {line : Line} {stage : Stage}
      (found : s.calls[i]? = some call) (h : call.stage.Moves s.line s.now cs line stage) :
      Steps s (.go i) (s.advance i call cs line stage)
  | elapse (span : Nanos) : Steps s (.elapse span) { s with now := s.now + span }
  | restate (status : TaskStatus) (agrees : s.line.status.Agrees status) :
      Steps s (.restate status) { s with line := { s.line with status } }

theorem steps_of_step {s t : Traffic} {m : Move} (h : s.step m = some t) : s.Steps m t := by
  cases m with
  | call r => cases h; exact .call r
  | go i =>
    simp only [step] at h
    cases found : s.calls[i]? with
    | none => rw [found] at h; cases h
    | some call =>
      rw [found] at h
      obtain ⟨⟨cs, line, stage⟩, hm, e⟩ := Option.map_eq_some_iff.mp h
      cases e
      exact .go found (Stage.moves_of_step hm)
  | elapse span => cases h; exact .elapse span
  | restate status =>
    simp only [step] at h
    split at h
    · rename_i agrees
      cases h
      exact .restate status agrees
    · cases h

/-- How far a call has come. -/
def stage? (s : Traffic) (i : Nat) : Option Stage := (s.calls[i]?).map Call.stage

theorem found_of_stage? {s : Traffic} {i : Nat} {g : Stage} (h : s.stage? i = some g) :
    ∃ q, s.calls[i]? = some ⟨q, g⟩ := by
  obtain ⟨⟨q, g'⟩, hc, rfl⟩ := Option.map_eq_some_iff.mp h
  exact ⟨q, hc⟩

theorem stage?_advance_self {s : Traffic} {i : Nat} {call : Call} (found : s.calls[i]? = some call)
    (cs : List Crossing) (line : Line) (stage : Stage) :
    (s.advance i call cs line stage).stage? i = some stage := by
  unfold stage? advance
  rw [List.getElem?_set_self (List.getElem?_eq_some_iff.mp found).1]
  rfl

theorem stage?_advance_of_ne {s : Traffic} {i j : Nat} (h : i ≠ j) (call : Call)
    (cs : List Crossing) (line : Line) (stage : Stage) :
    (s.advance i call cs line stage).stage? j = s.stage? j := by
  unfold stage? advance
  rw [List.getElem?_set_ne h]

/-- A call that was just made is at its opening; the others are where they were. -/
theorem stage?_call {s : Traffic} {q : Request} {i : Nat} {g : Stage}
    (h : ({ s with calls := s.calls ++ [⟨q, q.opening⟩] } : Traffic).stage? i = some g) :
    s.stage? i = some g ∨ g = q.opening := by
  unfold stage? at *
  rw [List.getElem?_append] at h
  split at h
  · exact .inl h
  · obtain ⟨call, hc, rfl⟩ := Option.map_eq_some_iff.mp h
    obtain ⟨-, rfl⟩ : _ ∧ ⟨q, q.opening⟩ = call := by simpa [List.getElem?_singleton] using hc
    exact .inr rfl

/-- A call goes on if its stage has a next one. -/
theorem step_go_eq {s : Traffic} {i : Nat} {call : Call} (found : s.calls[i]? = some call) :
    s.step (.go i) = (call.stage.step s.line s.now).map fun (cs, line, stage) =>
      s.advance i call cs line stage := by
  simp only [step, found]

theorem step_go_eq_none_iff {s : Traffic} {i : Nat} {g : Stage} (h : s.stage? i = some g) :
    s.step (.go i) = none ↔ g.step s.line s.now = none := by
  obtain ⟨q, found⟩ := found_of_stage? h
  rw [step_go_eq found, Option.map_eq_none_iff]

/-- The stages of the other calls stay. -/
theorem step_go {s : Traffic} {i : Nat} {g g' : Stage} {cs : List Crossing} {line : Line}
    (h : s.stage? i = some g) (hg : g.step s.line s.now = some (cs, line, g')) :
    ∃ t, s.step (.go i) = some t ∧ t.line = line ∧ t.stage? i = some g' ∧
      ∀ j, i ≠ j → t.stage? j = s.stage? j := by
  obtain ⟨q, found⟩ := found_of_stage? h
  refine ⟨s.advance i ⟨q, g⟩ cs line g', ?_, rfl, stage?_advance_self found _ _ _,
    fun j hij => stage?_advance_of_ne hij _ _ _ _⟩
  rw [step_go_eq found, hg, Option.map_some]

/-- A move changes the line, and the log has what crossed the channel, by one call. -/
theorem Steps.logged {s t : Traffic} {m : Move} (h : s.Steps m t) :
    ∃ i cs, s.line.Change cs t.line ∧ t.log = s.log ++ cs.map fun c => (i, c) := by
  cases h with
  | call r => exact ⟨0, [], .idle, (List.append_nil _).symm⟩
  | @go i call cs line stage found h => exact ⟨i, cs, h.change, rfl⟩
  | elapse span => exact ⟨0, [], .idle, (List.append_nil _).symm⟩
  | restate status agrees => exact ⟨0, [], .restate status agrees, (List.append_nil _).symm⟩

theorem crossings_of_log {s t : Traffic} {i : Nat} {cs : List Crossing}
    (h : t.log = s.log ++ cs.map fun c => (i, c)) : t.crossings = s.crossings ++ cs := by
  unfold crossings
  rw [h, List.map_append, List.map_map]
  simp [Function.comp_def]

theorem Steps.change {s t : Traffic} {m : Move} (h : s.Steps m t) :
    ∃ cs, s.line.Change cs t.line ∧ t.crossings = s.crossings ++ cs := by
  obtain ⟨i, cs, hc, hl⟩ := h.logged
  exact ⟨cs, hc, crossings_of_log hl⟩

/-! ## Runs -/

theorem run_cons {s t : Traffic} {m : Move} (h : s.step m = some t) (rest : List Move) :
    s.run (m :: rest) = t.run rest := by
  simp only [run, h]

/-- An interleaving may be cut in two. -/
theorem run_append {s t : Traffic} {a b : List Move} (h : s.run a = some t) :
    s.run (a ++ b) = t.run b := by
  induction a generalizing s with
  | nil => cases h; rfl
  | cons m a ih =>
    simp only [run, List.cons_append] at *
    cases hm : s.step m with
    | none => rw [hm] at h; cases h
    | some u => rw [hm] at h; exact ih h

/-- An interleaving may go on by a move. -/
theorem run_concat {s t u : Traffic} {moves : List Move} {m : Move} (h : s.run moves = some t)
    (hm : t.step m = some u) : s.run (moves ++ [m]) = some u := by
  rw [run_append h, run_cons hm]
  rfl

/-- What every move keeps, a run keeps. -/
theorem run_induction {P : Traffic → Prop}
    (keep : ∀ {s t : Traffic} {m : Move}, P s → s.step m = some t → P t) {moves : List Move} :
    ∀ {s t : Traffic}, P s → s.run moves = some t → P t := by
  induction moves with
  | nil => intro s t hs h; cases h; exact hs
  | cons m rest ih =>
    intro s t hs h
    simp only [run] at h
    cases hm : s.step m with
    | none => rw [hm] at h; cases h
    | some u =>
      rw [hm] at h
      exact ih (keep hs hm) h

theorem run_invariant {P : Traffic → Prop}
    (keep : ∀ {s t : Traffic} {m : Move}, P s → s.Steps m t → P t) {moves : List Move}
    {s t : Traffic} (hs : P s) (h : s.run moves = some t) : P t :=
  run_induction (P := P) (fun hs hm => keep hs (steps_of_step hm)) hs h

/-- The calls are those that the moves make, in their order. -/
theorem requests_of_run {moves : List Move} {s t : Traffic} (h : s.run moves = some t) :
    t.calls.map Call.request = s.calls.map Call.request ++ moves.filterMap Move.request? := by
  induction moves generalizing s with
  | nil => cases h; exact (List.append_nil _).symm
  | cons m rest ih =>
    simp only [run] at h
    cases hm : s.step m with
    | none => rw [hm] at h; cases h
    | some u =>
      rw [hm] at h
      rw [ih h]
      cases steps_of_step hm with
      | call q => simp [Move.request?]
      | elapse span => rfl
      | restate status agrees => rfl
      | @go i call cs line stage found hg =>
        have hc : (s.calls.set i { call with stage }).map Call.request =
            s.calls.map Call.request := by
          apply List.ext_getElem?
          intro j
          rw [List.getElem?_map, List.getElem?_map, List.getElem?_set]
          split
          · rename_i hij
            subst hij
            rw [found, if_pos (List.getElem?_eq_some_iff.mp found).1]
            rfl
          · rfl
        show (s.calls.set i { call with stage }).map Call.request ++ _ = _
        rw [hc]
        rfl

/-- What every change of a line keeps, together with what has crossed the channel, a run keeps. -/
theorem run_changes {P : Line → List Crossing → Prop}
    (keep : ∀ {l l' : Line} {log cs : List Crossing}, P l log → l.Change cs l' → P l' (log ++ cs))
    {moves : List Move} {s t : Traffic} (hs : P s.line s.crossings) (h : s.run moves = some t) :
    P t.line t.crossings := by
  refine run_invariant (P := fun u => P u.line u.crossings) ?_ hs h
  intro u v m hu hm
  obtain ⟨cs, hc, e⟩ := hm.change
  rw [e]
  exact keep hu hc

end Traffic

end BatchSync
