import BatchSync.Proofs.Retry.Attempts
import BatchSync.Proofs.Retry.Recorded

/-!
# Attempts in time are kept apart

However the retrying thread, the threads of the pool and other callers of the pool take turns, a call
with timed attempts does what `RetryRun` does with the outcomes of its attempts. The outcome of an
attempt is the first thing told of this attempt that decides it (`TimedHistory.outcome?`): what comes
later is passed over, and what is told of one attempt never counts for another one.

1. The retrying thread goes on with the outcome of the attempt (`Decided`), and has done so far what
   follows from the outcomes (`Follows`).
2. Only so many moves of the retrying thread are left at any time (`TimedRun.left`), and it is never held
   up for good (`TimedRun.Sound.goes_on`).
-/

namespace BatchSync

variable {α : Type}

namespace TimedAttempt

/-- What came of an attempt. -/
def outcome? (a : TimedAttempt α) : Option (Except Failure α) :=
  match a.delivered with
  | some outcome => some outcome
  | none => if a.dropped then some (.error .attemptAbandoned) else none

theorem outcome?_eq_none {a : TimedAttempt α} (going : (a.delivered.isSome || a.dropped) = false) :
    a.outcome? = none := by
  rw [Bool.or_eq_false_iff, Option.isSome_eq_false_iff, Option.isNone_iff_eq_none] at going
  rw [outcome?, going.1, going.2]
  rfl

end TimedAttempt

namespace TimedPhase

/-- The outcome that the retrying thread goes on with, and the attempt of it. -/
def learned? : TimedPhase α → Option (Nat × Except Failure α)
  | .cancelling i outcome => some (i, outcome)
  | .judging i outcome => some (i, outcome)
  | _ => none

end TimedPhase

namespace TimedHistory

variable {h h' : TimedHistory α} {now : Nanos} {m : TimedMove α} {r : TimedRun α}
  {e : Option (TimedEvent α)}

/-! ## Outcomes -/

theorem outcome?_add (timeout maxThreads i : Nat) (h : TimedHistory α) (r : TimedRun α)
    (e : Option (TimedEvent α)) :
    outcome? timeout maxThreads (h.add r e).told i =
      (outcome? timeout maxThreads h.told i).or (e.bind (TimedEvent.decides? timeout maxThreads i)) := by
  rw [add, outcome?, List.findSome?_append]
  cases e with
  | none => rfl
  | some e => rw [Option.toList_some, List.findSome?_singleton]; rfl

/-- What came of an attempt, as far as its thread is concerned. -/
def outcomeOf? (attempts : List (TimedAttempt α)) (i : Nat) : Option (Except Failure α) :=
  (attempts[i]?).bind TimedAttempt.outcome?

/-- The outcomes are known of all attempts but of the one that the retrying thread waits for. -/
structure Decided (timeout maxThreads : Nat) (h : TimedHistory α) : Prop where
  timeout_eq : h.run.timeout = timeout
  maxThreads_eq : h.run.pool.maxThreads = maxThreads
  /-- Only its thread decides of the attempt that the retrying thread waits for. -/
  awaited : ∀ i, h.run.phase = .awaiting i →
    outcome? timeout maxThreads h.told i = outcomeOf? h.run.attempts i
  known : ∀ i outcome, h.run.phase.learned? = some (i, outcome) →
    outcome? timeout maxThreads h.told i = some outcome
  settled : ∀ i < h.run.attempts.length, h.run.phase ≠ .awaiting i →
    (outcome? timeout maxThreads h.told i).isSome = true
  ahead : ∀ i, h.run.attempts.length ≤ i → outcome? timeout maxThreads h.told i = none

variable {timeout maxThreads : Nat}

theorem decided_start (policy : RetryPolicy) (timeout : Nat) (pool : RetryPool (Option Nat)) :
    (start policy timeout pool : TimedHistory α).Decided timeout pool.maxThreads where
  timeout_eq := rfl
  maxThreads_eq := rfl
  awaited := nofun
  known := nofun
  settled := nofun
  ahead _ _ := rfl

/-- The retrying thread stays where it is. -/
theorem Decided.aside (c : h.Decided timeout maxThreads) {pool : RetryPool (Option Nat)}
    {attempts : List (TimedAttempt α)} (threads : pool.maxThreads = h.run.pool.maxThreads)
    (length : attempts.length = h.run.attempts.length)
    (ahead : ∀ i, h.run.attempts.length ≤ i →
      e.bind (TimedEvent.decides? timeout maxThreads i) = none)
    (awaited : ∀ i, h.run.phase = .awaiting i →
      (outcomeOf? h.run.attempts i).or (e.bind (TimedEvent.decides? timeout maxThreads i)) =
        outcomeOf? attempts i) :
    (h.add { h.run with pool, attempts } e).Decided timeout maxThreads where
  timeout_eq := c.timeout_eq
  maxThreads_eq := threads.trans c.maxThreads_eq
  awaited i at_ := by
    rw [outcome?_add, c.awaited i at_]
    exact awaited i at_
  known i outcome at_ := by
    rw [outcome?_add, c.known i outcome at_]
    rfl
  settled i lt at_ := by
    rw [outcome?_add, Option.isSome_or, c.settled i (length ▸ lt) at_]
    rfl
  ahead i le := by
    rw [outcome?_add, c.ahead i (length ▸ le), ahead i (length ▸ le)]
    rfl

/-- The retrying thread learns the outcome of the attempt that it waits for. -/
theorem Decided.learn (c : h.Decided timeout maxThreads) {i : Nat} {outcome : Except Failure α}
    (at_ : h.run.phase = .awaiting i) (lt : i < h.run.attempts.length)
    (outcome_eq : (outcomeOf? h.run.attempts i).or
      (e.bind (TimedEvent.decides? timeout maxThreads i)) = some outcome)
    (apart : ∀ j, j ≠ i → e.bind (TimedEvent.decides? timeout maxThreads j) = none) :
    (h.add { h.run with phase := .cancelling i outcome } e).Decided timeout maxThreads where
  timeout_eq := c.timeout_eq
  maxThreads_eq := c.maxThreads_eq
  awaited := nofun
  known := by
    rintro j o ⟨⟩
    rw [outcome?_add, c.awaited i at_, outcome_eq]
  settled j hj _ := by
    rw [outcome?_add]
    by_cases eq : j = i
    · rw [eq, c.awaited i at_, outcome_eq]
      rfl
    · rw [Option.isSome_or, c.settled j hj (by rw [at_]; rintro ⟨⟩; exact eq rfl)]
      rfl
  ahead j le := by
    have ne : j ≠ i := by rintro rfl; exact Nat.lt_irrefl _ (Nat.lt_of_lt_of_le lt le)
    rw [outcome?_add, c.ahead j le, apart j ne]
    rfl

/-- The pool answers an attempt. -/
theorem Decided.answer (c : h.Decided timeout maxThreads) (s : h.run.Sound) {i : Nat}
    {pm : PoolMove (Option Nat)} {pool : RetryPool (Option Nat)} {phase : TimedPhase α}
    {taken : Bool} {event : TimedEvent α} (submits : h.run.Submits i pm)
    (threads : pool.maxThreads = h.run.pool.maxThreads)
    (answer : (taken = true ∧ event = .accepted i ∧ phase = .awaiting i) ∨
      (taken = false ∧ event = .rejected i ∧
        phase = .judging i (.error (.attemptRejected pool.maxThreads)))) :
    (h.add { h.run with pool, attempts := h.run.attempts ++ [.fresh taken], phase }
      (some event)).Decided timeout maxThreads := by
  obtain ⟨length, -, -⟩ := s.length_of_submits submits
  have not_awaiting : ∀ j, h.run.phase ≠ .awaiting j := by
    intro j
    cases submits with
    | submit at_ => rw [at_]; exact nofun
    | reserve at_ => rw [at_]; exact nofun
  have apart : ∀ j, j ≠ i → event.decides? timeout maxThreads j = none := by
    intro j ne
    rcases answer with ⟨-, rfl, -⟩ | ⟨-, rfl, -⟩
    · rfl
    · exact if_neg ne.symm
  have new : outcome? timeout maxThreads h.told i = none := c.ahead i (Nat.le_of_eq length)
  have lt_or_eq : ∀ {j : Nat}, j < (h.run.attempts ++ [TimedAttempt.fresh taken]).length →
      j < h.run.attempts.length ∨ j = i := by
    intro j hj
    rw [List.length_append, List.length_singleton] at hj
    omega
  refine ⟨c.timeout_eq, threads.trans c.maxThreads_eq, ?_, ?_, ?_, ?_⟩
  · intro j at_
    rcases answer with ⟨rfl, rfl, rfl⟩ | ⟨-, -, rfl⟩
    · cases at_
      rw [outcome?_add, new, outcomeOf?]
      show _ = ((h.run.attempts ++ [TimedAttempt.fresh true])[i]?).bind _
      rw [← length, List.getElem?_concat_length]
      rfl
    · cases at_
  · intro j outcome at_
    rcases answer with ⟨-, -, rfl⟩ | ⟨rfl, rfl, rfl⟩
    · cases at_
    · cases at_
      rw [outcome?_add, new, threads, c.maxThreads_eq]
      exact if_pos rfl
  · intro j hj at_
    rw [outcome?_add, Option.isSome_or]
    rcases lt_or_eq hj with lt | rfl
    · rw [c.settled j lt (not_awaiting j)]
      rfl
    · rcases answer with ⟨-, -, rfl⟩ | ⟨-, rfl, -⟩
      · exact absurd rfl at_
      · rw [Option.bind_some, TimedEvent.decides?, if_pos rfl, Option.isSome_some, Bool.or_true]
  · intro j le
    have le : h.run.attempts.length + 1 ≤ j := by simpa [add] using le
    rw [outcome?_add, c.ahead j (by omega), Option.bind_some, apart j (by omega)]
    rfl

/-- The retrying thread goes on without waiting for an attempt. -/
theorem Decided.goOn (c : h.Decided timeout maxThreads) {pool : RetryPool (Option Nat)}
    {attempts : List (TimedAttempt α)} {phase : TimedPhase α} {events : List RetryEvent}
    (threads : pool.maxThreads = h.run.pool.maxThreads)
    (length : attempts.length = h.run.attempts.length)
    (quiet : ∀ i, e.bind (TimedEvent.decides? timeout maxThreads i) = none)
    (before : ∀ i, h.run.phase ≠ .awaiting i) (after : ∀ i, phase ≠ .awaiting i)
    (learned : ∀ i outcome, phase.learned? = some (i, outcome) →
      h.run.phase.learned? = some (i, outcome)) :
    (h.add { h.run with pool, attempts, phase, events } e).Decided timeout maxThreads where
  timeout_eq := c.timeout_eq
  maxThreads_eq := threads.trans c.maxThreads_eq
  awaited i at_ := absurd at_ (after i)
  known i outcome at_ := by
    rw [outcome?_add, c.known i outcome (learned i outcome at_)]
    rfl
  settled i lt _ := by
    rw [outcome?_add, quiet, Option.or_none]
    exact c.settled i (length ▸ lt) (before i)
  ahead i le := by
    rw [outcome?_add, quiet, Option.or_none]
    exact c.ahead i (length ▸ le)

theorem outcomeOf?_of_found {attempts : List (TimedAttempt α)} {i : Nat} {a : TimedAttempt α}
    (found : attempts[i]? = some a) : outcomeOf? attempts i = a.outcome? := by
  rw [outcomeOf?, found]
  rfl

theorem outcomeOf?_modify_of_ne {f : TimedAttempt α → TimedAttempt α} {i j : Nat} (ne : i ≠ j)
    (attempts : List (TimedAttempt α)) :
    outcomeOf? (attempts.modify i f) j = outcomeOf? attempts j := by
  rw [outcomeOf?, List.getElem?_modify_ne _ _ ne]
  rfl

/-- A change that leaves the outcome of its attempt alone. -/
theorem outcomeOf?_modify_of_eq {f : TimedAttempt α → TimedAttempt α}
    (kept : ∀ a, (f a).outcome? = a.outcome?) (attempts : List (TimedAttempt α)) (i j : Nat) :
    outcomeOf? (attempts.modify i f) j = outcomeOf? attempts j := by
  by_cases eq : i = j
  · subst eq
    unfold outcomeOf?
    rw [List.getElem?_modify_eq]
    cases attempts[i]? with
    | none => rfl
    | some a => exact kept a
  · exact outcomeOf?_modify_of_ne eq attempts

/-- An attempt has come to its end. -/
theorem Decided.finish (c : h.Decided timeout maxThreads) {pool : RetryPool (Option Nat)}
    (threads : pool.maxThreads = h.run.pool.maxThreads) {i : Nat} {event : TimedEvent α}
    {f : TimedAttempt α → TimedAttempt α} {outcome : Except Failure α}
    (called : h.run.hasCalled i = true) (going : h.run.hasEnded i = false)
    (decides : event.decides? timeout maxThreads i = some outcome)
    (apart : ∀ j, i ≠ j → event.decides? timeout maxThreads j = none)
    (ends : ∀ a, (a.delivered.isSome || a.dropped) = false → (f a).outcome? = some outcome) :
    (h.add ({ h.run with pool }.modify i f) (some event)).Decided timeout maxThreads := by
  have lt := TimedRun.lt_of_any_getElem? called
  have found := List.getElem?_eq_getElem lt
  have not_ended : ((h.run.attempts[i]).delivered.isSome || (h.run.attempts[i]).dropped) = false := by
    rw [TimedRun.hasEnded, found] at going
    exact going
  refine c.aside threads (List.length_modify ..) (fun j le => apart j (by omega)) fun j _ => ?_
  by_cases eq : i = j
  · subst eq
    rw [outcomeOf?_of_found found, TimedAttempt.outcome?_eq_none not_ended, Option.bind_some, decides,
      outcomeOf?, List.getElem?_modify_eq, found]
    exact (ends _ not_ended).symm
  · rw [outcomeOf?_modify_of_ne eq, Option.bind_some, apart j eq, Option.or_none]

theorem Decided.add (c : h.Decided timeout maxThreads) (s : h.run.Sound)
    (hm : h.run.Moves now m r e) : (h.add r e).Decided timeout maxThreads := by
  have lt_of_found : ∀ {i : Nat} {a : TimedAttempt α}, h.run.attempts[i]? = some a →
      i < h.run.attempts.length := fun found => (List.getElem?_eq_some_iff.mp found).1
  cases hm with
  | accept submits pools => exact c.answer s submits pools.maxThreads_eq (.inl ⟨rfl, rfl, rfl⟩)
  | refuse submits pools => exact c.answer s submits pools.maxThreads_eq (.inr ⟨rfl, rfl, rfl⟩)
  | look at_ pools =>
    exact c.goOn pools.maxThreads_eq rfl (fun _ => rfl) (by rw [at_]; exact nofun) nofun nofun
  | receive at_ found delivered =>
    refine c.learn at_ (lt_of_found found) ?_ fun _ _ => rfl
    rw [outcomeOf?_of_found found, TimedAttempt.outcome?, delivered]
    rfl
  | miss at_ found undelivered dropped =>
    refine c.learn at_ (lt_of_found found) ?_ fun _ _ => rfl
    rw [outcomeOf?_of_found found, TimedAttempt.outcome?, undelivered, dropped]
    rfl
  | giveUp at_ found undelivered going =>
    refine c.learn at_ (lt_of_found found) ?_ fun j ne => if_neg ne.symm
    rw [outcomeOf?_of_found found, TimedAttempt.outcome?, undelivered, going, c.timeout_eq]
    exact if_pos rfl
  | cancel at_ =>
    refine c.goOn rfl (List.length_modify ..) (fun _ => rfl) (by rw [at_]; exact nofun) nofun ?_
    rw [at_]
    exact fun _ _ => id
  | @judge i outcome at_ =>
    obtain ⟨phase, events, eq, next⟩ := TimedRun.exists_judge_eq h.run i outcome
    rw [eq]
    have before : ∀ j, h.run.phase ≠ .awaiting j := by rw [at_]; exact nofun
    rcases next with rfl | ⟨rfl, -⟩
    · exact c.goOn rfl rfl (fun _ => rfl) before nofun nofun
    · exact c.goOn rfl rfl (fun _ => rfl) before nofun nofun
  | call pools valid =>
    refine c.aside pools.maxThreads_eq (List.length_modify ..) (fun _ _ => rfl) fun j _ => ?_
    exact (Option.or_none).trans
      (outcomeOf?_modify_of_eq (f := .call) (fun _ => rfl) h.run.attempts _ j).symm
  | skip pools cancelled =>
    exact c.aside pools.maxThreads_eq rfl (fun _ _ => rfl) fun _ _ => Option.or_none
  | deliver pools called =>
    refine c.finish pools.maxThreads_eq called (s.running _ (s.endJob pools).1).2.1 (if_pos rfl)
      (fun j ne => if_neg ne) fun a _ => rfl
  | panic pools called =>
    refine c.finish pools.maxThreads_eq called (s.running _ (s.endJob pools).1).2.1 (if_pos rfl)
      (fun j ne => if_neg ne) fun a going => ?_
    rw [Bool.or_eq_false_iff, Option.isSome_eq_false_iff, Option.isNone_iff_eq_none] at going
    rw [TimedAttempt.outcome?, TimedAttempt.drop, going.1]
    rfl
  | @drop i w result pool panicked pools uncalled =>
    refine c.aside pools.maxThreads_eq (List.length_modify ..) (fun _ _ => rfl) fun j at_ => ?_
    -- the attempt that is waited for has called the work, since its token is not cancelled
    have ne : i ≠ j := by
      rintro rfl
      have begun := (s.running i (s.endJob pools).1).2.2
      rw [uncalled, (s.valid i at_).2] at begun
      simp at begun
    rw [outcomeOf?_modify_of_ne ne]
    exact Option.or_none
  | beside aside pools apart served =>
    exact c.aside pools.maxThreads_eq rfl (fun _ _ => rfl) fun _ _ => Option.or_none

/-! ## What the retry loop makes of the outcomes -/

/-- Whether the given outcomes are those that the attempts have had so far. -/
def Yields (timeout maxThreads : Nat) (h : TimedHistory α) (work : Nat → Except Failure α) : Prop :=
  ∀ i outcome, outcome? timeout maxThreads h.told i = some outcome → work i = outcome

theorem Yields.of_add {work : Nat → Except Failure α}
    (yields : (h.add r e).Yields timeout maxThreads work) : h.Yields timeout maxThreads work := by
  intro i outcome known
  exact yields i outcome (outcome?_append known e.toList)

/-- What was done follows from the outcomes: as long as the call goes on, no attempt was the last one,
and the retrying thread is about the next one. -/
structure Follows (policy : RetryPolicy) (work : Nat → Except Failure α) (h : TimedHistory α) :
    Prop where
  policy_eq : h.run.policy = policy
  ongoing : ∀ i, h.run.phase.index? = some i → (∀ j < i, ¬ policy.EndsAt work j) ∧
    h.run.events = (List.range i).flatMap fun j =>
      RetryRun.attempt j (work j) ++ RetryRun.wait policy j (work j)
  returned : ∀ outcome, h.run.phase = .returned outcome →
    ∃ k, IsLeast {i | policy.EndsAt work i} k ∧ h.run.attempts.length = k + 1 ∧
      RetryRun.run policy work = ⟨h.run.events, outcome⟩

theorem follows_start (policy : RetryPolicy) (timeout : Nat) (pool : RetryPool (Option Nat))
    (work : Nat → Except Failure α) : (start policy timeout pool).Follows policy work where
  policy_eq := rfl
  ongoing := by rintro i ⟨⟩; exact ⟨nofun, rfl⟩
  returned := nofun

/-- A judgement ends the call after an attempt that none follows. -/
theorem judge_of_endsAt {work : Nat → Except Failure α} {i : Nat}
    (lt : i < max r.policy.times 1) (ends : r.policy.EndsAt work i) :
    r.judge i (work i) = { r with
      phase := .returned (work i), events := r.events ++ RetryRun.attempt i (work i) } := by
  unfold TimedRun.judge
  rcases ends with ⟨a, ha⟩ | ⟨f, hf, kind⟩ | rfl
  · rw [ha]
    rfl
  · simp only [hf, kind, Bool.false_and]
    rfl
  · cases hw : work (r.policy.times - 1) with
    | ok a => rfl
    | error f =>
      have last : decide (r.policy.times - 1 + 1 < r.policy.times) = false := by
        rw [decide_eq_false_iff_not]
        omega
      simp only [last, Bool.and_false]
      rfl

/-- A judgement leads to the next attempt after one that is not the last. -/
theorem judge_of_not_endsAt {work : Nat → Except Failure α} {i : Nat}
    (goes_on : ∀ j ≤ i, ¬ r.policy.EndsAt work j) :
    r.judge i (work i) = { r with
      phase := .submitting (i + 1)
      events := r.events ++
        (RetryRun.attempt i (work i) ++ RetryRun.wait r.policy i (work i)) } := by
  have not_last := goes_on i (Nat.le_refl i)
  obtain ⟨f, hf⟩ := RetryPolicy.exists_failure not_last
  have kind := RetryPolicy.isRetryable_of_not_endsAt not_last hf
  unfold TimedRun.judge
  simp only [hf, kind, decide_eq_true (RetryPolicy.lt_times goes_on), Bool.and_self]
  rfl

/-- A judgement does what the retry loop does after an attempt of that outcome. -/
theorem Follows.judge {policy : RetryPolicy} {work : Nat → Except Failure α} {i : Nat}
    (f : h.Follows policy work) (s : h.run.Sound) (at_ : h.run.phase = .judging i (work i)) :
    (h.add (h.run.judge i (work i)) none).Follows policy work := by
  have index : h.run.phase.index? = some i := by rw [at_]; rfl
  have length : h.run.attempts.length = i + 1 := by
    have submitted := s.submitted
    rwa [at_] at submitted
  obtain ⟨not_before, events⟩ := f.ongoing i index
  obtain rfl := f.policy_eq
  by_cases ends : h.run.policy.EndsAt work i
  · have least : IsLeast {i | h.run.policy.EndsAt work i} i :=
      ⟨ends, fun j hj => Nat.le_of_not_lt fun lt => not_before j lt hj⟩
    rw [judge_of_endsAt (s.index_lt i index) ends]
    refine ⟨rfl, nofun, ?_⟩
    rintro outcome ⟨⟩
    refine ⟨i, least, length, ?_⟩
    rw [RetryRun.run_eq least]
    exact congrArg (RetryRun.mk · _) (congrArg (· ++ _) events.symm)
  · have goes_on : ∀ j ≤ i, ¬ h.run.policy.EndsAt work j := by
      intro j le
      rcases Nat.lt_or_eq_of_le le with lt | rfl
      · exact not_before j lt
      · exact ends
    rw [judge_of_not_endsAt goes_on]
    refine ⟨rfl, ?_, nofun⟩
    rintro j ⟨⟩
    refine ⟨fun j lt => goes_on j (Nat.le_of_lt_succ lt), ?_⟩
    rw [List.range_succ, List.flatMap_append, List.flatMap_singleton]
    exact congrArg (· ++ _) events

/-- The retrying thread stays with its attempt. -/
theorem Follows.aside {policy : RetryPolicy} {work : Nat → Except Failure α}
    (f : h.Follows policy work) (policy_eq : r.policy = h.run.policy)
    (events : r.events = h.run.events) (index : r.phase.index? = h.run.phase.index?)
    (returned : ∀ outcome, r.phase = .returned outcome →
      h.run.phase = .returned outcome ∧ r.attempts.length = h.run.attempts.length) :
    (h.add r e).Follows policy work where
  policy_eq := policy_eq.trans f.policy_eq
  ongoing i hi := by
    obtain ⟨not_before, eq⟩ := f.ongoing i (index.symm.trans hi)
    exact ⟨not_before, events.trans eq⟩
  returned outcome at_ := by
    obtain ⟨at_, length⟩ := returned outcome at_
    obtain ⟨k, least, length', run⟩ := f.returned outcome at_
    exact ⟨k, least, length.trans length', run.trans (congrArg (RetryRun.mk · _) events.symm)⟩

theorem Follows.add {policy : RetryPolicy} {work : Nat → Except Failure α}
    (f : h.Follows policy work) (s : h.run.Sound) (c : h.Decided timeout maxThreads)
    (yields : h.Yields timeout maxThreads work) (hm : h.run.Moves now m r e) :
    (h.add r e).Follows policy work := by
  cases hm with
  | accept submits pools =>
    exact f.aside rfl rfl (s.length_of_submits submits).2.2.symm nofun
  | refuse submits pools =>
    exact f.aside rfl rfl (s.length_of_submits submits).2.2.symm nofun
  | look at_ pools => exact f.aside rfl rfl (by rw [at_]; rfl) nofun
  | receive at_ => exact f.aside rfl rfl (by rw [at_]; rfl) nofun
  | miss at_ => exact f.aside rfl rfl (by rw [at_]; rfl) nofun
  | giveUp at_ => exact f.aside rfl rfl (by rw [at_]; rfl) nofun
  | cancel at_ => exact f.aside rfl rfl (by rw [at_]; rfl) nofun
  | @judge i outcome at_ =>
    obtain rfl := yields i outcome (c.known i outcome (by rw [at_]; rfl))
    exact f.judge s at_
  | call => exact f.aside rfl rfl rfl fun _ at_ => ⟨at_, List.length_modify ..⟩
  | skip => exact f.aside rfl rfl rfl fun _ at_ => ⟨at_, rfl⟩
  | deliver => exact f.aside rfl rfl rfl fun _ at_ => ⟨at_, List.length_modify ..⟩
  | panic => exact f.aside rfl rfl rfl fun _ at_ => ⟨at_, List.length_modify ..⟩
  | drop => exact f.aside rfl rfl rfl fun _ at_ => ⟨at_, List.length_modify ..⟩
  | beside => exact f.aside rfl rfl rfl fun _ at_ => ⟨at_, rfl⟩

end TimedHistory

/-! ## Going on -/

namespace RetryPool

variable {J : Type} {p : RetryPool J}

/-- The pool hears a caller if no other one looks for room. -/
theorem step_submit_isSome (away : p.submitted = none) (now : Nanos) (job : J) :
    (p.step now (.submit job)).isSome = true := by
  simp only [step, away]
  split
  · split <;> rfl
  · rfl

/-- A caller that looks for room gets an answer. -/
theorem step_reserve_isSome {job : J} (looks : p.submitted = some job) (now : Nanos) :
    (p.step now .reserve).isSome = true := by
  simp only [step, looks]
  split <;> rfl

end RetryPool

/-- How many moves the retrying thread has made for its attempt, at most. -/
def TimedPhase.made : TimedPhase α → Nat
  | .submitting _ => 0
  | .reserving _ => 1
  | .awaiting _ => 2
  | .cancelling _ _ => 3
  | .judging _ _ => 4
  | .returned _ => 5

theorem TimedPhase.made_lt (phase : TimedPhase α) {i : Nat} (h : phase.index? = some i) :
    phase.made < 5 := by
  cases phase with
  | returned outcome => cases h
  | _ => simp [made]

namespace TimedRun

variable {r r' : TimedRun α} {now : Nanos} {m : TimedMove α} {e : Option (TimedEvent α)}

/-- How many moves of the retrying thread are left at most: five for every attempt that the policy still
allows, less those that were made for the present one. -/
def left (r : TimedRun α) : Nat :=
  match r.phase.index? with
  | some i => 5 * (max r.policy.times 1 - i) - r.phase.made
  | none => 0

/-- A move of the retrying thread that stays with its attempt leaves fewer. -/
theorem Sound.left_lt {phase : TimedPhase α} (s : r.Sound) {i : Nat} (at_ : r.phase = phase)
    (here : phase.index? = some i) (there : r'.phase.index? = some i) (policy : r'.policy = r.policy)
    (later : phase.made < r'.phase.made) : r'.left + 1 ≤ r.left := by
  subst at_
  have made_lt := r'.phase.made_lt there
  have lt := s.index_lt i here
  unfold left
  rw [here, there, policy]
  dsimp only
  omega

theorem Moves.left_le (s : r.Sound) (h : r.Moves now m r' e) :
    r'.left + (if m.isOfCaller then 1 else 0) ≤ r.left := by
  cases h with
  | accept submits pools =>
    cases submits with
    | submit at_ => exact s.left_lt at_ rfl rfl rfl (by simp [TimedPhase.made])
    | reserve at_ => exact s.left_lt at_ rfl rfl rfl (by simp [TimedPhase.made])
  | refuse submits pools =>
    cases submits with
    | submit at_ => exact s.left_lt at_ rfl rfl rfl (by simp [TimedPhase.made])
    | reserve at_ => exact s.left_lt at_ rfl rfl rfl (by simp [TimedPhase.made])
  | look at_ => exact s.left_lt at_ rfl rfl rfl (by simp [TimedPhase.made])
  | receive at_ => exact s.left_lt at_ rfl rfl rfl (by simp [TimedPhase.made])
  | miss at_ => exact s.left_lt at_ rfl rfl rfl (by simp [TimedPhase.made])
  | giveUp at_ => exact s.left_lt at_ rfl rfl rfl (by simp [TimedPhase.made])
  | cancel at_ => exact s.left_lt at_ rfl rfl rfl (by simp [TimedPhase.made])
  | @judge i outcome at_ =>
    have lt := s.index_lt i (by rw [at_]; rfl)
    have here : r.left = 5 * (max r.policy.times 1 - i) - 4 := by
      rw [left, at_]
      rfl
    obtain ⟨phase, events, eq, next⟩ := exists_judge_eq r i outcome
    rw [eq, here]
    rcases next with rfl | ⟨rfl, more⟩
    · show 0 + 1 ≤ _
      omega
    · show 5 * (max r.policy.times 1 - (i + 1)) - 0 + 1 ≤ _
      omega
  | beside aside => rw [aside]; exact Nat.le_refl _
  | _ => exact Nat.le_refl _

/-- Unless the call has returned, its thread can make a move at any time, if only another caller of the
pool that looks for room gets its answer first. -/
theorem Sound.goes_on (s : r.Sound) (now : Nanos) :
    (∃ outcome, r.phase = .returned outcome) ∨
      ∃ m : TimedMove α, (m.isOfCaller = true ∨ m = .worker .reserve) ∧
        (r.step now m).isSome = true := by
  cases at_ : r.phase with
  | returned outcome => exact .inl ⟨outcome, rfl⟩
  | submitting i =>
    cases looks : r.pool.submitted with
    | none =>
      refine .inr ⟨.caller, .inl rfl, ?_⟩
      simp only [step, stepCaller, at_, Option.isSome_map]
      exact RetryPool.step_submit_isSome looks now _
    | some job =>
      cases job with
      | some j => cases at_.symm.trans ((s.served j).mp looks)
      | none =>
        refine .inr ⟨.worker .reserve, .inr rfl, ?_⟩
        have others : r.isOfOthers .reserve = true := by simp [isOfOthers, looks]
        simp only [step, others, if_true, Option.isSome_map]
        exact RetryPool.step_reserve_isSome looks now
  | reserving i =>
    refine .inr ⟨.caller, .inl rfl, ?_⟩
    simp only [step, stepCaller, at_, Option.isSome_map]
    exact RetryPool.step_reserve_isSome ((s.served i).mpr at_) now
  | awaiting i =>
    have lt := lt_of_any_getElem? (s.valid i at_).1
    have found := List.getElem?_eq_getElem lt
    cases delivered : (r.attempts[i]).delivered with
    | some outcome =>
      refine .inr ⟨.caller, .inl rfl, ?_⟩
      simp only [step, stepCaller, at_, found, delivered]
      rfl
    | none =>
      cases dropped : (r.attempts[i]).dropped with
      | true =>
        refine .inr ⟨.caller, .inl rfl, ?_⟩
        simp only [step, stepCaller, at_, found, delivered, dropped]
        rfl
      | false =>
        refine .inr ⟨.timeout, .inl rfl, ?_⟩
        simp only [step, stepTimeout, at_, found, delivered, dropped]
        rfl
  | cancelling i outcome =>
    refine .inr ⟨.caller, .inl rfl, ?_⟩
    simp only [step, stepCaller, at_]
    rfl
  | judging i outcome =>
    refine .inr ⟨.caller, .inl rfl, ?_⟩
    simp only [step, stepCaller, at_]
    rfl

end TimedRun

/-- None of the jobs of a pool is an attempt. -/
def RetryPool.IsOfOthers (p : RetryPool (Option Nat)) : Prop :=
  ∀ i, some i ∉ p.held ∧ some i ∉ p.running ∧ p.submitted ≠ some (some i)

namespace TimedHistory

variable {policy : RetryPolicy} {timeout maxThreads : Nat} {pool : RetryPool (Option Nat)}
  {moves : List (Nanos × TimedMove α)} {h : TimedHistory α}

/-! ## Whole calls -/

theorem sound_start (others : pool.IsOfOthers) :
    (start policy timeout pool : TimedHistory α).run.Sound := by
  have held : pool.heldAttempts = [] := by
    refine List.filterMap_eq_nil_iff.mpr fun job mem => ?_
    cases job with
    | none => rfl
    | some i => exact absurd mem (others i).1
  have running : pool.runningAttempts = [] := by
    refine List.filterMap_eq_nil_iff.mpr fun job mem => ?_
    cases job with
    | none => rfl
    | some i => exact absurd mem (others i).2.1
  refine ⟨fun i => ⟨fun looks => absurd looks (others i).2.2, nofun⟩, rfl, ?_, ?_, ?_, ?_, nofun, nofun⟩
  · rintro i ⟨⟩
    exact Nat.lt_of_lt_of_le Nat.zero_lt_one (Nat.le_max_right _ _)
  · show (pool.heldAttempts ++ pool.runningAttempts).Nodup
    rw [held, running]
    exact List.nodup_nil
  · show ∀ i ∈ pool.heldAttempts, _
    rw [held]
    exact nofun
  · show ∀ i ∈ pool.runningAttempts, _
    rw [running]
    exact nofun

/-- What holds of a call whenever its threads and those of others have taken their turns. -/
structure KeptApart (policy : RetryPolicy) (timeout maxThreads : Nat) (h : TimedHistory α) :
    Prop where
  /-- The pool answers every attempt once, one after the other. -/
  answered_eq : h.answered = List.range h.run.attempts.length
  called_nodup : h.called.Nodup
  refused_uncalled : ∀ i, .rejected i ∈ h.told → .called i ∉ h.told
  /-- Whatever an attempt delivers, or that it panics, comes of its own call of the work, and once. -/
  called_before : ∀ older e newer i, h.told = older ++ e :: newer → e.ended? = some i →
    .called i ∈ older
  ended_nodup : h.ended.Nodup
  /-- A call that has returned did what is done with work of these outcomes: it made the same attempts,
  logged and waited the same, and returned the same. -/
  returned : ∀ outcome, h.run.phase = .returned outcome →
    (∀ i < h.run.attempts.length, ∃ o, outcome? timeout maxThreads h.told i = some o) ∧
      ∀ work, h.Yields timeout maxThreads work →
        RetryRun.run policy work = ⟨h.run.events, outcome⟩ ∧
          h.run.attempts.length = (RetryRun.run policy work).calls
  /-- The token of every attempt that was accepted is cancelled by then. -/
  cancelled : ∀ outcome, h.run.phase = .returned outcome →
    ∀ i, h.run.isAccepted i = true → h.run.isCancelled i = true
  goes_on : ∀ now, (∃ outcome, h.run.phase = .returned outcome) ∨
    ∃ m : TimedMove α, (m.isOfCaller = true ∨ m = .worker .reserve) ∧
      (h.run.step now m).isSome = true

/-- The retrying thread makes only so many moves. -/
theorem countP_add_left_le (sound : h.run.Sound) :
    ∀ {h' : TimedHistory α}, h.after moves = some h' →
      moves.countP (fun move => move.2.isOfCaller) + h'.run.left ≤ h.run.left := by
  induction moves generalizing h with
  | nil => intro h' hr; cases hr; simp
  | cons move rest ih =>
    intro h' hr
    simp only [after] at hr
    split at hr
    · cases hr
    · rename_i next hn
      obtain ⟨⟨r, e⟩, hm, rfl⟩ := Option.map_eq_some_iff.mp hn
      have step := TimedRun.moves_of_step sound.served hm
      have rest_le : rest.countP (fun move => move.2.isOfCaller) + h'.run.left ≤ r.left :=
        ih (h := h.add r e) (sound.moves step) hr
      have step_le := step.left_le sound
      rw [List.countP_cons]
      omega

/-- What every move of a call keeps. -/
structure Kept (policy : RetryPolicy) (timeout maxThreads : Nat) (h : TimedHistory α) : Prop where
  sound : h.run.Sound
  recorded : h.Recorded
  decided : h.Decided timeout maxThreads
  follows : ∀ work, h.Yields timeout maxThreads work → h.Follows policy work

theorem kept_start (others : pool.IsOfOthers) :
    (start policy timeout pool : TimedHistory α).Kept policy timeout pool.maxThreads where
  sound := sound_start others
  recorded := recorded_start ..
  decided := decided_start ..
  follows _ _ := follows_start ..

theorem Kept.add {now : Nanos} {m : TimedMove α} {r : TimedRun α} {e : Option (TimedEvent α)}
    (k : h.Kept policy timeout maxThreads) (hm : h.run.Moves now m r e) :
    (h.add r e).Kept policy timeout maxThreads where
  sound := k.sound.moves hm
  recorded := k.recorded.add k.sound hm
  decided := k.decided.add k.sound hm
  follows work yields :=
    (k.follows work yields.of_add).add k.sound k.decided yields.of_add hm

/-- A call that has returned knows what became of every attempt, and did what is done with work of these
outcomes. -/
theorem Kept.returned {outcome : Except Failure α} (k : h.Kept policy timeout maxThreads)
    (at_ : h.run.phase = .returned outcome) :
    (∀ i < h.run.attempts.length, ∃ o, outcome? timeout maxThreads h.told i = some o) ∧
      ∀ work, h.Yields timeout maxThreads work →
        RetryRun.run policy work = ⟨h.run.events, outcome⟩ ∧
          h.run.attempts.length = (RetryRun.run policy work).calls := by
  refine ⟨fun i lt => ?_, fun work yields => ?_⟩
  · exact Option.isSome_iff_exists.mp (k.decided.settled i lt (by rw [at_]; exact nofun))
  · obtain ⟨k, least, length, run⟩ := (k.follows work yields).returned outcome at_
    refine ⟨run, ?_⟩
    rw [length, RetryRun.calls, RetryRun.called_run least, List.length_range]

/-- A call with timed attempts treats its attempts one by one, whatever becomes of them, and in whatever
turns the threads take. It returns after a bounded number of moves of its own. -/
theorem attempts_kept_apart (others : pool.IsOfOthers)
    (hr : (start policy timeout pool).after moves = some h) :
    h.KeptApart policy timeout pool.maxThreads ∧
      moves.countP (fun move => move.2.isOfCaller) ≤ 5 * max policy.times 1 := by
  have kept : h.Kept policy timeout pool.maxThreads :=
    run_invariant (fun k => k.sound.served) Kept.add (kept_start others) hr
  have bound := countP_add_left_le (sound_start others) hr
  have start_left : (start policy timeout pool : TimedHistory α).run.left =
      5 * max policy.times 1 := rfl
  refine ⟨?_, by omega⟩
  exact {
    answered_eq := kept.recorded.answered_eq
    called_nodup := kept.recorded.called_nodup
    refused_uncalled := kept.recorded.refused_uncalled
    called_before := kept.recorded.called_before
    ended_nodup := kept.recorded.ended_nodup
    returned := fun _ => kept.returned
    cancelled := fun outcome at_ i accepted =>
      (kept.sound.cancelled i accepted).resolve_right (by rw [at_]; exact nofun)
    goes_on := kept.sound.goes_on }

/-- Four attempts at a pool for one thread. The first is given up, and keeps the thread, so that the
second is rejected. It delivers 7 after all, before the third one panics. The fourth delivers 9. -/
def lateResult : List (Nanos × TimedMove Nat) :=
  [(0, .caller), (0, .caller), (1, .worker (.enlist 0)), (1, .worker (.beginJob 0)), (5, .timeout),
    (5, .caller), (5, .caller), (6, .caller), (6, .caller), (6, .caller),
    (7, .finish 0 (some (.ok 7))), (7, .worker (.retire 0)), (7, .worker (.wait 0)), (8, .caller),
    (8, .worker (.enlist 0)), (8, .worker (.beginJob 0)), (9, .finish 0 none), (9, .caller),
    (9, .caller), (9, .caller), (9, .worker (.retire 0)), (9, .worker (.wait 0)), (10, .caller),
    (10, .worker (.enlist 0)), (10, .worker (.beginJob 0)), (11, .finish 0 (some (.ok 9))),
    (11, .caller), (11, .caller), (11, .caller)]

/-- What is told in that call. -/
def lateEvents : List (TimedEvent Nat) :=
  [.accepted 0, .called 0, .timedOut 0, .cancelled 0, .rejected 1, .delivered 0 (.ok 7), .accepted 2,
    .called 2, .panicked 2, .cancelled 2, .accepted 3, .called 3, .delivered 3 (.ok 9), .cancelled 3]

/-- The outcomes of the four attempts. -/
def lateOutcomes : Nat → Except Failure Nat
  | 0 => .error (.attemptTimeout 5)
  | 1 => .error (.attemptRejected 1)
  | 2 => .error .attemptAbandoned
  | _ => .ok 9

theorem attempts_kept_apart_lateResult :
    (RetryPool.make 1 60 : RetryPool (Option Nat)).IsOfOthers ∧
      ∃ h, (start ⟨4, 0, false, []⟩ 5 (.make 1 60)).after lateResult = some h ∧
        h.KeptApart ⟨4, 0, false, []⟩ 5 1 ∧ h.told = lateEvents ∧ h.Yields 5 1 lateOutcomes ∧
        h.run.phase = .returned (.ok 9) ∧ h.run.attempts.length = 4 := by
  have others : (RetryPool.make 1 60 : RetryPool (Option Nat)).IsOfOthers :=
    fun i => ⟨List.not_mem_nil, List.not_mem_nil, nofun⟩
  have run : ((start ⟨4, 0, false, []⟩ 5 (.make 1 60)).after lateResult).map
      (fun h => (h.told, h.run.phase, h.run.attempts.length)) =
        some (lateEvents, .returned (.ok 9), 4) := by rfl
  obtain ⟨h, hr, ends⟩ := Option.map_eq_some_iff.mp run
  obtain ⟨told, ends⟩ := Prod.mk.inj ends
  obtain ⟨phase, length⟩ := Prod.mk.inj ends
  refine ⟨others, h, hr, (attempts_kept_apart others hr).1, told, ?_, phase, length⟩
  intro i outcome known
  rw [told] at known
  match i with
  | 0 => exact Option.some.inj known
  | 1 => exact Option.some.inj known
  | 2 => exact Option.some.inj known
  | 3 => exact Option.some.inj known
  | i + 4 => cases known

end TimedHistory

end BatchSync
