import BatchSync.Retry.Loop
import Mathlib.Data.List.Basic
import Mathlib.Data.Nat.Find
import Mathlib.Order.Bounds.Basic

/-!
# How often work is tried

The outcomes that the work would have, attempt by attempt, are given beforehand, as many as may be
needed. The first attempt that is not worth another one (`RetryPolicy.EndsAt`) decides everything:
which attempts are made, what is waited between them, what is logged, and the result
(`RetryRun.Follows`).

`run_eq_after` is the invariant of the loop: as long as no attempt was the last one, the loop is about
to make the next one, behind the calls, waits and warnings of those before it.
-/

namespace BatchSync

variable {α : Type} {policy : RetryPolicy} {work : Nat → Except Failure α} {i k : Nat}

namespace RetryPolicy

theorem make_eq_ok_iff {times : Nat} {sleep : Nanos} {exponential : Bool}
    {retryable : List FailureKind} :
    make times sleep exponential retryable = .ok policy ↔
      0 < times ∧ policy = ⟨times, sleep, exponential, retryable⟩ := by
  unfold make
  by_cases h : times = 0
  · simp [h]
  · rw [if_neg h, Except.ok.injEq]
    exact ⟨fun e => ⟨Nat.pos_of_ne_zero h, e.symm⟩, fun e => e.2.symm⟩

/-- Whether no attempt follows the one of an index: it succeeds, or it fails in a way that the policy
does not try again, or it is the last one that the policy allows. -/
def EndsAt (policy : RetryPolicy) (work : Nat → Except Failure α) (i : Nat) : Prop :=
  (∃ a, work i = .ok a) ∨ (∃ f, work i = .error f ∧ policy.isRetryable f.kind = false) ∨
    i = policy.times - 1

theorem endsAt_last : policy.EndsAt work (policy.times - 1) := .inr (.inr rfl)

/-- Some attempt is the first one that none follows, and the policy allows it. -/
theorem exists_isLeast_endsAt (work : Nat → Except Failure α) (h : 0 < policy.times) :
    ∃ k < policy.times, IsLeast {i | policy.EndsAt work i} k := by
  classical
  have hex : ∃ i, policy.EndsAt work i := ⟨_, endsAt_last⟩
  have hle : Nat.find hex ≤ policy.times - 1 := Nat.find_min' hex endsAt_last
  refine ⟨Nat.find hex, by omega, Nat.find_spec hex, fun i hi => Nat.find_min' hex hi⟩

/-- More attempts are left if none so far was the last one. -/
theorem lt_times (h : ∀ j ≤ i, ¬ policy.EndsAt work j) : i + 1 < policy.times := by
  by_contra hi
  exact h (policy.times - 1) (by omega) endsAt_last

theorem exists_failure (h : ¬ policy.EndsAt work i) : ∃ f, work i = .error f := by
  cases hw : work i with
  | ok a => exact absurd (.inl ⟨a, hw⟩) h
  | error f => exact ⟨f, rfl⟩

theorem isRetryable_of_not_endsAt (h : ¬ policy.EndsAt work i) {f : Failure}
    (hf : work i = .error f) : policy.isRetryable f.kind = true := by
  by_contra hkind
  exact h (.inr (.inl ⟨f, hf, Bool.eq_false_iff.mpr hkind⟩))

/-- Every kind of failures is tried again if none is named, and otherwise those that are. -/
theorem isRetryable_iff (policy : RetryPolicy) (kind : FailureKind) :
    policy.isRetryable kind = true ↔ policy.retryable = [] ∨ kind ∈ policy.retryable := by
  simp [isRetryable]

end RetryPolicy

namespace RetryEvent

/-- What is logged at a level. -/
def loggedAt? (level : LogLevel) : RetryEvent → Option LogEvent
  | .logged e => if e.level = level then some e else none
  | _ => none

/-- Whether the work is called, or time slept. -/
def isAct : RetryEvent → Bool
  | .logged _ => false
  | _ => true

end RetryEvent

namespace RetryRun

open RetryEvent

/-! ## What is read off a run -/

/-- The calls and the waits of a run, in order. -/
def acts (r : RetryRun α) : List RetryEvent := r.events.filter isAct

/-- What was logged at a level. -/
def loggedAt (level : LogLevel) (r : RetryRun α) : List LogEvent :=
  r.events.filterMap (loggedAt? level)

theorem after_after (first second : List RetryEvent) (r : RetryRun α) :
    (r.after second).after first = r.after (first ++ second) := by
  simp [after]

theorem loggedAt_after (level : LogLevel) (events : List RetryEvent) (r : RetryRun α) :
    (r.after events).loggedAt level = events.filterMap (loggedAt? level) ++ r.loggedAt level := by
  simp [loggedAt, after]

/-- What is logged of an outcome if it is the first one. -/
def firstFailure : Except Failure α → List LogEvent
  | .ok _ => []
  | .error f => [⟨.error, "attempt failed: " ++ f.message⟩]

/-- What happened when the attempt of index `k` was the last one. -/
structure Follows (policy : RetryPolicy) (work : Nat → Except Failure α) (k : Nat)
    (r : RetryRun α) : Prop where
  /-- The run has the outcome of that attempt. -/
  result_eq : r.result = work k
  /-- The work was called for each attempt up to that one. After every call but the last one, the time
  that the policy sets was waited, unless it is none. -/
  acts_eq : r.acts = ((List.range k).flatMap fun i =>
    .called i :: if policy.backoff i = 0 then [] else [.slept (policy.backoff i)]) ++ [.called k]
  calls_eq : r.calls = k + 1
  /-- The failure of the first attempt was logged as an error, and no other one. -/
  errors_eq : r.loggedAt .error = firstFailure (work 0)
  /-- Every wait was warned of twice. -/
  length_warnings : (r.loggedAt .warn).length = 2 * r.sleeps.length

/-! ## Single attempts -/

/-- What happens in an attempt. -/
def attempt (index : Nat) : Except Failure α → List RetryEvent
  | .ok _ => [.called index]
  | .error f => failed index f

/-- What happens between an attempt and the next one. -/
def wait (policy : RetryPolicy) (index : Nat) : Except Failure α → List RetryEvent
  | .ok _ => []
  | .error f => pause policy index f

/-- The loop returns what an attempt yields that none follows. -/
theorem goOn_of_endsAt (h : policy.EndsAt work i) :
    goOn policy work i = ⟨attempt i (work i), work i⟩ := by
  rw [goOn]
  rcases h with ⟨a, ha⟩ | ⟨f, hf, hkind⟩ | rfl
  · simp [ha, attempt]
  · simp [hf, hkind, attempt]
  · cases hw : work (policy.times - 1) with
    | ok a => simp [attempt]
    | error f =>
      have hlast : ¬ policy.times - 1 + 1 < policy.times := by omega
      simp [hlast, attempt]

/-- The loop makes another attempt after one that is not the last. -/
theorem goOn_of_not_endsAt (h : ¬ policy.EndsAt work i) (hi : i + 1 < policy.times) :
    goOn policy work i =
      (goOn policy work (i + 1)).after (attempt i (work i) ++ wait policy i (work i)) := by
  obtain ⟨f, hf⟩ := RetryPolicy.exists_failure h
  have hkind := RetryPolicy.isRetryable_of_not_endsAt h hf
  rw [goOn, hf]
  simp [hkind, hi, attempt, wait]

/-! ## What is read off an attempt and off a wait -/

theorem filter_isAct_attempt (index : Nat) (outcome : Except Failure α) :
    (attempt index outcome).filter isAct = [.called index] := by
  cases outcome with
  | ok a => rfl
  | error f =>
    simp only [attempt, failed]
    split <;> rfl

theorem filter_isAct_pause (index : Nat) (f : Failure) :
    (pause policy index f).filter isAct =
      if policy.backoff index = 0 then [] else [.slept (policy.backoff index)] := by
  simp only [pause]
  split <;> rfl

theorem slept_failed (index : Nat) (f : Failure) : (failed index f).filterMap slept? = [] := by
  unfold failed
  split <;> rfl

theorem loggedAt_error_failed (index : Nat) (f : Failure) :
    (failed index f).filterMap (loggedAt? .error) =
      if index = 0 then [⟨.error, "attempt failed: " ++ f.message⟩] else [] := by
  unfold failed
  split <;> rfl

theorem loggedAt_warn_failed (index : Nat) (f : Failure) :
    (failed index f).filterMap (loggedAt? .warn) = [] := by
  unfold failed
  split <;> rfl

theorem loggedAt_error_pause (index : Nat) (f : Failure) :
    (pause policy index f).filterMap (loggedAt? .error) = [] := by
  simp only [pause]
  split <;> rfl

/-- A wait is warned of twice. -/
theorem length_loggedAt_warn_pause (index : Nat) (f : Failure) :
    ((pause policy index f).filterMap (loggedAt? .warn)).length =
      2 * ((pause policy index f).filterMap slept?).length := by
  simp only [pause]
  split <;> rfl

/-! ## Whole runs -/

/-- As long as no attempt was the last one, the loop is about to make the next one. -/
theorem run_eq_after (h : ∀ j < i, ¬ policy.EndsAt work j) :
    run policy work = (goOn policy work i).after
      ((List.range i).flatMap fun j => attempt j (work j) ++ wait policy j (work j)) := by
  induction i with
  | zero => rfl
  | succ i ih =>
    -- the last attempt that is allowed ends the run, so that it is still ahead
    have hi : i + 1 < policy.times := RetryPolicy.lt_times fun j hj => h j (by omega)
    rw [ih fun j hj => h j (by omega), goOn_of_not_endsAt (h i (by omega)) hi, after_after,
      List.range_succ, List.flatMap_append, List.flatMap_singleton]

theorem not_endsAt_of_lt (h : IsLeast {i | policy.EndsAt work i} k) (hi : i < k) :
    ¬ policy.EndsAt work i := by
  intro hends
  have := h.2 hends
  omega

/-- A run in whole. -/
theorem run_eq (h : IsLeast {i | policy.EndsAt work i} k) :
    run policy work =
      ⟨((List.range k).flatMap fun j => attempt j (work j) ++ wait policy j (work j)) ++
        attempt k (work k), work k⟩ := by
  rw [run_eq_after fun j hj => not_endsAt_of_lt h hj, goOn_of_endsAt h.1]
  rfl

/-- The calls and the waits of a run. -/
theorem acts_run (h : IsLeast {i | policy.EndsAt work i} k) :
    (run policy work).acts = ((List.range k).flatMap fun i =>
      .called i :: if policy.backoff i = 0 then [] else [.slept (policy.backoff i)]) ++
        [.called k] := by
  rw [run_eq h, acts, List.filter_append, filter_isAct_attempt, List.filter_flatMap]
  congr 1
  refine List.flatMap_congr fun i hi => ?_
  -- only a failure is followed by another attempt, and by a wait
  obtain ⟨f, hf⟩ := RetryPolicy.exists_failure (not_endsAt_of_lt h (List.mem_range.mp hi))
  rw [List.filter_append, filter_isAct_attempt, hf, wait, filter_isAct_pause]
  rfl

/-- The calls of a run are among its acts. -/
theorem called_eq_acts (r : RetryRun α) : r.called = r.acts.filterMap called? := by
  rw [acts, List.filterMap_filter, called]
  congr 1
  funext e
  cases e <;> rfl

theorem called_run (h : IsLeast {i | policy.EndsAt work i} k) :
    (run policy work).called = List.range (k + 1) := by
  have called_round : ∀ i, (RetryEvent.called i ::
      if policy.backoff i = 0 then [] else [.slept (policy.backoff i)]).filterMap called? = [i] := by
    intro i
    split <;> rfl
  rw [called_eq_acts, acts_run h, List.filterMap_append, List.filterMap_flatMap, List.range_succ]
  simp only [called_round, List.flatMap_singleton']
  rfl

/-! ## What is logged in a run -/

/-- The failure of the first attempt of all is logged as an error, and no other one. -/
theorem loggedAt_error_goOn :
    (goOn policy work i).loggedAt .error = if i = 0 then firstFailure (work i) else [] := by
  fun_induction goOn policy work i with
  | case1 i a hw => rw [hw]; split <;> rfl
  | case2 i f hw hkind hlt ih =>
    rw [loggedAt_after, List.filterMap_append, loggedAt_error_failed, loggedAt_error_pause, ih,
      if_neg (Nat.succ_ne_zero i), List.append_nil, List.append_nil, hw]
    rfl
  | case3 i f hw hkind hlt => rw [loggedAt, loggedAt_error_failed, hw]; rfl
  | case4 i f hw hkind => rw [loggedAt, loggedAt_error_failed, hw]; rfl

/-- Every wait is warned of twice. -/
theorem length_loggedAt_warn_goOn :
    ((goOn policy work i).loggedAt .warn).length = 2 * (goOn policy work i).sleeps.length := by
  fun_induction goOn policy work i with
  | case1 i a hw => rfl
  | case2 i f hw hkind hlt ih =>
    simp only [loggedAt_after, sleeps_after, List.filterMap_append, loggedAt_warn_failed,
      slept_failed, List.nil_append, List.length_append, length_loggedAt_warn_pause, ih]
    omega
  | case3 i f hw hkind hlt => rw [loggedAt, sleeps, loggedAt_warn_failed, slept_failed]; rfl
  | case4 i f hw hkind => rw [loggedAt, sleeps, loggedAt_warn_failed, slept_failed]; rfl

/-! ## The first attempt that none follows -/

/-- Under every policy that is accepted there is a first attempt that none follows. It is one of those
allowed, and work of any outcomes is tried up to it. -/
theorem tries_until_end {times : Nat} {sleep : Nanos} {exponential : Bool}
    {retryable : List FailureKind}
    (h : RetryPolicy.make times sleep exponential retryable = .ok policy)
    (work : Nat → Except Failure α) :
    (∃ k < times, IsLeast {i | policy.EndsAt work i} k ∧ Follows policy work k (run policy work)) ∧
      ∀ kind, policy.isRetryable kind = true ↔ retryable = [] ∨ kind ∈ retryable := by
  obtain ⟨hpos, rfl⟩ := RetryPolicy.make_eq_ok_iff.mp h
  refine ⟨?_, fun kind => RetryPolicy.isRetryable_iff _ kind⟩
  have hpos' : 0 < (⟨times, sleep, exponential, retryable⟩ : RetryPolicy).times := hpos
  obtain ⟨k, hk, hleast⟩ := RetryPolicy.exists_isLeast_endsAt work hpos'
  refine ⟨k, hk, hleast, ?_⟩
  exact {
    result_eq := by rw [run_eq hleast]
    acts_eq := acts_run hleast
    calls_eq := by rw [calls, called_run hleast, List.length_range]
    errors_eq := loggedAt_error_goOn
    length_warnings := length_loggedAt_warn_goOn }

/-- Fails twice before it succeeds. -/
def thirdSucceeds : Nat → Except Failure Nat
  | 0 => .error (.attemptTimeout 5)
  | 1 => .error .attemptAbandoned
  | i => .ok i

/-- Four attempts at most, and a wait that doubles. -/
def fourTimes : RetryPolicy := ⟨4, 7000000, true, []⟩

/-- Its third attempt is the first one that none follows. -/
theorem endsAt_thirdSucceeds : IsLeast {i | fourTimes.EndsAt thirdSucceeds i} 2 := by
  refine ⟨.inl ⟨2, rfl⟩, fun i hi => ?_⟩
  by_contra hlt
  have hcases : i = 0 ∨ i = 1 := by omega
  rcases hcases with rfl | rfl <;>
    simp [RetryPolicy.EndsAt, RetryPolicy.isRetryable, thirdSucceeds, fourTimes] at hi

/-- Three attempts are made of the four. -/
theorem tries_until_end_thirdSucceeds :
    RetryPolicy.make 4 7000000 true [] = .ok fourTimes ∧
      (∃ k < 4, IsLeast {i | fourTimes.EndsAt thirdSucceeds i} k ∧
        Follows fourTimes thirdSucceeds k (run fourTimes thirdSucceeds)) ∧
      (run fourTimes thirdSucceeds).acts =
        [.called 0, .slept 7000000, .called 1, .slept 14000000, .called 2] := by
  refine ⟨rfl, (tries_until_end rfl thirdSucceeds).1, ?_⟩
  have backoff_zero : fourTimes.backoff 0 = 7000000 := by decide
  have backoff_one : fourTimes.backoff 1 = 14000000 := by decide
  rw [acts_run endsAt_thirdSucceeds]
  simp [List.range_succ, backoff_zero, backoff_one]

end RetryRun

end BatchSync
