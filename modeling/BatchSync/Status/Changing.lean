import BatchSync.Status.Basic

/-!
# Changing the state in steps

Whoever changes the state of a task looks at it first, and leaves it if it is finished. Otherwise it is
exchanged, but only if it is still the one that was seen; if it is not, the look was in vain, and the new
one is taken for it. An exchange may also miss for no reason. Taken without a break, the steps are
`TaskStatus.moveTo`.
-/

namespace BatchSync

/-- How far a thread has come in changing the state of a task to a given one. -/
inductive Changing (state : TaskState) where
  /-- About to look at the state. -/
  | looking
  /-- About to exchange the state that was seen, which is not finished. -/
  | exchanging (seen : TaskState) (going : seen.isFinished = false)
  /-- Nothing is left to do, and the state was changed or not. -/
  | done (changed : Bool)

namespace Changing

variable {state : TaskState}

/-- What comes of a look at the state. -/
def look (s : TaskStatus) : Changing state :=
  if h : s.state.isFinished = true then .done false
  else .exchanging s.state (Bool.eq_false_iff.mpr h)

/-- The next step, where an exchange may miss. -/
def step (s : TaskStatus) (misses : Bool) : Changing state → TaskStatus × Changing state
  | .looking => (s, look s)
  | .exchanging seen _ =>
    if s.state = seen ∧ misses = false then ({ s with state }, .done true) else (s, look s)
  | .done changed => (s, .done changed)

theorem look_of_isFinished {s : TaskStatus} (h : s.isFinished = true) :
    (look s : Changing state) = .done false := dif_pos h

theorem look_of_going {s : TaskStatus} (h : s.isFinished = false) :
    (look s : Changing state) = .exchanging s.state h := dif_neg (by
  rw [show s.state.isFinished = false from h]
  exact Bool.false_ne_true)

/-- Two steps without a break change a state. -/
theorem step_step (s : TaskStatus) (misses : Bool) :
    let a := step s misses (looking : Changing state)
    step a.1 false a.2 = (s.moveTo state, .done !s.isFinished) := by
  cases h : s.isFinished with
  | true =>
    have : s.moveTo state = s := TaskStatus.moveTo_of_isFinished h state
    simp [step, look_of_isFinished h, this]
  | false => simp [step, look_of_going h, TaskStatus.moveTo, h]

end Changing

end BatchSync
