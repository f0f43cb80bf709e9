import BatchSync.Retry.Pool
import Mathlib.Data.List.Perm.Basic

/-!
# What a thread pool can do

Callers and threads of a pool move in any order and at any times.

1. `RetryPool.moves_of_step` says all that a move can do.
2. `RetryPool.Moves.trade` forgets who moved, and keeps what became of a thread: it came, went on or left,
   and all others stayed as they were. What the counters say (`Counted.moves`) and where jobs go
   (`Moves.held`, `Moves.running`) follow from that.
3. A history (`PoolHistory`) has all moves, each with the pool that it found and with what others saw of
   it, and `PoolHistory.run_invariant` carries what every move keeps over a whole run.
-/

namespace BatchSync

variable {J : Type}

namespace Worker

/-- The job that a thread has and has not begun. -/
def held? : Worker J → Option J
  | .given job => some job
  | .enlisted job => some job
  | _ => none

def running? : Worker J → Option J
  | .running job => some job
  | _ => none

/-- Whether a thread counts as running. -/
def isActive : Worker J → Bool
  | .enlisted _ => true
  | .running _ => true
  | .over => true
  | _ => false

end Worker

namespace PoolMove

/-- The job that is submitted. -/
def submitted? : PoolMove J → Option J
  | .submit job => some job
  | _ => none

/-- Whether a move is one of a caller. -/
def isOfCaller : PoolMove J → Bool
  | .submit _ => true
  | .reserve => true
  | .shutDown => true
  | _ => false

end PoolMove

namespace PoolEvent

def accepted? : PoolEvent J → Option J
  | .accepted job => some job
  | _ => none

def rejected? : PoolEvent J → Option J
  | .rejected job => some job
  | _ => none

def began? : PoolEvent J → Option J
  | .began job => some job
  | _ => none

def ended? : PoolEvent J → Option J
  | .ended job _ => some job
  | _ => none

end PoolEvent

namespace RetryPool

variable {p p' : RetryPool J} {now : Nanos} {m : PoolMove J} {e : PoolEvent J} {i : Nat}

/-! ## Looking for a thread that waits -/

/-- Whether some thread waits for a job. -/
def SomeWaits (p : RetryPool J) : Prop := ∃ since, Worker.waiting since ∈ p.workers

theorem eq_waiting {w : Worker J} {since : Nanos} (h : waitingSince? w = some since) :
    w = .waiting since := by
  cases w with
  | waiting s => cases h; rfl
  | _ => cases h

/-- A thread that is found waits. -/
theorem waiting_of_longestWaiting? (h : p.longestWaiting? = some i) :
    ∃ since, p.workers[i]? = some (.waiting since) := by
  unfold longestWaiting? at h
  split at h
  · cases h
  · rename_i since _
    obtain ⟨lt, hw, -⟩ := List.findIdx?_eq_some_iff_getElem.mp h
    exact ⟨since, by rw [List.getElem?_eq_getElem lt, eq_waiting (beq_iff_eq.mp hw)]⟩

/-- A thread is found if one waits. -/
theorem longestWaiting?_eq_none_iff : p.longestWaiting? = none ↔ ¬ p.SomeWaits := by
  unfold longestWaiting?
  split
  · rename_i none_waits
    rw [List.min?_eq_none_iff] at none_waits
    refine ⟨?_, fun _ => rfl⟩
    rintro - ⟨since, hw⟩
    have mem : since ∈ p.workers.filterMap waitingSince? := List.mem_filterMap.mpr ⟨_, hw, rfl⟩
    rw [none_waits] at mem
    cases mem
  · rename_i since least
    obtain ⟨w, hw, hs⟩ := List.mem_filterMap.mp (List.min?_mem least)
    refine ⟨fun not_found => ?_, fun none_waits => ?_⟩
    · have := List.findIdx?_eq_none_iff.mp not_found w hw
      simp [hs] at this
    · exact absurd ⟨since, eq_waiting hs ▸ hw⟩ none_waits

/-! ## All that a move can do -/

/-- What a thread does by itself. -/
inductive Turns (p : RetryPool J) (now : Nanos) (i : Nat) :
    PoolMove J → Worker J → Worker J → PoolEvent J → Prop
  | enlist (job : J) : Turns p now i (.enlist i) (.given job) (.enlisted job) .quiet
  | beginJob (job : J) : Turns p now i (.beginJob i) (.enlisted job) (.running job) (.began job)
  | endJob (job : J) (panicked : Bool) :
      Turns p now i (.endJob i panicked) (.running job) .over (.ended job panicked)
  | retire : Turns p now i (.retire i) .over .ready .quiet
  | wait : Turns p now i (.wait i) .ready (.waiting now) .quiet
  | expire {since : Nanos} (due : since + p.keepAlive ≤ now) :
      Turns p now i (.expire i) (.waiting since) .leaving .quiet
  | hangUp (since : Nanos) (shut : p.isOpen = false) :
      Turns p now i (.hangUp i) (.waiting since) .leaving .quiet

/-- How many of some threads count as running. -/
def activeCount (workers : List (Worker J)) : Nat := workers.countP Worker.isActive

/-- A pool after a thread went on. -/
def turn (p : RetryPool J) (i : Nat) (w w' : Worker J) : RetryPool J :=
  { p.setWorker i w' with active := p.active + activeCount [w'] - activeCount [w] }

/-- All that a move can do. -/
inductive Moves (p : RetryPool J) (now : Nanos) : PoolMove J → RetryPool J → PoolEvent J → Prop
  /-- A pool that was shut down takes no job. -/
  | refuse (job : J) (away : p.submitted = none) (shut : p.isOpen = false) :
      Moves p now (.submit job) p (.rejected job)
  /-- A thread that waits is handed the job. -/
  | hand (job : J) {i : Nat} {since : Nanos} (away : p.submitted = none) (opened : p.isOpen = true)
      (at_ : p.workers[i]? = some (.waiting since)) :
      Moves p now (.submit job) (p.setWorker i (.given job)) (.accepted job)
  /-- No thread waits. -/
  | look (job : J) (away : p.submitted = none) (opened : p.isOpen = true) (busy : ¬ p.SomeWaits) :
      Moves p now (.submit job) { p with submitted := some job } .quiet
  /-- There is room for another thread. -/
  | spawn {job : J} (looked : p.submitted = some job) (room : p.threads < p.maxThreads) :
      Moves p now .reserve
        { p with
          threads := p.threads + 1, workers := p.workers ++ [.given job], submitted := none }
        (.accepted job)
  /-- There is no room. -/
  | turnAway {job : J} (looked : p.submitted = some job) (full : p.maxThreads ≤ p.threads) :
      Moves p now .reserve { p with submitted := none } (.rejected job)
  | shutDown (away : p.submitted = none) : Moves p now .shutDown p.shutDown .quiet
  | turn {i : Nat} {m : PoolMove J} {w w' : Worker J} {e : PoolEvent J}
      (at_ : p.workers[i]? = some w) (turns : p.Turns now i m w w' e) :
      Moves p now m (p.turn i w w') e
  | leave {i : Nat} (at_ : p.workers[i]? = some .leaving) :
      Moves p now (.leave i) { p with workers := p.workers.eraseIdx i, threads := p.threads - 1 }
        .quiet

theorem moves_of_submit {job : J} (h : p.step now (.submit job) = some (p', e)) :
    p.Moves now (.submit job) p' e := by
  unfold step at h
  dsimp only at h
  cases away : p.submitted with
  | some other => rw [away] at h; cases h
  | none =>
    rw [away] at h
    dsimp only at h
    split at h
    · rename_i opened
      split at h
      · rename_i i found
        cases h
        obtain ⟨since, at_⟩ := waiting_of_longestWaiting? found
        exact .hand job away opened at_
      · rename_i found
        cases h
        exact .look job away opened (longestWaiting?_eq_none_iff.mp found)
    · rename_i shut
      cases h
      exact .refuse job away (Bool.eq_false_iff.mpr shut)

theorem moves_of_reserve (h : p.step now .reserve = some (p', e)) : p.Moves now .reserve p' e := by
  unfold step at h
  dsimp only at h
  split at h
  · cases h
  · rename_i job looked
    split at h
    · rename_i room
      cases h
      exact .spawn looked room
    · rename_i full
      cases h
      exact .turnAway looked (Nat.le_of_not_lt full)

theorem moves_of_expire (h : p.step now (.expire i) = some (p', e)) : p.Moves now (.expire i) p' e := by
  unfold step at h
  dsimp only at h
  split at h
  · rename_i since at_
    split at h
    · rename_i due
      cases h
      exact .turn at_ (.expire due)
    · cases h
  · cases h

theorem moves_of_hangUp (h : p.step now (.hangUp i) = some (p', e)) : p.Moves now (.hangUp i) p' e := by
  unfold step at h
  dsimp only at h
  split at h
  · rename_i since at_
    split at h
    · cases h
    · rename_i shut
      cases h
      exact .turn at_ (.hangUp since (Bool.eq_false_iff.mpr shut))
  · cases h

theorem moves_of_step (h : p.step now m = some (p', e)) : p.Moves now m p' e := by
  cases m with
  | submit job => exact moves_of_submit h
  | reserve => exact moves_of_reserve h
  | shutDown =>
    simp only [step] at h
    split at h
    · cases h
    · rename_i away
      cases h
      exact .shutDown away
  | enlist i =>
    simp only [step] at h
    split at h
    · rename_i job at_
      cases h
      exact .turn at_ (.enlist job)
    · cases h
  | beginJob i =>
    simp only [step] at h
    split at h
    · rename_i job at_
      cases h
      exact .turn at_ (.beginJob job)
    · cases h
  | endJob i panicked =>
    simp only [step] at h
    split at h
    · rename_i job at_
      cases h
      exact .turn at_ (.endJob job panicked)
    · cases h
  | retire i =>
    simp only [step] at h
    split at h
    · rename_i at_
      cases h
      exact .turn at_ .retire
    · cases h
  | wait i =>
    simp only [step] at h
    split at h
    · rename_i at_
      cases h
      exact .turn at_ .wait
    · cases h
  | expire i => exact moves_of_expire h
  | hangUp i => exact moves_of_hangUp h
  | leave i =>
    simp only [step] at h
    split at h
    · rename_i at_
      cases h
      exact .leave at_
    · cases h

/-! ## What becomes of the callers -/

/-- What becomes of the jobs of callers: one that is submitted is accepted or rejected, unless its caller
looks for room first. -/
theorem Moves.calls (h : p.Moves now m p' e) :
    p.submitted.toList ++ m.submitted?.toList =
      e.accepted?.toList ++ (e.rejected?.toList ++ p'.submitted.toList) := by
  cases h with
  | refuse job away => rw [away]; rfl
  | hand job away opened at_ => rw [setWorker, away]; rfl
  | look job away => rw [away]; rfl
  | spawn looked room => rw [looked]; rfl
  | turnAway looked full => rw [looked]; rfl
  | shutDown away => exact List.append_nil _
  | turn at_ turns => cases turns <;> exact List.append_nil _
  | leave at_ => exact List.append_nil _

/-- A pool is shut down by a caller, and never opened again. -/
theorem Moves.isOpen_iff (h : p.Moves now m p' e) :
    p'.isOpen = false ↔ p.isOpen = false ∨ m = .shutDown := by
  cases h with
  | shutDown away => exact ⟨fun _ => .inr rfl, fun _ => rfl⟩
  | turn at_ turns => cases turns <;> exact (or_iff_left (by intro e; cases e)).symm
  | _ => exact (or_iff_left (by intro e; cases e)).symm

/-- A caller looks for room after it has found no thread that waits, and while only threads move. -/
theorem Moves.looks {job : J} (h : p.Moves now m p' e) (looks : p'.submitted = some job) :
    (m = .submit job ∧ e = .quiet ∧ p.isOpen = true ∧ ¬ p.SomeWaits) ∨
      (p.submitted = some job ∧ m.isOfCaller = false) := by
  cases h with
  | refuse job away => rw [away] at looks; cases looks
  | hand job away => rw [setWorker, away] at looks; cases looks
  | look job away opened busy => cases looks; exact .inl ⟨rfl, rfl, opened, busy⟩
  | spawn => cases looks
  | turnAway => cases looks
  | shutDown away => rw [RetryPool.shutDown, away] at looks; cases looks
  | turn at_ turns => cases turns <;> exact .inr ⟨looks, rfl⟩
  | leave => exact .inr ⟨looks, rfl⟩

/-! ## What becomes of the threads -/

/-- What becomes of a thread: there was none before it came, and there is none once it has left. -/
inductive Trades (p : RetryPool J) (now : Nanos) :
    Option (Worker J) → Option (Worker J) → PoolEvent J → Prop
  | stay : Trades p now none none .quiet
  | refuse (job : J) : Trades p now none none (.rejected job)
  | hand (job : J) (since : Nanos) :
      Trades p now (some (.waiting since)) (some (.given job)) (.accepted job)
  | spawn (job : J) : Trades p now none (some (.given job)) (.accepted job)
  | turn {i : Nat} {m : PoolMove J} {w w' : Worker J} {e : PoolEvent J}
      (turns : p.Turns now i m w w' e) : Trades p now (some w) (some w') e
  | leave : Trades p now (some .leaving) none .quiet

variable {before after : Option (Worker J)}

/-- A job that is accepted is given to a thread, which has it until it begins it. -/
theorem Trades.held (h : p.Trades now before after e) :
    e.accepted?.toList ++ before.toList.filterMap Worker.held? =
      e.began?.toList ++ after.toList.filterMap Worker.held? := by
  cases h with
  | turn turns => cases turns <;> rfl
  | _ => rfl

/-- A job that is begun runs on its thread until it ends. -/
theorem Trades.running (h : p.Trades now before after e) :
    e.began?.toList ++ before.toList.filterMap Worker.running? =
      e.ended?.toList ++ after.toList.filterMap Worker.running? := by
  cases h with
  | turn turns => cases turns <;> rfl
  | _ => rfl

/-- A move is about one thread at most; the others stay as they are. -/
theorem Moves.trade (h : p.Moves now m p' e) :
    ∃ before after others, p.Trades now before after e ∧
      p.workers.Perm (before.toList ++ others) ∧ p'.workers.Perm (after.toList ++ others) ∧
      p'.threads = p.threads + after.toList.length - before.toList.length ∧
      p'.active = p.active + activeCount after.toList - activeCount before.toList := by
  cases h with
  | refuse job => exact ⟨none, none, _, .refuse job, .rfl, .rfl, rfl, rfl⟩
  | turnAway => exact ⟨none, none, _, .refuse _, .rfl, .rfl, rfl, rfl⟩
  | look => exact ⟨none, none, _, .stay, .rfl, .rfl, rfl, rfl⟩
  | shutDown => exact ⟨none, none, _, .stay, .rfl, .rfl, rfl, rfl⟩
  | spawn => exact ⟨none, some _, _, .spawn _, .rfl, List.perm_append_comm, rfl, rfl⟩
  | hand job away opened at_ =>
    obtain ⟨lt, e⟩ := List.getElem?_eq_some_iff.mp at_
    refine ⟨some _, some _, _, .hand job _, e ▸ (List.getElem_cons_eraseIdx_perm lt).symm,
      List.set_perm_cons_eraseIdx lt _, rfl, rfl⟩
  | @turn i m w w' e at_ turns =>
    obtain ⟨lt, rfl⟩ := List.getElem?_eq_some_iff.mp at_
    refine ⟨some _, some w', _, .turn turns, (List.getElem_cons_eraseIdx_perm lt).symm,
      List.set_perm_cons_eraseIdx lt _, rfl, rfl⟩
  | leave at_ =>
    obtain ⟨lt, e⟩ := List.getElem?_eq_some_iff.mp at_
    exact ⟨some _, none, _, .leave, e ▸ (List.getElem_cons_eraseIdx_perm lt).symm, .rfl, rfl, rfl⟩

/-! ### Counters -/

/-- The counters of a pool agree with its threads. -/
structure Counted (p : RetryPool J) : Prop where
  threads_eq : p.threads = p.workers.length
  active_eq : p.active = activeCount p.workers
  threads_le : p.threads ≤ p.maxThreads

theorem counted_make (maxThreads : Nat) (keepAlive : Nanos) :
    (make maxThreads keepAlive : RetryPool J).Counted := ⟨rfl, rfl, Nat.zero_le _⟩

theorem Counted.active_le (c : p.Counted) : p.active ≤ p.threads := by
  rw [c.active_eq, c.threads_eq]
  exact List.countP_le_length

theorem Moves.maxThreads_eq (h : p.Moves now m p' e) : p'.maxThreads = p.maxThreads := by
  cases h <;> rfl

/-- The counters go along with every move. -/
theorem Counted.moves (c : p.Counted) (h : p.Moves now m p' e) : p'.Counted := by
  obtain ⟨before, after, others, -, hbefore, hafter, threads, active⟩ := h.trade
  have length_before := hbefore.length_eq
  have length_after := hafter.length_eq
  have active_before : activeCount p.workers = _ := hbefore.countP_eq Worker.isActive
  have active_after : activeCount p'.workers = _ := hafter.countP_eq Worker.isActive
  rw [List.length_append] at length_before length_after
  rw [List.countP_append] at active_before active_after
  have threads_eq := c.threads_eq
  have active_eq := c.active_eq
  refine ⟨by omega, by unfold activeCount at *; omega, ?_⟩
  -- that there is room is looked at before a thread comes, not after
  cases h with
  | spawn looked room => exact room
  | leave at_ => exact Nat.le_trans (Nat.sub_le _ _) c.threads_le
  | _ => exact c.threads_le

/-! ### Jobs -/

/-- The jobs that threads have and have not begun. -/
def held (p : RetryPool J) : List J := p.workers.filterMap Worker.held?

/-- The jobs that threads run. -/
def running (p : RetryPool J) : List J := p.workers.filterMap Worker.running?

theorem perm_trade {l l' o x y a b : List J} (before : l.Perm (x ++ o)) (after : l'.Perm (y ++ o))
    (trade : a ++ x = b ++ y) : (l ++ a).Perm (b ++ l') :=
  calc
    (l ++ a).Perm (a ++ l) := List.perm_append_comm
    List.Perm _ (a ++ (x ++ o)) := before.append_left a
    List.Perm _ (b ++ (y ++ o)) := .of_eq (by
      rw [← List.append_assoc, trade, List.append_assoc])
    List.Perm _ (b ++ l') := after.symm.append_left b

/-- A job that is accepted is held until it is begun. -/
theorem Moves.held (h : p.Moves now m p' e) :
    (p.held ++ e.accepted?.toList).Perm (e.began?.toList ++ p'.held) := by
  obtain ⟨before, after, others, trades, hbefore, hafter, -, -⟩ := h.trade
  have hbefore := hbefore.filterMap Worker.held?
  have hafter := hafter.filterMap Worker.held?
  rw [List.filterMap_append] at hbefore hafter
  exact perm_trade hbefore hafter trades.held

/-- A job that is begun runs until it ends. -/
theorem Moves.running (h : p.Moves now m p' e) :
    (p.running ++ e.began?.toList).Perm (e.ended?.toList ++ p'.running) := by
  obtain ⟨before, after, others, trades, hbefore, hafter, -, -⟩ := h.trade
  have hbefore := hbefore.filterMap Worker.running?
  have hafter := hafter.filterMap Worker.running?
  rw [List.filterMap_append] at hbefore hafter
  exact perm_trade hbefore hafter trades.running

end RetryPool

/-! ## Histories -/

/-- A move of a pool, with the pool that it found and what others saw of it. -/
structure PoolStep (J : Type) where
  before : RetryPool J
  move : PoolMove J
  event : PoolEvent J

/-- A pool with all that happened to it, the oldest first. -/
structure PoolHistory (J : Type) where
  pool : RetryPool J
  steps : List (PoolStep J)

namespace PoolHistory

/-- A new pool. -/
def make (maxThreads : Nat) (keepAlive : Nanos) : PoolHistory J := ⟨.make maxThreads keepAlive, []⟩

/-- A history that goes on by a move. -/
def add (h : PoolHistory J) (m : PoolMove J) (p : RetryPool J) (e : PoolEvent J) : PoolHistory J :=
  ⟨p, h.steps ++ [⟨h.pool, m, e⟩]⟩

@[simp] theorem pool_add (h : PoolHistory J) (m : PoolMove J) (p : RetryPool J) (e : PoolEvent J) :
    (h.add m p e).pool = p := rfl

@[simp] theorem steps_add (h : PoolHistory J) (m : PoolMove J) (p : RetryPool J) (e : PoolEvent J) :
    (h.add m p e).steps = h.steps ++ [⟨h.pool, m, e⟩] := rfl

/-- What a move at a time leads to, if it can happen. -/
def step (h : PoolHistory J) (now : Nanos) (m : PoolMove J) : Option (PoolHistory J) :=
  (h.pool.step now m).map fun (p, e) => h.add m p e

/-- What an interleaving leads to, if all of its moves can happen one after the other. -/
def run (h : PoolHistory J) : List (Nanos × PoolMove J) → Option (PoolHistory J)
  | [] => some h
  | (now, m) :: rest =>
    match h.step now m with
    | none => none
    | some h => h.run rest

/-- What every move keeps, a run keeps. -/
theorem run_invariant {P : PoolHistory J → Prop}
    (keep : ∀ {h : PoolHistory J} {now : Nanos} {m : PoolMove J} {p : RetryPool J} {e : PoolEvent J},
      P h → h.pool.Moves now m p e → P (h.add m p e))
    {moves : List (Nanos × PoolMove J)} :
    ∀ {h h' : PoolHistory J}, P h → h.run moves = some h' → P h' := by
  induction moves with
  | nil => intro h h' hP hr; cases hr; exact hP
  | cons move rest ih =>
    intro h h' hP hr
    simp only [run] at hr
    split at hr
    · cases hr
    · rename_i next hn
      obtain ⟨⟨p, e⟩, hm, rfl⟩ := Option.map_eq_some_iff.mp hn
      exact ih (keep hP (RetryPool.moves_of_step hm)) hr

/-! ### The jobs of a history -/

/-- The jobs that are read off the steps. -/
def jobs (f : PoolStep J → Option J) (h : PoolHistory J) : List J := h.steps.filterMap f

/-- The jobs that were submitted. -/
def submitted (h : PoolHistory J) : List J := h.jobs fun s => s.move.submitted?

def accepted (h : PoolHistory J) : List J := h.jobs fun s => s.event.accepted?

def rejected (h : PoolHistory J) : List J := h.jobs fun s => s.event.rejected?

def begun (h : PoolHistory J) : List J := h.jobs fun s => s.event.began?

def ended (h : PoolHistory J) : List J := h.jobs fun s => s.event.ended?

theorem jobs_add (f : PoolStep J → Option J) (h : PoolHistory J) (m : PoolMove J) (p : RetryPool J)
    (e : PoolEvent J) : (h.add m p e).jobs f = h.jobs f ++ (f ⟨h.pool, m, e⟩).toList := by
  unfold jobs add
  rw [List.filterMap_append, List.filterMap_cons]
  cases f ⟨h.pool, m, e⟩ <;> rfl

end PoolHistory

end BatchSync
