import BatchSync.Proofs.Retry.PoolMoves

/-!
# Who has a job

A job that a pool has accepted is in the custody of exactly one of its threads until that thread begins
it: none is lost on the way, none is begun twice, and a job that was rejected is never begun. The
counters of the pool say how many threads there are and how many of them count as running, whatever
way jobs end and threads leave.

`Balanced` is the account behind this, and every move keeps it (`Balanced.add`); `Judged` says what the
answer of the pool to a caller has to do with all that happened before.
-/

namespace BatchSync

variable {J : Type}

/-! ## Lists -/

/-- What is found but once among the entries of a list is found at one place. -/
theorem existsUnique_of_nodup_filterMap {α β : Type} {f : α → Option β} {l : List α} {b : β}
    (nodup : (l.filterMap f).Nodup) (mem : b ∈ l.filterMap f) :
    ∃! i : Nat, (l[i]?).bind f = some b := by
  obtain ⟨a, ha, hb⟩ := List.mem_filterMap.mp mem
  obtain ⟨i, lt, rfl⟩ := List.getElem_of_mem ha
  have at_i : (l[i]?).bind f = some b := by rw [List.getElem?_eq_getElem lt]; exact hb
  refine ⟨i, at_i, fun j hj => ?_⟩
  obtain ⟨a', hja, hj⟩ := Option.bind_eq_some_iff.mp hj
  obtain ⟨lt', rfl⟩ := List.getElem?_eq_some_iff.mp hja
  have apart := List.pairwise_iff_getElem.mp (List.pairwise_filterMap.mp nodup)
  rcases Nat.lt_trichotomy i j with hij | rfl | hij
  · exact absurd rfl (apart i j lt lt' hij b hb b hj)
  · rfl
  · exact absurd rfl (apart j i lt' lt hij b hj b hb)

/-- What an account has and what it takes in is handed on, or stays. -/
theorem perm_account {l k x y a b : List J} (h : l.Perm (k ++ x)) (pass : (x ++ a).Perm (b ++ y)) :
    (l ++ a).Perm ((k ++ b) ++ y) :=
  calc
    (l ++ a).Perm ((k ++ x) ++ a) := h.append_right a
    List.Perm _ (k ++ (x ++ a)) := .of_eq (List.append_assoc ..)
    List.Perm _ (k ++ (b ++ y)) := pass.append_left k
    List.Perm _ ((k ++ b) ++ y) := .of_eq (List.append_assoc ..).symm

namespace PoolHistory

variable {h h' : PoolHistory J} {now : Nanos} {m : PoolMove J} {p : RetryPool J} {e : PoolEvent J}

/-! ## The account of threads and jobs -/

/-- The counters of a pool agree with its threads, and its threads with the jobs so far. -/
structure Balanced (h : PoolHistory J) : Prop where
  counted : h.pool.Counted
  /-- A job that was submitted was accepted or rejected, unless its caller still looks for room. -/
  submitted_perm : h.submitted.Perm (h.accepted ++ (h.rejected ++ h.pool.submitted.toList))
  /-- A job that was accepted was begun, or a thread has it. -/
  accepted_perm : h.accepted.Perm (h.begun ++ h.pool.held)
  /-- A job that was begun has ended, or a thread runs it. -/
  begun_perm : h.begun.Perm (h.ended ++ h.pool.running)

theorem balanced_make (maxThreads : Nat) (keepAlive : Nanos) :
    (make maxThreads keepAlive : PoolHistory J).Balanced where
  counted := RetryPool.counted_make maxThreads keepAlive
  submitted_perm := .rfl
  accepted_perm := .rfl
  begun_perm := .rfl

theorem Balanced.add (b : h.Balanced) (hm : h.pool.Moves now m p e) : (h.add m p e).Balanced where
  counted := b.counted.moves hm
  submitted_perm := by
    have pass : ((h.rejected ++ h.pool.submitted.toList) ++ m.submitted?.toList).Perm
        (e.accepted?.toList ++ ((h.rejected ++ e.rejected?.toList) ++ p.submitted.toList)) := by
      rw [List.append_assoc, hm.calls, List.append_assoc]
      exact List.perm_append_comm_assoc ..
    simpa only [submitted, accepted, rejected, jobs_add, pool_add] using
      perm_account b.submitted_perm pass
  accepted_perm := by
    simpa only [accepted, begun, jobs_add, pool_add] using perm_account b.accepted_perm hm.held
  begun_perm := by
    simpa only [begun, ended, jobs_add, pool_add] using perm_account b.begun_perm hm.running

/-- The pool has the threads that it was made for. -/
theorem maxThreads_of_run {maxThreads : Nat} {keepAlive : Nanos}
    {moves : List (Nanos × PoolMove J)} (hr : (make maxThreads keepAlive).run moves = some h) :
    h.pool.maxThreads = max maxThreads 1 := by
  refine run_invariant (P := fun h => h.pool.maxThreads = max maxThreads 1) ?_ rfl hr
  intro h now m p e eq hm
  exact hm.maxThreads_eq.trans eq

/-! ## What the pool answers -/

/-- Whether the pool was shut down. -/
def WasShutDown (past : List (PoolStep J)) : Prop := ∃ s ∈ past, s.move = .shutDown

/-- Whether the last call was that of a job for which no thread waited. -/
def LookedInVain (past : List (PoolStep J)) (job : J) : Prop :=
  ∃ older q newer, past = older ++ ⟨q, .submit job, .quiet⟩ :: newer ∧ ¬ q.SomeWaits ∧
    ∀ s ∈ newer, s.move.isOfCaller = false

/-- How the answer to a caller follows from what happened before. -/
structure Judged (past : List (PoolStep J)) (s : PoolStep J) : Prop where
  /-- A job that is submitted is accepted at once exactly if the pool is open and a thread waits. -/
  handed_iff : ∀ job, s.move = .submit job →
    (s.event = .accepted job ↔ ¬ WasShutDown past ∧ s.before.SomeWaits)
  /-- No job is accepted any more once the pool was shut down. -/
  accepted : ∀ job, s.event = .accepted job → ¬ WasShutDown past
  /-- A job is rejected only if the pool was shut down, or if no thread waited for it and all threads
  that there may be are there. -/
  rejected : ∀ job, s.event = .rejected job → WasShutDown past ∨
    (s.move = .reserve ∧ s.before.threads = s.before.maxThreads ∧ LookedInVain past job)

theorem wasShutDown_concat {past : List (PoolStep J)} {s : PoolStep J} :
    WasShutDown (past ++ [s]) ↔ WasShutDown past ∨ s.move = .shutDown := by
  simp [WasShutDown, or_and_right, exists_or]

/-- What a pool remembers of its callers. -/
structure Recalls (h : PoolHistory J) : Prop where
  shut_iff : h.pool.isOpen = false ↔ WasShutDown h.steps
  looked : ∀ job, h.pool.submitted = some job → h.pool.isOpen = true ∧ LookedInVain h.steps job

theorem Recalls.open_iff (r : h.Recalls) : h.pool.isOpen = true ↔ ¬ WasShutDown h.steps := by
  rw [← r.shut_iff, Bool.not_eq_false]

theorem recalls_make (maxThreads : Nat) (keepAlive : Nanos) :
    (make maxThreads keepAlive : PoolHistory J).Recalls where
  shut_iff := by simp [make, RetryPool.make, WasShutDown]
  looked := by intro job h; cases h

theorem Recalls.add (r : h.Recalls) (hm : h.pool.Moves now m p e) : (h.add m p e).Recalls where
  shut_iff := by rw [pool_add, steps_add, wasShutDown_concat, hm.isOpen_iff, r.shut_iff]
  looked := by
    intro job looks
    rcases hm.looks looks with ⟨rfl, rfl, opened, busy⟩ | ⟨looked, aside⟩
    · have opened : p.isOpen = true := by
        rw [← Bool.not_eq_false, hm.isOpen_iff]
        simp [opened]
      exact ⟨opened, h.steps, h.pool, [], rfl, busy, by simp⟩
    · -- a caller that looks for room keeps the others out, so that nobody shuts the pool down
      obtain ⟨opened, older, q, newer, past, busy, apart⟩ := r.looked job looked
      have opened : p.isOpen = true := by
        rw [← Bool.not_eq_false, hm.isOpen_iff]
        rintro (shut | rfl)
        · rw [opened] at shut; cases shut
        · cases aside
      refine ⟨opened, older, q, newer ++ [⟨h.pool, m, e⟩], by rw [steps_add, past]; simp, busy, ?_⟩
      intro s hs
      rcases List.mem_append.mp hs with hs | hs
      · exact apart s hs
      · rw [List.mem_singleton.mp hs]; exact aside

theorem judged_of_moves (r : h.Recalls) (b : h.Balanced) (hm : h.pool.Moves now m p e) :
    Judged h.steps ⟨h.pool, m, e⟩ := by
  cases hm with
  | refuse job away shut =>
    have was_shut : WasShutDown h.steps := r.shut_iff.mp shut
    exact ⟨fun _ _ => ⟨nofun, fun handed => absurd was_shut handed.1⟩, nofun, fun _ _ => .inl was_shut⟩
  | @hand job i since away opened at_ =>
    have not_shut : ¬ WasShutDown h.steps := r.open_iff.mp opened
    have waits : h.pool.SomeWaits := ⟨since, List.mem_of_getElem? at_⟩
    refine ⟨fun job' submits => ?_, fun _ _ => not_shut, nofun⟩
    cases submits
    exact ⟨fun _ => ⟨not_shut, waits⟩, fun _ => rfl⟩
  | look job away opened busy =>
    exact ⟨fun _ _ => ⟨nofun, fun handed => absurd handed.2 busy⟩, nofun, nofun⟩
  | spawn looked room =>
    have not_shut : ¬ WasShutDown h.steps := r.open_iff.mp (r.looked _ looked).1
    exact ⟨nofun, fun _ _ => not_shut, nofun⟩
  | turnAway looked full =>
    -- there are never more threads than there may be, so that a full pool has exactly as many
    have all_there : h.pool.threads = h.pool.maxThreads := Nat.le_antisymm b.counted.threads_le full
    refine ⟨nofun, nofun, fun job' rejected => ?_⟩
    cases rejected
    exact .inr ⟨rfl, all_there, (r.looked _ looked).2⟩
  | shutDown => exact ⟨nofun, nofun, nofun⟩
  | turn at_ turns => cases turns <;> exact ⟨nofun, nofun, nofun⟩
  | leave => exact ⟨nofun, nofun, nofun⟩

/-- Every answer so far follows from what happened before it. -/
def AllJudged (h : PoolHistory J) : Prop :=
  ∀ n s, h.steps[n]? = some s → Judged (h.steps.take n) s

theorem AllJudged.add (all : h.AllJudged) (judged : Judged h.steps ⟨h.pool, m, e⟩) :
    (h.add m p e).AllJudged := by
  intro n s hs
  rw [steps_add] at hs ⊢
  by_cases hn : n < h.steps.length
  · rw [List.getElem?_append_left hn] at hs
    rw [List.take_append_of_le_length (Nat.le_of_lt hn)]
    exact all n s hs
  · have hlast : n = h.steps.length := by
      have := (List.getElem?_eq_some_iff.mp hs).1
      rw [List.length_append, List.length_singleton] at this
      omega
    subst hlast
    rw [List.getElem?_concat_length] at hs
    cases hs
    rw [List.take_left]
    exact judged

/-! ## Every history -/

/-- What holds of a pool for so many threads, whatever has happened to it. -/
structure InOrder (h : PoolHistory J) (maxThreads : Nat) : Prop where
  active_le : h.pool.active ≤ h.pool.threads
  threads_le : h.pool.threads ≤ max maxThreads 1
  /-- Every job that was accepted was begun, or a thread has it. -/
  accepted_perm : h.accepted.Perm (h.begun ++ h.pool.held)
  /-- If jobs are told apart, none is begun twice. -/
  begun_nodup : h.submitted.Nodup → h.begun.Nodup
  /-- Exactly one thread has a job that was accepted and not begun. -/
  held_by_one : h.submitted.Nodup → ∀ job ∈ h.accepted, job ∉ h.begun →
    ∃! i : Nat, (h.pool.workers[i]?).bind Worker.held? = some job
  rejected_not_begun : h.submitted.Nodup → ∀ job ∈ h.rejected, job ∉ h.begun
  judged : h.AllJudged
  /-- Once all threads have left, all jobs have ended, and nothing is counted any more. -/
  settled : h.pool.workers = [] →
    h.accepted.Perm h.ended ∧ h.pool.active = 0 ∧ h.pool.threads = 0

theorem Balanced.accepted_nodup (b : h.Balanced) (nodup : h.submitted.Nodup) :
    (h.begun ++ h.pool.held).Nodup :=
  b.accepted_perm.nodup_iff.mp (List.nodup_append.mp (b.submitted_perm.nodup_iff.mp nodup)).1

theorem Balanced.mem_accepted (b : h.Balanced) {job : J} (begun : job ∈ h.begun) :
    job ∈ h.accepted :=
  b.accepted_perm.mem_iff.mpr (List.mem_append_left _ begun)

/-- A pool is in order whatever is asked of it and whatever its threads do, in any order. -/
theorem jobs_in_custody {maxThreads : Nat} {keepAlive : Nanos} {moves : List (Nanos × PoolMove J)}
    (hr : (make maxThreads keepAlive).run moves = some h) : h.InOrder maxThreads := by
  obtain ⟨-, b, all⟩ : h.Recalls ∧ h.Balanced ∧ h.AllJudged := by
    refine run_invariant (P := fun h => h.Recalls ∧ h.Balanced ∧ h.AllJudged) ?_ ?_ hr
    · intro h now m p e ⟨r, b, all⟩ hm
      exact ⟨r.add hm, b.add hm, all.add (judged_of_moves r b hm)⟩
    · exact ⟨recalls_make maxThreads keepAlive, balanced_make maxThreads keepAlive, nofun⟩
  refine
    { active_le := b.counted.active_le
      threads_le := ?_
      accepted_perm := b.accepted_perm
      begun_nodup := fun nodup => (List.nodup_append.mp (b.accepted_nodup nodup)).1
      held_by_one := ?_
      rejected_not_begun := ?_
      judged := all
      settled := ?_ }
  · rw [← maxThreads_of_run hr]
    exact b.counted.threads_le
  · intro nodup job accepted not_begun
    have held : job ∈ h.pool.held :=
      (List.mem_append.mp (b.accepted_perm.mem_iff.mp accepted)).resolve_left not_begun
    exact existsUnique_of_nodup_filterMap (List.nodup_append.mp (b.accepted_nodup nodup)).2.1 held
  · intro nodup job rejected begun
    obtain ⟨-, -, apart⟩ := List.nodup_append.mp (b.submitted_perm.nodup_iff.mp nodup)
    exact apart job (b.mem_accepted begun) job (List.mem_append_left _ rejected) rfl
  · intro gone
    have accepted := b.accepted_perm
    have begun := b.begun_perm
    have active := b.counted.active_eq
    have threads := b.counted.threads_eq
    rw [RetryPool.held, gone, List.filterMap_nil, List.append_nil] at accepted
    rw [RetryPool.running, gone, List.filterMap_nil, List.append_nil] at begun
    rw [gone] at active threads
    exact ⟨accepted.trans begun, active, threads⟩

/-- A pool for one thread. The first job panics, while another one finds no room. The third is handed to
the thread that waits, and ends after the pool was shut down; the fourth comes too late. -/
def onOneThread : List (Nanos × PoolMove Nat) :=
  [(0, .submit 0), (0, .reserve), (1, .enlist 0), (1, .beginJob 0), (2, .submit 1), (2, .reserve),
    (3, .endJob 0 true), (3, .retire 0), (3, .wait 0), (4, .submit 2), (5, .enlist 0),
    (5, .beginJob 0), (6, .shutDown), (6, .submit 3), (7, .endJob 0 false), (7, .retire 0),
    (7, .wait 0), (8, .hangUp 0), (8, .leave 0)]

theorem jobs_in_custody_onOneThread : ∃ h, (make 0 60).run onOneThread = some h ∧ h.InOrder 0 ∧
    h.submitted = [0, 1, 2, 3] ∧ h.accepted = [0, 2] ∧ h.rejected = [1, 3] ∧ h.begun = [0, 2] ∧
    h.pool.workers.length = 0 ∧ h.pool.threads = 0 := by
  refine ⟨_, rfl, jobs_in_custody (show (make 0 60).run onOneThread = some _ from rfl), ?_⟩
  decide

end PoolHistory

end BatchSync
