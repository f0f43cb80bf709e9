import BatchSync.Status.Merge
import Mathlib.Algebra.GroupWithZero.Nat
import Mathlib.Order.Lattice

/-!
# Totals of totals

Statuses are merged in layers: those of the tasks make that of a group, and those of the groups make
that of the job. Nothing is lost or counted twice on the way (`TaskStatus.merge_of_merges`).

1. Taking over another status is associative, and a status that knows nothing is its unit
   (`absorb_assoc`, `absorb_initial`), so what is taken over does not depend on the layers.
2. State and time are judged by their bounds (`severity_worstState_le_iff`, `latest_le_iff`), and a
   bound of all layers is one of all statuses.
3. `IsTotalOf` says in whole what a merged status tells of those that it was made of.
-/

namespace BatchSync

/-! ## Counters -/

namespace Counters

@[ext] theorem ext {s t : Counters} (h : ∀ c, s.get c = t.get c) : s = t := by
  obtain ⟨a⟩ := s
  obtain ⟨b⟩ := t
  have reached : ∀ i : Fin 12, (Counter.all.get i).place = i := by decide
  congr 1
  apply Vector.ext
  intro i hi
  have at_i := h (Counter.all.get ⟨i, hi⟩)
  have place_eq : (Counter.all.get ⟨i, hi⟩).place = ⟨i, hi⟩ := reached ⟨i, hi⟩
  simp only [get, place_eq] at at_i
  exact at_i

theorem plus_assoc (s t u : Counters) : (s.plus t).plus u = s.plus (t.plus u) := by
  ext c
  simp only [get_plus, UInt64.add_assoc]

theorem plus_zero (s : Counters) : s.plus zero = s := by
  ext c
  simp

theorem zero_plus (s : Counters) : zero.plus s = s := by
  ext c
  simp

end Counters

/-! ## States -/

namespace TaskState

/-- The states in the order in which they stand for others: each one for those that follow it. -/
def worstFirst : List TaskState := [.killed, .failed, .running, .notStarted, .succeeded]

theorem idxOf_worstFirst (s : TaskState) : worstFirst.idxOf s = 4 - s.severity := by
  cases s <;> rfl

theorem eq_of_severity {a b : TaskState} (h : a.severity = b.severity) : a = b := by
  cases a <;> cases b <;> simp_all [severity]

theorem severity_worse (a b : TaskState) : (a.worse b).severity = max a.severity b.severity := by
  unfold worse
  split <;> omega

theorem worse_eq_or (a b : TaskState) : a.worse b = a ∨ a.worse b = b := by
  unfold worse
  split <;> simp

end TaskState

namespace TaskStatus

variable {l l' : List TaskStatus}

theorem severity_foldl_worse_le_iff (l : List TaskStatus) (a : TaskState) (n : Nat) :
    (l.foldl (fun worst s => worst.worse s.state) a).severity ≤ n ↔
      a.severity ≤ n ∧ ∀ s ∈ l, s.state.severity ≤ n := by
  induction l generalizing a with
  | nil => simp
  | cons s l ih => rw [List.foldl_cons, ih, TaskState.severity_worse, Nat.max_le, and_assoc,
      List.forall_mem_cons]

theorem severity_worstState_le_iff {n : Nat} :
    (worstState l).severity ≤ n ↔ ∀ s ∈ l, s.state.severity ≤ n := by
  unfold worstState
  rw [severity_foldl_worse_le_iff]
  simp [TaskState.severity]

/-- Statuses with the same bounds have the same worst state. -/
theorem worstState_eq_of_iff
    (h : ∀ n, (∀ s ∈ l, s.state.severity ≤ n) ↔ ∀ s ∈ l', s.state.severity ≤ n) :
    worstState l = worstState l' := by
  apply TaskState.eq_of_severity
  apply eq_of_forall_ge_iff
  intro n
  rw [severity_worstState_le_iff, severity_worstState_le_iff, h]

theorem foldl_worse_mem (l : List TaskStatus) (a : TaskState) :
    l.foldl (fun worst s => worst.worse s.state) a = a ∨
      ∃ s ∈ l, s.state = l.foldl (fun worst s => worst.worse s.state) a := by
  induction l generalizing a with
  | nil => exact .inl rfl
  | cons s l ih =>
    rw [List.foldl_cons]
    rcases ih (a.worse s.state) with h | ⟨t, mem, h⟩
    · rw [h]
      rcases TaskState.worse_eq_or a s.state with h | h
      · exact .inl h
      · exact .inr ⟨s, List.mem_cons_self, h.symm⟩
    · exact .inr ⟨t, List.mem_cons_of_mem _ mem, h⟩

/-- The worst state is that of one of the statuses. -/
theorem exists_worstState (some_ : l ≠ []) : ∃ s ∈ l, s.state = worstState l := by
  rcases foldl_worse_mem l .succeeded with h | h
  · -- nothing is worse than to have succeeded, so all of them have
    obtain ⟨s, mem⟩ := List.exists_mem_of_ne_nil l some_
    have none_ : (worstState l).severity ≤ 0 := by
      rw [show worstState l = .succeeded from h]
      rfl
    refine ⟨s, mem, TaskState.eq_of_severity ?_⟩
    have := severity_worstState_le_iff.mp none_ s mem
    omega
  · exact h

/-! ## Times -/

/-- The latest time among several, where the earliest time stands for none. -/
def latest (l : List TaskStatus) : Int :=
  l.foldl (fun latest s => max latest s.timestamp) earliestTime

theorem latestTime_eq (l : List TaskStatus) :
    latestTime l = if latest l = earliestTime then 0 else latest l := rfl

theorem foldl_max_le_iff (l : List TaskStatus) (a t : Int) :
    l.foldl (fun latest s => max latest s.timestamp) a ≤ t ↔ a ≤ t ∧ ∀ s ∈ l, s.timestamp ≤ t := by
  induction l generalizing a with
  | nil => simp
  | cons s l ih => rw [List.foldl_cons, ih, Int.max_le, and_assoc, List.forall_mem_cons]

theorem latest_le_iff {t : Int} : latest l ≤ t ↔ earliestTime ≤ t ∧ ∀ s ∈ l, s.timestamp ≤ t :=
  foldl_max_le_iff l earliestTime t

theorem le_latest {s : TaskStatus} (mem : s ∈ l) : s.timestamp ≤ latest l :=
  (latest_le_iff.mp le_rfl).2 s mem

theorem earliestTime_le_latest (l : List TaskStatus) : earliestTime ≤ latest l :=
  (latest_le_iff.mp le_rfl).1

/-- Statuses of which some tells its time tell the latest one. -/
theorem latestTime_of_told {s : TaskStatus} (mem : s ∈ l) (told : earliestTime < s.timestamp) :
    latestTime l = latest l := by
  have := le_latest mem
  rw [latestTime_eq, if_neg (by omega)]

theorem exists_latest {s : TaskStatus} (mem : s ∈ l) (told : earliestTime < s.timestamp) :
    ∃ t ∈ l, t.timestamp = latest l := by
  by_contra none_
  push Not at none_
  -- one millisecond earlier would do as well
  have : latest l ≤ latest l - 1 := by
    have first := le_latest mem
    refine latest_le_iff.mpr ⟨by omega, fun t ht => ?_⟩
    have := le_latest ht
    have := none_ t ht
    omega
  omega

/-! ## What is taken over -/

theorem absorb_assoc (s t u : TaskStatus) : (s.absorb t).absorb u = s.absorb (t.absorb u) := by
  simp [absorb, Counters.plus_assoc, Option.or_assoc]

theorem absorb_initial (s : TaskStatus) : s.absorb initial = s := by
  simp [absorb, initial, ofState, Counters.plus_zero]

/-- Only the state and the time of a status that knows nothing are its own. -/
theorem initial_absorb (s : TaskStatus) :
    initial.absorb s = { s with state := .notStarted, timestamp := 0 } := by
  simp [absorb, initial, ofState, Counters.zero_plus]

theorem foldl_absorb_eq (l : List TaskStatus) (s : TaskStatus) :
    l.foldl absorb s = s.absorb (l.foldl absorb initial) := by
  induction l generalizing s with
  | nil => exact (absorb_initial s).symm
  | cons t l ih =>
    calc (t :: l).foldl absorb s = (s.absorb t).absorb (l.foldl absorb initial) := ih (s.absorb t)
      _ = s.absorb (t.absorb (l.foldl absorb initial)) := absorb_assoc _ _ _
      _ = s.absorb ((initial.absorb t).absorb (l.foldl absorb initial)) := by
          rw [initial_absorb]; rfl
      _ = s.absorb ((t :: l).foldl absorb initial) := by rw [List.foldl_cons, ih (initial.absorb t)]

theorem merge_eq (l : List TaskStatus) :
    merge l =
      { l.foldl absorb initial with state := worstState l, timestamp := latestTime l } := rfl

/-- Of a merged status what was taken over is taken over, and nothing else. -/
theorem absorb_merge (s : TaskStatus) (l : List TaskStatus) :
    s.absorb (merge l) = l.foldl absorb s := by
  rw [foldl_absorb_eq]
  rfl

/-- It does not matter in which layers statuses are taken over. -/
theorem foldl_absorb_merge (ls : List (List TaskStatus)) (s : TaskStatus) :
    (ls.map merge).foldl absorb s = ls.flatten.foldl absorb s := by
  induction ls generalizing s with
  | nil => rfl
  | cons l ls ih =>
    rw [List.map_cons, List.foldl_cons, ih, absorb_merge, List.flatten_cons, List.foldl_append]

/-! ## What a merged status tells -/

theorem count_foldl_absorb (l : List TaskStatus) (s : TaskStatus) (c : Counter) :
    (l.foldl absorb s).count c = (s.count c + (l.map fun t => t.count c).sum) % wordLimit := by
  induction l generalizing s with
  | nil => exact (Nat.mod_eq_of_lt (count_lt_wordLimit s c)).symm
  | cons t l ih =>
    rw [List.foldl_cons, ih, count_absorb, List.map_cons, List.sum_cons, Nat.mod_add_mod,
      Nat.add_assoc]

/-- The counters of several statuses add up. -/
theorem count_merge (l : List TaskStatus) (c : Counter) :
    (merge l).count c = (l.map fun t => t.count c).sum % wordLimit := by
  show (l.foldl absorb initial).count c = _
  have none_ : initial.count c = 0 := by simp [count, initial, ofState]
  rw [count_foldl_absorb, none_, Nat.zero_add]

theorem failure_foldl_absorb (l : List TaskStatus) (s : TaskStatus) :
    (l.foldl absorb s).failure = s.failure.or (l.findSome? failure) := by
  induction l generalizing s with
  | nil => simp
  | cons t l ih =>
    rw [List.foldl_cons, ih, List.findSome?_cons]
    show (s.failure.or t.failure).or _ = _
    cases s.failure <;> cases t.failure <;> rfl

theorem notes_foldl_absorb (l : List TaskStatus) (s : TaskStatus) :
    (l.foldl absorb s).notes = s.notes ++ l.flatMap notes := by
  induction l generalizing s with
  | nil => simp
  | cons t l ih =>
    rw [List.foldl_cons, ih, List.flatMap_cons, ← List.append_assoc]
    rfl

theorem dirty_foldl_absorb (l : List TaskStatus) (s : TaskStatus) :
    (l.foldl absorb s).dirty = s.dirty ++ l.flatMap dirty := by
  induction l generalizing s with
  | nil => simp
  | cons t l ih =>
    rw [List.foldl_cons, ih, List.flatMap_cons, ← List.append_assoc]
    rfl

theorem dirty_merge (l : List TaskStatus) : (merge l).dirty = l.flatMap dirty :=
  dirty_foldl_absorb l initial

theorem notesUnder_merge (l : List TaskStatus) (key : String) :
    (merge l).notesUnder key = l.flatMap fun s => s.notesUnder key := by
  unfold notesUnder
  rw [show (merge l).notes = l.flatMap notes from notes_foldl_absorb l initial,
    List.filter_flatMap, List.map_flatMap]

/-- Tasks have succeeded together if each of them has. -/
theorem state_merge_of_succeeded (h : ∀ s ∈ l, s.state = .succeeded) :
    (merge l).state = .succeeded := by
  apply TaskState.eq_of_severity
  refine Nat.le_zero.mp (severity_worstState_le_iff.mpr fun s mem => ?_)
  rw [h s mem]
  exact le_rfl

/-- A status tells of several: their counters add up in words of 64 bits, the first failure is kept,
messages under a key and samples follow each other, the state is the worst of theirs, and the time is
the latest that is told. -/
structure IsTotalOf (t : TaskStatus) (l : List TaskStatus) : Prop where
  count_eq : ∀ c, t.count c = (l.map fun s => s.count c).sum % wordLimit
  failure_eq : t.failure = l.findSome? failure
  notesUnder_eq : ∀ key, t.notesUnder key = l.flatMap fun s => s.notesUnder key
  dirty_eq : t.dirty = l.flatMap dirty
  /-- No state comes before that of the total. -/
  worst : ∀ s ∈ l, TaskState.worstFirst.idxOf t.state ≤ TaskState.worstFirst.idxOf s.state
  state_mem : l ≠ [] → ∃ s ∈ l, s.state = t.state
  state_nil : l = [] → t.state = .succeeded
  time_of_told : (∃ s ∈ l, earliestTime < s.timestamp) →
    (∀ s ∈ l, s.timestamp ≤ t.timestamp) ∧ ∃ s ∈ l, s.timestamp = t.timestamp
  time_of_untold : (∀ s ∈ l, s.timestamp ≤ earliestTime) → t.timestamp = 0

theorem isTotalOf_merge (l : List TaskStatus) : (merge l).IsTotalOf l where
  count_eq := count_merge l
  failure_eq := by
    show (l.foldl absorb initial).failure = _
    rw [failure_foldl_absorb]
    rfl
  notesUnder_eq := notesUnder_merge l
  dirty_eq := dirty_merge l
  worst := by
    intro s mem
    rw [TaskState.idxOf_worstFirst, TaskState.idxOf_worstFirst]
    have : s.state.severity ≤ (merge l).state.severity := severity_worstState_le_iff.mp le_rfl s mem
    omega
  state_mem := exists_worstState
  state_nil := by
    rintro rfl
    rfl
  time_of_told := by
    rintro ⟨s, mem, told⟩
    rw [timestamp_merge, latestTime_of_told mem told]
    exact ⟨fun t ht => le_latest ht, exists_latest mem told⟩
  time_of_untold := by
    intro none_
    have : latest l = earliestTime :=
      le_antisymm (latest_le_iff.mpr ⟨le_rfl, none_⟩) (earliestTime_le_latest l)
    rw [timestamp_merge, latestTime_eq, if_pos this]

/-! ## Layers and orders -/

theorem worstState_merge (ls : List (List TaskStatus)) :
    worstState (ls.map merge) = worstState ls.flatten := by
  apply worstState_eq_of_iff
  intro n
  simp only [List.forall_mem_map, state_merge, severity_worstState_le_iff, List.forall_mem_flatten]

/-- The latest time of all is the latest of the latest times, if every layer tells one. -/
theorem latestTime_merge {ls : List (List TaskStatus)}
    (told : ∀ l ∈ ls, l ≠ [] ∧ ∀ s ∈ l, earliestTime < s.timestamp) :
    latestTime (ls.map merge) = latestTime ls.flatten := by
  have inner : ∀ l ∈ ls, latestTime l = latest l := by
    intro l hl
    obtain ⟨s, mem⟩ := List.exists_mem_of_ne_nil l (told l hl).1
    exact latestTime_of_told mem ((told l hl).2 s mem)
  have outer : latest (ls.map merge) = latest ls.flatten := by
    apply eq_of_forall_ge_iff
    intro t
    rw [latest_le_iff, latest_le_iff, List.forall_mem_map, List.forall_mem_flatten]
    refine and_congr_right fun ht => forall₂_congr fun l hl => ?_
    rw [timestamp_merge, inner l hl, latest_le_iff, and_iff_right ht]
  rw [latestTime_eq, latestTime_eq, outer]

theorem counters_merge_of_perm (same : l.Perm l') : (merge l).counters = (merge l').counters := by
  refine Counters.ext fun c => UInt64.toNat_inj.mp ?_
  show (merge l).count c = (merge l').count c
  rw [count_merge, count_merge, (same.map _).sum_nat]

theorem worstState_of_perm (same : l.Perm l') : worstState l = worstState l' :=
  worstState_eq_of_iff fun _ => forall_congr' fun _ => imp_congr_left same.mem_iff

theorem latestTime_of_perm (same : l.Perm l') : latestTime l = latestTime l' := by
  have : latest l = latest l' := by
    apply eq_of_forall_ge_iff
    intro t
    simp only [latest_le_iff, same.mem_iff]
  rw [latestTime_eq, latestTime_eq, this]

/-- **A total of totals is the total of all.** However statuses are put into groups, merging every group
and then the merged ones gives what merging all of them at once gives, empty groups included; only the
time may differ, and it does not if no group is empty and all times can be told. What a merged status
tells is `IsTotalOf`, and of this the counters, the state and the time do not depend on the order, and
the samples only change theirs. -/
theorem merge_of_merges (ls : List (List TaskStatus)) (same : l.Perm l') :
    (∃ time, merge (ls.map merge) = { merge ls.flatten with timestamp := time }) ∧
    ((∀ l ∈ ls, l ≠ [] ∧ ∀ s ∈ l, earliestTime < s.timestamp) →
      merge (ls.map merge) = merge ls.flatten) ∧
    (merge l).IsTotalOf l ∧
    (merge l).counters = (merge l').counters ∧ (merge l).state = (merge l').state ∧
    (merge l).timestamp = (merge l').timestamp ∧ (merge l).dirty.Perm (merge l').dirty := by
  have layers : merge (ls.map merge) =
      { merge ls.flatten with timestamp := latestTime (ls.map merge) } := by
    rw [merge_eq, merge_eq ls.flatten, foldl_absorb_merge, worstState_merge]
  refine ⟨⟨_, layers⟩, fun told => ?_, isTotalOf_merge l, counters_merge_of_perm same,
    worstState_of_perm same, latestTime_of_perm same, ?_⟩
  · rw [layers, latestTime_merge told]
    rfl
  · rw [dirty_merge, dirty_merge]
    exact same.flatMap_right dirty

/-- Two groups of a job: the tasks of the one count past the bound of a word, and that of the other has
failed, before the epoch. -/
theorem merge_of_merges_twoGroups :
    let a := ((ofState .succeeded (-3)).put .byteSpeed 18446744073709551615).note "reader" "opened"
    let b := (ofState .running (-5)).put .byteSpeed 3
    let c := ((ofState .running (-9)).note "reader" "closed").fail .channelClosed (-8)
    [a, b].Perm [b, a] ∧ (∀ l ∈ [[a, b], [c]], l ≠ [] ∧ ∀ s ∈ l, earliestTime < s.timestamp) ∧
      merge ([[a, b], [c]].map merge) = merge [a, b, c] ∧
      (merge [a, b]).count .byteSpeed = 2 ∧ (merge [a, b]).counters = (merge [b, a]).counters := by
  intro a b c
  have swapped : [a, b].Perm [b, a] := .swap b a []
  have told : ∀ l ∈ [[a, b], [c]], l ≠ [] ∧ ∀ s ∈ l, earliestTime < s.timestamp := by
    simp only [List.forall_mem_cons, List.not_mem_nil, false_implies, implies_true, and_true]
    decide
  have h := merge_of_merges [[a, b], [c]] swapped
  refine ⟨swapped, told, h.2.1 told, ?_, h.2.2.2.1⟩
  rw [h.2.2.1.count_eq]
  decide +kernel

/-- A group without tasks tells the epoch, and this counts as a time in the next layer. -/
example :
    (merge ([[], [ofState .running (-5)]].map merge)).timestamp = 0 ∧
      (merge [ofState .running (-5)]).timestamp = -5 := by
  decide

end TaskStatus

end BatchSync
