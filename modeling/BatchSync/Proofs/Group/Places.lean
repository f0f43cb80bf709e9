import BatchSync.Proofs.Group.Chronicle
import Mathlib.Data.List.Basic

/-!
# The attempts of a task

Attempts are known by their places in the group, and those of one task follow each other there
(`Group.places`). Nothing but the beginning of an attempt changes the places of a task
(`Group.Steps.tasks_eq_or`), and the index of latest attempts is right at any time (`Group.Indexed`), so
that the statuses of a group are those of the last attempts of its tasks.
-/

namespace BatchSync

variable {ρ ω : Type}

/-! ## Places -/

/-- The places of a number in a list. -/
def placesIn (k : Nat) (ts : List Nat) : List Nat :=
  (List.range ts.length).filter fun a => ts[a]? == some k

theorem placesIn_concat (k t : Nat) (ts : List Nat) :
    placesIn k (ts ++ [t]) = placesIn k ts ++ if t = k then [ts.length] else [] := by
  unfold placesIn
  rw [List.length_append, List.length_singleton, List.range_succ, List.filter_append]
  congr 1
  · refine List.filter_congr fun a ha => ?_
    rw [List.getElem?_append_left (List.mem_range.mp ha)]
  · by_cases h : t = k
    · simp [h]
    · simp [h]

theorem DriverPhase.Tends.task_eq {g : Group ρ ω} {t t' : Attempt ρ ω}
    {phase phase' : DriverPhase ρ ω} {es : List AttemptEvent} (h : phase.Tends g t es t' phase') :
    t'.task = t.task := by
  cases h <;> rfl

/-! ## The index of latest attempts -/

namespace Group

theorem mem_insertLatest {k n : Nat} {l : List (Nat × Nat)} (sorted : l.Pairwise (·.1 < ·.1))
    {x : Nat × Nat} : x ∈ insertLatest k n l ↔ x = (k, n) ∨ (x.1 ≠ k ∧ x ∈ l) := by
  induction l with
  | nil => simp [insertLatest]
  | cons y l ih =>
    obtain ⟨t, a⟩ := y
    obtain ⟨above, sorted⟩ := List.pairwise_cons.mp sorted
    have ne : t < k ∨ k < t → ((x.1 ≠ k ∧ x = (t, a)) ↔ x = (t, a)) :=
      fun h => ⟨And.right, fun e => ⟨by rw [e]; show t ≠ k; omega, e⟩⟩
    have later : ∀ h : k ≤ t, x ∈ l → x.1 ≠ k := fun h hx => by
      have := above x hx
      have : t < x.1 := this
      omega
    unfold insertLatest
    split
    · rename_i h
      subst h
      rw [List.mem_cons, List.mem_cons, and_or_left]
      refine or_congr_right ⟨fun hx => .inr ⟨later (Nat.le_refl _) hx, hx⟩, ?_⟩
      rintro (⟨hne, rfl⟩ | ⟨-, hx⟩)
      · exact absurd rfl hne
      · exact hx
    · split
      · rename_i lt
        rw [List.mem_cons, List.mem_cons, and_or_left, ne (.inr lt)]
        refine or_congr_right (or_congr_right ⟨fun hx => ⟨later (Nat.le_of_lt lt) hx, hx⟩, And.right⟩)
      · rename_i h lt
        rw [List.mem_cons, ih sorted, List.mem_cons, and_or_left, ne (.inl (by omega))]
        exact or_left_comm

theorem pairwise_insertLatest {k n : Nat} {l : List (Nat × Nat)} (sorted : l.Pairwise (·.1 < ·.1)) :
    (insertLatest k n l).Pairwise (·.1 < ·.1) := by
  induction l with
  | nil => exact List.pairwise_singleton _ _
  | cons y l ih =>
    obtain ⟨t, a⟩ := y
    obtain ⟨above, rest⟩ := List.pairwise_cons.mp sorted
    unfold insertLatest
    split
    · rename_i h
      subst h
      exact List.pairwise_cons.mpr ⟨above, rest⟩
    · split
      · rename_i lt
        refine List.pairwise_cons.mpr ⟨fun x hx => ?_, sorted⟩
        rcases List.mem_cons.mp hx with rfl | hx
        · exact lt
        · exact Nat.lt_trans lt (above x hx)
      · rename_i h lt
        refine List.pairwise_cons.mpr ⟨fun x hx => ?_, ih rest⟩
        rcases (mem_insertLatest rest).mp hx with rfl | ⟨-, hx⟩
        · show t < k
          omega
        · exact above x hx

/-- The tasks of the attempts. -/
def tasks (g : Group ρ ω) : List Nat := g.attempts.map Attempt.task

@[simp] theorem tasks_enforce (g : Group ρ ω) (s : TaskStatus) : (g.enforce s).tasks = g.tasks :=
  congrArg (List.map Attempt.task) (attempts_enforce g s)

/-- The attempts of a task, in the order in which they began. -/
def places (g : Group ρ ω) (k : Nat) : List Nat := placesIn k g.tasks

/-- The status of the last attempt of a task. -/
def lastStatus? (g : Group ρ ω) (k : Nat) : Option TaskStatus :=
  (g.places k).getLast?.bind fun a => (g.attempts[a]?).map Attempt.status

/-- The index lists the last attempts of all tasks that were begun, by their numbers. -/
structure Indexed (g : Group ρ ω) : Prop where
  sorted : g.latest.Pairwise (·.1 < ·.1)
  last : ∀ {k a : Nat}, (k, a) ∈ g.latest ↔ (g.places k).getLast? = some a

theorem places_begun (g : Group ρ ω) (spec : TaskSpec ρ ω) (k : Nat) :
    (g.begun spec).places k = g.places k ++ if spec.task = k then [g.attempts.length] else [] := by
  have tasks_ : (g.begun spec).tasks = g.tasks ++ [spec.task] := by
    unfold tasks begun
    rw [List.map_append]
    rfl
  unfold places
  rw [tasks_, placesIn_concat]
  unfold tasks
  rw [List.length_map]

theorem Indexed.begun {g : Group ρ ω} (h : g.Indexed) (spec : TaskSpec ρ ω) :
    (g.begun spec).Indexed where
  sorted := pairwise_insertLatest h.sorted
  last := by
    intro k a
    rw [places_begun]
    show (k, a) ∈ insertLatest spec.task g.attempts.length g.latest ↔ _
    rw [mem_insertLatest h.sorted, h.last]
    by_cases hk : spec.task = k
    · subst hk
      simp [eq_comm]
    · rw [if_neg hk, List.append_nil]
      constructor
      · rintro (he | ⟨-, hl⟩)
        · exact absurd (Prod.mk.inj he).1.symm hk
        · exact hl
      · exact fun hl => .inr ⟨fun e => hk e.symm, hl⟩

/-- The statuses of a group are those of the last attempts of its tasks. -/
theorem Indexed.statuses_eq {g : Group ρ ω} (h : g.Indexed) :
    g.statuses = (g.latest.map (·.1)).filterMap g.lastStatus? := by
  rw [List.filterMap_map]
  refine List.filterMap_congr fun l hl => ?_
  have last : (g.places l.1).getLast? = some l.2 := h.last.mp hl
  show _ = g.lastStatus? l.1
  unfold lastStatus?
  rw [last]
  rfl

theorem tasks_set {g : Group ρ ω} {a : Nat} {t t' : Attempt ρ ω} (found : g.attempts[a]? = some t)
    (same : t'.task = t.task) : (g.attempts.set a t').map Attempt.task = g.tasks := by
  obtain ⟨lt, rfl⟩ := List.getElem?_eq_some_iff.mp found
  rw [List.map_set, same]
  unfold tasks
  rw [← List.getElem_map (f := Attempt.task) (h := by simpa using lt), List.set_getElem_self]

/-- Only an attempt that begins changes the places of a task. -/
theorem Steps.tasks_eq_or {p : GroupPlugins ρ ω} {g g' : Group ρ ω} {m : GroupMove}
    {hs : List Happening} (h : g.Steps p m hs g') :
    (g'.tasks = g.tasks ∧ g'.latest = g.latest) ∨
      ∃ d j, g.drivers[d]? = some (.entering j) ∧ g.fatal = none ∧
        g' = (g.begun j.spec).drive d (.makingReader j g.attempts.length) := by
  cases h with
  | reader logged now journal found => exact .inl ⟨tasks_set found rfl, rfl⟩
  | writer logged now journal found => exact .inl ⟨tasks_set found rfl, rfl⟩
  | tend monitor journal at_ ha found ht => exact .inl ⟨tasks_set found ht.task_eq, rfl⟩
  | @enter d j at_ going => exact .inr ⟨d, j, at_, going, rfl⟩
  | report | finish => exact .inl ⟨tasks_enforce _ _, latest_enforce _ _⟩
  | take | exit | enterStopped | succeed | again | giveUp | rest | tick | pass => exact .inl ⟨rfl, rfl⟩

theorem Indexed.of_eq {g g' : Group ρ ω} (h : g.Indexed) (tasks : g'.tasks = g.tasks)
    (latest : g'.latest = g.latest) : g'.Indexed where
  sorted := latest ▸ h.sorted
  last := by
    intro k a
    unfold places
    rw [latest, tasks]
    exact h.last

theorem Indexed.step {p : GroupPlugins ρ ω} {g g' : Group ρ ω} {m : GroupMove} {hs : List Happening}
    (h : g.Indexed) (steps : g.Steps p m hs g') : g'.Indexed := by
  rcases steps.tasks_eq_or with ⟨tasks, latest⟩ | ⟨d, j, -, -, rfl⟩
  · exact h.of_eq tasks latest
  · exact (h.begun j.spec).of_eq rfl rfl

end Group

/-- The index of latest attempts is right at any time. -/
theorem Chronicle.indexed_of_run {p : GroupPlugins ρ ω} {config : CoreConfig} {now : Int}
    {tasks : List (TaskSpec ρ ω)} {moves : List GroupMove} {c : Chronicle ρ ω}
    (h : (start config now tasks).run p moves = some c) : c.group.Indexed := by
  refine (run_invariant (P := fun c => c.group.Indexed) ?_ (sound_start config now tasks) ?_ h).2
  · exact fun sound hi hm => hi.step (sound.steps hm)
  · exact ⟨.nil, fun {k a} => ⟨nofun, nofun⟩⟩

end BatchSync
