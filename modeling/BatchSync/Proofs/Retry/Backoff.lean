import BatchSync.Retry.Policy
import Mathlib.Order.MinMax
import Mathlib.Order.Nat

/-!
# Growing waits

The wait after a failure is described as the sleep, doubled once for every failure before, and held at
`maxSleep` (`describedDelay`). The factor is kept in a word of 32 bits, so from the thirty-second
doubling on it is none, and the wait is `maxSleep` whatever the sleep is. A product that is no span lies
above `maxSleep` anyway; a factor that is no word need not: fewer than sixty nanoseconds, doubled
thirty-two times, are still less than `maxSleep`. All other waits are the ones described
(`delays_as_described`).
-/

namespace BatchSync

/-- The wait after the failure of the attempt of the given index, on numbers of any size: the sleep,
doubled as many times if the wait grows, up to `maxSleep`. -/
def describedDelay (sleep : Nanos) (failedIndex : Nat) (exponential : Bool) : Nanos :=
  min (if exponential then sleep * Nat.pow 2 failedIndex else sleep) maxSleep

section Waits

variable (sleep : Nanos) (failedIndex : Nat) (exponential : Bool)

/-! ## The wait as described -/

theorem describedDelay_le : describedDelay sleep failedIndex exponential ≤ maxSleep :=
  min_le_right _ _

@[simp] theorem describedDelay_zero : describedDelay 0 failedIndex exponential = 0 := by
  unfold describedDelay
  split <;> simp

theorem describedDelay_mono_sleep : Monotone (describedDelay · failedIndex exponential) := by
  intro short long le
  cases exponential with
  | false => exact min_le_min_right _ le
  | true => exact min_le_min_right _ (Nat.mul_le_mul_right _ le)

theorem describedDelay_mono_index : Monotone (describedDelay sleep · exponential) := by
  intro i j le
  cases exponential with
  | false => exact le_refl _
  | true =>
    have factor : Nat.pow 2 i ≤ Nat.pow 2 j := Nat.pow_le_pow_right (by decide) le
    exact min_le_min_right _ (Nat.mul_le_mul_left _ factor)

/-! ## The wait there is -/

/-- The wait is the one described as long as its factor is a word of 32 bits, and `maxSleep` after
that. -/
theorem backoffDelay_eq :
    backoffDelay sleep failedIndex exponential =
      if exponential = true ∧ 32 ≤ failedIndex ∧ 0 < sleep then maxSleep
      else describedDelay sleep failedIndex exponential := by
  unfold backoffDelay
  by_cases none : sleep = 0
  · simp [none]
  rw [if_neg none]
  cases exponential with
  | false => simp [describedDelay]
  | true =>
    by_cases word : failedIndex < 32
    · have factor : ¬(true = true ∧ 32 ≤ failedIndex ∧ 0 < sleep) := fun h => by omega
      rw [if_pos rfl, if_neg factor]
      by_cases span : sleep * Nat.pow 2 failedIndex < spanLimit
      · rw [if_pos ⟨word, span⟩]
        rfl
      · -- A product that is no span is longer than the longest wait.
        have long : maxSleep ≤ sleep * Nat.pow 2 failedIndex :=
          le_trans (by decide) (not_lt.mp span)
        rw [if_neg fun h => span h.2]
        exact (min_eq_right long).symm
    · rw [if_pos rfl, if_neg fun h => word h.1,
        if_pos ⟨rfl, not_lt.mp word, Nat.pos_of_ne_zero none⟩]

theorem backoffDelay_mono_sleep : Monotone (backoffDelay · failedIndex exponential) := by
  intro short long le
  simp only [backoffDelay_eq]
  split
  · rename_i cut
    rw [if_pos ⟨cut.1, cut.2.1, lt_of_lt_of_le cut.2.2 le⟩]
  · split
    · exact describedDelay_le _ _ _
    · exact describedDelay_mono_sleep failedIndex exponential le

theorem backoffDelay_mono_index : Monotone (backoffDelay sleep · exponential) := by
  intro i j le
  simp only [backoffDelay_eq]
  split
  · rename_i cut
    rw [if_pos ⟨cut.1, cut.2.1.trans le, cut.2.2⟩]
  · split
    · exact describedDelay_le _ _ _
    · exact describedDelay_mono_index sleep exponential le

/-- The wait is another one than described just if it is cut off while it is still below
`maxSleep`. -/
theorem backoffDelay_eq_describedDelay_iff :
    backoffDelay sleep failedIndex exponential = describedDelay sleep failedIndex exponential ↔
      ¬(exponential = true ∧ 32 ≤ failedIndex ∧ 0 < sleep ∧
        sleep * Nat.pow 2 failedIndex < maxSleep) := by
  rw [backoffDelay_eq]
  split
  · rename_i cut
    obtain ⟨rfl, doubled, some⟩ := cut
    have described : maxSleep = describedDelay sleep failedIndex true ↔
        maxSleep ≤ sleep * Nat.pow 2 failedIndex := eq_comm.trans min_eq_right_iff
    rw [described, ← not_lt]
    exact not_congr ⟨fun short => ⟨rfl, doubled, some, short⟩, fun h => h.2.2.2⟩
  · rename_i kept
    exact iff_of_true rfl fun h => kept ⟨h.1, h.2.1, h.2.2.1⟩

/-! ## Where they differ -/

variable {sleep failedIndex}

/-- A span that is doubled thirty-two times and stays below `maxSleep` is very short. -/
theorem lt_sixty_of_lt_maxSleep (doubled : 32 ≤ failedIndex)
    (short : sleep * Nat.pow 2 failedIndex < maxSleep) : sleep < 60 := by
  refine not_le.mp fun long => absurd short (not_lt.mpr ?_)
  have factor : Nat.pow 2 32 ≤ Nat.pow 2 failedIndex := Nat.pow_le_pow_right (by decide) doubled
  calc maxSleep ≤ 60 * Nat.pow 2 32 := by decide
    _ ≤ sleep * Nat.pow 2 failedIndex := Nat.mul_le_mul long factor

/-- No span stays below `maxSleep` when it is doubled thirty-eight times. -/
theorem index_lt_of_lt_maxSleep (some : 0 < sleep)
    (short : sleep * Nat.pow 2 failedIndex < maxSleep) : failedIndex < 38 := by
  refine not_le.mp fun doubled => absurd short (not_lt.mpr ?_)
  have factor : Nat.pow 2 38 ≤ Nat.pow 2 failedIndex := Nat.pow_le_pow_right (by decide) doubled
  calc maxSleep ≤ 1 * Nat.pow 2 38 := by decide
    _ ≤ sleep * Nat.pow 2 failedIndex := Nat.mul_le_mul some factor

end Waits

/-- All waits are the ones described, but for those of less than sixty nanoseconds that are to be
doubled thirty-two to thirty-seven times and would still be below `maxSleep`: they are `maxSleep` at
once. A sleep of nothing stays nothing, and neither a longer sleep nor a further failure makes a wait
shorter. -/
theorem delays_as_described (sleep : Nanos) (failedIndex : Nat) (exponential : Bool) :
    (backoffDelay sleep failedIndex exponential = describedDelay sleep failedIndex exponential ∨
      backoffDelay sleep failedIndex exponential = maxSleep ∧ exponential = true ∧
        (32 ≤ failedIndex ∧ failedIndex < 38) ∧ 0 < sleep ∧ sleep < 60) ∧
    (backoffDelay sleep failedIndex exponential = describedDelay sleep failedIndex exponential ↔
      ¬(exponential = true ∧ 32 ≤ failedIndex ∧ 0 < sleep ∧
        sleep * Nat.pow 2 failedIndex < maxSleep)) ∧
    backoffDelay 0 failedIndex exponential = 0 ∧
    Monotone (backoffDelay · failedIndex exponential) ∧
    Monotone (backoffDelay sleep · exponential) := by
  have same := backoffDelay_eq_describedDelay_iff sleep failedIndex exponential
  refine ⟨?_, same, rfl, backoffDelay_mono_sleep failedIndex exponential,
    backoffDelay_mono_index sleep exponential⟩
  by_cases cut : exponential = true ∧ 32 ≤ failedIndex ∧ 0 < sleep ∧
      sleep * Nat.pow 2 failedIndex < maxSleep
  · obtain ⟨grows, doubled, some, short⟩ := cut
    have cap : backoffDelay sleep failedIndex exponential = maxSleep := by
      rw [backoffDelay_eq, if_pos ⟨grows, doubled, some⟩]
    exact .inr ⟨cap, grows, ⟨doubled, index_lt_of_lt_maxSleep some short⟩, some,
      lt_sixty_of_lt_maxSleep doubled short⟩
  · exact .inl (same.mpr cut)

/-- One nanosecond, doubled thirty-two times, is a little more than four seconds. The wait is
`maxSleep`. -/
theorem longest_wait_for_one_nanosecond :
    backoffDelay 1 32 true = maxSleep ∧ describedDelay 1 32 true = 4294967296 ∧
      backoffDelay 1 32 true ≠ describedDelay 1 32 true := by
  decide

end BatchSync
