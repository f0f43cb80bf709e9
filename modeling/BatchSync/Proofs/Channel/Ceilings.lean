import BatchSync.Channel.Flow

/-!
# Pauses and ceilings

How far the pause after an amount keeps the average down to a ceiling. Two quotients drop what is left
over: the units moved per second are whole (`wholeSpeed`), and so are the milliseconds of the pause.
Interval and pause together are the longer of the interval and the time that the whole units need
(`interval_add_throttleDelay`), and all else follows from that: a pause is never too long and falls
short by little (`pauses_are_measured`), and the ceiling is met exactly where no pause is needed or
nothing is left over (`ceiling_met_iff`).
-/

namespace BatchSync

/-- The whole units that are moved per second. -/
def wholeSpeed (amount interval : Nat) : Nat := saturatingMul amount 1000 / interval

/-! ## Products held at the largest word -/

theorem saturatingMul_le (a b : Nat) : saturatingMul a b ≤ a * b := Nat.min_le_left _ _

theorem saturatingMul_lt (a b : Nat) : saturatingMul a b < wordLimit :=
  Nat.lt_of_le_of_lt (Nat.min_le_right _ _) (by decide)

theorem saturatingMul_of_lt {a b : Nat} (fits : a * b < wordLimit) : saturatingMul a b = a * b :=
  Nat.min_eq_left (Nat.le_pred_of_lt fits)

theorem saturatingMul_mono {few many : Nat} (b : Nat) (le : few ≤ many) :
    saturatingMul few b ≤ saturatingMul many b := by
  have scaled : few * b ≤ many * b := Nat.mul_le_mul_right b le
  unfold saturatingMul
  omega

section Pauses

variable (amount interval limit : Nat)

/-! ## The whole units -/

theorem wholeSpeed_mul_le :
    wholeSpeed amount interval * interval ≤ saturatingMul amount 1000 := Nat.div_mul_le_self _ _

theorem wholeSpeed_mul_lt : wholeSpeed amount interval * interval < wordLimit :=
  Nat.lt_of_le_of_lt (wholeSpeed_mul_le amount interval) (saturatingMul_lt amount 1000)

theorem wholeSpeed_mono {few many : Nat} (le : few ≤ many) :
    wholeSpeed few interval ≤ wholeSpeed many interval :=
  Nat.div_le_div_right (saturatingMul_mono 1000 le)

/-! ## The pause -/

/-- The pause is what the whole units need beyond the interval. -/
theorem throttleDelay_eq :
    throttleDelay amount interval limit =
      wholeSpeed amount interval * interval / limit - interval := by
  show (if wholeSpeed amount interval ≤ limit then 0
    else saturatingMul (wholeSpeed amount interval) interval / limit - interval) = _
  rw [saturatingMul_of_lt (wholeSpeed_mul_lt amount interval)]
  split
  · rename_i slow
    -- Whole units within the limit need no more than the interval.
    have needed : wholeSpeed amount interval * interval / limit ≤ interval :=
      Nat.div_le_of_le_mul (Nat.mul_le_mul_right interval slow)
    exact (Nat.sub_eq_zero_of_le needed).symm
  · rfl

/-- Interval and pause together are the longer of the interval and what the whole units need. -/
theorem interval_add_throttleDelay :
    interval + throttleDelay amount interval limit =
      max interval (wholeSpeed amount interval * interval / limit) := by
  rw [throttleDelay_eq]
  omega

variable {amount interval limit}

/-- A pause is not too long: the average stays at the ceiling or above it. -/
theorem mul_interval_add_throttleDelay_le (pauses : 0 < throttleDelay amount interval limit) :
    limit * (interval + throttleDelay amount interval limit) ≤ amount * 1000 := by
  have together : interval + throttleDelay amount interval limit =
      wholeSpeed amount interval * interval / limit := by
    rw [throttleDelay_eq] at pauses ⊢
    omega
  calc limit * (interval + throttleDelay amount interval limit)
      = limit * (wholeSpeed amount interval * interval / limit) := by rw [together]
    _ ≤ wholeSpeed amount interval * interval := Nat.mul_div_le _ _
    _ ≤ saturatingMul amount 1000 := wholeSpeed_mul_le _ _
    _ ≤ amount * 1000 := saturatingMul_le _ _

/-- A pause falls short by less than a millisecond at the limit and one unit per second over the
interval. -/
theorem amount_lt (takesTime : 0 < interval) (ceiling : 0 < limit)
    (fits : amount * 1000 < wordLimit) :
    amount * 1000 < limit * (interval + throttleDelay amount interval limit + 1) + interval := by
  have whole : amount * 1000 < (wholeSpeed amount interval + 1) * interval := by
    rw [Nat.mul_comm, Nat.mul_comm _ interval, wholeSpeed, saturatingMul_of_lt fits,
      Nat.mul_comm amount]
    exact Nat.lt_mul_div_succ _ takesTime
  have needed : wholeSpeed amount interval * interval <
      limit * (wholeSpeed amount interval * interval / limit + 1) :=
    Nat.lt_mul_div_succ _ ceiling
  have longer : limit * (wholeSpeed amount interval * interval / limit + 1) ≤
      limit * (interval + throttleDelay amount interval limit + 1) := by
    rw [interval_add_throttleDelay]
    exact Nat.mul_le_mul_left _ (Nat.succ_le_succ (Nat.le_max_right _ _))
  rw [Nat.succ_mul] at whole
  omega

theorem throttleDelay_mono {few many : Nat} (le : few ≤ many) :
    throttleDelay few interval limit ≤ throttleDelay many interval limit := by
  have faster : wholeSpeed few interval * interval ≤ wholeSpeed many interval * interval :=
    Nat.mul_le_mul_right interval (wholeSpeed_mono interval le)
  rw [throttleDelay_eq, throttleDelay_eq]
  exact Nat.sub_le_sub_right (Nat.div_le_div_right faster) interval

theorem throttleDelay_anti {higher : Nat} (ceiling : 0 < limit) (le : limit ≤ higher) :
    throttleDelay amount interval higher ≤ throttleDelay amount interval limit := by
  rw [throttleDelay_eq, throttleDelay_eq]
  exact Nat.sub_le_sub_right (Nat.div_le_div_left le ceiling) interval

/-! ## Where the ceiling is met -/

/-- What the whole units need is enough for all that was moved just if nothing is left over in either
quotient. -/
theorem le_mul_div_iff (fits : amount * 1000 < wordLimit) :
    amount * 1000 ≤ limit * (wholeSpeed amount interval * interval / limit) ↔
      interval ∣ amount * 1000 ∧ limit ∣ amount * 1000 := by
  have whole : wholeSpeed amount interval = amount * 1000 / interval := by
    rw [wholeSpeed, saturatingMul_of_lt fits]
  rw [whole]
  constructor
  · intro enough
    have outer := Nat.mul_div_le (amount * 1000 / interval * interval) limit
    have inner := Nat.div_mul_le_self (amount * 1000) interval
    have exact : amount * 1000 / interval * interval = amount * 1000 := by omega
    rw [exact] at enough outer
    have met : amount * 1000 = limit * (amount * 1000 / limit) := Nat.le_antisymm enough outer
    exact ⟨(Nat.dvd_iff_div_mul_eq ..).mpr exact, ⟨_, met⟩⟩
  · rintro ⟨inner, outer⟩
    have needed : limit * (amount * 1000 / interval * interval / limit) = amount * 1000 := by
      rw [Nat.div_mul_cancel inner, Nat.mul_div_cancel' outer]
    exact Nat.le_of_eq needed.symm

end Pauses

/-- The pause after an amount meets the ceiling exactly where no pause is needed, or neither the units
per second nor the milliseconds leave anything over. -/
theorem ceiling_met_iff {amount interval limit : Nat} (fits : amount * 1000 < wordLimit) :
    amount * 1000 ≤ limit * (interval + throttleDelay amount interval limit) ↔
      amount * 1000 ≤ limit * interval ∨
        interval ∣ amount * 1000 ∧ limit ∣ amount * 1000 := by
  rw [interval_add_throttleDelay, ← le_mul_div_iff fits]
  rcases Nat.le_total interval (wholeSpeed amount interval * interval / limit) with le | le
  · rw [Nat.max_eq_right le]
    have longer := Nat.mul_le_mul_left limit le
    exact ⟨.inr, fun met => met.elim (fun slow => Nat.le_trans slow longer) id⟩
  · rw [Nat.max_eq_left le]
    have shorter := Nat.mul_le_mul_left limit le
    exact ⟨.inl, fun met => met.elim id fun even => Nat.le_trans even shorter⟩

/-- Two hundred units in a tenth of a second are paused for until they are down to a thousand per
second. -/
theorem ceiling_met_iff_even :
    200 * 1000 < wordLimit ∧ (100 ∣ 200 * 1000 ∧ 1000 ∣ 200 * 1000) ∧
      200 * 1000 ≤ 1000 * (100 + throttleDelay 200 100 1000) :=
  ⟨by decide, by decide, (ceiling_met_iff (by decide)).mpr (.inr (by decide))⟩

/-- One unit in half a second is almost two per second, but only one whole unit: there is no pause under
a ceiling of one. -/
theorem ceiling_exceeded_without_pause :
    throttleDelay 1 501 1 = 0 ∧ ¬1 * 1000 ≤ 1 * (501 + throttleDelay 1 501 1) := by
  decide

/-! ## Words -/

/-- The quotient of two words. There is none by zero. -/
def wordQuotient? (v w : UInt64) : Option UInt64 := if w = 0 then none else some (v / w)

/-- The product of two words, if it is a word. -/
def wordProduct? (v w : UInt64) : Option UInt64 :=
  if v.toNat * w.toNat < wordLimit then some (v * w) else none

/-- The difference of two words, if it is a word. -/
def wordDifference? (v w : UInt64) : Option UInt64 := if w ≤ v then some (v - w) else none

/-- The pause worked out on words, of which only the first product is held at the largest word. There is
none if a divisor is zero or a further result is no word. -/
def throttleDelayInWords? (amount interval limit : UInt64) : Option UInt64 := do
  let speed ← wordQuotient? (UInt64.ofNat (saturatingMul amount.toNat 1000)) interval
  if speed ≤ limit then return 0
  let needed ← wordQuotient? (← wordProduct? speed interval) limit
  wordDifference? needed interval

theorem wordQuotient?_eq {v w : UInt64} (pos : 0 < w.toNat) : wordQuotient? v w = some (v / w) := by
  refine if_neg fun zero => ?_
  rw [zero] at pos
  exact absurd pos (by decide)

theorem wordProduct?_eq {v w : UInt64} (word : v.toNat * w.toNat < wordLimit) :
    wordProduct? v w = some (v * w) := if_pos word

theorem toNat_mul_of_lt {v w : UInt64} (word : v.toNat * w.toNat < wordLimit) :
    (v * w).toNat = v.toNat * w.toNat := by
  rw [UInt64.toNat_mul]
  exact Nat.mod_eq_of_lt word

section OnWords

variable {amount interval limit : UInt64}

theorem toNat_wholeSpeed (amount interval : UInt64) :
    (UInt64.ofNat (saturatingMul amount.toNat 1000) / interval).toNat =
      wholeSpeed amount.toNat interval.toNat := by
  rw [UInt64.toNat_div, toNat_ofNat_eq_mod, Nat.mod_eq_of_lt (saturatingMul_lt _ _)]
  rfl

/-- No divisor of the pause is zero, and no result that it goes through is too large or too small for a
word, but for the first product. -/
theorem exists_throttleDelayInWords (takesTime : 0 < interval.toNat) (ceiling : 0 < limit.toNat) :
    ∃ delay, throttleDelayInWords? amount interval limit = some delay ∧
      delay.toNat = throttleDelay amount.toNat interval.toNat limit.toNat := by
  let speed := UInt64.ofNat (saturatingMul amount.toNat 1000) / interval
  have speed_eq : speed.toNat = wholeSpeed amount.toNat interval.toNat :=
    toNat_wholeSpeed amount interval
  have first : throttleDelayInWords? amount interval limit =
      if speed ≤ limit then some 0
      else (wordProduct? speed interval).bind fun product =>
        (wordQuotient? product limit).bind fun needed => wordDifference? needed interval := by
    unfold throttleDelayInWords?
    rw [wordQuotient?_eq takesTime]
    rfl
  rw [first, throttleDelay_eq, ← speed_eq]
  by_cases slow : speed ≤ limit
  · rw [if_pos slow]
    refine ⟨0, rfl, ?_⟩
    have needed : speed.toNat * interval.toNat / limit.toNat ≤ interval.toNat :=
      Nat.div_le_of_le_mul (Nat.mul_le_mul_right _ slow)
    exact (Nat.sub_eq_zero_of_le needed).symm
  · have word : speed.toNat * interval.toNat < wordLimit := by
      rw [speed_eq]
      exact wholeSpeed_mul_lt _ _
    have needed : (speed * interval / limit).toNat =
        speed.toNat * interval.toNat / limit.toNat := by
      rw [UInt64.toNat_div, toNat_mul_of_lt word]
    -- What is faster than the ceiling needs at least the interval.
    have longer : interval ≤ speed * interval / limit := by
      rw [UInt64.le_iff_toNat_le, needed, Nat.le_div_iff_mul_le ceiling, Nat.mul_comm]
      exact Nat.mul_le_mul_right _ (Nat.le_of_lt (Nat.lt_of_not_le slow))
    rw [if_neg slow, wordProduct?_eq word, Option.bind_some, wordQuotient?_eq ceiling,
      Option.bind_some]
    refine ⟨_, if_pos longer, ?_⟩
    rw [UInt64.toNat_sub_of_le _ _ longer, needed]

end OnWords

/-- Whatever the words: a pause leaves the average at the ceiling or above it; it falls short by less
than a millisecond at the limit and one unit per second over the interval; it does not get shorter when
more is moved, nor longer when the ceiling is higher; and no divisor is zero and no result wraps on the
way to it. -/
theorem pauses_are_measured (amount interval limit : UInt64) (takesTime : 0 < interval.toNat)
    (ceiling : 0 < limit.toNat) :
    let pause := throttleDelay amount.toNat interval.toNat limit.toNat
    (0 < pause → limit.toNat * (interval.toNat + pause) ≤ amount.toNat * 1000) ∧
    (amount.toNat * 1000 < wordLimit →
      amount.toNat * 1000 < limit.toNat * (interval.toNat + pause + 1) + interval.toNat) ∧
    (∀ more : UInt64, amount ≤ more →
      pause ≤ throttleDelay more.toNat interval.toNat limit.toNat) ∧
    (∀ higher : UInt64, limit ≤ higher →
      throttleDelay amount.toNat interval.toNat higher.toNat ≤ pause) ∧
    ∃ word, throttleDelayInWords? amount interval limit = some word ∧ word.toNat = pause :=
  ⟨mul_interval_add_throttleDelay_le, amount_lt takesTime ceiling,
    fun _ le => throttleDelay_mono (UInt64.le_iff_toNat_le.mp le),
    fun _ le => throttleDelay_anti ceiling (UInt64.le_iff_toNat_le.mp le),
    exists_throttleDelayInWords takesTime ceiling⟩

/-- The largest amount whose thousandfold is a word, under a low ceiling. -/
theorem pauses_are_measured_largestAmount :
    0 < throttleDelay 18446744073709551 501 7 ∧
      7 * (501 + throttleDelay 18446744073709551 501 7) ≤ 18446744073709551 * 1000 ∧
      18446744073709551 * 1000 < 7 * (501 + throttleDelay 18446744073709551 501 7 + 1) + 501 ∧
      throttleDelay 18446744073709551 501 7 ≤ throttleDelay 18446744073709551615 501 7 ∧
      throttleDelay 18446744073709551 501 8 ≤ throttleDelay 18446744073709551 501 7 :=
  have all := pauses_are_measured 18446744073709551 501 7 (by decide) (by decide)
  have pauses : 0 < throttleDelay 18446744073709551 501 7 := by decide
  ⟨pauses, all.1 pauses, all.2.1 (by decide), all.2.2.1 18446744073709551615 (by decide),
    all.2.2.2.1 8 (by decide)⟩

end BatchSync
