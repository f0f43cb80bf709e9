import BatchSync.Number.Word

/-!
# Throttling

How long a producer has to pause so that an amount, averaged over the time it took and the pause,
keeps to a ceiling per second. Products are held at the largest word of 64 bits.
-/

namespace BatchSync

/-- The largest word of 64 bits. -/
def maxWord : Nat := wordLimit - 1

/-- A product of words, or the largest word if it is none. -/
def saturatingMul (a b : Nat) : Nat := min (a * b) maxWord

/-- The pause, in milliseconds, after an amount that took an interval of milliseconds, so that no
more than the limit is moved per second. There is none while the whole units moved per second keep
to the limit. -/
def throttleDelay (amount interval limit : Nat) : Nat :=
  let speed := saturatingMul amount 1000 / interval
  if speed ≤ limit then 0 else saturatingMul speed interval / limit - interval

end BatchSync
