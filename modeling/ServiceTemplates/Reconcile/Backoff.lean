import ServiceTemplates.SortedMap

/-!
# Retry delays

The delay before a failed object is tried again doubles with every failure, from a
start up to a maximum that is at least the start. Failures are counted per key, and
forgetting a key starts its count anew. All times are in nanoseconds. Factors and
counts are words of 32 bits, and neither a count nor a time goes beyond the greatest
there is.
-/

namespace ServiceTemplates

/-! ## Times -/

/-- A millisecond, in nanoseconds. -/
def Time.millisecond : Nat := 1000000

/-- A second, in nanoseconds. -/
def Time.second : Nat := 1000000000

/-- The longest time that there is: the whole seconds are a word of 64 bits, and less than
another second comes on top. -/
def longestTime : Nat := 0xFFFFFFFFFFFFFFFF * Time.second + (Time.second - 1)

/-- A multiple of a time; beyond the longest time it is the longest time. -/
def multipleOfTime (time : Nat) (factor : UInt32) : Nat :=
  Nat.min (time * factor.toNat) longestTime

/-! ## Delays -/

/-- An exponential schedule of delays. -/
structure Schedule where
  start : Nat
  max : Nat
deriving DecidableEq, Inhabited

namespace Schedule

/-- A schedule from a start and a maximum, the maximum raised to the start. -/
def ofBounds (start max : Nat) : Schedule := ⟨start, Nat.max max start⟩

/-- How often the start is taken after a number of failures. -/
def factor (failures : Nat) : UInt32 := 1 <<< UInt32.ofNat (Nat.min (failures - 1) 31)

/-- The delay after a number of failures, at least one, without success in between. -/
def delay (s : Schedule) (failures : Nat) : Nat :=
  Nat.min (multipleOfTime s.start (factor failures)) s.max

end Schedule

/-! ## Failures -/

def failureBound : Nat := 0xFFFFFFFF

/-- The failures of each key since its last success. -/
structure Backoff where
  schedule : Schedule
  counts : SortedMap String Nat := ∅
deriving DecidableEq, Inhabited

namespace Backoff

/-- No failures yet. -/
def ofBounds (start max : Nat) : Backoff := { schedule := .ofBounds start max }

def failures (b : Backoff) (key : String) : Nat := (b.counts.find? key).getD 0

/-- Counts a failure of a key; the delay before it is tried again comes first. -/
def fail (b : Backoff) (key : String) : Nat × Backoff :=
  let failures := Nat.min (b.failures key + 1) failureBound
  (b.schedule.delay failures, { b with counts := b.counts.insert key failures })

def forget (b : Backoff) (key : String) : Backoff := { b with counts := b.counts.erase key }

end Backoff

end ServiceTemplates
