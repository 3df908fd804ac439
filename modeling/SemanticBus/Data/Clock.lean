import Mathlib.Data.Rat.Floor

/-!
# Clock readings and durations

A `datetime` is a number of microseconds, its resolution.  Durations come as
whole seconds (the TTL fields) or as a rational number of seconds (the `float`
delays), and `timedelta` rounds the latter to microseconds, ties to even.

A `datetime` is in one of the years 1 to 9999, so `datetime + timedelta` raises an
`OverflowError` when the sum is not.  (So does a `timedelta` of more than 999999999
days, which no sum has room for either.)
-/

namespace SemanticBus

/-- A `datetime`, or a difference of two, in microseconds. -/
abbrev Time := Int

namespace Time

/-- A whole number of seconds. -/
def seconds (n : Int) : Time := n * 1000000

/-- `timedelta(seconds=s)`. -/
def timedelta (s : ℚ) : Time :=
  let x := s * 1000000
  let n := ⌊x⌋
  if x - n < 1 / 2 then n
  else if 1 / 2 < x - n then n + 1
  else if n % 2 = 0 then n else n + 1

def timestamp (t : Time) : ℚ := t / 1000000

/-- Whether there is such a `datetime`, from 0001-01-01 00:00:00 to the end of 9999. -/
def IsDate (t : Time) : Prop := -62135596800000000 ≤ t ∧ t ≤ 253402300799999999

instance : DecidablePred IsDate := fun _ ↦ inferInstanceAs (Decidable (_ ∧ _))

end Time

end SemanticBus
