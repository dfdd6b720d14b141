import Mathlib.Algebra.Order.Ring.Int
import Mathlib.Tactic.NormNum

/-! The two clocks the supervisor reads. Durations are counted in nanoseconds, as
`std::time` and `jiff` count them; seconds are what the thresholds are given in. -/
namespace Ibctl

abbrev Duration := Nat

namespace Duration

def fromSecs (secs : Nat) : Duration := secs * 10 ^ 9

def fromMillis (millis : Nat) : Duration := millis * 10 ^ 6

def asSecs (d : Duration) : Nat := d / 10 ^ 9

theorem fromSecs_le_iff (secs : Nat) (d : Duration) : fromSecs secs ≤ d ↔ secs ≤ d.asSecs := by
  exact (Nat.le_div_iff_mul_le (by norm_num)).symm

end Duration

/-- A reading of the monotonic clock, in nanoseconds. -/
structure Instant where
  nanos : Int
deriving DecidableEq, Repr

namespace Instant

def checkedDurationSince (self earlier : Instant) : Option Duration :=
  if earlier.nanos ≤ self.nanos then some (self.nanos - earlier.nanos).toNat else none

/-- `duration_since` and `elapsed` saturate: an earlier reading gives zero. -/
def durationSince (self earlier : Instant) : Duration :=
  (self.checkedDurationSince earlier).getD 0

/-- The seconds of an instant are an `i64`, so a subtraction can fall out of range. -/
def checkedSub (self : Instant) (d : Duration) : Option Instant :=
  if -(2 ^ 63 * 10 ^ 9) ≤ self.nanos - d then some ⟨self.nanos - d⟩ else none

def add (self : Instant) (d : Duration) : Instant := ⟨self.nanos + d⟩

theorem durationSince_eq (self earlier : Instant) :
    self.durationSince earlier = (self.nanos - earlier.nanos).toNat := by
  unfold durationSince checkedDurationSince
  split
  · rfl
  · exact (Int.toNat_of_nonpos (by omega)).symm

theorem durationSince_cast {self earlier : Instant} (forward : earlier.nanos ≤ self.nanos) :
    ((self.durationSince earlier : Nat) : Int) = self.nanos - earlier.nanos := by
  rw [durationSince_eq]
  exact Int.toNat_of_nonneg (by omega)

theorem asSecs_checkedDurationSince (self earlier : Instant) :
    ((self.checkedDurationSince earlier).map Duration.asSecs).getD 0 =
      (self.durationSince earlier).asSecs := by
  unfold durationSince
  cases self.checkedDurationSince earlier with
  | none => rfl
  | some d => rfl

end Instant

/-- A wall-clock reading: nanoseconds since the epoch and the zone it is shown in. -/
structure Zoned where
  timestamp : Int
  timeZone : String
deriving DecidableEq, Repr

/-- `Timestamp::as_second` drops the fraction, towards zero. -/
def asSecond (timestamp : Int) : Int := timestamp.tdiv (10 ^ 9)

/-- The wall seconds from one reading to a later one; a clock that ran backwards gives zero. -/
def wallSecsSince (now since : Zoned) : Nat :=
  (asSecond now.timestamp - asSecond since.timestamp).toNat

structure Clocks where
  wall : Zoned
  mono : Instant
deriving DecidableEq, Repr

end Ibctl
