import Mathlib.Data.Prod.Lex
import Mathlib.Algebra.Order.Ring.Int

/-! Civil dates and times of day. A date is a year with a day of it, in the proleptic
Gregorian calendar; a time counts from midnight. -/
namespace Calendar

def isLeapYear (year : Int) : Bool := year % 4 = 0 && (year % 100 ≠ 0 || year % 400 = 0)

def daysInYear (year : Int) : Nat := if isLeapYear year then 366 else 365

structure Date where
  year : Int
  dayOfYear : Nat
  inRange : -9999 ≤ year ∧ year ≤ 9999
  inYear : 1 ≤ dayOfYear ∧ dayOfYear ≤ daysInYear year
deriving DecidableEq

theorem Date.ext_iff' {d e : Date} : d = e ↔ d.year = e.year ∧ d.dayOfYear = e.dayOfYear := by
  cases d
  cases e
  simp

namespace Date

/-- The years come first. -/
instance : LinearOrder Date :=
  LinearOrder.lift' (fun d => toLex (d.year,d.dayOfYear)) fun _ _ same =>
    ext_iff'.mpr (Prod.ext_iff.mp (toLex.injective same))

/-- The days of all years since the first one. -/
def daysBefore (year : Int) : Int :=
  365 * (year - 1) + (year - 1) / 4 - (year - 1) / 100 + (year - 1) / 400

/-- The day of the week from Sunday on: the first of January of year one is a Monday. -/
def weekday (d : Date) : Nat := ((daysBefore d.year + d.dayOfYear) % 7).toNat

end Date

structure Time where
  hour : Nat
  minute : Nat
  second : Nat
  nanosecond : Nat
  hours : hour ≤ 23
  minutes : minute ≤ 59
  seconds : second ≤ 59
  nanoseconds : nanosecond < 10 ^ 9
deriving DecidableEq

namespace Time

def new (hour minute second nanosecond : Nat) : Option Time :=
  if inRange : hour ≤ 23 ∧ minute ≤ 59 ∧ second ≤ 59 ∧ nanosecond < 10 ^ 9 then
    some ⟨hour,minute,second,nanosecond,inRange.1,inRange.2.1,inRange.2.2.1,inRange.2.2.2⟩
  else none

def nanos (t : Time) : Nat := ((t.hour * 60 + t.minute) * 60 + t.second) * 10 ^ 9 + t.nanosecond

instance : LT Time := ⟨fun t u => t.nanos < u.nanos⟩

instance (t u : Time) : Decidable (t < u) := inferInstanceAs (Decidable (t.nanos < u.nanos))

theorem lt_iff {t u : Time} : t < u ↔ t.nanos < u.nanos := Iff.rfl

/-- The whole minute a time begins at. -/
def atMinute (hour minute : Nat) (hours : hour ≤ 23) (minutes : minute ≤ 59) : Time :=
  ⟨hour,minute,0,0,hours,minutes,by omega,by omega⟩

theorem new_of_le {hour minute : Nat} (hours : hour ≤ 23) (minutes : minute ≤ 59) :
    new hour minute 0 0 = some (atMinute hour minute hours minutes) := by
  unfold new
  rw [dif_pos ⟨hours,minutes,by omega,by omega⟩]
  rfl

/-- A time is before a whole minute exactly when its own hour and minute are. -/
theorem lt_atMinute {t : Time} {hour minute : Nat} (hours : hour ≤ 23) (minutes : minute ≤ 59) :
    t < atMinute hour minute hours minutes ↔
      t.hour < hour ∨ t.hour = hour ∧ t.minute < minute := by
  have seconds := t.seconds
  have nanoseconds := t.nanoseconds
  have ownMinutes := t.minutes
  rw [lt_iff]
  unfold nanos atMinute
  constructor
  · intro before
    simp only at before
    omega
  · intro before
    simp only
    omega

end Time

structure DateTime where
  date : Date
  time : Time
deriving DecidableEq

end Calendar
