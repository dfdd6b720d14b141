import Ibctl.Time
import Ibctl.Lib.Files
import Ibctl.Lib.Text

/-! The two markers of the weekly cold restart. One names the day the restart last fired;
the other holds the moment a login replaced it, in the text form of a zoned date that a
library parses. Whatever cannot be read counts as not fired. -/
namespace Ibctl.ColdRestart
open Files

def coldRestartMarkerName : String := ".ibctl-cold-restart-marker"

def equivalentMarkerName : String := ".ibctl-cold-restart-equivalent-today"

def markerDate (year : Int32) (dayOfYear : UInt32) : String :=
  toString year ++ "-" ++ toString dayOfYear

def alreadyFired (files : Directory) (year : Int32) (dayOfYear : UInt32) : Bool :=
  match readToString files coldRestartMarkerName with
  | .ok contents => Text.trim contents = markerDate year dayOfYear
  | .error _ => false

def writeFiredMarker (files : Directory) (year : Int32) (dayOfYear : UInt32)
    (failure : Option String) : Except String Unit × Directory :=
  atomicWrite files coldRestartMarkerName (markerDate year dayOfYear) failure

def readColdRestartEquivalentMarker (zonedFromStr : String → Option Zoned)
    (files : Directory) : Option Zoned :=
  match readToString files equivalentMarkerName with
  | .ok raw => zonedFromStr (Text.trim raw)
  | .error _ => none

/-- What `already_fired` compares with the date. -/
def firedText (files : Directory) : Option String :=
  match readToString files coldRestartMarkerName with
  | .ok contents => some (Text.trim contents)
  | .error _ => none

theorem alreadyFired_iff (files : Directory) (year : Int32) (dayOfYear : UInt32) :
    alreadyFired files year dayOfYear = true ↔ firedText files = some (markerDate year dayOfYear) := by
  unfold alreadyFired firedText
  cases readToString files coldRestartMarkerName with
  | error e => simp
  | ok contents => simp

def NamesNoDay (files : Directory) : Prop :=
  ∀ year dayOfYear, alreadyFired files year dayOfYear = false

/-- Two directories answer alike for every day exactly when their markers hold the same
text, or neither of them is the text of a day. -/
theorem alreadyFired_eq_iff (files other : Directory) :
    (∀ year dayOfYear, alreadyFired files year dayOfYear = alreadyFired other year dayOfYear) ↔
      firedText files = firedText other ∨ (NamesNoDay files ∧ NamesNoDay other) := by
  constructor
  · intro alike
    by_cases named : ∃ year dayOfYear, alreadyFired files year dayOfYear = true
    · obtain ⟨year,dayOfYear,fired⟩ := named
      have fired' := (alike year dayOfYear) ▸ fired
      rw [alreadyFired_iff] at fired fired'
      exact .inl (fired.trans fired'.symm)
    · have silent : NamesNoDay files := by simpa [NamesNoDay] using named
      exact .inr ⟨silent,fun year dayOfYear => (alike year dayOfYear).symm.trans (silent _ _)⟩
  · rintro (same | ⟨silent,silent'⟩) year dayOfYear
    · rw [Bool.eq_iff_iff,alreadyFired_iff,alreadyFired_iff,same]
    · rw [silent,silent']

end Ibctl.ColdRestart
