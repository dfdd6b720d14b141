import Mathlib.Data.List.Basic

/-! A window that holds attempts back: one that comes less than the window after the last that
went out does not go out. Times are natural numbers and zero stands for none. -/
namespace Debounce

variable {α : Type*} (window : Nat)

def Held (last asked : Nat) : Prop := 0 < last ∧ asked < last + window

instance (last asked : Nat) : Decidable (Held window last asked) :=
  inferInstanceAs (Decidable (_ ∧ _))

/-- The attempts that go out, when `last` is the time of the one before them: each is asked for
at one time and done at another. -/
def passed (asked done_ : α → Nat) : Nat → List α → List α
  | _,[] => []
  | last,a :: rest =>
    if Held window last (asked a) then passed asked done_ last rest
    else a :: passed asked done_ (done_ a) rest

variable {window} {asked done_ : α → Nat}

theorem passed_sublist (last : Nat) (attempts : List α) :
    (passed window asked done_ last attempts).Sublist attempts := by
  induction attempts generalizing last with
  | nil => exact List.Sublist.refl _
  | cons a rest ih =>
    unfold passed
    split
    · exact (ih last).cons a
    · exact (ih (done_ a)).cons_cons a

end Debounce
