import Mathlib.Data.List.DropRight
import Mathlib.Tactic.Common

/-! Streaks: how many of the latest entries of a log are of one kind, and the saturating counter
that is set back by every other entry. -/
namespace Streaks

variable {α : Type*} (p : α → Bool)

/-- How many entries of the kind the log ends with. -/
def streak (log : List α) : Nat := (log.rtakeWhile p).length

/-- The counter of the present streak, which stops at a cap. -/
def tick (cap count : Nat) (a : α) : Nat := if p a then min (count + 1) cap else 0

variable {p} {log more : List α} {a : α} {cap n : Nat}

@[simp] theorem streak_nil : streak p [] = 0 := by
  unfold streak
  rw [List.rtakeWhile_nil,List.length_nil]

theorem streak_concat (log : List α) (a : α) :
    streak p (log ++ [a]) = if p a then streak p log + 1 else 0 := by
  unfold streak
  rw [List.rtakeWhile_concat]
  by_cases kind : p a
  · rw [if_pos kind,if_pos kind,List.length_append,List.length_singleton]
  · rw [if_neg kind,if_neg kind,List.length_nil]

theorem tick_streak (cap : Nat) (log : List α) (a : α) :
    tick p cap (min (streak p log) cap) a = min (streak p (log ++ [a])) cap := by
  unfold tick
  rw [streak_concat]
  by_cases kind : p a
  · rw [if_pos kind,if_pos kind]
    omega
  · rw [if_neg kind,if_neg kind,Nat.zero_min]

/-- Up to the cap, the saturated count tells whether the streak is long enough. -/
theorem le_min_streak (small : n ≤ cap) : n ≤ min (streak p log) cap ↔ n ≤ streak p log := by
  omega

/-- Entries of the kind make the streak at least as long as they are many. -/
theorem le_streak_append (kind : ∀ a ∈ more, p a = true) : more.length ≤ streak p (log ++ more) := by
  induction more using List.reverseRecOn with
  | nil => exact Nat.zero_le _
  | append_singleton more a ih =>
    have last : p a = true := kind a (by simp)
    have before : more.length ≤ streak p (log ++ more) := ih fun b member => kind b (by simp [member])
    rw [← List.append_assoc,streak_concat,if_pos last,List.length_append,List.length_singleton]
    omega

end Streaks
