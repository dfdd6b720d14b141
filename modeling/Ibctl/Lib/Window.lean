import Mathlib.Data.List.Basic
import Mathlib.Data.List.Pairwise

/-! A sliding window over times, and a dict from keys to values as an association list. -/
namespace Window

section Times

/-- The times that lie at most the width back. -/
def inside (width now : Nat) (times : List Nat) : List Nat :=
  times.filter fun time => decide (now ≤ time + width)

variable {width now later : Nat} {times : List Nat}

theorem inside_append (first second : List Nat) :
    inside width now (first ++ second) = inside width now first ++ inside width now second :=
  List.filter_append ..

/-- What has left the window does not come back. -/
theorem inside_inside (after : now ≤ later) (times : List Nat) :
    inside width later (inside width now times) = inside width later times := by
  unfold inside
  rw [List.filter_filter]
  refine List.filter_congr fun time _ => ?_
  have narrower : later ≤ time + width → now ≤ time + width := Nat.le_trans after
  simpa using narrower

/-- Of sorted times the old ones come first. -/
theorem dropWhile_eq_inside (sorted : times.Pairwise (· ≤ ·)) :
    times.dropWhile (fun time => decide (time < now - width)) = inside width now times := by
  unfold inside
  induction times with
  | nil => rfl
  | cons time rest ih =>
    obtain ⟨first,others⟩ := List.pairwise_cons.mp sorted
    by_cases old : time < now - width
    · have left_ : ¬ now ≤ time + width := by omega
      rw [List.dropWhile_cons_of_pos (by simpa using old),List.filter_cons_of_neg (by simpa using left_)]
      exact ih others
    · rw [List.dropWhile_cons_of_neg (by simpa using old),List.filter_eq_self.mpr]
      intro other among
      have least : time ≤ other := by
        rcases List.mem_cons.mp among with rfl | later
        · exact Nat.le_refl _
        · exact first other later
      simp only [decide_eq_true_eq]
      omega

end Times

section Dict

variable {κ ν : Type} [DecidableEq κ] (key other : κ) (value : ν) (dict : List (κ × ν))

theorem lookup_assign :
    (dict.map fun entry => if entry.1 = key then (key,value) else entry).lookup other =
      if other = key then (dict.lookup key).map fun _ => value else dict.lookup other := by
  induction dict with
  | nil => simp
  | cons entry rest ih =>
    obtain ⟨name,held⟩ := entry
    by_cases here : name = key
    · subst here
      by_cases same : other = name
      · subst same
        simp
      · simp [List.lookup_cons,same,beq_eq_false_iff_ne.mpr same,ih]
    · by_cases same : other = key
      · subst same
        have apart : other ≠ name := fun equal => here equal.symm
        simp [List.lookup_cons,here,beq_eq_false_iff_ne.mpr apart,ih]
      · simp only [List.map_cons,here,if_false,List.lookup_cons,ih,same]

theorem lookup_remove :
    (dict.filter fun entry => entry.1 ≠ key).lookup other =
      if other = key then none else dict.lookup other := by
  induction dict with
  | nil => simp
  | cons entry rest ih =>
    obtain ⟨name,held⟩ := entry
    by_cases here : name = key
    · subst here
      rw [List.filter_cons_of_neg (by simp),ih]
      by_cases same : other = name
      · simp [same]
      · simp [same,List.lookup_cons,beq_eq_false_iff_ne.mpr same]
    · rw [List.filter_cons_of_pos (by simpa using here)]
      by_cases same : other = key
      · subst same
        have apart : other ≠ name := fun equal => here equal.symm
        simp only [List.lookup_cons,beq_eq_false_iff_ne.mpr apart,ih]
      · simp only [List.lookup_cons,ih,same,if_false]

theorem keys_assign :
    (dict.map fun entry => if entry.1 = key then (key,value) else entry).map Prod.fst =
      dict.map Prod.fst := by
  rw [List.map_map]
  refine List.map_congr_left fun entry _ => ?_
  simp only [Function.comp_apply]
  split
  next same => exact same.symm
  next => rfl

end Dict

end Window
