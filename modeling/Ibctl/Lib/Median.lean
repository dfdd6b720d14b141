import Mathlib.Data.List.Sort
import Mathlib.Tactic.Common

/-! Ranks in a sorted list and the upper median: where it lies depends on how many entries lie
below a bound, so that entries in the minority cannot move it out of an interval. -/
namespace Median

variable {α : Type*} [LinearOrder α] {l : List α} {a b : α} {k : Nat}

section Ranks

/-- The entry of some rank is at most a bound just when more entries than the rank are. -/
theorem getElem_le_iff (sorted : l.Pairwise (· ≤ ·)) (inside : k < l.length) (b : α) :
    l[k] ≤ b ↔ k < l.countP (fun x => x ≤ b) := by
  induction l generalizing k with
  | nil => exact absurd inside (Nat.not_lt_zero k)
  | cons a l ih =>
    obtain ⟨least,rest⟩ := List.pairwise_cons.mp sorted
    by_cases low : a ≤ b
    · rw [List.countP_cons_of_pos (by simpa using low)]
      cases k with
      | zero => exact ⟨fun _ => Nat.succ_pos _,fun _ => low⟩
      | succ k =>
        rw [List.getElem_cons_succ,ih rest (Nat.lt_of_succ_lt_succ inside)]
        exact Nat.succ_lt_succ_iff.symm
    · have none_ : (a :: l).countP (fun x => x ≤ b) = 0 := by
        refine List.countP_eq_zero.mpr fun x member => ?_
        rcases List.mem_cons.mp member with rfl | member
        · simpa using low
        · simpa using lt_of_lt_of_le (not_le.mp low) (least x member)
      have high : ¬ (a :: l)[k] ≤ b := by
        intro under
        have first : a ≤ (a :: l)[k] := by
          cases k with
          | zero => exact le_rfl
          | succ k => exact least _ (List.getElem_mem _)
        exact low (first.trans under)
      rw [none_]
      exact ⟨fun under => absurd under high,fun some_ => absurd some_ (Nat.not_lt_zero k)⟩

/-- The entry of some rank is at least a bound just when no more entries than the rank are below it. -/
theorem le_getElem_iff (sorted : l.Pairwise (· ≤ ·)) (inside : k < l.length) (a : α) :
    a ≤ l[k] ↔ l.countP (fun x => x < a) ≤ k := by
  induction l generalizing k with
  | nil => exact absurd inside (Nat.not_lt_zero k)
  | cons first l ih =>
    obtain ⟨least,rest⟩ := List.pairwise_cons.mp sorted
    by_cases low : first < a
    · rw [List.countP_cons_of_pos (by simpa using low)]
      cases k with
      | zero => exact ⟨fun under => absurd low (not_lt.mpr under),fun none_ => absurd none_ (Nat.not_succ_le_zero _)⟩
      | succ k =>
        rw [List.getElem_cons_succ,ih rest (Nat.lt_of_succ_lt_succ inside)]
        exact Nat.succ_le_succ_iff.symm
    · have none_ : (first :: l).countP (fun x => x < a) = 0 := by
        refine List.countP_eq_zero.mpr fun x member => ?_
        rcases List.mem_cons.mp member with rfl | member
        · simpa using low
        · simpa using (not_lt.mp low).trans (least x member)
      have high : a ≤ (first :: l)[k] := by
        cases k with
        | zero => exact not_lt.mp low
        | succ k => exact (not_lt.mp low).trans (least _ (List.getElem_mem _))
      rw [none_]
      exact ⟨fun _ => Nat.zero_le k,fun _ => high⟩

end Ranks

section Upper

/-- The entry in the middle of the sorted list, of two the upper one. -/
def upper (l : List α) : Option α := (l.mergeSort (fun x y => decide (x ≤ y)))[l.length / 2]?

theorem upper_none : upper l = none ↔ l = [] := by
  rw [upper,List.getElem?_eq_none_iff,List.length_mergeSort]
  cases l with
  | nil => simp
  | cons a l => simp only [List.length_cons,reduceCtorEq,iff_false]; omega

/-- The median lies between two bounds just when at most half of the entries lie below the lower
one and more than half do not lie above the upper one. -/
theorem upper_between_iff {m : α} (found : upper l = some m) :
    (a ≤ m ∧ m ≤ b) ↔
      l.countP (fun x => x < a) ≤ l.length / 2 ∧ l.length / 2 < l.countP (fun x => x ≤ b) := by
  obtain ⟨inside,same⟩ := List.getElem?_eq_some_iff.mp found
  have sorted := List.pairwise_mergeSort' (r := (· ≤ ·)) l
  have same_ := List.mergeSort_perm l (fun x y => decide (x ≤ y))
  rw [← same,le_getElem_iff sorted inside,getElem_le_iff sorted inside,same_.countP_eq,same_.countP_eq]

/-- A majority decides. -/
theorem upper_of_majority {m : α} (found : upper l = some m)
    (majority : l.length < 2 * l.countP (fun x => decide (a ≤ x ∧ x ≤ b))) : a ≤ m ∧ m ≤ b := by
  have apart : l.countP (fun x => decide (a ≤ x ∧ x ≤ b)) ≤ l.countP (fun x => ¬ decide (x < a) = true) := by
    refine List.countP_mono_left fun x _ inside => ?_
    simpa using (of_decide_eq_true inside).1
  have whole := List.length_eq_countP_add_countP (fun x => decide (x < a)) (l := l)
  have within : l.countP (fun x => decide (a ≤ x ∧ x ≤ b)) ≤ l.countP (fun x => x ≤ b) :=
    List.countP_mono_left fun x _ inside => by simpa using (of_decide_eq_true inside).2
  exact (upper_between_iff found).mpr (by omega)

theorem upper_mem {m : α} (found : upper l = some m) : m ∈ l :=
  (List.mergeSort_perm l _).mem_iff.mp (List.mem_of_getElem? found)

end Upper

end Median
