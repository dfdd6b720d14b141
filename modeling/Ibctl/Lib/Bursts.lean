import Mathlib.Data.List.DropRight
import Mathlib.Data.List.Infix

/-! Bursts in a list: stretches of elements of one kind without another one between them. -/
namespace Bursts

variable {α : Type*} {p : α → Bool}

/-- No stretch of the kind is longer than so many elements. -/
def AtMost (p : α → Bool) (n : Nat) (list : List α) : Prop :=
  ∀ burst, burst <:+: list → (∀ a ∈ burst, p a = true) → burst.length ≤ n

theorem atMost_nil (n : Nat) : AtMost p n [] := by
  intro burst within _
  rw [List.infix_nil.mp within]
  exact Nat.zero_le n

theorem length_le_last {burst list : List α} (ends : burst <:+ list) (kind : ∀ a ∈ burst, p a = true) :
    burst.length ≤ (list.rtakeWhile p).length := by
  obtain ⟨before,rfl⟩ := ends
  have reversed : ∀ a ∈ burst.reverse, p a = true := fun a among => kind a (List.mem_reverse.mp among)
  rw [List.rtakeWhile,List.reverse_append,List.takeWhile_append_of_pos reversed,List.length_reverse,
    List.length_append,List.length_reverse]
  exact Nat.le_add_right _ _

/-- An element more matters for the last burst only. -/
theorem atMost_concat {n : Nat} {list : List α} {a : α} (before : AtMost p n list)
    (last : ((list ++ [a]).rtakeWhile p).length ≤ n) : AtMost p n (list ++ [a]) := by
  intro burst within kind
  rcases List.infix_concat_iff.mp within with ends | earlier
  · exact (length_le_last ends kind).trans last
  · exact before burst earlier kind

end Bursts
