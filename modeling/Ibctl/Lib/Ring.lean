import Mathlib.Data.List.Chain

/-! A log of bounded length: a new entry pushes the oldest one out. What relates neighbours goes
on relating them. -/
namespace Ring

variable {α : Type*} {R : α → α → Prop}

def push (cap : Nat) (entries : List α) (entry : α) : List α :=
  (if cap ≤ entries.length then entries.drop 1 else entries) ++ [entry]

@[simp] theorem push_getLast? (cap : Nat) (entries : List α) (entry : α) :
    (push cap entries entry).getLast? = some entry := by
  simp [push]

theorem push_ne_nil (cap : Nat) (entries : List α) (entry : α) : push cap entries entry ≠ [] := by
  simp [push]

theorem push_length_le {cap : Nat} (positive : 0 < cap) {entries : List α}
    (short : entries.length ≤ cap) (entry : α) : (push cap entries entry).length ≤ cap := by
  unfold push
  split
  · rw [List.length_append,List.length_drop,List.length_singleton]
    omega
  · rw [List.length_append,List.length_singleton]
    omega

theorem push_isChain {entries : List α} (cap : Nat) {entry : α} (chained : entries.IsChain R)
    (follows : ∀ last, entries.getLast? = some last → R last entry) :
    (push cap entries entry).IsChain R := by
  unfold push
  refine List.IsChain.append ?_ (List.IsChain.singleton entry) ?_
  · split
    · exact chained.drop 1
    · exact chained
  · intro last ends next starts
    obtain rfl : entry = next := by simpa using starts
    refine follows last ?_
    split at ends
    · rw [Option.mem_def,List.getLast?_drop] at ends
      split at ends
      · cases ends
      · exact ends
    · exact ends

end Ring
