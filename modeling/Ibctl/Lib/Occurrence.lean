import Mathlib.Data.List.Basic
import Mathlib.Data.List.Infix

/-! The first occurrence of one list in another, as a search from the left finds it. -/
namespace Occurrence

variable {α : Type*} [DecidableEq α]

/-- What follows the first occurrence of the key. -/
def behind (key : List α) : List α → Option (List α)
  | [] => if key = [] then some [] else none
  | a :: rest => if key <+: a :: rest then some ((a :: rest).drop key.length) else behind key rest

variable {key : List α}

theorem behind_hit (key rest : List α) : behind key (key ++ rest) = some rest := by
  cases key with
  | nil => cases rest <;> simp [behind]
  | cons a key =>
    rw [List.cons_append,behind,if_pos (by simp)]
    simp

theorem behind_miss {a : α} {rest : List α} (other : ¬ key <+: a :: rest) :
    behind key (a :: rest) = behind key rest := by
  rw [behind,if_neg other]

theorem behind_other {first a : α} (other : a ≠ first) (rest : List α) :
    behind (first :: key) (a :: rest) = behind (first :: key) rest := by
  apply behind_miss
  rintro ⟨more,same⟩
  exact other (List.cons.inj same).1.symm

/-- Nothing that lacks the first element of the key holds the start of an occurrence. -/
theorem behind_append {first : α} {before : List α} (absent : first ∉ before) (rest : List α) :
    behind (first :: key) (before ++ rest) = behind (first :: key) rest := by
  induction before with
  | nil => rfl
  | cons a before ih =>
    obtain ⟨other,absent⟩ := not_or.mp (fun found => absent (List.mem_cons.mpr found))
    rw [List.cons_append,behind_other (Ne.symm other),ih absent]

theorem behind_none {first : α} {list : List α} (absent : first ∉ list) :
    behind (first :: key) list = none := by
  have nothing := @behind_append _ _ key _ _ absent []
  rw [List.append_nil] at nothing
  rw [nothing]
  rfl

/-- Nothing of which no part could start an occurrence holds one. -/
theorem behind_clear {before : List α}
    (clear : ∀ part ∈ before.tails, part ≠ [] → ¬ part <+: key ∧ ¬ key <+: part) (rest : List α) :
    behind key (before ++ rest) = behind key rest := by
  induction before with
  | nil => rfl
  | cons a before ih =>
    have here := clear (a :: before) (by simp) (by simp)
    have other : ¬ key <+: a :: (before ++ rest) := fun start => by
      rcases List.prefix_or_prefix_of_prefix start (List.prefix_append (a :: before) rest) with within | around
      · exact here.2 within
      · exact here.1 around
    rw [List.cons_append,behind_miss other]
    exact ih fun part among => clear part (by rw [List.tails_cons]; exact List.mem_cons_of_mem _ among)

theorem behind_some {list found : List α} (occurs : behind key list = some found) :
    ∃ before, list = before ++ key ++ found := by
  induction list with
  | nil =>
    rw [behind] at occurs
    split at occurs
    · next nothing =>
      cases occurs
      exact ⟨[],by simp [nothing]⟩
    · cases occurs
  | cons a list ih =>
    rw [behind] at occurs
    split at occurs
    · next start =>
      cases occurs
      exact ⟨[],(List.prefix_iff_eq_append.mp start).symm⟩
    · obtain ⟨before,rfl⟩ := ih occurs
      exact ⟨a :: before,rfl⟩

/-- The first occurrence stays the first one when the list goes on. -/
theorem behind_longer {first : α} {list found : List α} (occurs : behind (first :: key) list = some found)
    (rest : List α) : behind (first :: key) (list ++ rest) = some (found ++ rest) := by
  induction list with
  | nil => cases occurs
  | cons a list ih =>
    rw [behind] at occurs
    rw [List.cons_append,behind]
    split at occurs
    · next start =>
      cases occurs
      rw [← List.cons_append,if_pos (start.trans (List.prefix_append (a :: list) rest)),
        List.drop_append_of_le_length start.length_le]
    · next other =>
      obtain ⟨before,split⟩ := behind_some occurs
      have long : (first :: key).length ≤ (a :: list).length := by
        rw [split]
        simp only [List.length_cons,List.length_append]
        omega
      have still : ¬ first :: key <+: a :: (list ++ rest) := fun start =>
        other (List.prefix_of_prefix_length_le start (List.prefix_append (a :: list) rest) long)
      rw [if_neg still]
      exact ih occurs

theorem infix_of_ne {α : Type*} {first a : α} {key rest : List α} (other : a ≠ first) :
    first :: key <:+: a :: rest ↔ first :: key <:+: rest := by
  rw [List.infix_cons_iff]
  refine ⟨?_,.inr⟩
  rintro (start | behind)
  · exact absurd (List.cons_prefix_cons.mp start).1.symm other
  · exact behind

/-- No occurrence starts where the first element of the key is absent. -/
theorem infix_of_absent {α : Type*} {first : α} {key before : List α} (absent : first ∉ before) (rest : List α) :
    first :: key <:+: before ++ rest ↔ first :: key <:+: rest := by
  induction before with
  | nil => rfl
  | cons a before ih =>
    obtain ⟨other,absent⟩ := not_or.mp (fun found => absent (List.mem_cons.mpr found))
    rw [List.cons_append,infix_of_ne (Ne.symm other),ih absent]

end Occurrence
