import Mathlib.Data.List.Chain

/-! The search for the first two neighbours in a list that stand in a relation. -/
namespace Neighbours

variable {α : Type} (p : α → α → Bool)

def firstPair : List α → Option (α × α)
  | a :: b :: rest => if p a b then some (a,b) else firstPair (b :: rest)
  | [_] | [] => none

/-- The neighbours stand in the relation, and none before them do. -/
def First (l : List α) (a b : α) : Prop :=
  ∃ before after, l = before ++ a :: b :: after ∧ p a b = true ∧ (before ++ [a]).IsChain fun x y => p x y = false

variable {p}

theorem first_here {x y a b : α} {rest : List α} (holds : p x y = true) :
    First p (x :: y :: rest) a b ↔ (x,y) = (a,b) := by
  constructor
  · rintro ⟨before,after,same,-,chain⟩
    cases before with
    | nil =>
      obtain ⟨rfl,rfl,-⟩ := List.cons.inj same |>.imp id List.cons.inj
      rfl
    | cons z before =>
      obtain ⟨rfl,behind⟩ := List.cons.inj same
      have refused : p x y = false := by
        cases before with
        | nil =>
          obtain ⟨rfl,-⟩ := List.cons.inj behind
          exact (List.isChain_cons_cons.mp chain).1
        | cons w before =>
          obtain ⟨rfl,-⟩ := List.cons.inj behind
          exact (List.isChain_cons_cons.mp chain).1
      exact absurd (holds.symm.trans refused) Bool.noConfusion
  · intro same
    obtain ⟨rfl,rfl⟩ := Prod.mk.inj same
    exact ⟨[],rest,rfl,holds,List.isChain_singleton _⟩

theorem first_further {x y a b : α} {rest : List α} (refused : p x y = false) :
    First p (x :: y :: rest) a b ↔ First p (y :: rest) a b := by
  constructor
  · rintro ⟨before,after,same,found,chain⟩
    cases before with
    | nil =>
      obtain ⟨rfl,rfl,-⟩ := List.cons.inj same |>.imp id List.cons.inj
      exact absurd (found.symm.trans refused) Bool.noConfusion
    | cons z before =>
      obtain ⟨rfl,behind⟩ := List.cons.inj same
      exact ⟨before,after,behind,found,chain.tail⟩
  · rintro ⟨before,after,same,found,chain⟩
    refine ⟨x :: before,after,by rw [same]; rfl,found,?_⟩
    cases before with
    | nil =>
      obtain ⟨rfl,-⟩ := List.cons.inj same
      exact List.isChain_cons_cons.mpr ⟨refused,chain⟩
    | cons w before =>
      obtain ⟨rfl,-⟩ := List.cons.inj same
      exact List.isChain_cons_cons.mpr ⟨refused,chain⟩

theorem firstPair_iff {a b : α} (l : List α) : firstPair p l = some (a,b) ↔ First p l a b := by
  induction l with
  | nil =>
    refine ⟨fun found => absurd found (Option.some_ne_none (a,b)).symm,?_⟩
    rintro ⟨before,after,same,-⟩
    exact absurd same.symm (by simp)
  | cons x rest ih =>
    cases rest with
    | nil =>
      refine ⟨fun found => absurd found (Option.some_ne_none (a,b)).symm,?_⟩
      rintro ⟨before,after,same,-⟩
      have long := congrArg List.length same
      simp only [List.length_append,List.length_cons,List.length_nil] at long
      omega
    | cons y rest =>
      by_cases holds : p x y = true
      · rw [firstPair,if_pos holds,first_here holds,Option.some_inj]
      · rw [firstPair,if_neg holds,first_further ((Bool.not_eq_true _).mp holds)]
        exact ih

end Neighbours
