import Mathlib.Data.List.DropRight
import Mathlib.Data.List.Induction

/-! Logs with debts: some entries bring one up, some settle it, and some must not come while one is
owed. -/
namespace Debts

variable {α ι : Type*} (raises settles : α → Bool)

/-- Something was brought up since the last settlement. -/
def Owed (log : List α) : Prop := ∃ a ∈ log.rtakeWhile (fun a => !settles a), raises a = true

instance (log : List α) : Decidable (Owed raises settles log) := List.decidableBEx _ _

/-- No entry that must not come while a debt is owed comes then. -/
def Settled (due : α → Bool) (log : List α) : Prop :=
  ∀ before a after, log = before ++ a :: after → due a = true → ¬ Owed raises settles before

/-- Every entry that asks for something is answered behind it, or the answer is pending. -/
def Answered (asks : α → Option ι) (answers : ι → α → Prop) (pending : ι → Prop) (log : List α) : Prop :=
  ∀ before a after i, log = before ++ a :: after → asks a = some i →
    pending i ∨ ∃ answer ∈ after, answers i answer

variable {raises settles}

theorem not_owed_nil : ¬ Owed raises settles [] := by
  rintro ⟨a,among,-⟩
  exact absurd among List.not_mem_nil

theorem owed_concat {log : List α} {a : α} :
    Owed raises settles (log ++ [a]) ↔ settles a = false ∧ (raises a = true ∨ Owed raises settles log) := by
  unfold Owed
  rw [List.rtakeWhile_concat]
  cases settles a with
  | true => simp
  | false =>
    simp only [Bool.not_false,if_true,List.mem_append,List.mem_singleton,true_and]
    constructor
    · rintro ⟨b,among | rfl,raised⟩
      · exact .inr ⟨b,among,raised⟩
      · exact .inl raised
    · rintro (raised | ⟨b,among,raised⟩)
      · exact ⟨a,.inr rfl,raised⟩
      · exact ⟨b,.inl among,raised⟩

/-- A split of a log that has just grown is one of the log before, or at its end. -/
theorem concat_split {log before after : List α} {a b : α} (split : log ++ [a] = before ++ b :: after) :
    before = log ∧ b = a ∧ after = [] ∨ ∃ rest, after = rest ++ [a] ∧ log = before ++ b :: rest := by
  rcases List.eq_nil_or_concat after with rfl | ⟨rest,last,rfl⟩
  · obtain ⟨same,last⟩ := List.append_inj' split rfl
    exact .inl ⟨same.symm,(List.singleton_inj.mp last).symm,rfl⟩
  · rw [List.concat_eq_append,← List.cons_append,← List.append_assoc] at split
    obtain ⟨same,last⟩ := List.append_inj' split rfl
    cases List.singleton_inj.mp last
    exact .inr ⟨rest,List.concat_eq_append,same⟩

theorem settled_nil {due : α → Bool} : Settled raises settles due [] := by
  intro before a after split
  simp at split

theorem Settled.concat {due : α → Bool} {log : List α} {a : α} (settled : Settled raises settles due log)
    (timely : due a = true → ¬ Owed raises settles log) : Settled raises settles due (log ++ [a]) := by
  intro before b after split isDue
  rcases concat_split split with ⟨rfl,rfl,-⟩ | ⟨rest,-,rest_⟩
  · exact timely isDue
  · exact settled before b rest rest_ isDue

variable {asks : α → Option ι} {answers : ι → α → Prop} {pending later : ι → Prop}

theorem answered_nil : Answered asks answers pending [] := by
  intro before a after i split
  simp at split

/-- What is no longer pending may be answered by the new entry. -/
theorem Answered.concat {log : List α} {a : α} (answered : Answered asks answers pending log)
    (goes_on : ∀ i, pending i → later i ∨ answers i a) (asked : ∀ i, asks a = some i → later i) :
    Answered asks answers later (log ++ [a]) := by
  intro before b after i split asks_
  rcases concat_split split with ⟨-,rfl,-⟩ | ⟨rest,rfl,rest_⟩
  · exact .inl (asked i asks_)
  · rcases answered before b rest i rest_ asks_ with waits | ⟨answer,among,fits⟩
    · exact (goes_on i waits).imp_right fun fits => ⟨a,by simp,fits⟩
    · exact .inr ⟨answer,List.mem_append_left _ among,fits⟩

theorem Answered.mono {log : List α} (answered : Answered asks answers pending log)
    (goes_on : ∀ i, pending i → later i) : Answered asks answers later log :=
  fun before a after i split asks_ => (answered before a after i split asks_).imp_left (goes_on i)

end Debts
