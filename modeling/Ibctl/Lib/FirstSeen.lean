import Ibctl.Lib.Runs
import Mathlib.Data.List.Induction
import Mathlib.Order.Lattice

/-! When a key was first seen: a key keeps the time of its first sighting until it is
forgotten. The time that is kept is the earliest of the sightings since then. -/
namespace FirstSeen

variable {κ τ : Type*} [DecidableEq κ]

inductive Call (κ τ : Type*) where
  | seen (key : κ) (time : τ)
  | forget (key : κ)
  | forgetAll
deriving DecidableEq, Repr

namespace Call

def Forgets (key : κ) : Call κ τ → Prop
  | seen .. => False
  | forget other => other = key
  | forgetAll => True

/-- Calls for other keys leave a key alone. -/
def concerns (key : κ) : Call κ τ → Bool
  | seen other _ | forget other => other = key
  | forgetAll => true

def time? : Call κ τ → Option τ
  | seen _ time => some time
  | forget _ | forgetAll => none

end Call

abbrev Sightings (κ τ : Type*) := κ → Option τ

def step (first : Sightings κ τ) : Call κ τ → Sightings κ τ
  | .seen key time => if (first key).isSome then first else Function.update first key (some time)
  | .forget key => Function.update first key none
  | .forgetAll => fun _ => none

def empty : Sightings κ τ := fun _ => none

/-- The key was seen at a time since which it has not been forgotten. -/
def Since (calls : List (Call κ τ)) (key : κ) (time : τ) : Prop :=
  ∃ before after, calls = before ++ .seen key time :: after ∧
    ∀ call ∈ after, ¬ call.Forgets key

omit [DecidableEq κ] in
theorem since_nil (key : κ) (time : τ) : ¬ Since ([] : List (Call κ τ)) key time := by
  rintro ⟨before,after,split_,-⟩
  simp at split_

omit [DecidableEq κ] in
theorem since_concat (calls : List (Call κ τ)) (last : Call κ τ) (key : κ) (time : τ) :
    Since (calls ++ [last]) key time ↔
      last = .seen key time ∨ (¬ last.Forgets key ∧ Since calls key time) := by
  constructor
  · rintro ⟨before,after,split_,kept⟩
    rcases List.eq_nil_or_concat after with rfl | ⟨after,final,rfl⟩
    · left
      exact List.singleton_inj.mp (List.append_inj' split_ rfl).2
    · right
      rw [List.concat_eq_append] at kept
      rw [List.concat_eq_append,← List.cons_append,← List.append_assoc] at split_
      obtain ⟨same,ends⟩ := List.append_inj' split_ rfl
      obtain rfl := List.singleton_inj.mp ends
      exact ⟨kept last (by simp),before,after,same,
        fun call member => kept call (List.mem_append_left _ member)⟩
  · rintro (rfl | ⟨keeps,before,after,rfl,kept⟩)
    · exact ⟨calls,[],rfl,by simp⟩
    · refine ⟨before,after ++ [last],by simp,fun call member => ?_⟩
      rcases List.mem_append.mp member with earlier | final
      · exact kept call earlier
      · rw [List.mem_singleton.mp final]
        exact keeps

/-- What one call does to one key. -/
theorem step_apply (first : Sightings κ τ) (call : Call κ τ) (key : κ)
    [Decidable (call.Forgets key)] :
    step first call key =
      if call.Forgets key then none
      else if call.concerns key then (first key).or call.time? else first key := by
  cases call with
  | seen other time =>
    by_cases same : other = key
    · subst same
      cases known : first other with
      | some t => simp [step,Call.Forgets,Call.concerns,known]
      | none => simp [step,Call.Forgets,Call.concerns,Call.time?,known]
    · have apart : key ≠ other := fun equal => same equal.symm
      cases known : first other with
      | some t => simp [step,Call.Forgets,Call.concerns,known,same]
      | none => simp [step,Call.Forgets,Call.concerns,known,same,Function.update_of_ne apart]
  | forget other =>
    by_cases same : other = key
    · subst same
      simp [step,Call.Forgets]
    · have apart : key ≠ other := fun equal => same equal.symm
      simp [step,Call.Forgets,Call.concerns,same,Function.update_of_ne apart]
  | forgetAll => simp [step,Call.Forgets]

/-- A key is known exactly when it was seen and not forgotten since. -/
theorem run_isSome_iff (calls : List (Call κ τ)) (key : κ) :
    (Runs.run step empty calls key).isSome ↔ ∃ time, Since calls key time := by
  induction calls using List.reverseRecOn with
  | nil => simp [empty,since_nil]
  | append_singleton calls last ih =>
    classical
    simp only [Runs.run_concat,step_apply,since_concat]
    cases last with
    | seen other time =>
      by_cases same : other = key
      · subst same
        simp [Call.Forgets,Call.concerns,Call.time?]
      · simp [Call.Forgets,Call.concerns,same,ih]
    | forget other =>
      by_cases same : other = key
      · simp [Call.Forgets,same]
      · simp [Call.Forgets,Call.concerns,same,ih]
    | forgetAll => simp [Call.Forgets]

/-- The time that is kept is one of a sighting. -/
theorem since_of_run {calls : List (Call κ τ)} {key : κ} {time : τ}
    (known : Runs.run step empty calls key = some time) : Since calls key time := by
  induction calls using List.reverseRecOn generalizing time with
  | nil => simp [empty] at known
  | append_singleton calls last ih =>
    classical
    rw [Runs.run_concat,step_apply] at known
    rw [since_concat]
    split at known
    · cases known
    · rename_i keeps
      cases earlier : Runs.run step empty calls key with
      | some t =>
        obtain rfl : t = time := by simpa [earlier] using known
        exact .inr ⟨keeps,ih earlier⟩
      | none =>
        left
        cases last with
        | seen other at_ =>
          simp only [earlier,Call.concerns,Call.time?,Option.none_or,decide_eq_true_eq] at known
          split at known
          · rename_i same
            rw [same,Option.some_inj.mp known]
          · cases known
        | forget other | forgetAll => simp [earlier,Call.concerns,Call.time?] at known

/-- The calls for other keys do not matter. -/
theorem run_concerning (calls : List (Call κ τ)) (key : κ) :
    Runs.run step empty (calls.filter (·.concerns key)) key = Runs.run step empty calls key := by
  induction calls using List.reverseRecOn with
  | nil => rfl
  | append_singleton calls last ih =>
    classical
    rw [List.filter_append,Runs.run_concat,step_apply,← ih]
    cases concerned : last.concerns key with
    | true => simp [Runs.run_concat,step_apply,concerned]
    | false =>
      have keeps : ¬ last.Forgets key := by
        cases last <;> simp_all [Call.concerns,Call.Forgets]
      simp [concerned,keeps]

section Ordered

variable [LinearOrder τ]

/-- When the calls come in the order of their times, the time that is kept is the earliest of
the sightings since the key was forgotten. -/
theorem run_le_since {calls : List (Call κ τ)} (ordered : (calls.filterMap (·.time?)).Pairwise (· ≤ ·))
    {key : κ} {first time : τ} (known : Runs.run step empty calls key = some first)
    (seen : Since calls key time) : first ≤ time := by
  induction calls using List.reverseRecOn generalizing first time with
  | nil => exact absurd seen (since_nil key time)
  | append_singleton calls last ih =>
    classical
    rw [List.filterMap_append,List.pairwise_append] at ordered
    obtain ⟨earlier,-,across⟩ := ordered
    rw [since_concat] at seen
    rcases since_concat calls last key first |>.mp (since_of_run known) with rfl | ⟨keeps,before⟩
    · rcases seen with same | ⟨-,seen⟩
      · obtain ⟨-,rfl⟩ := Call.seen.inj same
        exact le_refl _
      · obtain ⟨t,there⟩ := Option.isSome_iff_exists.mp ((run_isSome_iff calls key).mpr ⟨time,seen⟩)
        have kept : some t = some first := by
          simpa [Runs.run_concat,step_apply,Call.Forgets,Call.concerns,there] using known
        rw [← Option.some_inj.mp kept]
        exact ih earlier there seen
    · rcases seen with rfl | ⟨-,seen⟩
      · obtain ⟨former,after,rfl,-⟩ := before
        exact across first (by simp [Call.time?]) time (by simp [Call.time?])
      · obtain ⟨t,there⟩ := Option.isSome_iff_exists.mp ((run_isSome_iff calls key).mpr ⟨time,seen⟩)
        have kept : t = first := by
          rw [Runs.run_concat,step_apply,if_neg keeps,there] at known
          split at known <;> simpa using known
        rw [← kept]
        exact ih earlier there seen

end Ordered

end FirstSeen
