import Mathlib.Data.List.Nodup

/-! Runs of a step function over a list of inputs. A state is reached when some list
of inputs leads to it, so a statement about every list is a statement about every
reachable state. `Along` says that each input meets a condition in the state it is
given to, which is how a run whose steps are restricted is written down. -/
namespace Runs

variable {σ ι : Type*} (step : σ → ι → σ)

def run (start : σ) (inputs : List ι) : σ := inputs.foldl step start

@[simp] theorem run_nil (start : σ) : run step start [] = start := rfl

@[simp] theorem run_cons (start : σ) (input : ι) (rest : List ι) :
    run step start (input :: rest) = run step (step start input) rest := rfl

theorem run_append (start : σ) (first second : List ι) :
    run step start (first ++ second) = run step (run step start first) second :=
  List.foldl_append

theorem run_concat (start : σ) (inputs : List ι) (last : ι) :
    run step start (inputs ++ [last]) = step (run step start inputs) last := by
  rw [run_append]; rfl

def Along (good : σ → ι → Prop) : σ → List ι → Prop
  | _, [] => True
  | s, input :: rest => good s input ∧ Along good (step s input) rest

variable {step}

@[simp] theorem along_nil (good : σ → ι → Prop) (s : σ) : Along step good s [] := trivial

@[simp] theorem along_cons (good : σ → ι → Prop) (s : σ) (input : ι) (rest : List ι) :
    Along step good s (input :: rest) ↔ good s input ∧ Along step good (step s input) rest :=
  Iff.rfl

instance decidableAlong (good : σ → ι → Prop) [∀ s input, Decidable (good s input)] :
    ∀ (s : σ) (inputs : List ι), Decidable (Along step good s inputs)
  | _,[] => isTrue trivial
  | s,input :: rest =>
    have := decidableAlong good (step s input) rest
    inferInstanceAs (Decidable (good s input ∧ Along step good (step s input) rest))

theorem Along.mono {G H : σ → ι → Prop} (weaker : ∀ s input, G s input → H s input) {s : σ}
    {inputs : List ι} (along : Along step G s inputs) : Along step H s inputs := by
  induction inputs generalizing s with
  | nil => trivial
  | cons input rest ih => exact ⟨weaker _ _ along.1,ih along.2⟩

theorem along_append (good : σ → ι → Prop) (s : σ) (first second : List ι) :
    Along step good s (first ++ second) ↔
      Along step good s first ∧ Along step good (run step s first) second := by
  induction first generalizing s with
  | nil => simp
  | cons input rest ih => simp [ih,and_assoc]

theorem along_congr {G H : σ → ι → Prop} (same : ∀ s input, G s input ↔ H s input)
    (s : σ) (inputs : List ι) : Along step G s inputs ↔ Along step H s inputs := by
  induction inputs generalizing s with
  | nil => exact Iff.rfl
  | cons input rest ih => exact and_congr (same s input) (ih (step s input))

theorem along_and {G H : σ → ι → Prop} (s : σ) (inputs : List ι) :
    Along step (fun t input => G t input ∧ H t input) s inputs ↔
      Along step G s inputs ∧ Along step H s inputs := by
  induction inputs generalizing s with
  | nil => simp
  | cons input rest ih =>
    rw [along_cons,along_cons,along_cons,ih]
    exact and_and_and_comm

theorem along_of_forall {G : σ → ι → Prop} (s : σ) (inputs : List ι)
    (all : ∀ input ∈ inputs, ∀ t, G t input) : Along step G s inputs := by
  induction inputs generalizing s with
  | nil => trivial
  | cons input rest ih =>
    exact ⟨all input (by simp) s,ih _ (fun other member => all other (by simp [member]))⟩

/-- A run with a ghost beside it meets the conditions of the run it accompanies. -/
theorem along_map {τ : Type*} {ghost : τ → ι → τ} (f : τ → σ)
    (follows : ∀ t input, f (ghost t input) = step (f t) input) (good : σ → ι → Prop) (t : τ)
    (inputs : List ι) :
    Along step good (f t) inputs ↔ Along ghost (fun t input => good (f t) input) t inputs := by
  induction inputs generalizing t with
  | nil => exact Iff.rfl
  | cons input rest ih =>
    rw [along_cons,along_cons,← follows,ih]

/-- The invariant rule: what holds at the start and is kept by every step that meets
the condition holds in every state the run reaches. -/
theorem Along.invariant {G : σ → ι → Prop} {P : σ → Prop}
    (kept : ∀ s input, P s → G s input → P (step s input))
    {start : σ} {inputs : List ι} (initial : P start) (along : Along step G start inputs) :
    P (run step start inputs) := by
  induction inputs generalizing start with
  | nil => exact initial
  | cons input rest ih => exact ih (kept _ _ initial along.1) along.2

/-- A step property that follows from the invariant and the condition holds along the
whole run. -/
theorem Along.strengthen {G H : σ → ι → Prop} {P : σ → Prop}
    (kept : ∀ s input, P s → G s input → P (step s input))
    (gives : ∀ s input, P s → G s input → H s input)
    {start : σ} {inputs : List ι} (initial : P start) (along : Along step G start inputs) :
    Along step H start inputs := by
  induction inputs generalizing start with
  | nil => trivial
  | cons input rest ih =>
    exact ⟨gives _ _ initial along.1,ih (kept _ _ initial along.1) along.2⟩

/-- Two step properties that agree where the invariant and the condition hold agree along the
whole run. -/
theorem Along.congr {G H K : σ → ι → Prop} {P : σ → Prop}
    (kept : ∀ s input, P s → G s input → P (step s input))
    (same : ∀ s input, P s → G s input → (H s input ↔ K s input))
    {start : σ} {inputs : List ι} (initial : P start) (along : Along step G start inputs) :
    Along step H start inputs ↔ Along step K start inputs := by
  induction inputs generalizing start with
  | nil => exact Iff.rfl
  | cons input rest ih =>
    exact and_congr (same _ _ initial along.1) (ih (kept _ _ initial along.1) along.2)

/-- Two step properties that agree where an invariant holds that one of them keeps agree along
the whole run. -/
theorem along_iff {H K : σ → ι → Prop} {P : σ → Prop}
    (same : ∀ s input, P s → (H s input ↔ K s input))
    (kept : ∀ s input, P s → H s input → P (step s input))
    {start : σ} {inputs : List ι} (initial : P start) :
    Along step H start inputs ↔ Along step K start inputs := by
  induction inputs generalizing start with
  | nil => exact Iff.rfl
  | cons input rest ih =>
    rw [along_cons,along_cons,same start input initial]
    exact and_congr_right fun holds => ih (kept _ _ initial ((same _ _ initial).mpr holds))

section Views

variable {κ τ : Type*} {view : σ → τ} {f : σ → κ → σ} {key : κ} {keys : List κ}

theorem split_of_mem (distinct : keys.Nodup) (member : key ∈ keys) :
    ∃ before after, keys = before ++ key :: after ∧ key ∉ before ∧ key ∉ after := by
  obtain ⟨before,after,rfl⟩ := List.append_of_mem member
  obtain ⟨-,once,apart⟩ := List.nodup_append'.mp distinct
  exact ⟨before,after,rfl,fun found => apart found List.mem_cons_self,(List.nodup_cons.mp once).1⟩

theorem foldl_view_other (others : ∀ s other, other ≠ key → view (f s other) = view s) (absent : key ∉ keys) (s : σ) :
    view (keys.foldl f s) = view s := by
  induction keys generalizing s with
  | nil => rfl
  | cons other rest ih =>
    obtain ⟨ne,absent⟩ := not_or.mp (mt List.mem_cons.mpr absent)
    rw [List.foldl_cons,ih absent,others s other (Ne.symm ne)]

/-- What a fold over distinct keys does to the view of one of them is what that key alone does. -/
theorem foldl_view {own : τ → τ} (others : ∀ s other, other ≠ key → view (f s other) = view s)
    (self : ∀ s, view (f s key) = own (view s)) (distinct : keys.Nodup) (member : key ∈ keys) (s : σ) :
    view (keys.foldl f s) = own (view s) := by
  obtain ⟨before,after,rfl,earlier,later⟩ := split_of_mem distinct member
  rw [List.foldl_append,List.foldl_cons,foldl_view_other others later,self,foldl_view_other others earlier]

end Views

section Log

variable {α : Type*} {log : σ → List α} {adds : σ → ι → Option α}

/-- A log that is only appended to keeps its beginning. -/
theorem log_run_subset (appends : ∀ s input, log (step s input) = log s ++ (adds s input).toList)
    (s : σ) (inputs : List ι) : ∃ more, log (run step s inputs) = log s ++ more := by
  induction inputs generalizing s with
  | nil => exact ⟨[],(List.append_nil _).symm⟩
  | cons input rest ih =>
    obtain ⟨more,later⟩ := ih (step s input)
    exact ⟨(adds s input).toList ++ more,by rw [run_cons,later,appends,List.append_assoc]⟩

/-- A log that is only appended to has no entry twice exactly when no step of the run adds what
is in it. -/
theorem log_nodup_iff (appends : ∀ s input, log (step s input) = log s ++ (adds s input).toList)
    {s : σ} (fresh : (log s).Nodup) (inputs : List ι) :
    (log (run step s inputs)).Nodup ↔
      Along step (fun t input => ∀ a, adds t input = some a → a ∉ log t) s inputs := by
  induction inputs generalizing s with
  | nil => exact iff_of_true fresh trivial
  | cons input rest ih =>
    have next : (log (step s input)).Nodup ↔ ∀ a, adds s input = some a → a ∉ log s := by
      rw [appends]
      cases adds s input with
      | none => simp [fresh]
      | some a =>
        rw [Option.toList_some,← List.concat_eq_append,List.nodup_concat]
        simp [fresh]
    rw [run_cons,along_cons,← next]
    constructor
    · intro nodup
      obtain ⟨more,later⟩ := log_run_subset appends (step s input) rest
      have first : (log (step s input)).Nodup := by
        rw [later] at nodup
        exact (List.nodup_append.mp nodup).1
      exact ⟨first,(ih first).mp nodup⟩
    · rintro ⟨first,along⟩
      exact (ih first).mpr along

end Log

section Register

variable {α : Type*} (write : ι → Option α)

/-- A register that some inputs overwrite. -/
def register (value : α) (input : ι) : α := (write input).getD value

/-- The last input that writes to the register writes this value, if any does. -/
def LastWrites (value : α) (inputs : List ι) : Prop :=
  ∀ last, (inputs.filterMap write).getLast? = some last → last = value

variable {write}

theorem run_register (value : α) (inputs : List ι) :
    run (register write) value inputs = ((inputs.filterMap write).getLast?).getD value := by
  induction inputs generalizing value with
  | nil => rfl
  | cons input rest ih =>
    rw [run_cons,ih,List.filterMap_cons]
    cases written : write input with
    | none => simp [register,written]
    | some new => simp [register,written,List.getLast?_cons]

/-- An input that is taken after the rest instead of before it leaves the register as it
would have been exactly when the rest does not overwrite it with something else. -/
theorem register_late_iff (value : α) (input : ι) (rest : List ι) :
    register write (run (register write) value rest) input =
        run (register write) (register write value input) rest ↔
      ∀ new, write input = some new → LastWrites write new rest := by
  cases written : write input with
  | none => simp [register,written]
  | some new =>
    have late : register write (run (register write) value rest) input = new := by
      simp [register,written]
    have early : register write value input = new := by simp [register,written]
    rw [late,early,run_register]
    constructor
    · rintro same _ ⟨⟩ last found
      rw [found] at same
      exact same.symm
    · intro last
      cases found : (rest.filterMap write).getLast? with
      | none => rfl
      | some final => exact (last new rfl final found).symm

end Register

end Runs
