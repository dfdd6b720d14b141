import Mathlib.Data.List.Infix

/-! Rosters that are kept by news: an entry says of one key whether it is listed, and of several the
last one counts. -/
namespace Rosters

variable {ι : Type*} [DecidableEq ι]

/-- What is said last of a key. -/
def said (i : ι) : List (ι × Bool) → Option Bool
  | [] => none
  | entry :: later => (said i later).or (if entry.1 = i then some entry.2 else none)

/-- The news lead from one roster to the other. -/
def Leads (base : ι → Prop) (news : List (ι × Bool)) (listed : ι → Prop) : Prop :=
  ∀ i, listed i ↔ (said i news).elim (base i) (· = true)

/-- The roster is what the news say of it. -/
def Agrees (news : List (ι × Bool)) (listed : ι → Prop) : Prop :=
  ∀ i, ∀ present ∈ said i news, (present = true ↔ listed i)

/-- To this roster the entry is no news, or there is later news of its key. -/
def Passed (base : ι → Prop) (entry : ι × Bool) (later : List (ι × Bool)) : Prop :=
  (entry.2 = true ↔ base entry.1) ∨ said entry.1 later ≠ none

variable {base after listed : ι → Prop} {news first second later : List (ι × Bool)} {entry : ι × Bool} {i : ι}

theorem said_append : said i (first ++ second) = (said i second).or (said i first) := by
  induction first with
  | nil => simp [said]
  | cons entry rest ih =>
    rw [List.cons_append,said,ih,said,Option.or_assoc]

theorem said_single : said i [entry] = if entry.1 = i then some entry.2 else none := by
  rw [said,said,Option.none_or]

theorem said_concat_own {present : Bool} : said i (news ++ [(i,present)]) = some present := by
  rw [said_append,said_single,if_pos rfl,Option.some_or]

theorem said_concat_other {present : Bool} {j : ι} (other : j ≠ i) : said i (news ++ [(j,present)]) = said i news := by
  rw [said_append,said_single,if_neg other,Option.none_or]

theorem Agrees.suffix (agrees : Agrees news listed) (ends : second <:+ news) : Agrees second listed := by
  obtain ⟨first,rfl⟩ := ends
  intro i present told
  refine agrees i present ?_
  rw [said_append,Option.mem_def.mp told]
  rfl

/-- A change of one key that the news tell of. -/
theorem Agrees.concat {present : Bool} (agrees : Agrees news listed) (others : ∀ j, j ≠ i → (after j ↔ listed j))
    (own : present = true ↔ after i) : Agrees (news ++ [(i,present)]) after := by
  intro j told among
  by_cases same : i = j
  · subst same
    rw [said_concat_own] at among
    cases among
    exact own
  · rw [said_concat_other same] at among
    exact (agrees j told among).trans (others j (Ne.symm same)).symm

/-- A change of which nothing is said. -/
theorem Agrees.retarget (agrees : Agrees news listed) (same : ∀ i, said i news ≠ none → (after i ↔ listed i)) :
    Agrees news after := by
  intro i present told
  refine (agrees i present told).trans (same i fun untold => ?_).symm
  cases untold.symm.trans told

theorem leads_of_agrees (agrees : Agrees news listed) : Leads listed news listed := by
  intro i
  cases told : said i news with
  | none => exact Iff.rfl
  | some present => exact (agrees i present told).symm

theorem leads_nil : Leads base [] listed ↔ ∀ i, listed i ↔ base i := Iff.rfl

theorem Leads.concat {present : Bool} (leads : Leads base news listed) (others : ∀ j, j ≠ i → (after j ↔ listed j))
    (own : present = true ↔ after i) : Leads base (news ++ [(i,present)]) after := by
  intro j
  by_cases same : i = j
  · subst same
    rw [said_concat_own]
    exact own.symm
  · rw [said_concat_other same]
    exact (others j (Ne.symm same)).trans (leads j)

/-- A roster may change where the news have the last word. -/
theorem Leads.rebase (leads : Leads base news listed) (same : ∀ i, said i news = none → (after i ↔ base i)) :
    Leads after news listed := by
  intro i
  refine (leads i).trans ?_
  cases told : said i news with
  | none => exact (same i told).symm
  | some present => exact Iff.rfl

/-- The first of the news is entered. -/
theorem Leads.enter (leads : Leads base (entry :: later) listed)
    (entered : ∀ i, after i ↔ if entry.1 = i then entry.2 = true else base i) : Leads after later listed := by
  intro i
  refine (leads i).trans ?_
  rw [said]
  cases said i later with
  | some present => exact Iff.rfl
  | none =>
    rw [Option.none_or,Option.elim_none,entered]
    split
    · exact Iff.rfl
    · exact Iff.rfl

/-- What the first of the news says may be entered before it is taken. -/
theorem Leads.enter_again (leads : Leads base (entry :: later) listed)
    (entered : ∀ i, after i ↔ if entry.1 = i then entry.2 = true else base i) :
    Leads after (entry :: later) listed := by
  refine leads.rebase fun i untold => ?_
  rw [entered]
  split
  · next own =>
    rw [said,if_pos own] at untold
    cases (Option.or_eq_none_iff.mp untold).2
  · exact Iff.rfl

/-- The first of the news is missed. -/
theorem Leads.miss (leads : Leads base (entry :: later) listed) (passed : Passed base entry later) :
    Leads base later listed := by
  intro i
  refine (leads i).trans ?_
  rw [said]
  cases told : said i later with
  | some present => exact Iff.rfl
  | none =>
    rw [Option.none_or]
    split
    · next own =>
      subst own
      exact passed.resolve_right (not_not_intro told)
    · exact Iff.rfl

end Rosters
