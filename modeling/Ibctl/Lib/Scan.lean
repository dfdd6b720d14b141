import Mathlib.Data.List.Infix
import Mathlib.Tactic.Common

/-! The matches of a pattern in a text, from the left and without overlaps. -/
namespace Scan

variable {α β : Type*}

section Search

variable (matchAt : List α → Option (β × List α))

/-- The values of the matches, of which the first elements are passed over. -/
def findFrom : Nat → List α → List β
  | _,[] => []
  | passed + 1,_ :: rest => findFrom passed rest
  | 0,a :: rest =>
    match matchAt (a :: rest) with
    | some (value,behind) => value :: findFrom (rest.length - behind.length) rest
    | none => findFrom 0 rest

def findAll (text : List α) : List β := findFrom matchAt 0 text

end Search

/-- What the search should find: a match that starts before all others, and what is found behind
it. -/
inductive Found (pattern : β → List α → Prop) : List α → List β → Prop
  | done {text : List α} (none : ∀ value part, pattern value part → ¬ part <:+: text) : Found pattern text []
  | next {before part behind : List α} {value : β} {values : List β} (matched : pattern value part)
      (leftmost : ∀ other part' before' behind', pattern other part' →
        before ++ (part ++ behind) = before' ++ (part' ++ behind') → before.length ≤ before'.length)
      (rest : Found pattern behind values) : Found pattern (before ++ (part ++ behind)) (value :: values)

/-- A matcher that finds every match at the start of a text, and nothing else. -/
structure Matcher (pattern : β → List α → Prop) (matchAt : List α → Option (β × List α)) : Prop where
  exact_ : ∀ text value behind,
    matchAt text = some (value,behind) ↔ ∃ part, pattern value part ∧ text = part ++ behind
  nonempty : ∀ value, ¬ pattern value []

variable {pattern : β → List α → Prop} {matchAt : List α → Option (β × List α)}

theorem findFrom_passed (before rest : List α) :
    findFrom matchAt before.length (before ++ rest) = findFrom matchAt 0 rest := by
  induction before with
  | nil => rfl
  | cons a before ih => exact ih

theorem findAll_miss {a : α} {rest : List α} (none_ : matchAt (a :: rest) = none) :
    findAll matchAt (a :: rest) = findAll matchAt rest := by
  rw [findAll,findFrom,none_]
  rfl

theorem Matcher.miss (m : Matcher pattern matchAt) {text : List α}
    (none_ : ∀ value part, pattern value part → ¬ part <+: text) : matchAt text = none := by
  apply Option.eq_none_iff_forall_not_mem.mpr
  rintro ⟨value,behind⟩ found
  obtain ⟨part,matched,rfl⟩ := (m.exact_ text value behind).mp found
  exact none_ value part matched (List.prefix_append part behind)

theorem Matcher.hit (m : Matcher pattern matchAt) {value : β} {part : List α} (matched : pattern value part)
    (behind : List α) : findAll matchAt (part ++ behind) = value :: findAll matchAt behind := by
  have found := (m.exact_ (part ++ behind) value behind).mpr ⟨part,matched,rfl⟩
  cases part with
  | nil => exact absurd matched (m.nonempty value)
  | cons a part =>
    rw [List.cons_append] at found ⊢
    have passed : (part ++ behind).length - behind.length = part.length := by
      rw [List.length_append,Nat.add_sub_cancel]
    rw [findAll,findFrom,found]
    dsimp only
    rw [passed,findFrom_passed]
    rfl

/-- The search finds what it should. -/
theorem Matcher.findAll_eq (m : Matcher pattern matchAt) {text : List α} {values : List β}
    (found : Found pattern text values) : findAll matchAt text = values := by
  induction found with
  | @done text none_ =>
    induction text with
    | nil => rfl
    | cons a rest ih =>
      rw [findAll_miss (m.miss fun value part matched start => none_ value part matched start.isInfix)]
      exact ih fun value part matched within => none_ value part matched (within.trans (List.suffix_cons a rest).isInfix)
  | @next before part behind value values matched leftmost _ ih =>
    induction before with
    | nil => exact (m.hit matched behind).trans (congrArg (value :: ·) ih)
    | cons a before earlier =>
      have miss : matchAt (a :: (before ++ (part ++ behind))) = none := by
        apply m.miss
        rintro other part' matched' ⟨behind',same⟩
        have first := leftmost other part' [] behind' matched' same.symm
        exact absurd first (Nat.not_succ_le_zero before.length)
      rw [List.cons_append,findAll_miss miss]
      apply earlier
      intro other part' before' behind' matched' same
      have first := leftmost other part' (a :: before') behind' matched' (congrArg (a :: ·) same)
      exact Nat.le_of_succ_le_succ first

/-- Where no match starts, nothing more is found. -/
theorem Found.skip {a : α} {rest : List α} {values : List β} (found : Found pattern rest values)
    (none_ : ∀ value part, pattern value part → ¬ part <+: a :: rest) : Found pattern (a :: rest) values := by
  cases found with
  | done nothing =>
    apply Found.done
    intro value part matched within
    rcases List.infix_cons_iff.mp within with start | later
    · exact none_ value part matched start
    · exact nothing value part matched later
  | @next before part behind value values matched leftmost later =>
    refine @Found.next α β pattern (a :: before) part behind value values matched ?_ later
    intro other part' before' behind' matched' same
    cases before' with
    | nil => exact absurd ⟨behind',same.symm⟩ (none_ other part' matched')
    | cons b before' =>
      have shorter := leftmost other part' before' behind' matched' (List.cons.inj same).2
      exact Nat.succ_le_succ shorter

/-- There is something to find in every text, if only nothing. -/
theorem Matcher.found (m : Matcher pattern matchAt) (text : List α) :
    Found pattern text (findAll matchAt text) := by
  induction size : text.length using Nat.strong_induction_on generalizing text with
  | _ n ih =>
    cases text with
    | nil =>
      apply Found.done
      intro value part matched within
      rw [List.infix_nil.mp within] at matched
      exact m.nonempty value matched
    | cons a rest =>
      subst size
      cases matched : matchAt (a :: rest) with
      | none =>
        rw [findAll_miss matched]
        refine (ih rest.length (Nat.lt_succ_self _) rest rfl).skip ?_
        rintro value part shape ⟨behind,same⟩
        have hit := (m.exact_ (a :: rest) value behind).mpr ⟨part,shape,same.symm⟩
        rw [matched] at hit
        cases hit
      | some pair =>
        obtain ⟨value,behind⟩ := pair
        obtain ⟨part,shape,same⟩ := (m.exact_ _ _ _).mp matched
        have some_ : part ≠ [] := fun nothing => m.nonempty value (nothing ▸ shape)
        have shorter : behind.length < (a :: rest).length := by
          rw [same,List.length_append]
          exact Nat.lt_add_of_pos_left (List.length_pos_iff.mpr some_)
        rw [same,m.hit shape]
        exact @Found.next α β pattern [] part behind value _ shape (fun _ _ _ _ _ _ => Nat.zero_le _)
          (ih _ shorter behind rfl)

end Scan
