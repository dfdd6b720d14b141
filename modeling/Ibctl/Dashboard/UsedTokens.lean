import Mathlib.Data.List.Basic
import Mathlib.Data.List.Nodup
import Mathlib.Data.List.TakeWhile
import Mathlib.Logic.Function.Basic

/-! The digests of the tokens that were used, in the order they were added: each is forgotten
after a fixed time, and the oldest before that when there are too many. -/
namespace Ibctl.Dashboard

/-- `_UsedTokenCache`: a dict from a digest to the time it expires, and a deque of digests. -/
structure UsedTokenCache (δ : Type) where
  ttl : Nat
  max : Nat
  expiry : δ → Option Nat
  order : List δ

namespace UsedTokenCache

variable {δ : Type} [DecidableEq δ]

def new (ttl max : Nat) : UsedTokenCache δ := ⟨ttl,max,fun _ => none,[]⟩

variable (self : UsedTokenCache δ)

/-- The first loop of `_sweep`. -/
def popExpired (now : Nat) : List δ → (δ → Option Nat) → List δ × (δ → Option Nat)
  | [],expiry => ([],expiry)
  | head :: rest,expiry =>
    if (expiry head).getD 0 ≤ now then popExpired now rest (Function.update expiry head none)
    else (head :: rest,expiry)

/-- The second loop of `_sweep`. -/
def popOldest (max : Nat) : List δ → (δ → Option Nat) → List δ × (δ → Option Nat)
  | [],expiry => ([],expiry)
  | head :: rest,expiry =>
    if max < (head :: rest).length then popOldest max rest (Function.update expiry head none)
    else (head :: rest,expiry)

def sweep (now : Nat) : UsedTokenCache δ :=
  let (order,expiry) := popExpired now self.order self.expiry
  let (order,expiry) := popOldest self.max order expiry
  { self with order, expiry }

def contains (digest : δ) (now : Nat) : Bool × UsedTokenCache δ :=
  let swept := self.sweep now
  match swept.expiry digest with
  | none => (false,swept)
  | some exp =>
    if exp ≤ now then (false,{ swept with expiry := Function.update swept.expiry digest none })
    else (true,swept)

def add (digest : δ) (now : Nat) : UsedTokenCache δ :=
  let swept := self.sweep now
  if (swept.expiry digest).isSome then swept
  else
    { swept with
      expiry := Function.update swept.expiry digest (some (now + self.ttl))
      order := swept.order ++ [digest] }

/-- The deque and the dict hold the same entries, in the order of their expiry. -/
structure Holds (order : List δ) (expiry : δ → Option Nat) (entries : List (δ × Nat)) : Prop where
  ordered : order = entries.map Prod.fst
  distinct : (entries.map Prod.fst).Nodup
  sorted : entries.Pairwise (fun first second => first.2 ≤ second.2)
  known : ∀ digest exp, expiry digest = some exp ↔ (digest,exp) ∈ entries

/-- What a sweep leaves of the entries. -/
def swept (now max : Nat) (entries : List (δ × Nat)) : List (δ × Nat) :=
  let live := entries.dropWhile (fun entry => decide (entry.2 ≤ now))
  live.drop (live.length - max)

variable {order : List δ} {expiry : δ → Option Nat} {entries : List (δ × Nat)} {now max : Nat}

omit [DecidableEq δ] in
theorem holds_empty : Holds ([] : List δ) (fun _ => none) [] :=
  ⟨rfl,List.nodup_nil,.nil,by simp⟩

theorem Holds.tail {digest : δ} {exp : Nat} {rest : List (δ × Nat)}
    (holds : Holds order expiry ((digest,exp) :: rest)) :
    Holds (rest.map Prod.fst) (Function.update expiry digest none) rest := by
  have absent : digest ∉ rest.map Prod.fst := (List.nodup_cons.mp holds.distinct).1
  refine ⟨rfl,(List.nodup_cons.mp holds.distinct).2,(List.pairwise_cons.mp holds.sorted).2,?_⟩
  intro other time
  by_cases same : other = digest
  · subst same
    rw [Function.update_self]
    refine ⟨nofun,fun among => absurd (List.mem_map.mpr ⟨_,among,rfl⟩) absent⟩
  · rw [Function.update_of_ne same,holds.known,List.mem_cons]
    refine or_iff_right fun head => same ?_
    exact congrArg Prod.fst head

theorem Holds.popExpired (holds : Holds order expiry entries) :
    let popped := popExpired now order expiry
    Holds popped.1 popped.2 (entries.dropWhile fun entry => decide (entry.2 ≤ now)) := by
  induction entries generalizing order expiry with
  | nil =>
    obtain rfl : order = [] := holds.ordered
    exact holds
  | cons entry rest ih =>
    obtain ⟨digest,exp⟩ := entry
    have found : expiry digest = some exp := (holds.known digest exp).mpr List.mem_cons_self
    have step := holds.tail
    rw [holds.ordered]
    simp only [List.map_cons,UsedTokenCache.popExpired,found,Option.getD_some,List.dropWhile_cons,
      decide_eq_true_eq]
    split
    · exact ih step
    · exact ⟨rfl,holds.distinct,holds.sorted,holds.known⟩

theorem Holds.popOldest (holds : Holds order expiry entries) :
    let popped := popOldest max order expiry
    Holds popped.1 popped.2 (entries.drop (entries.length - max)) := by
  induction entries generalizing order expiry with
  | nil =>
    obtain rfl : order = [] := holds.ordered
    rw [List.drop_nil]
    exact holds
  | cons entry rest ih =>
    obtain ⟨digest,exp⟩ := entry
    have step := holds.tail
    rw [holds.ordered]
    simp only [List.map_cons,UsedTokenCache.popOldest,List.length_cons,List.length_map]
    split
    next exceeds =>
      have drops : rest.length + 1 - max = (rest.length - max) + 1 := by omega
      rw [drops,List.drop_succ_cons]
      exact ih step
    next fits =>
      have keeps : rest.length + 1 - max = 0 := by omega
      rw [keeps,List.drop_zero]
      exact ⟨rfl,holds.distinct,holds.sorted,holds.known⟩

variable {self : UsedTokenCache δ}

/-- The cache holds these entries. -/
abbrev Keeps (self : UsedTokenCache δ) (entries : List (δ × Nat)) : Prop :=
  Holds self.order self.expiry entries

theorem Keeps.sweep (keeps : self.Keeps entries) (now : Nat) :
    (self.sweep now).Keeps (swept now self.max entries) := by
  unfold UsedTokenCache.sweep swept
  exact Holds.popOldest (Holds.popExpired keeps)

omit [DecidableEq δ] in
/-- What is forgotten has expired, or too many others came after it. -/
theorem swept_split (now max : Nat) (entries : List (δ × Nat)) :
    ∃ gone, entries = gone ++ swept now max entries ∧
      ∀ before entry after, gone = before ++ entry :: after →
        entry.2 ≤ now ∨ max ≤ (after ++ swept now max entries).length := by
  unfold swept
  extract_lets live
  refine ⟨entries.takeWhile (fun entry => decide (entry.2 ≤ now)) ++ live.take (live.length - max),?_,?_⟩
  · rw [List.append_assoc,List.take_append_drop,List.takeWhile_append_dropWhile]
  · intro before entry after split
    have among : entry ∈ entries.takeWhile (fun entry => decide (entry.2 ≤ now)) ++
        live.take (live.length - max) := by simp [split]
    rcases List.mem_append.mp among with old | oldest
    · left
      simpa using List.mem_takeWhile_imp old
    · right
      have several : max < live.length := by
        by_contra few
        rw [Nat.sub_eq_zero_of_le (by omega),List.take_zero] at oldest
        cases oldest
      rw [List.length_append,List.length_drop]
      omega

omit [DecidableEq δ] in
/-- What is left has not expired. -/
theorem lt_of_mem_swept (sorted : entries.Pairwise (fun first second => first.2 ≤ second.2))
    {entry : δ × Nat} (among : entry ∈ swept now max entries) : now < entry.2 := by
  have live : entry ∈ entries.dropWhile (fun entry => decide (entry.2 ≤ now)) :=
    List.mem_of_mem_drop among
  clear among
  induction entries with
  | nil => cases live
  | cons first rest ih =>
    rw [List.dropWhile_cons] at live
    split at live
    · exact ih (List.pairwise_cons.mp sorted).2 live
    next unexpired =>
      have first_lt : now < first.2 := by simpa using unexpired
      rcases List.mem_cons.mp live with rfl | later
      · exact first_lt
      · exact Nat.lt_of_lt_of_le first_lt ((List.pairwise_cons.mp sorted).1 entry later)

/-- Membership is membership after a sweep, and a sweep is all that it does. -/
theorem Keeps.contains (keeps : (self.sweep now).Keeps entries) (live : ∀ entry ∈ entries, now < entry.2)
    (digest : δ) :
    ((self.contains digest now).1 = true ↔ digest ∈ entries.map Prod.fst) ∧
      (self.contains digest now).2 = self.sweep now := by
  unfold UsedTokenCache.contains
  dsimp only
  cases found : (self.sweep now).expiry digest with
  | none =>
    refine ⟨⟨nofun,fun among => ?_⟩,rfl⟩
    obtain ⟨⟨_,exp⟩,entry,rfl⟩ := List.mem_map.mp among
    rw [(keeps.known _ _).mpr entry] at found
    cases found
  | some exp =>
    have among := (keeps.known _ _).mp found
    have unexpired : ¬ exp ≤ now := Nat.not_le.mpr (live _ among)
    dsimp only
    rw [if_neg unexpired]
    exact ⟨⟨fun _ => List.mem_map.mpr ⟨_,among,rfl⟩,fun _ => rfl⟩,rfl⟩

theorem sweep_fields (self : UsedTokenCache δ) (now : Nat) :
    (self.sweep now).ttl = self.ttl ∧ (self.sweep now).max = self.max := ⟨rfl,rfl⟩

theorem contains_fields (self : UsedTokenCache δ) (digest : δ) (now : Nat) :
    (self.contains digest now).2.ttl = self.ttl ∧ (self.contains digest now).2.max = self.max := by
  unfold contains
  dsimp only
  split
  · exact ⟨rfl,rfl⟩
  · split
    · exact ⟨rfl,rfl⟩
    · exact ⟨rfl,rfl⟩

theorem add_fields (self : UsedTokenCache δ) (digest : δ) (now : Nat) :
    (self.add digest now).ttl = self.ttl ∧ (self.add digest now).max = self.max := by
  unfold add
  dsimp only
  split
  · exact ⟨rfl,rfl⟩
  · exact ⟨rfl,rfl⟩

/-- A digest that is not there is added behind the others. -/
theorem Keeps.add (keeps : (self.sweep now).Keeps entries) {digest : δ}
    (absent : digest ∉ entries.map Prod.fst) (late : ∀ entry ∈ entries, entry.2 ≤ now + self.ttl) :
    (self.add digest now).Keeps (entries ++ [(digest,now + self.ttl)]) := by
  have unknown : (self.sweep now).expiry digest = none := by
    cases found : (self.sweep now).expiry digest with
    | none => rfl
    | some exp =>
      have among := (keeps.known _ _).mp found
      exact absurd (List.mem_map.mpr ⟨_,among,rfl⟩) absent
  unfold UsedTokenCache.add
  dsimp only
  rw [unknown]
  refine ⟨?_,?_,?_,?_⟩
  · simp [keeps.ordered]
  · simp only [List.map_append,List.map_cons,List.map_nil]
    exact List.nodup_append.mpr ⟨keeps.distinct,List.nodup_singleton _,by
      rintro other among _ last rfl
      exact absent (List.mem_singleton.mp last ▸ among)⟩
  · refine List.pairwise_append.mpr ⟨keeps.sorted,List.pairwise_singleton _ _,?_⟩
    intro entry among last same
    rw [List.mem_singleton.mp same]
    exact late entry among
  · intro other exp
    by_cases same : other = digest
    · subst same
      simp only [Option.isSome_none,Bool.false_eq_true,if_false,Function.update_self,
        List.mem_append,List.mem_singleton,Prod.mk.injEq,true_and,Option.some.injEq]
      refine ⟨fun now_ => .inr now_.symm,fun among => among.elim (fun old => ?_) Eq.symm⟩
      exact absurd (List.mem_map.mpr ⟨_,old,rfl⟩) absent
    · simp only [Option.isSome_none,Bool.false_eq_true,if_false,Function.update_of_ne same,
        List.mem_append,List.mem_singleton,Prod.mk.injEq,same,false_and,or_false]
      exact keeps.known other exp

end UsedTokenCache

end Ibctl.Dashboard
