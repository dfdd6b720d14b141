import Ibctl.Dashboard.UsedTokens
import Ibctl.Lib.Runs

/-! The cache of used tokens against the history of its calls. An add counts unless the digest is
still remembered, and a digest is remembered until it expires or too many others have counted. -/
namespace Ibctl.Dashboard
open Runs

namespace UsedTokenCache

inductive CacheCall (δ : Type) where
  | add (digest : δ)
  | contains (digest : δ)

variable {δ : Type} [DecidableEq δ]

/-- A call and the time it is made at. -/
def step (self : UsedTokenCache δ) : CacheCall δ × Nat → UsedTokenCache δ
  | (.add digest,now) => self.add digest now
  | (.contains digest,now) => (self.contains digest now).2

section Log

variable (ttl max now : Nat) (log : List (δ × Nat)) (digest : δ)

/-- Some add of the digest that counted has not expired, nor have so many others counted since
that the capacity pushed it out. -/
def Remembered : Prop :=
  ∃ before added after, log = before ++ (digest,added) :: after ∧ now < added + ttl ∧ after.length < max

def remembers : List (δ × Nat) → Bool
  | [] => false
  | entry :: after =>
    (decide (entry.1 = digest) && decide (now < entry.2 + ttl) && decide (after.length < max)) ||
      remembers after

theorem remembers_iff : remembers ttl max now digest log = true ↔ Remembered ttl max now log digest := by
  induction log with
  | nil =>
    refine ⟨nofun,?_⟩
    rintro ⟨before,added,after,split,-⟩
    simp at split
  | cons entry rest ih =>
    simp only [remembers,Bool.or_eq_true,Bool.and_eq_true,decide_eq_true_eq,ih]
    constructor
    · rintro (⟨⟨rfl,unexpired⟩,recent⟩ | ⟨before,added,after,split,lasting⟩)
      · exact ⟨[],entry.2,rest,rfl,unexpired,recent⟩
      · exact ⟨entry :: before,added,after,by rw [split]; rfl,lasting⟩
    · rintro ⟨before,added,after,split,unexpired,recent⟩
      cases before with
      | nil =>
        obtain ⟨rfl,rfl⟩ := List.cons.inj split
        exact .inl ⟨⟨rfl,unexpired⟩,recent⟩
      | cons first before =>
        obtain ⟨rfl,rfl⟩ := List.cons.inj split
        exact .inr ⟨before,added,after,rfl,unexpired,recent⟩

/-- The adds that count, oldest first. -/
def counted (log : List (δ × Nat)) : CacheCall δ × Nat → List (δ × Nat)
  | (.add digest,now) => if remembers ttl max now digest log then log else log ++ [(digest,now)]
  | (.contains _,_) => log

end Log

variable {self : UsedTokenCache δ} {log : List (δ × Nat)} {now : Nat}

def expiring (ttl : Nat) (entry : δ × Nat) : δ × Nat := (entry.1,entry.2 + ttl)

/-- The cache holds the last part of the log; what it lacks is not remembered any more. -/
def Mirrors (self : UsedTokenCache δ) (log : List (δ × Nat)) (now : Nat) : Prop :=
  ∃ gone kept, log = gone ++ kept ∧ self.Keeps (kept.map (expiring self.ttl)) ∧
    ∀ before entry after, gone = before ++ entry :: after →
      entry.2 + self.ttl ≤ now ∨ self.max ≤ (after ++ kept).length

omit [DecidableEq δ] in
theorem mirrors_new (ttl max : Nat) : (new ttl max : UsedTokenCache δ).Mirrors [] now :=
  ⟨[],[],rfl,holds_empty,by simp⟩

omit [DecidableEq δ] in
theorem length_swept_le (now max : Nat) (entries : List (δ × Nat)) :
    (swept now max entries).length ≤ max := by
  unfold swept
  dsimp only
  rw [List.length_drop]
  omega

/-- What a sweep leaves of the log: all of it unexpired, and no more than the capacity. -/
theorem Mirrors.sweep {last : Nat} (mirrors : self.Mirrors log last) (later : last ≤ now) :
    ∃ gone kept, log = gone ++ kept ∧ (self.sweep now).Keeps (kept.map (expiring self.ttl)) ∧
      (∀ before entry after, gone = before ++ entry :: after →
        entry.2 + self.ttl ≤ now ∨ self.max ≤ (after ++ kept).length) ∧
      (∀ entry ∈ kept, now < entry.2 + self.ttl) ∧ kept.length ≤ self.max ∧
      ∃ swept, self.order = swept ++ (self.sweep now).order := by
  obtain ⟨gone,held,rfl,keeps,lost⟩ := mirrors
  have sweeps := keeps.sweep now
  obtain ⟨dropped,parts,left⟩ := swept_split now self.max (held.map (expiring self.ttl))
  obtain ⟨first,kept,rfl,rfl,rest⟩ := List.map_eq_append_iff.mp parts
  rw [← rest] at sweeps left
  -- What this sweep drops has expired or is pushed out.
  have swept_ : ∀ before entry after, first = before ++ entry :: after →
      entry.2 + self.ttl ≤ now ∨ self.max ≤ (after ++ kept).length := by
    rintro before entry after rfl
    have old := left (before.map (expiring self.ttl)) (expiring self.ttl entry) (after.map (expiring self.ttl))
      (by simp)
    exact old.imp_right fun pushed => by simpa using pushed
  refine ⟨gone ++ first,kept,by rw [List.append_assoc],sweeps,?_,?_,?_,?_⟩
  · intro before entry after split
    rcases List.append_eq_append_iff.mp split with ⟨more,rfl,rest⟩ | ⟨more,rfl,rest⟩
    · exact swept_ more entry after rest
    · cases more with
      | nil => exact swept_ [] entry after rest.symm
      | cons head more =>
        obtain ⟨rfl,rfl⟩ := List.cons.inj rest
        rcases lost before entry more rfl with expired | pushed
        · exact .inl (Nat.le_trans expired later)
        · refine .inr ?_
          simp only [List.append_eq,List.length_append] at pushed ⊢
          omega
  · intro entry among
    have mapped : expiring self.ttl entry ∈ swept now self.max
        ((first ++ kept).map (expiring self.ttl)) := by
      rw [← rest]
      exact List.mem_map.mpr ⟨entry,among,rfl⟩
    exact lt_of_mem_swept keeps.sorted mapped
  · have few := length_swept_le now self.max ((first ++ kept).map (expiring self.ttl))
    rwa [← rest,List.length_map] at few
  · refine ⟨(first.map (expiring self.ttl)).map Prod.fst,?_⟩
    rw [keeps.ordered,sweeps.ordered]
    simp

omit [DecidableEq δ] in
/-- After a sweep the unexpired part of the log that the cache holds is what is remembered. -/
theorem remembered_iff {gone kept : List (δ × Nat)} {ttl max : Nat} {digest : δ}
    (lost : ∀ before entry after, gone = before ++ entry :: after →
      entry.2 + ttl ≤ now ∨ max ≤ (after ++ kept).length)
    (live : ∀ entry ∈ kept, now < entry.2 + ttl) (few : kept.length ≤ max) :
    Remembered ttl max now (gone ++ kept) digest ↔ digest ∈ kept.map Prod.fst := by
  constructor
  · rintro ⟨before,added,after,split,unexpired,recent⟩
    rcases List.append_eq_append_iff.mp split with ⟨more,rfl,rest⟩ | ⟨more,rfl,rest⟩
    · exact List.mem_map.mpr ⟨(digest,added),by simp [rest],rfl⟩
    · cases more with
      | nil =>
        rw [List.nil_append] at rest
        exact List.mem_map.mpr ⟨(digest,added),by simp [← rest],rfl⟩
      | cons head more =>
        obtain ⟨rfl,rfl⟩ := List.cons.inj rest
        rcases lost before _ more rfl with expired | pushed
        · exact absurd unexpired (Nat.not_lt.mpr expired)
        · exact absurd recent (Nat.not_lt.mpr pushed)
  · intro among
    obtain ⟨⟨_,added⟩,entry,rfl⟩ := List.mem_map.mp among
    obtain ⟨before,after,rfl⟩ := List.append_of_mem entry
    refine ⟨gone ++ before,added,after,by simp,live _ entry,?_⟩
    simp only [List.length_append,List.length_cons] at few
    omega

/-- One call: the answer, what leaves the queue and what the log becomes. -/
structure Served (cache : UsedTokenCache δ) (log : List (δ × Nat)) (call : CacheCall δ × Nat) : Prop where
  mirrors : (cache.step call).Mirrors (counted cache.ttl cache.max log call) call.2
  fields : (cache.step call).ttl = cache.ttl ∧ (cache.step call).max = cache.max
  oldest : ∃ gone kept added, cache.order = gone ++ kept ∧ (cache.step call).order = kept ++ added

omit [DecidableEq δ] in
theorem expiring_unexpired {ttl : Nat} {kept : List (δ × Nat)} (live : ∀ entry ∈ kept, now < entry.2 + ttl) :
    ∀ entry ∈ kept.map (expiring ttl), now < entry.2 := by
  intro entry among
  obtain ⟨held,there,rfl⟩ := List.mem_map.mp among
  exact live held there

omit [DecidableEq δ] in
theorem expiring_names {ttl : Nat} (kept : List (δ × Nat)) :
    (kept.map (expiring ttl)).map Prod.fst = kept.map Prod.fst := by
  rw [List.map_map]
  rfl

theorem contains_iff {last : Nat} (mirrors : self.Mirrors log last) (later : last ≤ now) (digest : δ) :
    (self.contains digest now).1 = true ↔ Remembered self.ttl self.max now log digest := by
  obtain ⟨gone,kept,rfl,keeps,lost,live,few,-⟩ := mirrors.sweep later
  have unexpired := expiring_unexpired live
  rw [remembered_iff lost live few,(keeps.contains unexpired digest).1,expiring_names]

theorem step_served {last : Nat} {call : CacheCall δ × Nat} (mirrors : self.Mirrors log last)
    (past : ∀ entry ∈ log, entry.2 ≤ last) (later : last ≤ call.2) : self.Served log call := by
  obtain ⟨kind,now⟩ := call
  have answer := contains_iff mirrors later
  obtain ⟨gone,kept,rfl,keeps,lost,live,few,swept,ordered⟩ := mirrors.sweep later
  have unexpired := expiring_unexpired live
  cases kind with
  | contains digest =>
    have same : self.step (.contains digest,now) = self.sweep now :=
      (keeps.contains unexpired digest).2
    refine ⟨?_,by rw [same]; exact sweep_fields self now,swept,_,[],ordered,by rw [same,List.append_nil]⟩
    rw [same]
    exact ⟨gone,kept,rfl,keeps,lost⟩
  | add digest =>
    by_cases there : digest ∈ kept.map Prod.fst
    · have known : remembers self.ttl self.max now digest (gone ++ kept) = true :=
        (remembers_iff ..).mpr ((remembered_iff lost live few).mpr there)
      have same : self.step (.add digest,now) = self.sweep now := by
        obtain ⟨⟨_,added⟩,entry,rfl⟩ := List.mem_map.mp there
        have found := (keeps.known _ _).mpr (List.mem_map.mpr ⟨_,entry,rfl⟩)
        show self.add _ now = _
        unfold UsedTokenCache.add
        dsimp only
        rw [if_pos (Option.isSome_of_eq_some found)]
      refine ⟨?_,by rw [same]; exact sweep_fields self now,swept,_,[],ordered,by rw [same,List.append_nil]⟩
      rw [same,show counted self.ttl self.max (gone ++ kept) (.add digest,now) = gone ++ kept from if_pos known]
      exact ⟨gone,kept,rfl,keeps,lost⟩
    · have unknown : ¬ remembers self.ttl self.max now digest (gone ++ kept) = true := fun known =>
        there ((remembered_iff lost live few).mp ((remembers_iff ..).mp known))
      have late : ∀ entry ∈ kept.map (expiring self.ttl), entry.2 ≤ now + self.ttl := by
        intro entry among
        obtain ⟨held,there,rfl⟩ := List.mem_map.mp among
        have before := past held (List.mem_append_right _ there)
        show held.2 + self.ttl ≤ now + self.ttl
        omega
      have added := keeps.add (by rwa [expiring_names]) late
      have fields := add_fields self digest now
      refine ⟨?_,fields,swept,_,[digest],ordered,?_⟩
      · rw [show counted self.ttl self.max (gone ++ kept) (.add digest,now) =
          gone ++ kept ++ [(digest,now)] from if_neg unknown,List.append_assoc]
        refine ⟨gone,kept ++ [(digest,now)],rfl,?_,?_⟩
        · show (self.add digest now).Keeps _
          rw [show (self.step (.add digest,now)).ttl = self.ttl from fields.1,List.map_append]
          exact added
        · intro before entry after split
          rw [show (self.step (.add digest,now)).ttl = self.ttl from fields.1,
            show (self.step (.add digest,now)).max = self.max from fields.2]
          refine (lost before entry after split).imp_right fun pushed => ?_
          simp only [List.length_append] at pushed ⊢
          omega
      · show (self.add digest now).order = _
        rw [added.ordered,List.map_append,expiring_names,keeps.ordered,expiring_names]
        rfl

theorem le_of_mem_counted {ttl max last : Nat} {call : CacheCall δ × Nat}
    (past : ∀ entry ∈ log, entry.2 ≤ last) (later : last ≤ call.2) :
    ∀ entry ∈ counted ttl max log call, entry.2 ≤ call.2 := by
  intro entry among
  have old (there : entry ∈ log) : entry.2 ≤ call.2 := Nat.le_trans (past entry there) later
  obtain ⟨kind,time⟩ := call
  cases kind with
  | contains digest => exact old among
  | add digest =>
    simp only [counted] at among
    by_cases known : remembers ttl max time digest log = true
    · rw [if_pos known] at among
      exact old among
    · rw [if_neg known] at among
      rcases List.mem_append.mp among with there | new
      · exact old there
      · rw [List.mem_singleton.mp new]

theorem run_mirrors {last : Nat} {calls : List (CacheCall δ × Nat)} (mirrors : self.Mirrors log last)
    (past : ∀ entry ∈ log, entry.2 ≤ last)
    (clock : (last :: (calls.map Prod.snd ++ [now])).Pairwise (· ≤ ·)) :
    let cache := run step self calls
    cache.ttl = self.ttl ∧ cache.max = self.max ∧ ∃ latest ≤ now,
      cache.Mirrors (run (counted self.ttl self.max) log calls) latest ∧
        ∀ entry ∈ run (counted self.ttl self.max) log calls, entry.2 ≤ latest := by
  induction calls generalizing self log last with
  | nil => exact ⟨rfl,rfl,last,(List.pairwise_cons.mp clock).1 now (by simp),mirrors,past⟩
  | cons call rest ih =>
    obtain ⟨first,others⟩ := List.pairwise_cons.mp clock
    have later : last ≤ call.2 := first call.2 (by simp)
    have served := step_served mirrors past later
    have tail := ih served.mirrors (le_of_mem_counted past later) others
    rw [served.fields.1,served.fields.2] at tail
    exact tail

/-- The queue lists the keys of the map, each once and in the order they expire. -/
structure Aligned (cache : UsedTokenCache δ) : Prop where
  distinct : cache.order.Nodup
  keys : ∀ digest, digest ∈ cache.order ↔ (cache.expiry digest).isSome = true
  sorted : cache.order.Pairwise fun first second =>
    (cache.expiry first).getD 0 ≤ (cache.expiry second).getD 0

omit [DecidableEq δ] in
theorem Keeps.aligned {entries : List (δ × Nat)} (keeps : self.Keeps entries) : self.Aligned := by
  have found {entry : δ × Nat} (there : entry ∈ entries) : self.expiry entry.1 = some entry.2 :=
    (keeps.known _ _).mpr there
  refine ⟨?_,?_,?_⟩
  · rw [keeps.ordered]
    exact keeps.distinct
  · intro digest
    rw [keeps.ordered,List.mem_map,Option.isSome_iff_exists]
    constructor
    · rintro ⟨entry,there,rfl⟩
      exact ⟨_,found there⟩
    · rintro ⟨exp,known⟩
      exact ⟨_,(keeps.known _ _).mp known,rfl⟩
  · rw [keeps.ordered,List.pairwise_map]
    refine keeps.sorted.imp_of_mem fun {first second} one other before => ?_
    rw [found one,found other]
    exact before

end UsedTokenCache

end Ibctl.Dashboard
