import Mathlib.Data.Finset.Card
import Ibctl.Dashboard.Reconnect
import Ibctl.Lib.Window

/-! The rate limiter of the callbacks against the calls it accepted. A new address gets an empty
bucket, and in a full table that bucket is the first to go. -/
namespace Ibctl.Dashboard
open Runs Window

namespace RateLimiter

def keys (limiter : RateLimiter) : List String := limiter.ipTimestamps.map Prod.fst

def bucketOf (limiter : RateLimiter) (ip : String) : List Nat := (limiter.ipTimestamps.lookup ip).getD []

section Eviction

variable {entries : List (String × List Nat)} {ip : String}

/-- A bucket without a hit goes before all that have one. -/
theorem oldestEntry_new (hit : ∀ entry ∈ entries, lastHit entry ≠ 0) :
    oldestEntry (entries ++ [(ip,[])]) = some (ip,[]) := by
  induction entries with
  | nil => rfl
  | cons entry rest ih =>
    have first : 0 < lastHit entry := Nat.pos_of_ne_zero (hit entry List.mem_cons_self)
    have others := ih fun other among => hit other (List.mem_cons_of_mem _ among)
    simp only [List.cons_append,oldestEntry,others]
    exact if_pos first

/-- The first of several that have none is the one to go. -/
theorem oldestEntry_old (unhit : ∃ entry ∈ entries, lastHit entry = 0) :
    ∃ entry ∈ entries, oldestEntry (entries ++ [(ip,[])]) = some entry := by
  induction entries with
  | nil =>
    obtain ⟨entry,among,-⟩ := unhit
    cases among
  | cons entry rest ih =>
    simp only [List.cons_append,oldestEntry]
    by_cases later : ∃ other ∈ rest, lastHit other = 0
    · obtain ⟨other,among,oldest⟩ := ih later
      rw [oldest]
      dsimp only
      split
      · exact ⟨other,List.mem_cons_of_mem _ among,rfl⟩
      · exact ⟨entry,List.mem_cons_self,rfl⟩
    · obtain ⟨found,among,none_⟩ := unhit
      have here : lastHit entry = 0 := by
        rcases List.mem_cons.mp among with rfl | inside
        · exact none_
        · exact absurd ⟨found,inside,none_⟩ later
      rw [oldestEntry_new fun other inside zero => later ⟨other,inside,zero⟩]
      dsimp only
      rw [here,if_neg (Nat.not_lt_zero _)]
      exact ⟨entry,List.mem_cons_self,rfl⟩

end Eviction

section Check

variable (limiter : RateLimiter) (ip : String) (now : Nat)

/-- The table after the address was looked up. -/
def entered : RateLimiter :=
  if limiter.ipTimestamps.any (fun entry => entry.1 = ip) then limiter
  else { limiter with ipTimestamps := limiter.ipTimestamps ++ [(ip,[])] }.evictIfNeeded

/-- What the limiter makes of the address in the table it was entered in. -/
def answerIn (limiter entered : RateLimiter) (ip : String) (now : Nat) : Option Bool × RateLimiter :=
  match entered.ipTimestamps.lookup ip with
  | none => (none,entered)
  | some bucket =>
    let recent := bucket.dropWhile (fun time => decide (time < now - limiter.window))
    let put (times : List Nat) :=
      entered.ipTimestamps.map (fun entry => if entry.1 = ip then (ip,times) else entry)
    let last (times : List Nat) :=
      entered.ipTimestamps.filter (fun entry => entry.1 ≠ ip) ++ [(ip,times)]
    let moved := recent = [] ∧ limiter.tableMaxSize < entered.ipTimestamps.length
    let times := if limiter.maxRequests ≤ recent.length then recent else recent ++ [now]
    (some (decide (recent.length < limiter.maxRequests)),
      { entered with ipTimestamps := if moved then last times else put times })

theorem check_eq : limiter.check ip now = answerIn limiter (limiter.entered ip) ip now := rfl

def assign (limiter : RateLimiter) (ip : String) (times : List Nat) : RateLimiter :=
  { limiter with
    ipTimestamps := limiter.ipTimestamps.map fun entry => if entry.1 = ip then (ip,times) else entry }

/-- The bucket of an address after one of its calls. -/
def timesAfter (limiter : RateLimiter) (bucket : List Nat) (now : Nat) : List Nat :=
  let recent := inside limiter.window now bucket
  if limiter.maxRequests ≤ recent.length then recent else recent ++ [now]

variable {limiter ip now}

theorem any_iff : limiter.ipTimestamps.any (fun entry => decide (entry.1 = ip)) = true ↔ ip ∈ limiter.keys := by
  unfold keys
  simp

theorem lookup_isSome (there : ip ∈ limiter.keys) :
    limiter.ipTimestamps.lookup ip = some (limiter.bucketOf ip) := by
  unfold bucketOf
  cases found : limiter.ipTimestamps.lookup ip with
  | some bucket => rfl
  | none =>
    obtain ⟨entry,among,rfl⟩ := List.mem_map.mp there
    exact absurd (List.lookup_eq_none_iff.mp found entry among) (by simp)

/-- The answer to an address that is in the table once it was looked up. -/
theorem answerIn_found {entered : RateLimiter} (there : ip ∈ entered.keys)
    (fits : entered.keys.length ≤ limiter.tableMaxSize)
    (sorted : (entered.bucketOf ip).Pairwise (· ≤ ·)) :
    answerIn limiter entered ip now =
      (some (decide ((inside limiter.window now (entered.bucketOf ip)).length < limiter.maxRequests)),
        entered.assign ip (limiter.timesAfter (entered.bucketOf ip) now)) := by
  have room : ¬ limiter.tableMaxSize < entered.ipTimestamps.length := by
    unfold keys at fits
    rw [List.length_map] at fits
    omega
  unfold answerIn timesAfter
  rw [lookup_isSome there]
  dsimp only
  rw [dropWhile_eq_inside sorted,if_neg fun moved => room moved.2]
  rfl

/-- A new address has room when the table is not full, or when another never had a call accepted
after the clock's zero. -/
def Room (limiter : RateLimiter) (ip : String) : Prop :=
  ip ∈ limiter.keys ∨ limiter.keys.length < limiter.tableMaxSize ∨
    ∃ entry ∈ limiter.ipTimestamps, lastHit entry = 0

theorem entered_known (there : ip ∈ limiter.keys) : limiter.entered ip = limiter :=
  if_pos (any_iff.mpr there)

theorem entered_new (absent : ip ∉ limiter.keys) (room : limiter.keys.length < limiter.tableMaxSize) :
    limiter.entered ip = { limiter with ipTimestamps := limiter.ipTimestamps ++ [(ip,[])] } := by
  unfold keys at room
  rw [List.length_map] at room
  unfold entered evictIfNeeded
  rw [if_neg fun there => absent (any_iff.mp there)]
  dsimp only
  rw [if_pos (by rw [List.length_append,List.length_singleton]; omega)]

/-- In a full table one entry goes: another one that was never hit, or else the new one. -/
theorem entered_full (absent : ip ∉ limiter.keys) (full : limiter.tableMaxSize ≤ limiter.keys.length) :
    ∃ gone,
      limiter.entered ip =
          { limiter with ipTimestamps := (limiter.ipTimestamps ++ [(ip,[])]).filter fun entry =>
            entry.1 ≠ gone } ∧
        ((∃ entry ∈ limiter.ipTimestamps, lastHit entry = 0) → gone ∈ limiter.keys) ∧
        ((∀ entry ∈ limiter.ipTimestamps, lastHit entry ≠ 0) → gone = ip) := by
  unfold keys at full
  rw [List.length_map] at full
  have over_ : ¬ (limiter.ipTimestamps ++ [(ip,([] : List Nat))]).length ≤ limiter.tableMaxSize := by
    rw [List.length_append,List.length_singleton]
    omega
  have enters (gone : String × List Nat)
      (oldest : oldestEntry (limiter.ipTimestamps ++ [(ip,[])]) = some gone) :
      limiter.entered ip =
        { limiter with ipTimestamps := (limiter.ipTimestamps ++ [(ip,[])]).filter fun entry =>
          entry.1 ≠ gone.1 } := by
    unfold entered evictIfNeeded
    rw [if_neg fun there => absent (any_iff.mp there)]
    dsimp only
    rw [if_neg over_,oldest]
  by_cases unhit : ∃ entry ∈ limiter.ipTimestamps, lastHit entry = 0
  · obtain ⟨gone,among,oldest⟩ := @oldestEntry_old _ ip unhit
    refine ⟨gone.1,enters gone oldest,fun _ => List.mem_map.mpr ⟨gone,among,rfl⟩,fun hit => ?_⟩
    obtain ⟨entry,inside_,zero⟩ := unhit
    exact absurd zero (hit entry inside_)
  · have hit : ∀ entry ∈ limiter.ipTimestamps, lastHit entry ≠ 0 := fun entry among zero =>
      unhit ⟨entry,among,zero⟩
    exact ⟨ip,enters _ (oldestEntry_new hit),fun some_ => absurd some_ unhit,fun _ => rfl⟩

/-- What looking an address up does to the table when there is room for it. -/
structure Enters (limiter : RateLimiter) (ip : String) (entered : RateLimiter) : Prop where
  there : ip ∈ entered.keys
  distinct : entered.keys.Nodup
  fits : entered.keys.length ≤ limiter.tableMaxSize
  fields : entered.window = limiter.window ∧ entered.maxRequests = limiter.maxRequests ∧
    entered.tableMaxSize = limiter.tableMaxSize
  same : ∀ other ∈ entered.keys, entered.bucketOf other = limiter.bucketOf other

theorem lookup_absent (absent : ip ∉ limiter.keys) : limiter.ipTimestamps.lookup ip = none := by
  refine List.lookup_eq_none_iff.mpr fun entry among => ?_
  have other : ip ≠ entry.1 := fun same => absent (List.mem_map.mpr ⟨entry,among,same.symm⟩)
  simpa using other

theorem bucketOf_absent (absent : ip ∉ limiter.keys) : limiter.bucketOf ip = [] := by
  unfold bucketOf
  rw [lookup_absent absent]
  rfl

theorem keys_assign_eq (times : List Nat) : (limiter.assign ip times).keys = limiter.keys :=
  keys_assign ip times limiter.ipTimestamps

theorem bucketOf_assign (there : ip ∈ limiter.keys) (times : List Nat) (key : String) :
    (limiter.assign ip times).bucketOf key = if key = ip then times else limiter.bucketOf key := by
  have assigned := lookup_assign ip key times limiter.ipTimestamps
  rw [lookup_isSome there] at assigned
  unfold bucketOf
  show ((List.map _ limiter.ipTimestamps).lookup key).getD [] = _
  rw [assigned]
  split <;> rfl

theorem bucketOf_append (other : String) :
    { limiter with ipTimestamps := limiter.ipTimestamps ++ [(ip,[])] }.bucketOf other =
      limiter.bucketOf other := by
  unfold bucketOf
  rw [List.lookup_append]
  cases limiter.ipTimestamps.lookup other with
  | some bucket => rfl
  | none =>
    show ((none : Option (List Nat)).or (List.lookup other [(ip,[])])).getD [] = _
    rw [Option.none_or,List.lookup_cons]
    split <;> rfl

theorem keys_remove (gone : String) (entries : List (String × List Nat)) :
    (entries.filter fun entry => entry.1 ≠ gone).map Prod.fst =
      (entries.map Prod.fst).filter fun key => key ≠ gone := by
  rw [List.filter_map]
  rfl

theorem entered_room (distinct : limiter.keys.Nodup) (fits : limiter.keys.length ≤ limiter.tableMaxSize)
    (room : limiter.Room ip) : limiter.Enters ip (limiter.entered ip) := by
  by_cases there : ip ∈ limiter.keys
  · rw [entered_known there]
    exact ⟨there,distinct,fits,⟨rfl,rfl,rfl⟩,fun _ _ => rfl⟩
  have appended : (limiter.keys ++ [ip]).Nodup :=
    List.nodup_append.mpr ⟨distinct,List.nodup_singleton _,by
      rintro key among _ last rfl
      exact there (List.mem_singleton.mp last ▸ among)⟩
  have keys_append : (limiter.ipTimestamps ++ [(ip,([] : List Nat))]).map Prod.fst = limiter.keys ++ [ip] := by
    unfold keys
    simp
  by_cases space : limiter.keys.length < limiter.tableMaxSize
  · rw [entered_new there space]
    refine ⟨?_,?_,?_,⟨rfl,rfl,rfl⟩,fun other _ => bucketOf_append other⟩
    · show ip ∈ (limiter.ipTimestamps ++ [(ip,[])]).map Prod.fst
      simp
    · show ((limiter.ipTimestamps ++ [(ip,[])]).map Prod.fst).Nodup
      rwa [keys_append]
    · show ((limiter.ipTimestamps ++ [(ip,[])]).map Prod.fst).length ≤ _
      rw [keys_append,List.length_append,List.length_singleton]
      exact space
  · have unhit := (room.resolve_left there).resolve_left space
    obtain ⟨gone,entered_eq,old,-⟩ := entered_full there (Nat.not_lt.mp space)
    have leaves := old unhit
    have other_ : gone ≠ ip := fun same => there (same ▸ leaves)
    rw [entered_eq]
    have keys_eq : ((limiter.ipTimestamps ++ [(ip,([] : List Nat))]).filter fun entry =>
        entry.1 ≠ gone).map Prod.fst = (limiter.keys ++ [ip]).filter fun key => key ≠ gone := by
      rw [keys_remove,keys_append]
    refine ⟨?_,?_,?_,⟨rfl,rfl,rfl⟩,?_⟩
    · show ip ∈ List.map Prod.fst _
      rw [keys_eq]
      simp [other_.symm]
    · show (List.map Prod.fst _).Nodup
      rw [keys_eq]
      exact appended.filter _
    · show (List.map Prod.fst _).length ≤ _
      have fewer : ((limiter.keys ++ [ip]).filter fun key => key ≠ gone).length <
          (limiter.keys ++ [ip]).length :=
        List.length_filter_lt_length_iff_exists.mpr
          ⟨gone,List.mem_append_left _ leaves,by simp⟩
      rw [keys_eq]
      rw [List.length_append,List.length_singleton] at fewer
      omega
    · intro other among
      have stays : other ≠ gone := by
        rintro rfl
        have kept : other ∈ (limiter.keys ++ [ip]).filter fun key => key ≠ other := by
          rw [← keys_eq]
          exact among
        simp at kept
      have removed := lookup_remove gone other (limiter.ipTimestamps ++ [(ip,[])])
      rw [if_neg stays] at removed
      have before := @bucketOf_append limiter ip other
      unfold bucketOf at before ⊢
      rw [removed]
      exact before

/-- Without room the new address is the one to go, and there is no bucket to look at. -/
theorem check_raises (crowded : ¬ limiter.Room ip) : limiter.check ip now = (none,limiter) := by
  unfold Room at crowded
  simp only [not_or,not_exists,not_and,Nat.not_lt] at crowded
  obtain ⟨absent,full,hit⟩ := crowded
  obtain ⟨gone,entered_eq,-,new⟩ := entered_full absent full
  obtain rfl := new hit
  have back : limiter.entered gone = limiter := by
    have kept : (limiter.ipTimestamps ++ [(gone,([] : List Nat))]).filter
        (fun entry => decide (entry.1 ≠ gone)) = limiter.ipTimestamps := by
      rw [List.filter_append,List.filter_eq_self.mpr,List.filter_eq_nil_iff.mpr (by simp),List.append_nil]
      intro entry among
      refine decide_eq_true fun same => absent ?_
      exact List.mem_map.mpr ⟨entry,among,same⟩
    rw [entered_eq,kept]
  rw [check_eq,back]
  unfold answerIn
  rw [lookup_absent absent]

end Check

section Watch

/-- The limiter, the calls it accepted, the addresses it evicted and the time of its last call. -/
structure Watched where
  limiter : RateLimiter
  accepted : List (String × Nat)
  evicted : List String
  last : Nat

def Watched.start (window maxRequests tableMaxSize : Nat) : Watched :=
  ⟨⟨window,maxRequests,tableMaxSize,[]⟩,[],[],0⟩

def Watched.times (s : Watched) (ip : String) : List Nat :=
  (s.accepted.filter fun call => call.1 = ip).map Prod.snd

def Watched.step (s : Watched) (call : String × Nat) : Watched :=
  let (answer,after) := s.limiter.check call.1 call.2
  { limiter := after
    accepted := if answer = some true then s.accepted ++ [call] else s.accepted
    evicted := s.evicted ++ (s.limiter.keys ++ [call.1]).filter fun key => key ∉ after.keys
    last := call.2 }

/-- The call does not raise, the table keeps its bound, and an address that was never evicted is
answered by how many of its accepted calls lie in the window. -/
def Watched.Slides (s : Watched) (call : String × Nat) : Prop :=
  let (answer,after) := s.limiter.check call.1 call.2
  answer ≠ none ∧ after.keys.length ≤ s.limiter.tableMaxSize ∧
    (call.1 ∉ s.evicted → answer =
      some (decide ((inside s.limiter.window call.2 (s.times call.1)).length < s.limiter.maxRequests)))

structure Watched.Sound (s : Watched) : Prop where
  distinct : s.limiter.keys.Nodup
  fits : s.limiter.keys.length ≤ s.limiter.tableMaxSize
  sorted : ∀ ip, (s.limiter.bucketOf ip).Pairwise (· ≤ ·)
  past : ∀ ip, ∀ time ∈ s.limiter.bucketOf ip, time ≤ s.last
  follows : ∀ ip, ip ∉ s.evicted → ∀ now, s.last ≤ now →
    inside s.limiter.window now (s.limiter.bucketOf ip) = inside s.limiter.window now (s.times ip)

theorem sound_start (window maxRequests tableMaxSize : Nat) :
    (Watched.start window maxRequests tableMaxSize).Sound :=
  ⟨List.nodup_nil,Nat.zero_le _,fun _ => .nil,nofun,fun _ _ _ _ => rfl⟩

variable {s : Watched} {ip : String} {now : Nat}

theorem check_room (sound : s.Sound) (room : s.limiter.Room ip) :
    s.limiter.check ip now =
      (some (decide ((inside s.limiter.window now (s.limiter.bucketOf ip)).length < s.limiter.maxRequests)),
        (s.limiter.entered ip).assign ip (s.limiter.timesAfter (s.limiter.bucketOf ip) now)) := by
  have enters := entered_room sound.distinct sound.fits room
  have same := enters.same ip enters.there
  rw [check_eq,answerIn_found enters.there enters.fits (by rw [same]; exact sound.sorted ip),same]

/-- The addresses that are in the table afterwards, and what their buckets then are. -/
theorem bucketOf_after (sound : s.Sound) (room : s.limiter.Room ip) (key : String) :
    let after := (s.limiter.check ip now).2
    after.keys = (s.limiter.entered ip).keys ∧
      (key ∈ after.keys → after.bucketOf key =
        if key = ip then s.limiter.timesAfter (s.limiter.bucketOf ip) now else s.limiter.bucketOf key) := by
  have enters := entered_room sound.distinct sound.fits room
  rw [check_room sound room]
  dsimp only
  rw [keys_assign_eq]
  refine ⟨rfl,fun there => ?_⟩
  rw [bucketOf_assign enters.there]
  by_cases same : key = ip
  · rw [if_pos same,if_pos same]
  · rw [if_neg same,if_neg same]
    exact enters.same key there

theorem timesAfter_sorted {limiter : RateLimiter} {bucket : List Nat} (sorted : bucket.Pairwise (· ≤ ·))
    (past : ∀ time ∈ bucket, time ≤ now) :
    (limiter.timesAfter bucket now).Pairwise (· ≤ ·) ∧
      ∀ time ∈ limiter.timesAfter bucket now, time ≤ now := by
  have kept : (inside limiter.window now bucket).Pairwise (· ≤ ·) := sorted.filter _
  have before : ∀ time ∈ inside limiter.window now bucket, time ≤ now := fun time among =>
    past time (List.mem_filter.mp among).1
  unfold timesAfter
  dsimp only
  split
  · exact ⟨kept,before⟩
  · refine ⟨List.pairwise_append.mpr ⟨kept,List.pairwise_singleton _ _,?_⟩,?_⟩
    · intro time among last same
      rw [List.mem_singleton.mp same]
      exact before time among
    · intro time among
      rcases List.mem_append.mp among with old | new
      · exact before time old
      · rw [List.mem_singleton.mp new]

theorem times_append (key : String) (accepted : List (String × Nat)) (call : String × Nat) :
    ((accepted ++ [call]).filter fun entry => entry.1 = key).map Prod.snd =
      (accepted.filter fun entry => entry.1 = key).map Prod.snd ++ if call.1 = key then [call.2] else [] := by
  rw [List.filter_append,List.map_append]
  by_cases same : call.1 = key
  · simp [same]
  · simp [same]

/-- The accepted calls of the address keep step with its bucket. -/
theorem timesAfter_follows {limiter : RateLimiter} {bucket accepted : List Nat} {later : Nat}
    (follows : ∀ n, now ≤ n → inside limiter.window n bucket = inside limiter.window n accepted)
    (after : now ≤ later) :
    inside limiter.window later (limiter.timesAfter bucket now) =
      inside limiter.window later (accepted ++
        if (inside limiter.window now bucket).length < limiter.maxRequests then [now] else []) := by
  unfold timesAfter
  dsimp only
  by_cases accepts : (inside limiter.window now bucket).length < limiter.maxRequests
  · rw [if_pos accepts,if_neg (Nat.not_le.mpr accepts),inside_append,inside_append,
      inside_inside after,follows later after]
  · rw [if_neg accepts,if_pos (Nat.not_lt.mp accepts),inside_inside after,List.append_nil,
      follows later after]

theorem Watched.Sound.step_room (sound : s.Sound) (later : s.last ≤ now) (room : s.limiter.Room ip) :
    (s.step (ip,now)).Sound := by
  have enters := entered_room sound.distinct sound.fits room
  have checked := @check_room s ip now sound room
  have buckets := @bucketOf_after s ip now sound room
  have past : ∀ key, ∀ time ∈ s.limiter.bucketOf key, time ≤ now := fun key time among =>
    Nat.le_trans (sound.past key time among) later
  have sorted := @timesAfter_sorted now s.limiter _ (sound.sorted ip) (past ip)
  have after_eq : (s.step (ip,now)).limiter = (s.limiter.check ip now).2 := rfl
  have window_eq : (s.limiter.check ip now).2.window = s.limiter.window := by
    rw [checked]
    exact enters.fields.1
  have bounds (key : String) : ((s.limiter.check ip now).2.bucketOf key).Pairwise (· ≤ ·) ∧
      ∀ time ∈ (s.limiter.check ip now).2.bucketOf key, time ≤ now := by
    by_cases there : key ∈ (s.limiter.check ip now).2.keys
    · rw [(buckets key).2 there]
      split
      · exact sorted
      · exact ⟨sound.sorted key,past key⟩
    · rw [bucketOf_absent there]
      exact ⟨.nil,nofun⟩
  refine ⟨?_,?_,fun key => (bounds key).1,fun key => (bounds key).2,?_⟩
  · rw [after_eq,(buckets ip).1]
    exact enters.distinct
  · rw [after_eq,(buckets ip).1,checked]
    exact Nat.le_trans enters.fits (Nat.le_of_eq enters.fields.2.2.symm)
  · intro key kept n after
    have stayed : key ∉ s.evicted ∧
        (key ∈ s.limiter.keys ∨ key = ip → key ∈ (s.limiter.check ip now).2.keys) := by
      unfold Watched.step at kept
      simp only [List.mem_append,List.mem_filter,decide_eq_true_eq,not_or,not_and,not_not,
        List.mem_singleton] at kept
      exact kept
    have before := fun n (earlier : now ≤ n) =>
      sound.follows key stayed.1 n (Nat.le_trans later earlier)
    have accepted_eq : (s.step (ip,now)).times key = s.times key ++
        if ip = key ∧ (inside s.limiter.window now (s.limiter.bucketOf ip)).length < s.limiter.maxRequests
          then [now] else [] := by
      unfold Watched.times Watched.step
      rw [checked]
      by_cases accepts : (inside s.limiter.window now (s.limiter.bucketOf ip)).length < s.limiter.maxRequests
      · simp only [accepts,decide_true,if_true,and_true]
        exact times_append key s.accepted (ip,now)
      · simp [accepts]
    rw [after_eq,window_eq,accepted_eq]
    by_cases there : key ∈ (s.limiter.check ip now).2.keys
    · rw [(buckets key).2 there]
      by_cases same : key = ip
      · subst same
        simp only [if_true,true_and]
        exact timesAfter_follows before after
      · have other : ip ≠ key := fun equal => same equal.symm
        rw [if_neg same,if_neg fun both => other both.1,List.append_nil]
        exact before n after
    · have absent : key ∉ s.limiter.keys := fun inside_ => there (stayed.2 (.inl inside_))
      have other : ip ≠ key := fun equal => there (stayed.2 (.inr equal.symm))
      rw [bucketOf_absent there,if_neg fun both => other both.1,List.append_nil,← before n after,
        bucketOf_absent absent]

/-- A call that raises leaves the limiter as it was. -/
theorem Watched.Sound.step_crowded (sound : s.Sound) (later : s.last ≤ now) (crowded : ¬ s.limiter.Room ip) :
    (s.step (ip,now)).Sound := by
  have raised := @check_raises s.limiter ip now crowded
  have limiter_eq : (s.step (ip,now)).limiter = s.limiter := congrArg Prod.snd raised
  have accepted_eq : (s.step (ip,now)).times = s.times := by
    unfold Watched.times Watched.step
    rw [raised]
    rfl
  refine ⟨?_,?_,?_,?_,?_⟩
  · rw [limiter_eq]
    exact sound.distinct
  · rw [limiter_eq]
    exact sound.fits
  · rw [limiter_eq]
    exact sound.sorted
  · rw [limiter_eq]
    exact fun key time among => Nat.le_trans (sound.past key time among) later
  · rw [limiter_eq,accepted_eq]
    intro key kept n after
    refine sound.follows key (fun gone => kept ?_) n (Nat.le_trans later after)
    exact List.mem_append_left _ gone

theorem slides_iff (sound : s.Sound) (later : s.last ≤ now) :
    s.Slides (ip,now) ↔ s.limiter.Room ip := by
  constructor
  · intro slides
    by_contra crowded
    unfold Watched.Slides at slides
    rw [check_raises crowded] at slides
    exact slides.1 rfl
  · intro room
    have enters := entered_room sound.distinct sound.fits room
    unfold Watched.Slides
    rw [check_room sound room]
    refine ⟨nofun,?_,fun kept => ?_⟩
    · rw [keys_assign_eq]
      exact enters.fits
    · rw [sound.follows ip kept now later]

theorem Watched.Sound.step (sound : s.Sound) (call : String × Nat) (later : s.last ≤ call.2) :
    (s.step call).Sound := by
  by_cases room : s.limiter.Room call.1
  · exact sound.step_room later room
  · exact sound.step_crowded later room

/-- The times of the calls never fall behind the one before. -/
theorem along_clock {calls : List (String × Nat)} (clock : (calls.map Prod.snd).Pairwise (· ≤ ·)) :
    ∀ s : Watched, (∀ time ∈ calls.map Prod.snd, s.last ≤ time) →
      Along Watched.step (fun s call => s.last ≤ call.2) s calls := by
  induction calls with
  | nil => exact fun _ _ => trivial
  | cons call rest ih =>
    intro s before
    obtain ⟨first,others⟩ := List.pairwise_cons.mp clock
    exact ⟨before call.2 (by simp),ih others (s.step call) first⟩

end Watch

section Distinct

variable {s : Watched} {ip : String} {now : Nat} {calls : List (String × Nat)}

/-- Every entry of the table has a hit, after the zero of the clock. -/
def Hit (limiter : RateLimiter) : Prop :=
  ∀ entry ∈ limiter.ipTimestamps, entry.2 ≠ [] ∧ ∀ time ∈ entry.2, time ≠ 0

theorem Hit.lastHit_ne {limiter : RateLimiter} (hit : limiter.Hit) {entry : String × List Nat}
    (among : entry ∈ limiter.ipTimestamps) : lastHit entry ≠ 0 := by
  obtain ⟨nonempty,times⟩ := hit entry among
  unfold lastHit
  rw [List.getLast?_eq_some_getLast nonempty]
  exact times _ (List.getLast_mem nonempty)

theorem Hit.room_iff {limiter : RateLimiter} (hit : limiter.Hit) :
    limiter.Room ip ↔ ip ∈ limiter.keys ∨ limiter.keys.length < limiter.tableMaxSize := by
  unfold Room
  rw [or_iff_left (a := limiter.keys.length < limiter.tableMaxSize)]
  rintro ⟨entry,among,zero⟩
  exact hit.lastHit_ne among zero

/-- While there is room the table has every address that called. -/
theorem entered_keys (hit : s.limiter.Hit) (room : s.limiter.Room ip) :
    (s.limiter.entered ip).ipTimestamps = s.limiter.ipTimestamps ∧ ip ∈ s.limiter.keys ∨
      (s.limiter.entered ip).ipTimestamps = s.limiter.ipTimestamps ++ [(ip,[])] ∧ ip ∉ s.limiter.keys := by
  by_cases there : ip ∈ s.limiter.keys
  · exact .inl ⟨by rw [entered_known there],there⟩
  · have space := (hit.room_iff.mp room).resolve_left there
    exact .inr ⟨by rw [entered_new there space],there⟩

theorem Hit.step (hit : s.limiter.Hit) (sound : s.Sound) (room : s.limiter.Room ip) (positive : 0 < now)
    (some_ : 0 < s.limiter.maxRequests) : (s.step (ip,now)).limiter.Hit := by
  have after_eq : (s.step (ip,now)).limiter = (s.limiter.check ip now).2 := rfl
  rw [after_eq,check_room sound room]
  intro entry among
  obtain ⟨before,inside_,rfl⟩ := List.mem_map.mp among
  have bucket : ∀ time ∈ s.limiter.bucketOf ip, time ≠ 0 := by
    by_cases there : ip ∈ s.limiter.keys
    · have found := lookup_isSome there
      obtain ⟨front,back,split,-⟩ := List.lookup_eq_some_iff.mp found
      exact (hit (ip,s.limiter.bucketOf ip) (by rw [split]; simp)).2
    · rw [bucketOf_absent there]
      nofun
  by_cases same : before.1 = ip
  · rw [if_pos same]
    unfold timesAfter
    dsimp only
    have recent : ∀ time ∈ inside s.limiter.window now (s.limiter.bucketOf ip), time ≠ 0 :=
      fun time among => bucket time (List.mem_filter.mp among).1
    split
    next full =>
      refine ⟨fun empty => ?_,recent⟩
      rw [empty] at full
      exact absurd some_ (Nat.not_lt.mpr full)
    next =>
      refine ⟨by simp,fun time among => ?_⟩
      rcases List.mem_append.mp among with old | new
      · exact recent time old
      · rw [List.mem_singleton.mp new]
        exact Nat.ne_of_gt positive
  · rw [if_neg same]
    rcases entered_keys hit room with ⟨entries,-⟩ | ⟨entries,-⟩
    · rw [entries] at inside_
      exact hit before inside_
    · rw [entries] at inside_
      rcases List.mem_append.mp inside_ with old | new
      · exact hit before old
      · exact absurd (congrArg Prod.fst (List.mem_singleton.mp new)) same

/-- There is room for all calls when there is for all their addresses. -/
theorem room_iff_distinct (clock : (calls.map Prod.snd).Pairwise (· ≤ ·))
    (positive : ∀ time ∈ calls.map Prod.snd, 0 < time) :
    ∀ s : Watched, s.Sound → s.limiter.Hit → 0 < s.limiter.maxRequests →
      (∀ time ∈ calls.map Prod.snd, s.last ≤ time) →
      (Along Watched.step (fun s call => s.limiter.Room call.1) s calls ↔
        (s.limiter.keys.toFinset ∪ (calls.map Prod.fst).toFinset).card ≤ s.limiter.tableMaxSize) := by
  induction calls with
  | nil =>
    intro s sound _ _ _
    have bound : s.limiter.keys.toFinset.card ≤ s.limiter.tableMaxSize := by
      rw [List.toFinset_card_of_nodup sound.distinct]
      exact sound.fits
    simpa using bound
  | cons call rest ih =>
    intro s sound hit some_ before
    obtain ⟨ip,now⟩ := call
    obtain ⟨first,others⟩ := List.pairwise_cons.mp clock
    have now_pos : 0 < now := positive now (by simp)
    have later : s.last ≤ now := before now (by simp)
    rw [along_cons]
    by_cases room : s.limiter.Room ip
    · have enters := entered_room sound.distinct sound.fits room
      have after_eq : (s.step (ip,now)).limiter =
          (s.limiter.entered ip).assign ip (s.limiter.timesAfter (s.limiter.bucketOf ip) now) :=
        congrArg Prod.snd (check_room sound room)
      have fields : (s.step (ip,now)).limiter.maxRequests = s.limiter.maxRequests ∧
          (s.step (ip,now)).limiter.tableMaxSize = s.limiter.tableMaxSize := by
        rw [after_eq]
        exact enters.fields.2
      have next := ih others (fun time among => positive time (List.mem_cons_of_mem _ among))
        (s.step (ip,now)) (sound.step (ip,now) later) (hit.step sound room now_pos some_)
        (by rwa [fields.1]) first
      rw [and_iff_right room,next,fields.2,after_eq,keys_assign_eq]
      have seen : (s.limiter.entered ip).keys.toFinset = insert ip s.limiter.keys.toFinset := by
        rcases entered_keys hit room with ⟨entries,there⟩ | ⟨entries,-⟩
        · unfold keys
          rw [entries]
          exact (Finset.insert_eq_of_mem (List.mem_toFinset.mpr there)).symm
        · unfold keys
          rw [entries]
          ext key
          simp
      rw [seen,List.map_cons,List.toFinset_cons,Finset.insert_union,Finset.union_insert]
    · refine iff_of_false (fun both => room both.1) (Nat.not_le.mpr ?_)
      rw [hit.room_iff,not_or,Nat.not_lt] at room
      have grows : (insert ip s.limiter.keys.toFinset).card = s.limiter.keys.length + 1 := by
        rw [Finset.card_insert_of_notMem (fun there => room.1 (List.mem_toFinset.mp there)),
          List.toFinset_card_of_nodup sound.distinct]
      have among : insert ip s.limiter.keys.toFinset ⊆
          s.limiter.keys.toFinset ∪ (((ip,now) :: rest).map Prod.fst).toFinset := by
        intro key found
        rcases Finset.mem_insert.mp found with rfl | old
        · simp
        · exact Finset.mem_union_left _ old
      have fewer := Finset.card_le_card among
      omega

end Distinct

section Result

def afterCall (limiter : RateLimiter) (call : String × Nat) : RateLimiter :=
  (limiter.check call.1 call.2).2

/-- The limiter is a sliding window just as long as no new address comes to a crowded table: when
the clock is past its zero, as long as no more addresses call than the table holds. -/
theorem rate_limiter_slides_iff (window maxRequests tableMaxSize : Nat) (calls : List (String × Nat))
    (clock : (calls.map Prod.snd).Pairwise (· ≤ ·)) :
    (Along Watched.step Watched.Slides (.start window maxRequests tableMaxSize) calls ↔
      Along afterCall (fun limiter call => limiter.Room call.1)
        ⟨window,maxRequests,tableMaxSize,[]⟩ calls) ∧
      (0 < maxRequests → (∀ call ∈ calls, 0 < call.2) →
        (Along Watched.step Watched.Slides (.start window maxRequests tableMaxSize) calls ↔
          (calls.map Prod.fst).toFinset.card ≤ tableMaxSize)) := by
  have sound := sound_start window maxRequests tableMaxSize
  have kept : ∀ (s : Watched) (call : String × Nat), s.Sound → s.last ≤ call.2 → (s.step call).Sound :=
    fun _ call sound later => sound.step call later
  have same : ∀ (s : Watched) (call : String × Nat), s.Sound → s.last ≤ call.2 →
      (s.Slides call ↔ s.limiter.Room call.1) := fun _ _ sound later => slides_iff sound later
  have slides : Along Watched.step Watched.Slides (.start window maxRequests tableMaxSize) calls ↔
      Along Watched.step (fun s call => s.limiter.Room call.1)
        (.start window maxRequests tableMaxSize) calls :=
    Along.congr kept same sound (along_clock clock _ fun _ _ => Nat.zero_le _)
  have follows : ∀ (s : Watched) (call : String × Nat), (s.step call).limiter = afterCall s.limiter call :=
    fun _ _ => rfl
  have unwatched := along_map Watched.limiter follows (fun limiter call => limiter.Room call.1)
    (.start window maxRequests tableMaxSize) calls
  refine ⟨slides.trans unwatched.symm,?_⟩
  intro some_ positive
  have times : ∀ time ∈ calls.map Prod.snd, 0 < time := by
    intro time among
    obtain ⟨call,there,rfl⟩ := List.mem_map.mp among
    exact positive call there
  have distinct := room_iff_distinct clock times _ sound nofun some_ fun _ _ => Nat.zero_le _
  have none_ : (Watched.start window maxRequests tableMaxSize).limiter.keys.toFinset = ∅ := rfl
  rw [slides,distinct,none_,Finset.empty_union]
  exact Iff.rfl

/-- A table for two addresses, and a call that is refused until the window has moved on. -/
theorem two_addresses_slide :
    Along Watched.step Watched.Slides (.start 60 3 2)
      [("10.0.0.1",100),("10.0.0.1",100),("10.0.0.2",110),("10.0.0.1",159),("10.0.0.1",160),
        ("10.0.0.1",161)] :=
  ((rate_limiter_slides_iff 60 3 2 _ (by decide)).2 (by decide) (by decide)).mpr (by decide)

/-- Two addresses and a table for one: the second call raises. -/
theorem crowded_table_raises :
    ¬ Along Watched.step Watched.Slides (.start 60 10 1) [("10.0.0.1",100),("10.0.0.2",101)] := by
  intro slides
  have raised : ((Watched.start 60 10 1).step ("10.0.0.1",100)).limiter.check "10.0.0.2" 101 =
      (none,⟨60,10,1,[("10.0.0.1",[100])]⟩) := rfl
  have second := slides.2.1
  unfold Watched.Slides at second
  rw [raised] at second
  exact second.1 rfl

end Result

end RateLimiter

end Ibctl.Dashboard
