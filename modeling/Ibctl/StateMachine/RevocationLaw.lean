import Ibctl.Lib.FirstSeen
import Ibctl.StateMachine.Revocation

/-! The debounce law of the tracker: what a run of calls answers is said by the history of
the calls alone. The tracker is a record of first sightings under the tags. -/
namespace Ibctl.Machine

open FirstSeen (Call Since)

inductive RevocationCall where
  | observe (source : RevocationSource) (now : Instant)
  | clear (tag : RevocationTag)
  | clearAll
deriving DecidableEq, Repr

namespace RevocationCall

def Clears (tag : RevocationTag) : RevocationCall → Prop
  | observe .. => False
  | clear other => other = tag
  | clearAll => True

def concerns (tag : RevocationTag) : RevocationCall → Bool
  | observe source _ => source.tag = tag
  | clear other => other = tag
  | clearAll => true

def time? : RevocationCall → Option Int
  | observe _ now => some now.nanos
  | clear _ | clearAll => none

/-- The call as it acts on the record of first sightings. -/
def sighting : RevocationCall → Call RevocationTag Int
  | observe source now => .seen source.tag now.nanos
  | clear tag => .forget tag
  | clearAll => .forgetAll

theorem clears_iff (call : RevocationCall) (tag : RevocationTag) :
    call.Clears tag ↔ call.sighting.Forgets tag := by
  cases call <;> exact Iff.rfl

theorem sighting_concerns (call : RevocationCall) (tag : RevocationTag) :
    call.sighting.concerns tag = call.concerns tag := by
  cases call <;> rfl

theorem sighting_time (call : RevocationCall) : call.sighting.time? = call.time? := by
  cases call <;> rfl

/-- The tag was observed at a time since which it was not cleared. -/
def Observed (calls : List RevocationCall) (tag : RevocationTag) (first : Instant) : Prop :=
  ∃ before source after, calls = before ++ .observe source first :: after ∧
    source.tag = tag ∧ ∀ call ∈ after, ¬ call.Clears tag

theorem observed_iff (calls : List RevocationCall) (tag : RevocationTag) (first : Instant) :
    Observed calls tag first ↔ Since (calls.map sighting) tag first.nanos := by
  constructor
  · rintro ⟨before,source,after,rfl,rfl,kept⟩
    refine ⟨before.map sighting,after.map sighting,by simp [sighting],fun call member => ?_⟩
    obtain ⟨origin,there,rfl⟩ := List.mem_map.mp member
    exact fun forgets => kept origin there ((origin.clears_iff _).mpr forgets)
  · rintro ⟨before,after,split_,kept⟩
    obtain ⟨former,rest,rfl,-,split_⟩ := List.map_eq_append_iff.mp split_
    obtain ⟨call,later,rfl,sighted,rfl⟩ := List.map_eq_cons_iff.mp split_
    cases call with
    | observe source now =>
      obtain ⟨tagged,same⟩ := Call.seen.inj sighted
      obtain rfl : now = first := congrArg Instant.mk same
      refine ⟨former,source,later,rfl,tagged,fun call member clears => ?_⟩
      exact kept call.sighting (List.mem_map_of_mem member) ((call.clears_iff _).mp clears)
    | clear _ | clearAll => cases sighted

end RevocationCall

namespace RevocationTracker

variable (self : RevocationTracker)

def call : RevocationCall → RevocationTracker
  | .observe source now => (self.observe source now).2
  | .clear tag => self.clear tag
  | .clearAll => self.clearAll

def after (calls : List RevocationCall) : RevocationTracker := Runs.run call new calls

def sightings : FirstSeen.Sightings RevocationTag Int :=
  fun tag => (self.firstSeenAt tag).map Instant.nanos

@[simp] theorem firstSeenAt_cons (tag other : RevocationTag) (now : Instant)
    (source : RevocationSource) (entries : List (RevocationTag × Instant × RevocationSource)) :
    (⟨(tag,now,source) :: entries⟩ : RevocationTracker).firstSeenAt other =
      if tag = other then some now else (⟨entries⟩ : RevocationTracker).firstSeenAt other := by
  by_cases same : tag = other <;> simp [firstSeenAt,same]

theorem firstSeenAt_clear (tag other : RevocationTag) :
    (self.clear tag).firstSeenAt other = if other = tag then none else self.firstSeenAt other := by
  obtain ⟨entries⟩ := self
  induction entries with
  | nil => simp [firstSeenAt,clear]
  | cons entry rest ih =>
    obtain ⟨key,now,source⟩ := entry
    by_cases gone : key = tag
    · have same : (⟨(key,now,source) :: rest⟩ : RevocationTracker).clear tag =
          (⟨rest⟩ : RevocationTracker).clear tag := by simp [clear,gone]
      rw [same,ih,firstSeenAt_cons]
      split
      · rfl
      · rename_i apart
        rw [if_neg (fun equal => apart (equal.symm.trans gone))]
    · have kept : (⟨(key,now,source) :: rest⟩ : RevocationTracker).clear tag =
          ⟨(key,now,source) :: ((⟨rest⟩ : RevocationTracker).clear tag).firstSeen⟩ := by
        simp [clear,gone]
      rw [kept,firstSeenAt_cons,firstSeenAt_cons]
      by_cases here : key = other
      · rw [if_pos here,if_neg (fun equal => gone (here.trans equal)),if_pos here]
      · rw [if_neg here,if_neg here]
        exact ih

theorem anyPending_iff : self.anyPending = true ↔ ∃ tag, (self.firstSeenAt tag).isSome := by
  obtain ⟨entries⟩ := self
  cases entries with
  | nil => simp [anyPending,firstSeenAt]
  | cons entry rest =>
    obtain ⟨tag,now,source⟩ := entry
    exact iff_of_true rfl ⟨tag,by simp⟩

/-- A call on the tracker is a call on the record of first sightings. -/
theorem sightings_call (call : RevocationCall) :
    (self.call call).sightings = FirstSeen.step self.sightings call.sighting := by
  funext tag
  cases call with
  | observe source now =>
    cases known : self.firstSeenAt source.tag with
    | some first =>
      simp [RevocationTracker.call,RevocationCall.sighting,FirstSeen.step,observe,sightings,known]
    | none =>
      have stays : (self.sightings source.tag).isSome = false := by simp [sightings,known]
      simp only [RevocationTracker.call,RevocationCall.sighting,FirstSeen.step,observe,known,stays,
        Bool.false_eq_true,if_false]
      by_cases same : source.tag = tag
      · subst same
        simp [sightings]
      · have apart : tag ≠ source.tag := fun equal => same equal.symm
        rw [Function.update_of_ne apart]
        simp [sightings,same]
  | clear other =>
    simp only [RevocationTracker.call,RevocationCall.sighting,FirstSeen.step,sightings,firstSeenAt_clear]
    by_cases same : tag = other
    · subst same
      simp
    · rw [if_neg same,Function.update_of_ne same]
      rfl
  | clearAll => rfl

theorem sightings_after (calls : List RevocationCall) :
    (after calls).sightings =
      Runs.run FirstSeen.step FirstSeen.empty (calls.map RevocationCall.sighting) := by
  induction calls using List.reverseRecOn with
  | nil => rfl
  | append_singleton calls last ih =>
    rw [List.map_append,List.map_singleton,Runs.run_concat,← ih,← sightings_call]
    exact congrArg sightings (Runs.run_concat _ _ _ _)

theorem firstSeenAt_after_isSome_iff (calls : List RevocationCall) (tag : RevocationTag) :
    ((after calls).firstSeenAt tag).isSome ↔ ∃ first, RevocationCall.Observed calls tag first := by
  have known := FirstSeen.run_isSome_iff (calls.map RevocationCall.sighting) tag
  rw [← sightings_after] at known
  rw [← Option.isSome_map (f := Instant.nanos)]
  refine known.trans ⟨?_,?_⟩
  · rintro ⟨time,seen⟩
    exact ⟨⟨time⟩,(RevocationCall.observed_iff calls tag ⟨time⟩).mpr seen⟩
  · rintro ⟨first,seen⟩
    exact ⟨first.nanos,(RevocationCall.observed_iff calls tag first).mp seen⟩

theorem observed_of_firstSeenAt {calls : List RevocationCall} {tag : RevocationTag} {first : Instant}
    (known : (after calls).firstSeenAt tag = some first) :
    RevocationCall.Observed calls tag first := by
  refine (RevocationCall.observed_iff calls tag first).mpr (FirstSeen.since_of_run ?_)
  rw [← sightings_after]
  simp [sightings,known]

theorem firstSeenAt_le {calls : List RevocationCall}
    (ordered : (calls.filterMap (·.time?)).Pairwise (· ≤ ·)) {tag : RevocationTag}
    {first time : Instant} (known : (after calls).firstSeenAt tag = some first)
    (seen : RevocationCall.Observed calls tag time) : first.nanos ≤ time.nanos := by
  have sighted := (RevocationCall.observed_iff calls tag time).mp seen
  refine FirstSeen.run_le_since ?_ ?_ sighted
  · rw [List.filterMap_map]
    exact (congrArg (fun f => (calls.filterMap f).Pairwise (· ≤ ·))
      (funext RevocationCall.sighting_time)).mpr ordered
  · rw [← sightings_after]
    simp [sightings,known]

theorem firstSeenAt_concerning (calls : List RevocationCall) (tag : RevocationTag) :
    (after (calls.filter (·.concerns tag))).firstSeenAt tag = (after calls).firstSeenAt tag := by
  have alone := FirstSeen.run_concerning (calls.map RevocationCall.sighting) tag
  have filtered : (calls.map RevocationCall.sighting).filter (·.concerns tag) =
      (calls.filter (·.concerns tag)).map RevocationCall.sighting := by
    rw [List.filter_map]
    exact congrArg (fun f => (calls.filter f).map RevocationCall.sighting)
      (funext fun call => call.sighting_concerns tag)
  rw [filtered,← sightings_after,← sightings_after] at alone
  exact Option.map_injective (fun _ _ same => congrArg Instant.mk same) alone

/-- What an observation answers, read from the time that is kept for its tag. -/
theorem observe_fst (source : RevocationSource) (now : Instant) :
    (self.observe source now).1 =
      if source.debounce = 0 ∨
          (self.firstSeenAt source.tag).any (fun first => source.debounce ≤ now.durationSince first)
      then some source else none := by
  unfold observe
  cases known : self.firstSeenAt source.tag with
  | none => simp
  | some first =>
    by_cases zero : source.debounce = 0
    · simp [zero]
    · simp [zero]

/-- The observation that is kept has matured exactly when some observation has. -/
theorem matured_iff {calls : List RevocationCall}
    (ordered : (calls.filterMap (·.time?)).Pairwise (· ≤ ·)) {now : Instant}
    (later : ∀ time ∈ calls.filterMap (·.time?), time ≤ now.nanos) (tag : RevocationTag)
    (debounce : Duration) :
    ((after calls).firstSeenAt tag).any (fun first => debounce ≤ now.durationSince first) = true ↔
      ∃ first, RevocationCall.Observed calls tag first ∧
        (debounce : Int) ≤ now.nanos - first.nanos := by
  have known := firstSeenAt_after_isSome_iff calls tag
  cases kept : (after calls).firstSeenAt tag with
  | none =>
    rw [kept] at known
    refine iff_of_false (by simp) ?_
    rintro ⟨first,seen,-⟩
    exact absurd (known.mpr ⟨first,seen⟩) (by simp)
  | some first =>
    have seen := observed_of_firstSeenAt kept
    have forward : first.nanos ≤ now.nanos := by
      obtain ⟨before,source,rest,rfl,-⟩ := seen
      exact later first.nanos (by simp [RevocationCall.time?])
    have elapsed := Instant.durationSince_cast forward
    simp only [Option.any_some,decide_eq_true_eq]
    constructor
    · intro matured
      exact ⟨first,seen,elapsed ▸ Int.ofNat_le.mpr matured⟩
    · rintro ⟨time,other,matured⟩
      have earliest := firstSeenAt_le ordered kept other
      refine Int.ofNat_le.mp ?_
      rw [elapsed]
      omega

/-- The debounce law. An observation fires exactly when its source has no debounce or its tag was
observed at least that long ago and not cleared since; calls for other tags do not matter, and
something is pending exactly when some tag was observed and not cleared since. -/
theorem debounce_law (calls : List RevocationCall) (source : RevocationSource) (now : Instant)
    (ordered : ((calls ++ [RevocationCall.observe source now]).filterMap
      RevocationCall.time?).Pairwise (· ≤ ·)) :
    (((after calls).observe source now).1 = some source ↔
      source.debounce = 0 ∨ ∃ first, RevocationCall.Observed calls source.tag first ∧
        (source.debounce : Int) ≤ now.nanos - first.nanos) ∧
    (((after calls).observe source now).1 = none ↔
      ¬ (source.debounce = 0 ∨ ∃ first, RevocationCall.Observed calls source.tag first ∧
        (source.debounce : Int) ≤ now.nanos - first.nanos)) ∧
    ((after (calls.filter (·.concerns source.tag))).observe source now).1 =
      ((after calls).observe source now).1 ∧
    ((after calls).anyPending = true ↔
      ∃ tag first, RevocationCall.Observed calls tag first) := by
  rw [List.filterMap_append,List.pairwise_append] at ordered
  obtain ⟨earlier,-,across⟩ := ordered
  have later : ∀ time ∈ calls.filterMap (·.time?), time ≤ now.nanos :=
    fun time member => across time member now.nanos (by simp [RevocationCall.time?])
  have matured := matured_iff earlier later source.tag source.debounce
  refine ⟨?_,?_,?_,?_⟩
  · rw [observe_fst,← matured]
    split
    · rename_i fires
      exact iff_of_true rfl fires
    · rename_i waits
      exact iff_of_false (by simp) waits
  · rw [observe_fst,← matured]
    split
    · rename_i fires
      exact iff_of_false (by simp) (not_not_intro fires)
    · rename_i waits
      exact iff_of_true rfl waits
  · rw [observe_fst,observe_fst,firstSeenAt_concerning]
  · rw [anyPending_iff]
    exact exists_congr fun tag => firstSeenAt_after_isSome_iff calls tag

/-- Two error dialogs with different titles share one timer. -/
theorem debounce_law_dialogs :
    ((after [.observe (.errorDialog "A") ⟨0⟩,.clear .jvmDied]).observe (.errorDialog "B")
        ⟨500000000⟩).1 = some (.errorDialog "B") :=
  (debounce_law [.observe (.errorDialog "A") ⟨0⟩,.clear .jvmDied] (.errorDialog "B") ⟨500000000⟩
    (by decide)).1.mpr (.inr ⟨⟨0⟩,⟨[],.errorDialog "A",[.clear .jvmDied],rfl,rfl,by
      simp [RevocationCall.Clears,RevocationSource.tag]⟩,by decide⟩)

end RevocationTracker

end Ibctl.Machine
