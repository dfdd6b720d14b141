import Ibctl.Dashboard.HitlAlerts

/-! The monitors of transitions over a whole run: which transitions they alert, when an instance
does not answer at times and a scan is suppressed at times. -/
namespace Ibctl.Dashboard
open Runs

section Kinds

/-- What a monitor looks for in a history, and what it says of it. -/
structure TransitionKind where
  eventType : String
  wanted : Transition → Bool
  alert : String → Transition → Alert

def TransitionKind.scan (kind : TransitionKind) (suppressed : String → Bool) : Scan := fun mode history =>
  if suppressed mode then none
  else (latest kind.wanted history).map fun t => (t.key,kind.alert mode t)

/-- The monitors that are never suppressed. -/
theorem scans_of_kind {scan : Scan} (known : scan ∈ [loginFailed,reloginFailed,warmRestart]) :
    ∃ kind : TransitionKind, scan = kind.scan fun _ => false := by
  simp only [List.mem_cons,List.not_mem_nil,or_false] at known
  rcases known with rfl | rfl | rfl
  · exact ⟨⟨"login_failed",_,_⟩,rfl⟩
  · exact ⟨⟨"relogin_failed",_,_⟩,rfl⟩
  · exact ⟨⟨"warm_restart",_,_⟩,rfl⟩

def hitlKind : TransitionKind where
  eventType := "hitl_2fa_required"
  wanted := isEntry
  alert _ _ :=
    { eventType := "hitl_2fa_required"
      title := ""
      body := ""
      priority := "urgent"
      tags := "warning,key"
      actions := [] }

theorem hitlEntry_of_kind : hitlEntry = hitlKind.scan fun _ => false := rfl

theorem sessionLost_of_kind :
    ∃ kind : TransitionKind, ∀ suppressed, sessionLost suppressed = kind.scan fun _ => suppressed :=
  ⟨⟨"session_lost",_,_⟩,fun _ => rfl⟩

end Kinds

section Watch

/-- The instances with their histories, the monitor, and how much of each history there was at the
first check, at the last check that the instance answered, and at the last one whose scan looked
at it. -/
structure TransitionWatch where
  histories : String → List Transition
  monitor : TransitionMonitor
  first : String → Nat
  polled : String → Option Nat
  looked : String → Nat

/-- What happens: an instance records a transition, or the monitor checks. -/
inductive TransitionEvent where
  | recorded (mode : String) (t : Transition)
  | checked (ns : NotificationService) (answers suppressed : String → Bool)

namespace TransitionWatch

def start : TransitionWatch := ⟨fun _ => [],.start,fun _ => 0,fun _ => none,fun _ => 0⟩

variable (kind : TransitionKind) (modes : List String) (w : TransitionWatch)

def answered (answers : String → Bool) (mode : String) : Option (List Transition) :=
  if answers mode then some (w.histories mode) else none

def check (ns : NotificationService) (answers suppressed : String → Bool) :
    List (String × Alert) × TransitionMonitor :=
  w.monitor.check ns kind.eventType (kind.scan suppressed) modes (w.answered answers)

def step : TransitionEvent → TransitionWatch
  | .recorded mode t =>
    { w with histories := Function.update w.histories mode (w.histories mode ++ [t]) }
  | .checked ns answers suppressed =>
    if ns.isEventEnabled kind.eventType then
      let count mode := (w.histories mode).length
      { w with
        monitor := (w.check kind modes ns answers suppressed).2
        first := if w.monitor.initialized then w.first else count
        polled := fun mode => if mode ∈ modes ∧ answers mode then some (count mode) else w.polled mode
        looked := fun mode =>
          if mode ∈ modes ∧ answers mode ∧ suppressed mode = false then count mode else w.looked mode }
    else w

/-- The latest transition of the kind behind the first ones. -/
def latestSince (n : Nat) (mode : String) : Option Transition := latest kind.wanted ((w.histories mode).drop n)

/-- The latest transition of the kind among the first ones. -/
def latestUntil (n : Nat) (mode : String) : Option Transition := latest kind.wanted ((w.histories mode).take n)

/-- A check alerts what was recorded after the first check only, and once what was recorded since
the instance answered last, the latest of it. -/
def Alerts : TransitionEvent → Prop
  | .recorded .. => True
  | .checked ns answers suppressed =>
    let alerts := (w.check kind modes ns answers suppressed).1
    (∀ entry ∈ alerts, ∃ t, w.latestSince kind (w.first entry.1) entry.1 = some t ∧
      entry.2 = kind.alert entry.1 t) ∧
    (ns.isEventEnabled kind.eventType = true → ∀ mode ∈ modes, answers mode = true →
      suppressed mode = false → ∀ n, w.polled mode = some n →
        ∀ t, w.latestSince kind n mode = some t →
          alerts.filter (fun entry => entry.1 = mode) = [(mode,kind.alert mode t)])

/-- What a check looks at after the first one has been looked at by then, or it holds nothing of the
kind from before the first check, or something newer; and a transition that is new to the check has
another key than the one looked at last. -/
def Told : TransitionEvent → Prop
  | .recorded .. => True
  | .checked ns answers suppressed =>
    ns.isEventEnabled kind.eventType = true → w.monitor.initialized = true →
      ∀ mode ∈ modes, answers mode = true → suppressed mode = false →
        (w.first mode ≤ w.looked mode ∨ w.latestUntil kind (w.first mode) mode = none ∨
          (w.latestSince kind (w.first mode) mode).isSome) ∧
        ∀ n, w.polled mode = some n → ∀ t, w.latestSince kind n mode = some t →
          ∀ s, w.latestUntil kind (w.looked mode) mode = some s → t.key ≠ s.key

end TransitionWatch

end Watch

section Checks

namespace TransitionMonitor

variable {scan : Scan} {modes : List String} {histories : String → Option (List Transition)} {mode : String}

theorem mem_found {entry : String × String × Alert} :
    entry ∈ found scan modes histories ↔
      entry.1 ∈ modes ∧ (histories entry.1).bind (scan entry.1) = some entry.2 := by
  obtain ⟨mode,result⟩ := entry
  unfold found
  rw [List.mem_filterMap]
  constructor
  · rintro ⟨other,member,scanned⟩
    obtain ⟨value,read,same⟩ := Option.map_eq_some_iff.mp scanned
    cases same
    exact ⟨member,read⟩
  · rintro ⟨member,read⟩
    exact ⟨mode,member,by rw [read]; rfl⟩

theorem lookup_found :
    (found scan modes histories).lookup mode =
      if mode ∈ modes then (histories mode).bind (scan mode) else none := by
  induction modes with
  | nil => rfl
  | cons other rest ih =>
    unfold found at ih ⊢
    rw [List.filterMap_cons]
    by_cases same : mode = other
    · subst same
      rw [if_pos List.mem_cons_self]
      cases scanned : (histories mode).bind (scan mode) with
      | some result => exact List.lookup_cons_self
      | none =>
        refine ih.trans ?_
        rw [scanned,ite_self]
    · have differs : (mode == other) = false := beq_false_of_ne same
      have member : mode ∈ other :: rest ↔ mode ∈ rest := List.mem_cons.trans (or_iff_right same)
      simp only [member]
      cases (histories other).bind (scan other) with
      | some result => exact (List.lookup_cons.trans (by rw [differs])).trans ih
      | none => exact ih

theorem found_absent (absent : mode ∉ modes) :
    (found scan modes histories).filter (fun entry => entry.1 = mode) = [] := by
  apply List.filter_eq_nil_iff.mpr
  intro entry among same
  rw [decide_eq_true_eq] at same
  exact absent (same ▸ (mem_found.mp among).1)

theorem found_filter (registered : modes.Nodup) (member : mode ∈ modes) :
    (found scan modes histories).filter (fun entry => entry.1 = mode) =
      (((histories mode).bind (scan mode)).map (mode,·)).toList := by
  obtain ⟨before,after,rfl,absentBefore,absentAfter⟩ := split_of_mem registered member
  have earlier := @found_absent scan before histories mode absentBefore
  have later := @found_absent scan after histories mode absentAfter
  unfold found at earlier later ⊢
  rw [List.filterMap_append,List.filter_append,earlier,List.nil_append,List.filterMap_cons]
  cases (histories mode).bind (scan mode) with
  | none => exact later
  | some result =>
    rw [Option.map_some]
    dsimp only
    rw [List.filter_cons_of_pos (by simp),later]
    rfl

theorem check_registered {ns : NotificationService} {eventType : String} {m : TransitionMonitor}
    {entry : String × Alert} (alerted : entry ∈ (m.check ns eventType scan modes histories).1) :
    entry.1 ∈ modes := by
  unfold check at alerted
  split at alerted
  · dsimp only at alerted
    split at alerted
    · obtain ⟨seen,there,rfl⟩ := List.mem_map.mp alerted
      exact (mem_found.mp (List.mem_of_mem_filter there)).1
    · cases alerted
  · cases alerted

/-- The alerts of one mode: the one for what its scan finds, unless that was seen last. -/
theorem check_filter {ns : NotificationService} {eventType : String} {m : TransitionMonitor}
    (registered : modes.Nodup) (member : mode ∈ modes) (enabled : ns.isEventEnabled eventType = true)
    (begun : m.initialized = true) :
    (m.check ns eventType scan modes histories).1.filter (fun entry => entry.1 = mode) =
      match (histories mode).bind (scan mode) with
      | none => []
      | some (key,alert) => if m.lastSeenKey mode = some key then [] else [(mode,alert)] := by
  unfold check
  rw [if_pos enabled]
  dsimp only
  rw [if_pos begun,List.filter_map,List.filter_filter]
  have swapped : (found scan modes histories).filter (fun entry =>
      ((fun alert : String × Alert => decide (alert.1 = mode)) ∘ fun entry => (entry.1,entry.2.2)) entry &&
        decide (m.lastSeenKey entry.1 ≠ some entry.2.1)) =
      ((found scan modes histories).filter fun entry => entry.1 = mode).filter fun entry =>
        m.lastSeenKey entry.1 ≠ some entry.2.1 := by
    rw [List.filter_filter]
    apply List.filter_congr
    intro entry _
    exact Bool.and_comm _ _
  rw [swapped,found_filter registered member]
  cases (histories mode).bind (scan mode) with
  | none => rfl
  | some result =>
    obtain ⟨key,alert⟩ := result
    by_cases seen : m.lastSeenKey mode = some key
    · simp [seen]
    · simp [seen]

theorem check_lastSeenKey {ns : NotificationService} {eventType : String} {m : TransitionMonitor}
    (enabled : ns.isEventEnabled eventType = true) (fresh : m.initialized = false → m.lastSeenKey mode = none) :
    (m.check ns eventType scan modes histories).2.lastSeenKey mode =
      ((if mode ∈ modes then (histories mode).bind (scan mode) else none).map Prod.fst).orElse
        fun _ => m.lastSeenKey mode := by
  unfold check
  rw [if_pos enabled]
  dsimp only
  cases begun : m.initialized with
  | true => simp [lookup_found]
  | false => simp [lookup_found,fresh begun]

end TransitionMonitor

end Checks

section Runs

theorem latest_append (wanted : Transition → Bool) (first second : List Transition) :
    latest wanted (first ++ second) = (latest wanted second).or (latest wanted first) := by
  unfold latest
  rw [List.reverse_append,List.find?_append]

namespace TransitionWatch

variable {kind : TransitionKind} {modes : List String} {w : TransitionWatch}

theorem latest_split (n : Nat) (mode : String) :
    latest kind.wanted (w.histories mode) = (w.latestSince kind n mode).or (w.latestUntil kind n mode) := by
  rw [latestSince,latestUntil,← latest_append,List.take_append_drop]

/-- Where nothing of the kind was recorded since, the latest one is the same. -/
theorem latestUntil_mono {n m : Nat} {mode : String} (later : n ≤ m) (nothing : w.latestSince kind n mode = none) :
    w.latestUntil kind m mode = w.latestUntil kind n mode := by
  have between : ((w.histories mode).drop n).take (m - n) <:+: (w.histories mode).drop n :=
    (List.take_prefix _ _).isInfix
  have none_ : latest kind.wanted (((w.histories mode).drop n).take (m - n)) = none := by
    unfold latestSince latest at nothing
    unfold latest
    rw [List.find?_eq_none] at nothing ⊢
    intro t among
    exact nothing t (List.mem_reverse.mpr (between.subset (List.mem_reverse.mp among)))
  have whole : (w.histories mode).take m =
      (w.histories mode).take n ++ ((w.histories mode).drop n).take (m - n) := by
    rw [← List.take_add,Nat.add_sub_cancel' later]
  rw [latestUntil,whole,latest_append,none_,Option.none_or]
  rfl

/-- What the monitor keeps of a mode is the latest transition that its scans looked at. -/
structure Kept (kind : TransitionKind) (w : TransitionWatch) : Prop where
  seen : ∀ mode, w.monitor.lastSeenKey mode = (w.latestUntil kind (w.looked mode) mode).map Transition.key
  looked_le : ∀ mode, w.looked mode ≤ (w.histories mode).length
  first_le : ∀ mode, w.first mode ≤ (w.histories mode).length
  missed : ∀ mode, w.looked mode = 0 ∨ w.first mode ≤ w.looked mode
  begun : w.monitor.initialized = false → ∀ mode, w.looked mode = 0 ∧ w.polled mode = none

theorem kept_start : start.Kept kind :=
  ⟨fun _ => rfl,fun _ => Nat.le_refl _,fun _ => Nat.le_refl _,fun _ => .inl rfl,fun _ _ => ⟨rfl,rfl⟩⟩

theorem Kept.fresh (kept : w.Kept kind) (mode : String) (unbegun : w.monitor.initialized = false) :
    w.monitor.lastSeenKey mode = none := by
  rw [kept.seen,(kept.begun unbegun mode).1]
  rfl

theorem kept_recorded (kept : w.Kept kind) (mode : String) (t : Transition) :
    (w.step kind modes (.recorded mode t)).Kept kind := by
  have grown (other : String) : ∃ more,
      (w.step kind modes (.recorded mode t)).histories other = w.histories other ++ more := by
    by_cases same : other = mode
    · subst same
      exact ⟨[t],Function.update_self _ _ _⟩
    · exact ⟨[],(Function.update_of_ne same _ _).trans (List.append_nil _).symm⟩
  have longer (other : String) :
      (w.histories other).length ≤ ((w.step kind modes (.recorded mode t)).histories other).length := by
    obtain ⟨more,same⟩ := grown other
    rw [same,List.length_append]
    exact Nat.le_add_right _ _
  refine ⟨fun other => (kept.seen other).trans ?_,fun other => (kept.looked_le other).trans (longer other),
    fun other => (kept.first_le other).trans (longer other),kept.missed,kept.begun⟩
  obtain ⟨more,same⟩ := grown other
  unfold latestUntil
  rw [same]
  exact congrArg (fun history => (latest kind.wanted history).map Transition.key)
    (List.take_append_of_le_length (kept.looked_le other)).symm

/-- What the scan of a mode finds. -/
theorem scanned (answers suppressed : String → Bool) (mode : String) :
    (w.answered answers mode).bind (kind.scan suppressed mode) =
      if answers mode = true ∧ suppressed mode = false then
        (latest kind.wanted (w.histories mode)).map fun t => (t.key,kind.alert mode t)
      else none := by
  unfold answered TransitionKind.scan
  cases answers mode with
  | false => rfl
  | true => cases suppressed mode <;> rfl

theorem kept_checked (kept : w.Kept kind) (ns : NotificationService) (answers suppressed : String → Bool) :
    (w.step kind modes (.checked ns answers suppressed)).Kept kind := by
  by_cases enabled : ns.isEventEnabled kind.eventType = true
  · have initialized : (w.check kind modes ns answers suppressed).2.initialized = true := by
      unfold check TransitionMonitor.check
      rw [if_pos enabled]
      dsimp only
      split
      · assumption
      · rfl
    unfold step
    dsimp only
    rw [if_pos enabled]
    refine ⟨fun mode => ?_,fun mode => ?_,fun mode => ?_,fun mode => ?_,fun unbegun => ?_⟩
    · have seen := @TransitionMonitor.check_lastSeenKey (kind.scan suppressed) modes (w.answered answers) mode ns
        kind.eventType w.monitor enabled (kept.fresh mode)
      rw [scanned] at seen
      refine seen.trans ?_
      unfold latestUntil
      dsimp only
      by_cases looks : mode ∈ modes ∧ answers mode = true ∧ suppressed mode = false
      · rw [if_pos looks.1,if_pos looks.2,if_pos looks,List.take_length]
        cases current : latest kind.wanted (w.histories mode) with
        | some t => rfl
        | none =>
          have parts := @latest_split kind w (w.looked mode) mode
          rw [current] at parts
          rw [kept.seen,(Option.or_eq_none_iff.mp parts.symm).2]
          rfl
      · have nothing : (if mode ∈ modes then if answers mode = true ∧ suppressed mode = false then
            (latest kind.wanted (w.histories mode)).map fun t => (t.key,kind.alert mode t) else none
            else none) = none := by
          split
          next member => exact if_neg fun found => looks ⟨member,found⟩
          next => rfl
        rw [nothing,if_neg looks]
        exact kept.seen mode
    · dsimp only
      split
      · exact Nat.le_refl _
      · exact kept.looked_le mode
    · dsimp only
      split
      · exact kept.first_le mode
      · exact Nat.le_refl _
    · dsimp only
      by_cases looks : mode ∈ modes ∧ answers mode = true ∧ suppressed mode = false
      · rw [if_pos looks]
        right
        split
        · exact kept.first_le mode
        · exact Nat.le_refl _
      · rw [if_neg looks]
        cases begun : w.monitor.initialized with
        | true => exact kept.missed mode
        | false => exact .inl (kept.begun begun mode).1
    · exact absurd (initialized.symm.trans unbegun) (by decide)
  · unfold step
    dsimp only
    rw [if_neg enabled]
    exact kept

/-- The alerts of a mode in a check that looks: none, unless its scan finds something unseen. -/
theorem alerts_of_mode {ns : NotificationService} {answers suppressed : String → Bool} {mode : String}
    (registered : modes.Nodup) (enabled : ns.isEventEnabled kind.eventType = true)
    (begun : w.monitor.initialized = true) (member : mode ∈ modes) :
    (w.check kind modes ns answers suppressed).1.filter (fun entry => entry.1 = mode) =
      if answers mode = true ∧ suppressed mode = false then
        match latest kind.wanted (w.histories mode) with
        | none => []
        | some t => if w.monitor.lastSeenKey mode = some t.key then [] else [(mode,kind.alert mode t)]
      else [] := by
  unfold check
  rw [TransitionMonitor.check_filter registered member enabled begun,scanned]
  by_cases looks : answers mode = true ∧ suppressed mode = false
  · rw [if_pos looks,if_pos looks]
    cases latest kind.wanted (w.histories mode) <;> rfl
  · rw [if_neg looks,if_neg looks]

theorem check_idle {ns : NotificationService} {answers suppressed : String → Bool}
    (idle : ¬ (ns.isEventEnabled kind.eventType = true ∧ w.monitor.initialized = true)) :
    (w.check kind modes ns answers suppressed).1 = [] := by
  unfold check TransitionMonitor.check
  split
  next enabled =>
    dsimp only
    rw [if_neg fun begun => idle ⟨enabled,begun⟩]
  next => rfl

/-- A check that looks alerts as it should exactly when it has been told of what it finds. -/
theorem looking_iff {ns : NotificationService} {answers suppressed : String → Bool} (registered : modes.Nodup)
    (kept : w.Kept kind) (enabled : ns.isEventEnabled kind.eventType = true) (begun : w.monitor.initialized = true) :
    w.Alerts kind modes (.checked ns answers suppressed) ↔ w.Told kind modes (.checked ns answers suppressed) := by
  have one {mode : String} (member : mode ∈ modes) (answered : answers mode = true)
      (open_ : suppressed mode = false) {t : Transition} (current : latest kind.wanted (w.histories mode) = some t) :
      (w.check kind modes ns answers suppressed).1.filter (fun entry => entry.1 = mode) =
        if w.monitor.lastSeenKey mode = some t.key then [] else [(mode,kind.alert mode t)] := by
    rw [alerts_of_mode registered enabled begun member,if_pos ⟨answered,open_⟩,current]
  constructor
  · rintro ⟨recent,once⟩ _ _ mode member answered open_
    constructor
    · rcases kept.missed mode with unlooked | looked
      · right
        cases until_ : w.latestUntil kind (w.first mode) mode with
        | none => exact .inl rfl
        | some t =>
          cases since : w.latestSince kind (w.first mode) mode with
          | some s => exact .inr rfl
          | none =>
            -- What was missed at the first check is alerted now, and nothing is newer.
            have current := @latest_split kind w (w.first mode) mode
            rw [since,until_,Option.none_or] at current
            have unseen : w.monitor.lastSeenKey mode ≠ some t.key := by
              rw [kept.seen,unlooked]
              exact Option.some_ne_none _ ∘ Eq.symm
            have alerted : (mode,kind.alert mode t) ∈ (w.check kind modes ns answers suppressed).1 := by
              apply List.mem_of_mem_filter
              rw [one member answered open_ current,if_neg unseen]
              exact List.mem_cons_self
            obtain ⟨s,found,-⟩ := recent _ alerted
            rw [since] at found
            cases found
      · exact .inl looked
    · intro n polled t since s until_ same
      have current := @latest_split kind w n mode
      rw [since,Option.some_or] at current
      have seen : w.monitor.lastSeenKey mode = some t.key := by rw [kept.seen,until_,same]; rfl
      have alert := once enabled mode member answered open_ n polled t since
      rw [one member answered open_ current,if_pos seen] at alert
      cases alert
  · intro told
    have told := told enabled begun
    constructor
    · intro entry alerted
      have member := TransitionMonitor.check_registered alerted
      have found : entry ∈ (w.check kind modes ns answers suppressed).1.filter (fun other => other.1 = entry.1) :=
        List.mem_filter.mpr ⟨alerted,decide_eq_true rfl⟩
      rw [alerts_of_mode registered enabled begun member] at found
      split at found
      next looks =>
        split at found
        next => cases found
        next t current =>
          split at found
          next => cases found
          next unseen =>
            refine ⟨t,?_,congrArg Prod.snd (List.mem_singleton.mp found)⟩
            have parts := @latest_split kind w (w.first entry.1) entry.1
            rw [current] at parts
            cases since : w.latestSince kind (w.first entry.1) entry.1 with
            | some s => rw [since,Option.some_or] at parts; exact parts.symm
            | none =>
              rw [since,Option.none_or] at parts
              rcases (told entry.1 member looks.1 looks.2).1 with looked | nothing | newer
              · refine absurd ?_ unseen
                rw [kept.seen,latestUntil_mono looked since,← parts]
                rfl
              · rw [nothing] at parts
                cases parts
              · rw [since] at newer
                cases newer
      next => cases found
    · intro _ mode member answered open_ n polled t since
      have current := @latest_split kind w n mode
      rw [since,Option.some_or] at current
      rw [one member answered open_ current,if_neg]
      intro seen
      rw [kept.seen] at seen
      obtain ⟨s,until_,same⟩ := Option.map_eq_some_iff.mp seen
      exact (told mode member answered open_).2 n polled t since s until_ same.symm

theorem alerts_iff_told (registered : modes.Nodup) (kept : w.Kept kind) (event : TransitionEvent) :
    w.Alerts kind modes event ↔ w.Told kind modes event := by
  cases event with
  | recorded mode t => exact Iff.rfl
  | checked ns answers suppressed =>
    by_cases looking : ns.isEventEnabled kind.eventType = true ∧ w.monitor.initialized = true
    · exact looking_iff registered kept looking.1 looking.2
    · refine iff_of_true ⟨fun entry alerted => ?_,fun enabled mode _ _ _ n polled => ?_⟩
        fun enabled begun => absurd ⟨enabled,begun⟩ looking
      · rw [check_idle looking] at alerted
        cases alerted
      · have unbegun : w.monitor.initialized = false := Bool.of_not_eq_true fun begun => looking ⟨enabled,begun⟩
        rw [(kept.begun unbegun mode).2] at polled
        cases polled

/-- In a run of the monitor every check alerts the new transitions only, and each gap once, exactly
when every check has been told of what it finds. -/
theorem transitions_alerted_iff (kind : TransitionKind) (modes : List String) (registered : modes.Nodup)
    (events : List TransitionEvent) :
    Along (step kind modes) (Alerts kind modes) start events ↔ Along (step kind modes) (Told kind modes) start events := by
  apply @along_iff _ _ _ _ _ (Kept kind) (fun w event kept => alerts_iff_told registered kept event)
  · intro w event kept _
    cases event with
    | recorded mode t => exact kept_recorded kept mode t
    | checked ns answers suppressed => exact kept_checked kept ns answers suppressed
  · exact kept_start

section Sample

open HitlWorld (twoModes alertConfig)

/-- A check in which these instances answer. -/
def checkOf (answering : List String) : TransitionEvent :=
  .checked (.start alertConfig) (fun mode => mode ∈ answering) fun _ => false

def entryAt (timestamp : String) : Transition := ⟨timestamp,"WaitingFor2fa","WaitingForHitl2fa"⟩

/-- Paper waits for its operator, and does not answer the first check. -/
def lateAnswer : List TransitionEvent :=
  [.recorded "paper" (entryAt "1752000000"),checkOf ["live"],checkOf ["live","paper"]]

/-- Both answer the first check, and paper enters after it. -/
def entryBetween : List TransitionEvent :=
  [checkOf ["live","paper"],.recorded "paper" (entryAt "1752000000"),checkOf ["live","paper"]]

theorem entryBetween_alerted :
    Along (step hitlKind twoModes) (Alerts hitlKind twoModes) start entryBetween := by
  apply (transitions_alerted_iff hitlKind twoModes (by decide) entryBetween).mpr
  refine ⟨?_,trivial,?_,trivial⟩
  · intro _ unbegun
    cases unbegun
  · intro _ _ mode member _ _
    have known : mode = "live" ∨ mode = "paper" := by simpa [twoModes] using member
    rcases known with rfl | rfl
    · exact ⟨.inl (Nat.le_refl _),fun n _ t _ s until_ => by cases until_⟩
    · exact ⟨.inl (Nat.le_refl _),fun n _ t _ s until_ => by cases until_⟩

/-- What paper had entered before the first check is alerted by the second. -/
theorem late_answer_alerted :
    ¬ Along (step hitlKind twoModes) (Alerts hitlKind twoModes) start lateAnswer := by
  rintro ⟨-,-,alerts,-⟩
  have alerted : ("paper",hitlKind.alert "paper" (entryAt "1752000000")) ∈
      ((run (step hitlKind twoModes) start (lateAnswer.take 2)).check hitlKind twoModes (.start alertConfig)
        (fun mode => mode ∈ ["live","paper"]) fun _ => false).1 := by
    decide +kernel
  obtain ⟨t,since,-⟩ := alerts.1 _ alerted
  have nothing : (run (step hitlKind twoModes) start (lateAnswer.take 2)).latestSince hitlKind
      ((run (step hitlKind twoModes) start (lateAnswer.take 2)).first "paper") "paper" = none := by
    decide +kernel
  exact Option.some_ne_none t (since.symm.trans nothing)

end Sample

end TransitionWatch

end Runs

end Ibctl.Dashboard
