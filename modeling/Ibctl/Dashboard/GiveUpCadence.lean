import Ibctl.Dashboard.GiveUpAlerts
import Ibctl.Lib.Bursts

/-! The cadence of the give-up alerts over a whole run, whatever becomes of each send. -/
namespace Ibctl.Dashboard
open Runs

section Monitor

/-- What `send_alert` makes of an alert. -/
inductive SendOutcome where
  | returned (success : Bool)
  | raised
deriving DecidableEq, Repr

def SendOutcome.succeeded : SendOutcome → Bool
  | returned success => success
  | raised => false

/-- An alert that was handed to `send_alert`. -/
structure GiveUpAttempt where
  key : String
  time : Nat
  succeeded : Bool
deriving DecidableEq, Repr

namespace PerModeState

/-- A send counts and takes the key before its outcome is known. -/
def sendAndStamp (key : String) (reading : GiveUpReading) (outcome : SendOutcome) (s : PerModeState) :
    PerModeState where
  lastAlertedKey := some key
  lastAlertedWall := if outcome.succeeded then reading.stamped else s.lastAlertedWall
  sendAttempts := s.sendAttempts + 1

end PerModeState

/-- What a check meets in one mode. -/
structure ModeTick where
  status : Option InstanceStatus
  reading : GiveUpReading
  outcome : SendOutcome

/-- The monitor as far as one mode is concerned, and the alerts of the mode that were handed
over. -/
structure ModeWatch where
  initialized : Bool
  state : PerModeState
  attempts : List GiveUpAttempt

namespace ModeWatch

def start : ModeWatch := ⟨false,.start,[]⟩

variable (site : GiveUpSite)

def processMode (w : ModeWatch) (tick : ModeTick) : ModeWatch :=
  match giveUpOf tick.status with
  | none => w
  | some (r,key) =>
    match ReconnectGiveUpMonitor.judge site w.initialized r key tick.reading w.state with
    | .passed state => { w with state := state }
    | .due state =>
      { w with
        state := state.sendAndStamp key tick.reading tick.outcome
        attempts := w.attempts ++ [⟨key,tick.reading.exchange.now,tick.outcome.succeeded⟩] }

def step (w : ModeWatch) (tick : ModeTick) : ModeWatch := { w.processMode site tick with initialized := true }

/-- The alerts of one give-up. -/
def attemptsOf (w : ModeWatch) (key : String) : List GiveUpAttempt := w.attempts.filter fun a => a.key = key

end ModeWatch

/-- What a check meets in every mode. -/
structure AlertTick extends GiveUpTick where
  outcomes : String → SendOutcome

def AlertTick.of (mode : String) (tick : AlertTick) : ModeTick :=
  ⟨tick.cache mode,tick.readings mode,tick.outcomes mode⟩

/-- The monitor over all modes, and by mode the alerts that were handed over. -/
structure AlertWatch where
  monitor : ReconnectGiveUpMonitor
  attempts : String → List GiveUpAttempt

namespace AlertWatch

def start : AlertWatch := ⟨.start,fun _ => []⟩

def of (mode : String) (w : AlertWatch) : ModeWatch := ⟨w.monitor.initialized,w.monitor.state mode,w.attempts mode⟩

variable (site : GiveUpSite) (modes : List String)

def processMode (tick : AlertTick) (w : AlertWatch) (mode : String) : AlertWatch :=
  let next := (w.of mode).processMode site (tick.of mode)
  ⟨{ w.monitor with state := Function.update w.monitor.state mode next.state },
    Function.update w.attempts mode next.attempts⟩

def step (w : AlertWatch) (tick : AlertTick) : AlertWatch :=
  let checked := modes.foldl (processMode site tick) w
  { checked with monitor := { checked.monitor with initialized := true } }

end AlertWatch

end Monitor

section Modes

variable {site : GiveUpSite} {modes : List String} {mode : String}

/-- With the service of the dashboard, a mode is processed with some outcome of its send. -/
theorem processMode_outcome (initialized : Bool) (status : Option InstanceStatus) (reading : GiveUpReading)
    (s : GiveUpSends) : ∃ outcome, ∀ attempts,
      let after := (⟨initialized,s.state mode,attempts⟩ : ModeWatch).processMode site ⟨status,reading,outcome⟩
      let sends := ReconnectGiveUpMonitor.processMode site initialized status reading s mode
      sends.state mode = after.state ∧ ∃ sent, sends.sent = s.sent ++ sent ∧
        after.attempts = attempts ++ sent.map fun send => ⟨send.key,send.time,outcome.succeeded⟩ := by
  unfold ReconnectGiveUpMonitor.processMode ModeWatch.processMode
  dsimp only
  cases giveUpOf status with
  | none => exact ⟨.raised,fun attempts => ⟨rfl,[],(List.append_nil _).symm,(List.append_nil _).symm⟩⟩
  | some found =>
    obtain ⟨r,key⟩ := found
    dsimp only
    cases ReconnectGiveUpMonitor.judge site initialized r key reading (s.state mode) with
    | passed state =>
      exact ⟨.raised,fun attempts =>
        ⟨Function.update_self _ _ _,[],(List.append_nil _).symm,(List.append_nil _).symm⟩⟩
    | due state =>
      exact ⟨.returned (s.service.sendAlert (buildGiveUpAlert site s.service.config.channel mode r
        (seconds reading.minted)) true reading.exchange).1,fun attempts =>
          ⟨Function.update_self _ _ _,_,rfl,rfl⟩⟩

namespace AlertWatch

theorem processMode_other {w : AlertWatch} {tick : AlertTick} {other : String} (apart : mode ≠ other) :
    (w.processMode site tick other).of mode = w.of mode := by
  unfold processMode of
  dsimp only
  rw [Function.update_of_ne apart,Function.update_of_ne apart]

theorem processMode_self {w : AlertWatch} {tick : AlertTick} :
    (w.processMode site tick mode).of mode = (w.of mode).processMode site (tick.of mode) := by
  have initialized : ((w.of mode).processMode site (tick.of mode)).initialized = w.monitor.initialized := by
    unfold ModeWatch.processMode
    split
    · rfl
    · split <;> rfl
  have state : (w.processMode site tick mode).monitor.state mode = _ := Function.update_self _ _ _
  have attempts : (w.processMode site tick mode).attempts mode = _ := Function.update_self _ _ _
  calc (w.processMode site tick mode).of mode
      = ⟨w.monitor.initialized,(w.processMode site tick mode).monitor.state mode,
          (w.processMode site tick mode).attempts mode⟩ := rfl
    _ = (w.of mode).processMode site (tick.of mode) := by rw [state,attempts,← initialized]

/-- What a check does to a mode is what the mode alone makes of it. -/
theorem step_of (registered : modes.Nodup) (member : mode ∈ modes) (w : AlertWatch) (tick : AlertTick) :
    (w.step site modes tick).of mode = (w.of mode).step site (tick.of mode) := by
  have folded : (modes.foldl (processMode site tick) w).of mode = (w.of mode).processMode site (tick.of mode) :=
    @Runs.foldl_view _ _ _ (·.of mode) (processMode site tick) mode modes (·.processMode site (tick.of mode))
      (fun _ _ apart => processMode_other (Ne.symm apart)) (fun _ => processMode_self) registered member w
  exact congrArg (fun checked : ModeWatch => { checked with initialized := true }) folded

theorem run_of (registered : modes.Nodup) (member : mode ∈ modes) (w : AlertWatch) (ticks : List AlertTick) :
    (run (step site modes) w ticks).of mode = run (ModeWatch.step site) (w.of mode) (ticks.map (·.of mode)) := by
  induction ticks generalizing w with
  | nil => rfl
  | cons tick rest ih => rw [run_cons,ih,step_of registered member,List.map_cons,run_cons]

end AlertWatch

end Modes

section Ticks

/-- The clock is at the time or after it, and does not go back. -/
def Clocked : Nat → List ModeTick → Prop
  | _,[] => True
  | now,tick :: rest =>
    now ≤ tick.reading.booted ∧ tick.reading.Ordered ∧ Clocked tick.reading.stamped rest

/-- The give-ups that the ticks show, in order. -/
def shownKeys (ticks : List ModeTick) : List String :=
  ticks.filterMap fun tick => (giveUpOf tick.status).map Prod.snd

/-- A give-up that another one has followed is not shown again. -/
def NeverReturns (ticks : List ModeTick) : Prop :=
  ∀ key other, List.Sublist [key,other,key] (shownKeys ticks) → other = key

def SteadyInterval (interval : Nat) (ticks : List ModeTick) : Prop :=
  ∀ tick ∈ ticks, ∀ r key, giveUpOf tick.status = some (r,key) → r.resendInterval = interval

theorem shownKeys_cons (tick : ModeTick) (ticks : List ModeTick) :
    shownKeys (tick :: ticks) = ((giveUpOf tick.status).map Prod.snd).toList ++ shownKeys ticks := by
  unfold shownKeys
  rw [List.filterMap_cons]
  cases giveUpOf tick.status <;> rfl

theorem SteadyInterval.tail {interval : Nat} {tick : ModeTick} {ticks : List ModeTick}
    (steady : SteadyInterval interval (tick :: ticks)) : SteadyInterval interval ticks :=
  fun other found => steady other (List.mem_cons_of_mem tick found)

end Ticks

section Cadence

def failed (a : GiveUpAttempt) : Bool := !a.succeeded

/-- Two alerts that were sent are an interval apart, and between two of them, before the first and
after the last so many are handed over at most. -/
structure InCadence (interval : Nat) (attempts : List GiveUpAttempt) : Prop where
  spaced : attempts.Pairwise fun a b => a.succeeded = true → b.succeeded = true → a.time + interval ≤ b.time
  few : Bursts.AtMost failed ntfySendMaxAttempts attempts

/-- What the state of a mode says of the attempts for its give-up: with no time of a send it counts
the failures since the last success, and it is time for another one; otherwise the last one
succeeded, and no success is later than the time. -/
structure Tracks (key : String) (interval now : Nat) (s : PerModeState) (attempts : List GiveUpAttempt) : Prop where
  known : s.lastAlertedKey = some key
  cadence : InCadence interval attempts
  failing : s.lastAlertedWall = 0 → (attempts.rtakeWhile failed).length = s.sendAttempts ∧
    s.sendAttempts ≤ ntfySendMaxAttempts ∧ ∀ a ∈ attempts, a.succeeded = true → a.time + interval ≤ now
  waiting : s.lastAlertedWall ≠ 0 → attempts.rtakeWhile failed = [] ∧
    ∀ a ∈ attempts, a.succeeded = true → (a.time : Int) ≤ s.lastAlertedWall

variable {site : GiveUpSite} {key : String} {interval now : Nat} {reading : GiveUpReading} {s : PerModeState}
  {attempts : List GiveUpAttempt}

theorem Tracks.later {later : Nat} (tracks : Tracks key interval now s attempts) (after : now ≤ later) :
    Tracks key interval later s attempts :=
  ⟨tracks.known,tracks.cadence,fun zero =>
    let ⟨count,few,spaced⟩ := tracks.failing zero
    ⟨count,few,fun a among success => (spaced a among success).trans after⟩,tracks.waiting⟩

/-- A send that is due: its state counts the failures since the last success and has an attempt
left, and the last success is an interval ago. -/
theorem tracks_sent (outcome : SendOutcome) (cadence : InCadence interval attempts) (zero : s.lastAlertedWall = 0)
    (count : (attempts.rtakeWhile failed).length = s.sendAttempts) (left : s.sendAttempts < ntfySendMaxAttempts)
    (spaced : ∀ a ∈ attempts, a.succeeded = true → a.time + interval ≤ reading.now)
    (ordered : reading.Ordered) (positive : 0 < reading.booted) :
    Tracks key interval reading.stamped (s.sendAndStamp key reading outcome)
      (attempts ++ [⟨key,reading.exchange.now,outcome.succeeded⟩]) := by
  obtain ⟨looked,sent,stamped⟩ := ordered
  have pairs : List.Pairwise (fun a b : GiveUpAttempt =>
      a.succeeded = true → b.succeeded = true → a.time + interval ≤ b.time)
        (attempts ++ [⟨key,reading.exchange.now,outcome.succeeded⟩]) := by
    rw [List.pairwise_append]
    refine ⟨cadence.spaced,List.pairwise_singleton _ _,fun a among b last success _ => ?_⟩
    rw [List.mem_singleton.mp last]
    exact (spaced a among success).trans sent
  unfold PerModeState.sendAndStamp
  cases success : outcome.succeeded with
  | true =>
    rw [success] at pairs
    have trailing : List.rtakeWhile failed (attempts ++ [⟨key,reading.exchange.now,true⟩]) = [] :=
      List.rtakeWhile_concat_neg _ _ _ Bool.false_ne_true
    refine ⟨rfl,⟨pairs,Bursts.atMost_concat cadence.few (by rw [trailing]; exact Nat.zero_le _)⟩,fun none => ?_,
      fun _ => ⟨trailing,fun a among success => ?_⟩⟩
    · have stamp : (reading.stamped : Int) = 0 := none
      omega
    · show (a.time : Int) ≤ reading.stamped
      rcases List.mem_append.mp among with old | new
      · have before := spaced a old success
        omega
      · rw [List.mem_singleton.mp new]
        exact_mod_cast stamped
  | false =>
    rw [success] at pairs
    have trailing : (List.rtakeWhile failed (attempts ++ [⟨key,reading.exchange.now,false⟩])).length =
        s.sendAttempts + 1 := by
      rw [List.rtakeWhile_concat_pos _ _ _ (by rfl),List.length_append,count]
      rfl
    refine ⟨rfl,⟨pairs,Bursts.atMost_concat cadence.few (by rw [trailing]; exact left)⟩,fun _ =>
      ⟨trailing,left,fun a among success => ?_⟩,fun some => absurd zero some⟩
    rcases List.mem_append.mp among with old | new
    · have before := spaced a old success
      omega
    · rw [List.mem_singleton.mp new] at success
      cases success

end Cadence

section Steps

variable {site : GiveUpSite} {key : String} {interval now : Nat} {r : RecoveryBlock} {w : ModeWatch} {tick : ModeTick}

namespace ModeWatch

theorem step_absent (absent : giveUpOf tick.status = none) : w.step site tick = { w with initialized := true } := by
  unfold step processMode
  rw [absent]

theorem step_passed {state : PerModeState} (found : giveUpOf tick.status = some (r,key))
    (judged : ReconnectGiveUpMonitor.judge site w.initialized r key tick.reading w.state = .passed state) :
    w.step site tick = ⟨true,state,w.attempts⟩ := by
  unfold step processMode
  rw [found]
  dsimp only
  rw [judged]

theorem step_due {state : PerModeState} (found : giveUpOf tick.status = some (r,key))
    (judged : ReconnectGiveUpMonitor.judge site w.initialized r key tick.reading w.state = .due state) :
    w.step site tick = ⟨true,state.sendAndStamp key tick.reading tick.outcome,
      w.attempts ++ [⟨key,tick.reading.exchange.now,tick.outcome.succeeded⟩]⟩ := by
  unfold step processMode
  rw [found]
  dsimp only
  rw [judged]

theorem attemptsOf_concat (initialized : Bool) (state : PerModeState) (a : GiveUpAttempt) :
    attemptsOf ⟨initialized,state,w.attempts ++ [a]⟩ key =
      w.attemptsOf key ++ (if a.key = key then [a] else []) := by
  unfold attemptsOf
  rw [List.filter_append]
  by_cases same : a.key = key
  · simp [same]
  · simp [same]

/-- What the monitor keeps of a mode whose give-up it has not seen. -/
structure Fresh (key : String) (w : ModeWatch) : Prop where
  unknown : w.state.lastAlertedKey ≠ some key
  untouched : w.state.lastAlertedKey = none → w.state = .start
  silent : w.attemptsOf key = []

theorem fresh_start : start.Fresh key := ⟨Option.some_ne_none key ∘ Eq.symm,fun _ => rfl,rfl⟩

/-- A stamp is taken over, or the cadence decides. -/
theorem judge_cases (initialized : Bool) (reading : GiveUpReading) (s : PerModeState) :
    (∃ wall, s.lastAlertedKey = none ∧
        ReconnectGiveUpMonitor.judge site initialized r key reading s = .passed ⟨some key,wall,s.sendAttempts⟩) ∨
      ReconnectGiveUpMonitor.judge site initialized r key reading s =
        ReconnectGiveUpMonitor.cadence r key reading.now s := by
  unfold ReconnectGiveUpMonitor.judge
  by_cases boots : !initialized ∧ s.lastAlertedKey = none
  · rw [if_pos boots]
    cases site.stampAge r reading.booted with
    | none => exact .inr rfl
    | some age => exact .inl ⟨_,boots.2,rfl⟩
  · rw [if_neg boots]
    exact .inr rfl

/-- A give-up that is new, or not alerted for an interval, is due with all its attempts. -/
theorem cadence_new {reading : GiveUpReading} {s : PerModeState} (new : s.lastAlertedKey ≠ some key) :
    ReconnectGiveUpMonitor.cadence r key reading.now s = .due { s with lastAlertedWall := 0, sendAttempts := 0 } :=
  if_neg new

/-- A tick that shows a give-up makes it the known one, and alerts no other. -/
theorem step_shown (found : giveUpOf tick.status = some (r,key)) :
    (w.step site tick).state.lastAlertedKey = some key ∧
      ∃ more, (w.step site tick).attempts = w.attempts ++ more ∧ ∀ a ∈ more, a.key = key := by
  rcases @judge_cases site key r w.initialized tick.reading w.state with ⟨wall,-,judged⟩ | judged
  · rw [step_passed found judged]
    exact ⟨rfl,[],(List.append_nil _).symm,fun a among => by cases among⟩
  · cases decided : ReconnectGiveUpMonitor.cadence r key tick.reading.now w.state with
    | passed state =>
      rw [step_passed found (judged.trans decided)]
      refine ⟨?_,[],(List.append_nil _).symm,fun a among => by cases among⟩
      by_cases known : w.state.lastAlertedKey = some key
      · unfold ReconnectGiveUpMonitor.cadence at decided
        rw [if_pos known] at decided
        split at decided
        · split at decided
          · cases decided
            exact known
          · cases decided
        · split at decided
          · cases decided
            exact known
          · cases decided
      · rw [cadence_new known] at decided
        cases decided
    | due state =>
      rw [step_due found (judged.trans decided)]
      exact ⟨rfl,_,rfl,fun a among => by rw [List.mem_singleton.mp among]⟩

theorem step_other {other : String} (found : giveUpOf tick.status = some (r,other)) (apart : other ≠ key) :
    (w.step site tick).attemptsOf key = w.attemptsOf key := by
  obtain ⟨-,more,grown,others⟩ := @step_shown site other r w tick found
  unfold attemptsOf
  rw [grown,List.filter_append]
  have none_ : more.filter (fun a => a.key = key) = [] := List.filter_eq_nil_iff.mpr fun a among same =>
    apart ((others a among).symm.trans (of_decide_eq_true same))
  rw [none_,List.append_nil]

theorem inCadence_nil : InCadence interval [] := ⟨List.Pairwise.nil,Bursts.atMost_nil _⟩

/-- The attempts of a give-up whose alert is due, behind the step. -/
theorem tracks_due {state : PerModeState} (found : giveUpOf tick.status = some (r,key))
    (judged : ReconnectGiveUpMonitor.judge site w.initialized r key tick.reading w.state = .due state)
    (sent : Tracks key interval tick.reading.stamped (state.sendAndStamp key tick.reading tick.outcome)
      (w.attemptsOf key ++ [⟨key,tick.reading.exchange.now,tick.outcome.succeeded⟩])) :
    Tracks key interval tick.reading.stamped (w.step site tick).state ((w.step site tick).attemptsOf key) := by
  rw [step_due found judged,attemptsOf_concat,if_pos rfl]
  exact sent

/-- The first tick that shows a give-up takes its stamp over or sends its alert. -/
theorem fresh_shown (fresh : w.Fresh key) (found : giveUpOf tick.status = some (r,key))
    (ordered : tick.reading.Ordered) (positive : 0 < tick.reading.booted) :
    Tracks key interval tick.reading.stamped (w.step site tick).state ((w.step site tick).attemptsOf key) := by
  rcases @judge_cases site key r w.initialized tick.reading w.state with ⟨wall,none_,judged⟩ | judged
  · have attempts : (w.step site tick).attemptsOf key = [] := by
      rw [step_passed found judged]
      exact fresh.silent
    rw [attempts,step_passed found judged,fresh.untouched none_]
    exact ⟨rfl,inCadence_nil,fun _ => ⟨rfl,Nat.zero_le _,fun a among => by cases among⟩,
      fun _ => ⟨rfl,fun a among => by cases among⟩⟩
  · apply tracks_due found (judged.trans (cadence_new fresh.unknown))
    rw [fresh.silent]
    exact tracks_sent tick.outcome inCadence_nil rfl rfl (Nat.zero_lt_succ 4) (fun a among => by cases among) ordered positive

theorem tracks_shown (tracks : Tracks key interval now w.state (w.attemptsOf key))
    (found : giveUpOf tick.status = some (r,key)) (steady : r.resendInterval = interval)
    (after : now ≤ tick.reading.booted) (ordered : tick.reading.Ordered) (positive : 0 < tick.reading.booted) :
    Tracks key interval tick.reading.stamped (w.step site tick).state ((w.step site tick).attemptsOf key) := by
  have clock : now ≤ tick.reading.now := after.trans ordered.1
  have later : now ≤ tick.reading.stamped := clock.trans (ordered.2.1.trans ordered.2.2)
  rcases @judge_cases site key r w.initialized tick.reading w.state with ⟨wall,none_,-⟩ | judged
  · rw [tracks.known] at none_
    cases none_
  · have stays (kept : ReconnectGiveUpMonitor.cadence r key tick.reading.now w.state = .passed w.state) :
        Tracks key interval tick.reading.stamped (w.step site tick).state ((w.step site tick).attemptsOf key) := by
      rw [step_passed found (judged.trans kept)]
      exact tracks.later later
    have decided := judged
    unfold ReconnectGiveUpMonitor.cadence at decided
    rw [if_pos tracks.known] at decided
    by_cases zero : w.state.lastAlertedWall = 0
    · obtain ⟨count,few,spaced⟩ := tracks.failing zero
      rw [if_pos zero] at decided
      by_cases spent : ntfySendMaxAttempts ≤ w.state.sendAttempts
      · rw [if_pos spent] at decided
        exact stays (judged.symm.trans decided)
      · rw [if_neg spent] at decided
        exact tracks_due found decided (tracks_sent tick.outcome tracks.cadence zero count (Nat.lt_of_not_le spent)
          (fun a among success => (spaced a among success).trans clock) ordered positive)
    · obtain ⟨none_,before⟩ := tracks.waiting zero
      rw [if_neg zero] at decided
      by_cases early : tick.reading.now - w.state.lastAlertedWall < r.resendInterval
      · rw [if_pos early] at decided
        exact stays (judged.symm.trans decided)
      · rw [if_neg early] at decided
        refine tracks_due found decided (tracks_sent tick.outcome tracks.cadence rfl (by rw [none_]; rfl)
          (Nat.zero_lt_succ 4)
          (fun a among success => ?_) ordered positive)
        have last := before a among success
        rw [steady] at early
        omega

theorem not_shown (unshown : key ∉ ((giveUpOf tick.status).map Prod.snd).toList) :
    ∀ r, giveUpOf tick.status ≠ some (r,key) := fun r found =>
  unshown (by rw [found]; exact List.mem_singleton_self key)

/-- Ticks that do not show the give-up make no attempt for it. -/
theorem over_run {ticks : List ModeTick} (unshown : key ∉ shownKeys ticks) :
    (run (step site) w ticks).attemptsOf key = w.attemptsOf key := by
  induction ticks generalizing w with
  | nil => rfl
  | cons tick rest ih =>
    rw [shownKeys_cons,List.mem_append,not_or] at unshown
    rw [run_cons,ih unshown.2]
    cases found : giveUpOf tick.status with
    | none =>
      rw [step_absent found]
      rfl
    | some shown =>
      obtain ⟨r,other⟩ := shown
      exact step_other found fun same => not_shown unshown.1 r (by rw [found,same])

/-- A give-up that is not shown stays unknown. -/
theorem fresh_kept {ticks : List ModeTick} (fresh : w.Fresh key) (unshown : key ∉ shownKeys ticks) :
    (run (step site) w ticks).Fresh key ∧ (ticks ≠ [] → (run (step site) w ticks).initialized = true) := by
  induction ticks generalizing w with
  | nil => exact ⟨fresh,fun some => absurd rfl some⟩
  | cons tick rest ih =>
    rw [shownKeys_cons,List.mem_append,not_or] at unshown
    have next : (w.step site tick).Fresh key := by
      cases found : giveUpOf tick.status with
      | none =>
        rw [step_absent found]
        exact ⟨fresh.unknown,fresh.untouched,fresh.silent⟩
      | some shown =>
        obtain ⟨r,other⟩ := shown
        have apart : other ≠ key := fun same => not_shown unshown.1 r (by rw [found,same])
        have known := (@step_shown site other r w tick found).1
        refine ⟨fun same => apart (Option.some.inj (known.symm.trans same)),fun none_ => ?_,
          (step_other found apart).trans fresh.silent⟩
        rw [known] at none_
        cases none_
    obtain ⟨later,begun⟩ := ih next unshown.2
    refine ⟨later,fun _ => ?_⟩
    cases rest with
    | nil => rfl
    | cons other rest => exact begun (List.cons_ne_nil _ _)

/-- From the tick on that shows a give-up, its attempts are in cadence. -/
theorem tracks_run {ticks : List ModeTick} (positive : 0 < now)
    (tracks : Tracks key interval now w.state (w.attemptsOf key)) (clocked : Clocked now ticks)
    (steady : SteadyInterval interval ticks)
    (forward : ∀ other, List.Sublist [other,key] (shownKeys ticks) → other = key) :
    InCadence interval ((run (step site) w ticks).attemptsOf key) := by
  induction ticks generalizing w now with
  | nil => exact tracks.cadence
  | cons tick rest ih =>
    obtain ⟨after,ordered,clocked⟩ := clocked
    have begun : 0 < tick.reading.booted := positive.trans_le after
    have later : now ≤ tick.reading.stamped := after.trans (ordered.1.trans (ordered.2.1.trans ordered.2.2))
    rw [shownKeys_cons] at forward
    have onward (other : String) (order : List.Sublist [other,key] (shownKeys rest)) : other = key :=
      forward other (order.trans (List.sublist_append_right _ _))
    rw [run_cons]
    cases found : giveUpOf tick.status with
    | none =>
      apply ih (positive.trans_le later) _ clocked steady.tail onward
      rw [step_absent found]
      exact tracks.later later
    | some shown =>
      obtain ⟨r,other⟩ := shown
      by_cases same : other = key
      · subst same
        have interval_ := steady tick List.mem_cons_self r other found
        exact ih (positive.trans_le later) (tracks_shown tracks found interval_ after ordered begun) clocked
          steady.tail onward
      · have gone : key ∉ shownKeys rest := fun among => same (forward other (by
          rw [found]
          exact (List.singleton_sublist.mpr among).cons_cons other))
        rw [over_run gone,step_other found same]
        exact tracks.cadence

/-- The attempts for a give-up that has not been seen yet are in cadence in every run. -/
theorem fresh_run {ticks : List ModeTick} (positive : 0 < now) (fresh : w.Fresh key) (clocked : Clocked now ticks)
    (steady : SteadyInterval interval ticks)
    (forward : ∀ other, List.Sublist [key,other,key] (shownKeys ticks) → other = key) :
    InCadence interval ((run (step site) w ticks).attemptsOf key) := by
  induction ticks generalizing w now with
  | nil =>
    rw [run_nil,fresh.silent]
    exact inCadence_nil
  | cons tick rest ih =>
    obtain ⟨after,ordered,clocked⟩ := clocked
    have begun : 0 < tick.reading.booted := positive.trans_le after
    have stamped : 0 < tick.reading.stamped := begun.trans_le (ordered.1.trans (ordered.2.1.trans ordered.2.2))
    rw [shownKeys_cons] at forward
    by_cases shown : key ∈ ((giveUpOf tick.status).map Prod.snd).toList
    · obtain ⟨r,found⟩ : ∃ r, giveUpOf tick.status = some (r,key) := by
        cases found : giveUpOf tick.status with
        | none => rw [found] at shown; cases shown
        | some pair =>
          obtain ⟨r,other⟩ := pair
          rw [found] at shown
          obtain rfl : key = other := List.mem_singleton.mp shown
          exact ⟨r,rfl⟩
      rw [run_cons]
      apply tracks_run stamped (fresh_shown fresh found ordered begun) clocked steady.tail
      intro other order
      apply forward other
      rw [found]
      exact order.cons_cons key
    · have unshown : key ∉ shownKeys [tick] := by
        rw [shownKeys_cons,List.mem_append,not_or]
        exact ⟨shown,List.not_mem_nil⟩
      have next := (@fresh_kept site key w [tick] fresh unshown).1
      exact ih stamped next clocked steady.tail fun other order =>
        forward other (order.trans (List.sublist_append_right _ _))

/-- A give-up that is new behind the first tick is attempted at once. -/
theorem new_attempted (fresh : w.Fresh key) (begun : w.initialized = true)
    (found : giveUpOf tick.status = some (r,key)) :
    (w.step site tick).attempts = w.attempts ++ [⟨key,tick.reading.exchange.now,tick.outcome.succeeded⟩] := by
  have judged : ReconnectGiveUpMonitor.judge site w.initialized r key tick.reading w.state = _ :=
    (ReconnectGiveUpMonitor.judge_initialized begun).trans (cadence_new fresh.unknown)
  rw [step_due found judged]

end ModeWatch

end Steps

namespace AlertWatch

/-- The give-up alerts of a mode are in cadence in every run, a give-up that is new after the first
tick is attempted on its tick, and what the ticks hold for the other modes makes no difference. -/
theorem giveup_cadence (site : GiveUpSite) {modes : List String} {mode : String} (registered : modes.Nodup)
    (member : mode ∈ modes) {interval : Nat} {ticks : List AlertTick}
    (clock : Clocked 1 (ticks.map (·.of mode))) (forward : NeverReturns (ticks.map (·.of mode)))
    (steady : SteadyInterval interval (ticks.map (·.of mode))) :
    (∀ key, InCadence interval (((run (step site modes) start ticks).of mode).attemptsOf key)) ∧
    (∀ before tick after, ticks = before ++ tick :: after → before ≠ [] → ∀ r key,
      giveUpOf (tick.cache mode) = some (r,key) → key ∉ shownKeys (before.map (·.of mode)) →
        (run (step site modes) start (before ++ [tick])).attempts mode =
          (run (step site modes) start before).attempts mode ++
            [⟨key,(tick.readings mode).exchange.now,(tick.outcomes mode).succeeded⟩]) ∧
    ∀ others : List AlertTick, others.map (·.of mode) = ticks.map (·.of mode) →
      (run (step site modes) start others).attempts mode = (run (step site modes) start ticks).attempts mode := by
  have ends (ticks : List AlertTick) : (run (step site modes) start ticks).attempts mode =
      (run (ModeWatch.step site) .start (ticks.map (·.of mode))).attempts :=
    congrArg ModeWatch.attempts (run_of registered member start ticks)
  refine ⟨fun key => ?_,fun before tick after _ some r key found unshown => ?_,fun others same => ?_⟩
  · rw [run_of registered member]
    exact ModeWatch.fresh_run Nat.one_pos ModeWatch.fresh_start clock steady fun other => forward key other
  · obtain ⟨fresh,begun⟩ := @ModeWatch.fresh_kept site key .start _ ModeWatch.fresh_start unshown
    have first : before.map (·.of mode) ≠ [] := mt List.map_eq_nil_iff.mp some
    rw [ends,ends,List.map_append,List.map_singleton,run_concat]
    exact @ModeWatch.new_attempted site key r _ (tick.of mode) fresh (begun first) found
  · rw [ends,ends,same]

section Sample

open GiveUpWatch (giveUpSite giveUpTick gaveUp gaveUpKey gaveUp_shown)

/-- A give-up that shows after the first tick; its first send raises and the second succeeds. -/
def sentAgain : List AlertTick :=
  [⟨giveUpTick false 60,fun _ => .raised⟩,⟨giveUpTick true 120,fun _ => .raised⟩,
    ⟨giveUpTick true 180,fun _ => .returned true⟩]

theorem sentAgain_inCadence :
    InCadence (6 * 3600 * microseconds)
      (((run (step giveUpSite ["live","paper"]) start sentAgain).of "paper").attemptsOf gaveUpKey) := by
  have clock : Clocked 1 (sentAgain.map (·.of "paper")) := by
    simp [sentAgain,Clocked,AlertTick.of,GiveUpReading.Ordered,giveUpTick,GiveUpWatch.giveUpIssued,microseconds]
  have shown : shownKeys (sentAgain.map (·.of "paper")) = [gaveUpKey,gaveUpKey] := by decide +kernel
  have forward : NeverReturns (sentAgain.map (·.of "paper")) := fun key other order => by
    have short := order.length_le
    rw [shown] at short
    exact absurd short (Nat.not_succ_le_self 2)
  have steady : SteadyInterval (6 * 3600 * microseconds) (sentAgain.map (·.of "paper")) := by
    intro tick found r key shows
    simp only [sentAgain,List.map_cons,List.map_nil,List.mem_cons,List.not_mem_nil,or_false] at found
    have status : tick.status = none ∨ tick.status = some GiveUpWatch.gaveUpStatus := by
      rcases found with rfl | rfl | rfl
      · exact .inl rfl
      · exact .inr rfl
      · exact .inr rfl
    rcases status with none_ | some_
    · rw [none_] at shows
      cases shows
    · rw [some_,gaveUp_shown] at shows
      cases shows
      rfl
  exact (giveup_cadence giveUpSite (by decide) (by decide) clock forward steady).1 gaveUpKey

end Sample

end AlertWatch

end Ibctl.Dashboard
