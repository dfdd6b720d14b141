import Ibctl.ColdRestart.Markers
import Ibctl.Lib.Calendar
import Ibctl.Lib.Decimal
import Ibctl.Lib.Runs
import Ibctl.StateMachine.Types

/-! The scheduler of the weekly cold restart: a pure decision over one clock sample and one
look at the markers, and the loop that samples, waits out the warning, samples again and
writes the marker before it sends a signal. The zone database and the parser of zoned dates
are libraries and stand as parameters. -/
namespace Ibctl.ColdRestart
open Files Machine Calendar

section Decision

structure SchedulerConfig where
  targetDow : Nat
  targetHour : Nat
  targetMinute : Nat
  bootAt : Zoned
  dows : targetDow ≤ 6
  hours : targetHour ≤ 23
  minutes : targetMinute ≤ 59

structure MarkerState where
  firedToday : Bool
  equivalentMarker : Option Zoned

inductive NextAction where
  | sleep
  | skip (reason : ColdRestartSkipReason)
  | fireEligible
deriving DecidableEq

def parseColdRestartTime (time : String) : Option (Nat × Nat) :=
  match (Text.trim time).toList.splitOn ':' with
  | [hour,minute] =>
    match Text.parseUnsigned 32 hour,Text.parseUnsigned 32 minute with
    | some hour,some minute => if 23 < hour ∨ 59 < minute then none else some (hour,minute)
    | _,_ => none
  | _ => none

theorem parseColdRestartTime_bounds {time : String} {hour minute : Nat}
    (parsed : parseColdRestartTime time = some (hour,minute)) : hour ≤ 23 ∧ minute ≤ 59 := by
  unfold parseColdRestartTime at parsed
  split at parsed
  · split at parsed
    · split at parsed
      · cases parsed
      · rename_i inRange
        cases parsed
        exact ⟨by omega,by omega⟩
    · cases parsed
  · cases parsed

/-- What `cold_restart_scheduler` hands to the loop, if a time is configured. -/
def coldRestartScheduler (coldRestartTime : String) (coldRestartDay : Nat) (bootAt : Zoned) :
    Option SchedulerConfig :=
  match parsed : parseColdRestartTime coldRestartTime with
  | none => none
  | some (hour,minute) =>
    some ⟨min coldRestartDay 6,hour,minute,bootAt,Nat.min_le_right _ _,
      (parseColdRestartTime_bounds parsed).1,(parseColdRestartTime_bounds parsed).2⟩

variable (civil : Zoned → DateTime)

def startedPastTargetOnStartupDay (bootAt now : Zoned) (targetDow targetHour targetMinute : Nat) :
    Bool :=
  if (civil bootAt).date.year ≠ (civil now).date.year ∨
      (civil bootAt).date.dayOfYear ≠ (civil now).date.dayOfYear then false
  else if (civil bootAt).date.weekday ≠ targetDow then false
  else
    let bh := (civil bootAt).time.hour
    let bm := (civil bootAt).time.minute
    targetHour < bh || (bh = targetHour && targetMinute < bm)

def shouldSkipForMarker (marker now : Zoned) (targetHour targetMinute : Nat) : Bool :=
  if (civil marker).date ≠ (civil now).date then false
  else if (civil marker).time.hour < 1 then false
  else
    match Time.new targetHour targetMinute 0 0 with
    | some targetTime => (civil marker).time < targetTime
    | none => false

def SchedulerConfig.pastTarget (cfg : SchedulerConfig) (t : Time) : Bool :=
  cfg.targetHour < t.hour || (t.hour = cfg.targetHour && cfg.targetMinute ≤ t.minute)

def SchedulerConfig.vetoed (cfg : SchedulerConfig) (now : Zoned) : Bool :=
  startedPastTargetOnStartupDay civil cfg.bootAt now cfg.targetDow cfg.targetHour cfg.targetMinute

def computeNextAction (now : Zoned) (cfg : SchedulerConfig) (markers : MarkerState) : NextAction :=
  if (civil now).date.weekday ≠ cfg.targetDow then .sleep
  else if markers.firedToday then .sleep
  else if cfg.vetoed civil now then .sleep
  else if !cfg.pastTarget (civil now).time then .sleep
  else
    match markers.equivalentMarker with
    | some marker =>
      if shouldSkipForMarker civil marker now cfg.targetHour cfg.targetMinute then
        .skip (.freshAuthToday marker)
      else .fireEligible
    | none => .fireEligible

/-- The first four gates: the target day, not marked yet, no veto, and late enough. -/
def SchedulerConfig.Due (cfg : SchedulerConfig) (now : Zoned) (firedToday : Bool) : Prop :=
  (civil now).date.weekday = cfg.targetDow ∧ firedToday = false ∧ cfg.vetoed civil now = false ∧
    cfg.pastTarget (civil now).time = true

variable {civil}

theorem due_of_awake {now : Zoned} {cfg : SchedulerConfig} {markers : MarkerState}
    (awake : computeNextAction civil now cfg markers ≠ .sleep) :
    cfg.Due civil now markers.firedToday := by
  by_cases day : (civil now).date.weekday = cfg.targetDow
  · by_cases fired : markers.firedToday = true
    · simp [computeNextAction,day,fired] at awake
    · by_cases vetoed : cfg.vetoed civil now = true
      · simp [computeNextAction,day,fired,vetoed] at awake
      · by_cases past : cfg.pastTarget (civil now).time = true
        · exact ⟨day,by simpa using fired,by simpa using vetoed,past⟩
        · simp [computeNextAction,day,fired,vetoed,past] at awake
  · simp [computeNextAction,day] at awake

theorem computeNextAction_of_due {now : Zoned} {cfg : SchedulerConfig} {markers : MarkerState}
    (due : cfg.Due civil now markers.firedToday) :
    computeNextAction civil now cfg markers =
      match markers.equivalentMarker with
      | some marker =>
        if shouldSkipForMarker civil marker now cfg.targetHour cfg.targetMinute then
          .skip (.freshAuthToday marker)
        else .fireEligible
      | none => .fireEligible := by
  obtain ⟨day,fired,vetoed,past⟩ := due
  simp [computeNextAction,day,fired,vetoed,past]

/-- The target time of the day. -/
def SchedulerConfig.target (cfg : SchedulerConfig) : Time :=
  Time.atMinute cfg.targetHour cfg.targetMinute cfg.hours cfg.minutes

theorem pastTarget_iff (cfg : SchedulerConfig) (t : Time) :
    cfg.pastTarget t = true ↔ ¬ t < cfg.target := by
  unfold SchedulerConfig.target
  rw [Time.lt_atMinute]
  simp only [SchedulerConfig.pastTarget,Bool.or_eq_true,Bool.and_eq_true,decide_eq_true_eq]
  omega

theorem shouldSkipForMarker_iff (marker now : Zoned) (cfg : SchedulerConfig) :
    shouldSkipForMarker civil marker now cfg.targetHour cfg.targetMinute = true ↔
      (civil marker).date = (civil now).date ∧ 1 ≤ (civil marker).time.hour ∧
        (civil marker).time < cfg.target := by
  unfold shouldSkipForMarker SchedulerConfig.target
  rw [Time.new_of_le cfg.hours cfg.minutes]
  by_cases day : (civil marker).date = (civil now).date
  · by_cases early : (civil marker).time.hour < 1
    · simp [day,early]
    · simp [day,early]
      omega
  · simp [day]

/-- On one calendar date the veto is the same all day. -/
theorem vetoed_of_date {cfg : SchedulerConfig} {now other : Zoned}
    (day : (civil now).date = (civil other).date) :
    cfg.vetoed civil now = cfg.vetoed civil other := by
  unfold SchedulerConfig.vetoed startedPastTargetOnStartupDay
  rw [day]

end Decision

section Loop

/-- Where the loop waits: for the next tick, or for the end of a warning. -/
inductive Phase where
  | sleeping
  | warning (nowPre : Zoned)
  | returned
deriving DecidableEq

structure Scheduler where
  cfg : SchedulerConfig
  files : Directory
  phase : Phase

inductive SchedulerEffect where
  | wroteFiredMarker (date : Date)
  | sent (signal : ColdRestartSignal)
deriving DecidableEq

/-- What happens to a scheduler: its sleep ends, the other marker changes under it, or the
process comes up again and starts a new one beside the same files. -/
inductive SchedulerInput where
  | wakes (now : Zoned) (writeFails : Option String) (received : Bool)
  | equivalentMarkerBecomes (content : FileState)
  | restarted (cfg : SchedulerConfig)

variable (civil : Zoned → DateTime) (zonedFromStr : String → Option Zoned)

def firedOn (files : Directory) (date : Date) : Bool :=
  alreadyFired files (Int32.ofInt date.year) (UInt32.ofNat date.dayOfYear)

def readMarkerState (files : Directory) (now : Zoned) : MarkerState where
  firedToday := firedOn files (civil now).date
  equivalentMarker := readColdRestartEquivalentMarker zonedFromStr files

namespace Scheduler

variable (s : Scheduler)

def nextAction (now : Zoned) : NextAction :=
  computeNextAction civil now s.cfg (readMarkerState civil zonedFromStr s.files now)

def writeMarker (date : Date) (failure : Option String) : Except String Unit × Directory :=
  writeFiredMarker s.files (Int32.ofInt date.year) (UInt32.ofNat date.dayOfYear) failure

/-- The loop returns when nobody receives the signal any more. -/
def send (signal : ColdRestartSignal) (received : Bool) : Scheduler × List SchedulerEffect :=
  ({ s with phase := if received then .sleeping else .returned },[.sent signal])

/-- The marker of a skip is written as well as it goes. -/
def skip (nowPre : Zoned) (reason : ColdRestartSkipReason) (failure : Option String)
    (received : Bool) : Scheduler × List SchedulerEffect :=
  match s.writeMarker (civil nowPre).date failure with
  | (.ok (),files) =>
    let (sent,effects) := { s with files }.send (.skipped reason) received
    (sent,.wroteFiredMarker (civil nowPre).date :: effects)
  | (.error _,files) => { s with files }.send (.skipped reason) received

/-- Without the marker the restart does not fire. -/
def fire (nowPre : Zoned) (failure : Option String) (received : Bool) :
    Scheduler × List SchedulerEffect :=
  match s.writeMarker (civil nowPre).date failure with
  | (.ok (),files) =>
    let (sent,effects) := { s with files }.send .fire received
    (sent,.wroteFiredMarker (civil nowPre).date :: effects)
  | (.error _,files) => ({ s with files, phase := .sleeping },[])

def wake (now : Zoned) (failure : Option String) (received : Bool) :
    Scheduler × List SchedulerEffect :=
  match s.phase with
  | .returned => (s,[])
  | .sleeping =>
    match s.nextAction civil zonedFromStr now with
    | .sleep => (s,[])
    | .skip reason => s.skip civil now reason failure received
    | .fireEligible => ({ s with phase := .warning now },[])
  | .warning nowPre =>
    match s.nextAction civil zonedFromStr now with
    | .skip reason => s.skip civil nowPre reason failure received
    -- A sample past the target day fires as well.
    | _ => s.fire civil nowPre failure received

def turn : SchedulerInput → Scheduler × List SchedulerEffect
  | .wakes now failure received => s.wake civil zonedFromStr now failure received
  | .equivalentMarkerBecomes content =>
    ({ s with files := Function.update s.files equivalentMarkerName content },[])
  | .restarted cfg => ({ s with cfg, phase := .sleeping },[])

def step (input : SchedulerInput) : Scheduler := (s.turn civil zonedFromStr input).1

end Scheduler

end Loop

end Ibctl.ColdRestart
