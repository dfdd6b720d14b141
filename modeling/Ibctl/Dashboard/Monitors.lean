import Ibctl.Dashboard.IbStatus
import Ibctl.Dashboard.Notifications
import Ibctl.Dashboard.Sessions

/-! The monitors that return their alerts: those that look for a transition in the history of an
instance, and those that look at its status, the clock or the status of IB. -/
namespace Ibctl.Dashboard

/-- What STATUS says of the wait for the operator. -/
structure HitlBlock where
  active : Bool
  nextRetryInSecs : Option Int
  callbackValidHours : Option Nat
  consecutive2faTimeouts : Option Nat
  attemptsExhausted : Option Nat
deriving DecidableEq

/-- What STATUS says of the recovery from failed logins. -/
structure RecoveryBlock where
  phase : String
  phaseEnteredAt : Option String
  giveupAlertSentAt : Option String
  giveupAlertResendIntervalHours : Option Nat
  callbackValidHours : Option Nat
  aggressivePhaseMaxSecs : Option Nat
  backoffPhaseMaxSecs : Option Nat
  minSuccessDwellSecs : Option Nat
deriving DecidableEq

/-- The parts of STATUS that the monitors read. -/
structure InstanceStatus where
  state : String
  ready : Bool
  clients : Nat
  hitl : Option HitlBlock
  recovery : Option RecoveryBlock
deriving DecidableEq

structure Transition where
  timestamp : String
  fromState : String
  toState : String
deriving DecidableEq

def Transition.key (t : Transition) : String :=
  t.timestamp ++ "|" ++ t.fromState ++ "|" ++ t.toState

def upper (mode : String) : String := String.ofList (mode.toList.map Char.toUpper)

section Transitions

/-- A scan of the history of one mode: the key of what it found, and the alert for it. -/
abbrev Scan := String → List Transition → Option (String × Alert)

/-- The latest transition of the kind. -/
def latest (wanted : Transition → Bool) (history : List Transition) : Option Transition :=
  history.reverse.find? wanted

structure TransitionMonitor where
  initialized : Bool
  lastSeenKey : String → Option String

namespace TransitionMonitor

def start : TransitionMonitor := ⟨false,fun _ => none⟩

variable (ns : NotificationService) (eventType : String) (scan : Scan) (modes : List String)
  (histories : String → Option (List Transition)) (m : TransitionMonitor)

/-- What the scan finds in the instances that answer. -/
def found : List (String × String × Alert) :=
  modes.filterMap fun mode => ((histories mode).bind (scan mode)).map (mode,·)

/-- The alerts, each with the mode it is about. -/
def check : List (String × Alert) × TransitionMonitor :=
  if ns.isEventEnabled eventType then
    let seen := found scan modes histories
    let snapshot mode := (seen.lookup mode).map Prod.fst
    if m.initialized then
      ((seen.filter fun entry => m.lastSeenKey entry.1 ≠ some entry.2.1).map
          fun entry => (entry.1,entry.2.2),
        { m with lastSeenKey := fun mode => (snapshot mode).orElse fun _ => m.lastSeenKey mode })
    else ([],⟨true,snapshot⟩)
  else ([],m)

/-- The alerts of a check are alerts of its scan. -/
theorem eventType_of_check {ns : NotificationService} {eventType : String} {scan : Scan}
    {modes : List String} {histories : String → Option (List Transition)} {m : TransitionMonitor}
    (typed : ∀ mode history found, scan mode history = some found → found.2.eventType = eventType) :
    ∀ entry ∈ (m.check ns eventType scan modes histories).1, entry.2.eventType = eventType := by
  intro entry member
  unfold check at member
  split at member
  · dsimp only at member
    split at member
    · obtain ⟨seen,there,rfl⟩ := List.mem_map.mp member
      obtain ⟨mode,-,scanned⟩ := List.mem_filterMap.mp (List.mem_of_mem_filter there)
      obtain ⟨result,read,rfl⟩ := Option.map_eq_some_iff.mp scanned
      obtain ⟨history,-,read⟩ := Option.bind_eq_some_iff.mp read
      exact typed mode history result read
    · cases member
  · cases member

end TransitionMonitor

def loginPhaseStates : List String :=
  ["WaitingForAgent","WaitingForLogin","Authenticating","WaitingFor2fa","HandlingSessionConflict",
    "DismissingPopups","ConfiguringApi"]

def extractErrorMessage (stateName : String) : String :=
  if startsWith stateName "Error(" ∧ stateName.toList.getLast? = some ')' then
    String.ofList ((stateName.toList.drop 6).dropLast)
  else stateName

def loginFailed : Scan := fun mode history =>
  (latest (fun t => t.fromState ∈ loginPhaseStates && startsWith t.toState "Error(") history).map
    fun t => (t.key,{
      eventType := "login_failed"
      title := "ibctl: " ++ upper mode ++ " login failed"
      body := upper mode ++ " failed during " ++ t.fromState ++
        ". ibctl will restart and retry.\n\nReason: " ++ extractErrorMessage t.toState
      priority := "urgent"
      tags := "rotating_light,warning"
      actions := [] })

def failureTargets : List String := ["Restarting","ReauthPending"]

def reloginFailed : Scan := fun mode history =>
  (latest (fun t => t.fromState = "ReconnectingSession" && t.toState ∈ failureTargets) history).map
    fun t => (t.key,{
      eventType := "relogin_failed"
      title := "ibctl: " ++ upper mode ++ " re-login failed"
      body := upper mode ++ " exhausted re-login attempts.\nAction taken: " ++
        (if t.toState = "Restarting" then "JVM restart" else "re-authentication") ++
        "\nRecovery in progress."
      priority := "urgent"
      tags := "rotating_light,warning"
      actions := [] })

def warmRestart : Scan := fun mode history =>
  (latest (fun t => t.fromState = "Connected" && t.toState = "Restarting") history).map
    fun t => (t.key,{
      eventType := "warm_restart"
      title := "ibctl: " ++ upper mode ++ " warm restart"
      body := upper mode ++ " Gateway JVM is restarting.\nSession will resume automatically."
      priority := "default"
      tags := "arrows_counterclockwise"
      actions := [] })

end Transitions

section Schedule

/-- The local time; day 0 is Sunday. -/
structure LocalTime where
  day : Nat
  hour : Nat
  minute : Nat
  second : Nat

/-- The variables of the scheduled restarts. -/
structure RestartSchedule where
  coldRestart : String
  coldRestartDay : String
  autoRestartTime : String

/-- The day of the cold restart; nothing where `int` raises. -/
def RestartSchedule.coldDay (s : RestartSchedule) : Option Int :=
  let raw := strip s.coldRestartDay
  if raw = "" then some 0 else Decimal.readInt raw.toList

/-- The first two parts of a time with colons, as numbers. -/
def clockTime (text : String) : Option (Int × Int) :=
  match text.toList.splitOn ':' with
  | hour :: minute :: _ => do
    let hour ← Decimal.readInt hour
    let minute ← Decimal.readInt minute
    return (hour,minute)
  | _ => none

/-- One or two digits, of a number within the bounds. -/
def shortNumber (digits : List Char) (low high : Nat) : Option Nat :=
  let value := Text.digitsValue digits
  if digits ≠ [] ∧ digits.length ≤ 2 ∧ low ≤ value ∧ value ≤ high then some value else none

/-- The minutes after midnight of a time as `%I:%M %p` has it. -/
def twelveHour (text : String) : Option Int := do
  let (hour,rest) ← Text.splitOnce ':' (strip text).toList
  guard (hour.all Text.isAsciiDigit)
  let hour ← shortNumber hour 1 12
  let minute ← shortNumber (rest.takeWhile Text.isAsciiDigit) 0 59
  let rest := rest.dropWhile Text.isAsciiDigit
  guard (rest.head?.any Text.isPythonSpace)
  let half := (rest.dropWhile Text.isPythonSpace).map Char.toUpper
  guard (half = ['A','M'] ∨ half = ['P','M'])
  return (hour % 12 + (if half = ['P','M'] then 12 else 0)) * 60 + minute

def suppressWindowMinutes : Nat := 5

/-- Nothing where the day of the cold restart is no number. -/
def withinRestartWindow (s : RestartSchedule) (now : LocalTime) : Option Bool := do
  let day ← s.coldDay
  let minutes : Int := now.hour * 60 + now.minute
  let near (target : Int) : Bool := (minutes - target).natAbs ≤ suppressWindowMinutes
  let cold := s.coldRestart ≠ "" && now.day = day &&
    (clockTime s.coldRestart).any fun (hour,minute) => near (hour * 60 + minute)
  return cold || (twelveHour s.autoRestartTime).any near

def excludedTargets : List String := ["Restarting","Shutdown"]

def leftConnected (t : Transition) : Bool :=
  t.fromState = "Connected" && t.toState ∉ excludedTargets

def sessionLost (suppressed : Bool) : Scan := fun mode history =>
  if suppressed then none
  else (latest leftConnected history).map fun t => (t.key,{
    eventType := "session_lost"
    title := "ibctl: " ++ upper mode ++ " session lost"
    body := upper mode ++ " left Connected state unexpectedly.\nTransition: Connected -> " ++
      t.toState ++ "\nibctl will attempt recovery."
    priority := "high"
    tags := "warning"
    actions := [] })

/-- A look at the schedule that raises loses the whole check. -/
def sessionLostCheck (schedule : RestartSchedule) (now : LocalTime) (ns : NotificationService)
    (modes : List String) (histories : String → Option (List Transition)) (m : TransitionMonitor) :
    List (String × Alert) × TransitionMonitor :=
  match withinRestartWindow schedule now with
  | some suppressed => m.check ns "session_lost" (sessionLost suppressed) modes histories
  | none =>
    if modes.any fun mode => (histories mode).any fun history => history.any leftConnected then
      ([],m)
    else m.check ns "session_lost" (sessionLost false) modes histories

structure ColdRestartPendingMonitor where
  alertedToday : Bool
  lastResetDay : Option Nat

def dayNames : List String :=
  ["Sunday","Monday","Tuesday","Wednesday","Thursday","Friday","Saturday"]

/-- A number as `02d` shows it. -/
def paddedInt (n : Int) : String := if 0 ≤ n ∧ n < 10 then "0" ++ toString n else toString n

def ColdRestartPendingMonitor.check (schedule : RestartSchedule) (now : LocalTime)
    (ns : NotificationService) (m : ColdRestartPendingMonitor) :
    List Alert × ColdRestartPendingMonitor :=
  if ns.isEventEnabled "cold_restart_pending" then
    match clockTime (strip schedule.coldRestart),schedule.coldDay with
    | some (hour,minute),some targetDay =>
      let leadSeconds : Nat :=
        ((ns.config.events.lookup "cold_restart_pending").bind EventSettings.leadSeconds).getD 30
      let m : ColdRestartPendingMonitor :=
        if m.lastResetDay = some now.day then m else ⟨false,some now.day⟩
      let secondsUntil : Int := hour * 3600 + minute * 60 -
        (now.hour * 3600 + now.minute * 60 + now.second : Nat)
      if m.alertedToday then ([],m)
      else if (now.day : Int) = targetDay ∧ 0 < secondsUntil ∧ secondsUntil ≤ leadSeconds then
        ([{ eventType := "cold_restart_pending"
            title := "ibctl: cold restart in " ++ toString secondsUntil ++ "s"
            body := "Scheduled cold restart: " ++ (dayNames[now.day]?).getD "" ++ " " ++
              paddedInt hour ++ ":" ++ paddedInt minute ++
              "\n2FA approval (IB Key) will be required.\nHave your phone ready."
            priority := "urgent"
            tags := "rotating_light,alarm_clock"
            actions := [] }],{ m with alertedToday := true })
      else ([],m)
    | _,_ => ([],m)
  else ([],m)

end Schedule

structure NoClientsMonitor where
  zeroSince : String → Option Nat
  alerted : String → Bool

namespace NoClientsMonitor

/-- One instance; `now` is in microseconds. -/
def checkInstance (timeoutMinutes now : Nat) (mode : String) (status : Option InstanceStatus)
    (m : NoClientsMonitor) : Option Alert × NoClientsMonitor :=
  let forgotten : NoClientsMonitor :=
    ⟨Function.update m.zeroSince mode none,Function.update m.alerted mode false⟩
  match status with
  | none => (none,forgotten)
  | some status =>
    if status.state = "Connected" ∧ status.ready ∧ status.clients = 0 then
      let counted : NoClientsMonitor :=
        if (m.zeroSince mode).isSome then m
        else ⟨Function.update m.zeroSince mode (some now),Function.update m.alerted mode false⟩
      let elapsed : Int := now - (counted.zeroSince mode).getD now
      if timeoutMinutes * 60 * microseconds ≤ elapsed ∧ counted.alerted mode = false then
        (some {
          eventType := "no_clients"
          title := "ibctl: " ++ upper mode ++ " has 0 API clients"
          body := upper mode ++ " has been Connected for " ++
            toString (elapsed / (60 * microseconds)) ++
            "m with no API clients. Check if API clients are expected to be running."
          priority := "urgent"
          tags := "warning"
          actions := [] },{ counted with alerted := Function.update counted.alerted mode true })
      else (none,counted)
    else (none,forgotten)

def check (ns : NotificationService) (now : Nat) (modes : List String)
    (cache : String → Option InstanceStatus) (m : NoClientsMonitor) :
    List Alert × NoClientsMonitor :=
  let timeoutMinutes := ns.getEventTimeout "no_clients"
  if ns.isEventEnabled "no_clients" ∧ 0 < timeoutMinutes then
    modes.foldl (fun (alerts,m) mode =>
      let (alert,m) := m.checkInstance timeoutMinutes now mode (cache mode)
      (alerts ++ alert.toList,m)) ([],m)
  else ([],m)

end NoClientsMonitor

structure IBMaintenanceMonitor where
  initialized : Bool
  lastSeenKey : String

/-- `auditLog` is that of the status monitor, if there is one; the latest event is its last. -/
def IBMaintenanceMonitor.check (ns : NotificationService) (auditLog : Option (List StatusEvent))
    (m : IBMaintenanceMonitor) : List Alert × IBMaintenanceMonitor :=
  if ns.isEventEnabled "ib_maintenance" then
    match auditLog with
    | none => ([],m)
    | some log =>
      match log.getLast? with
      | none => ([],{ m with initialized := true })
      | some event =>
        let key := toString event.timestamp ++ "|" ++ event.fromStatus ++ "|" ++ event.toStatus
        if m.initialized = false then ([],⟨true,key⟩)
        else if key = m.lastSeenKey then ([],m)
        else if event.toStatus ∉ ["maintenance","outage"] then ([],{ m with lastSeenKey := key })
        else
          let outage := event.toStatus = "outage"
          ([{ eventType := "ib_maintenance"
              title := "ibctl: IB system " ++ event.toStatus
              body := "IB system status: " ++ event.fromStatus ++ " -> " ++ event.toStatus ++
                "\nReason: " ++ event.reason ++
                "\nibctl instances will enter WaitingForIB state."
              priority := if outage then "high" else "default"
              tags := if outage then "warning" else "construction"
              actions := [] }],{ m with lastSeenKey := key })
  else ([],m)

end Ibctl.Dashboard
