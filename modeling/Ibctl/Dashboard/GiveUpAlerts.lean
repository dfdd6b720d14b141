import Ibctl.Dashboard.HitlAlerts

/-! The alert for an instance that gave up to reconnect. The monitor reads the cached STATUS, sends
by itself, and sends again after hours as long as nobody resumes. -/
namespace Ibctl.Dashboard
open Runs

/-- `fromIsoformat` is the time an ISO 8601 text names, in microseconds since the epoch, in UTC
where the text names no offset. -/
structure GiveUpSite extends AlertSite where
  fromIsoformat : String → Option Int

section Alert

def defaultResendIntervalHours : Nat := 6

def ntfySendMaxAttempts : Nat := 5

def orDefault (value : Option Nat) (default : Nat) : Nat := (countOr value none).getD default

/-- The time between two alerts of one give-up, in microseconds. -/
def RecoveryBlock.resendInterval (r : RecoveryBlock) : Nat :=
  orDefault r.giveupAlertResendIntervalHours defaultResendIntervalHours * 3600 * microseconds

def dedupeKey (r : RecoveryBlock) : Option String :=
  (r.phaseEnteredAt.filter (· ≠ "")).map ("entered:" ++ ·)

def GiveUpSite.stampTime (site : GiveUpSite) (r : RecoveryBlock) : Option Int :=
  (r.giveupAlertSentAt.filter (· ≠ "")).bind fun stamp =>
    site.fromIsoformat (if stamp.toList.getLast? = some 'Z' then
      String.ofList stamp.toList.dropLast ++ "+00:00" else stamp)

def GiveUpSite.stampAge (site : GiveUpSite) (r : RecoveryBlock) (now : Nat) : Option Int :=
  (site.stampTime r).bind fun stamp => if stamp ≤ now then some (now - stamp) else none

def reconnectUrl (baseUrl token : List Char) (mode : String) : List Char :=
  baseUrl ++ "/api/reconnect/callback?t=".toList ++ token ++ "&mode=".toList ++ mode.toList

def resumeReconnectByHand : String :=
  "operator intervention required; open the dashboard's state-machine page to send " ++
    "RESUME_RECONNECT manually"

/-- The alert of one mode; `now` is the time a token is minted at. -/
def buildGiveUpAlert (site : GiveUpSite) (channel mode : String) (r : RecoveryBlock) (now : Nat) :
    Alert :=
  let aggressiveSecs := orDefault r.aggressivePhaseMaxSecs 3600
  let backoffSecs := orDefault r.backoffPhaseMaxSecs 10800
  let dwellSecs := orDefault r.minSuccessDwellSecs 60
  let elapsedHours := max 1 ((aggressiveSecs + backoffSecs) / 3600)
  let validHours := orDefault r.callbackValidHours defaultCallbackValidHours
  let lines := [upper mode ++ " gave up reconnection: Aggressive retry " ++
      toString (aggressiveSecs / 60) ++ "m + Backoff " ++ toString (backoffSecs / 3600) ++
      "h without a Connected dwell >=" ++ toString dwellSecs ++ "s.",
    "Tap to resume aggressive retry."]
  let alert (more : List String) (actions : List Action) : Alert := {
    eventType := "reconnect_gave_up:" ++ mode
    title := "ibctl " ++ mode ++ ": reconnection given up after ~" ++ toString elapsedHours ++ "h"
    body := "\n".intercalate (lines ++ more)
    priority := "urgent"
    tags := "warning,rotating_light"
    actions := actions }
  if site.canUseAction channel then
    match mintToken site.mac site.signingKey mode.toList validHours "reconnect".toList now with
    | .ok token => alert [] [⟨"view","Resume reconnect",reconnectUrl site.baseUrl token mode,true⟩]
    | .error _ => alert [resumeReconnectByHand] []
  else alert [resumeReconnectByHand] []

end Alert

section Monitor

/-- The give-up of a mode that was alerted last; zero stands for no send that succeeded. -/
structure PerModeState where
  lastAlertedKey : Option String
  lastAlertedWall : Int
  sendAttempts : Nat
deriving DecidableEq

def PerModeState.start : PerModeState := ⟨none,0,0⟩

/-- The wall clock around one mode, in microseconds: at the look of a first tick, at the look at
the cadence, when a token is minted, around the send and after it. -/
structure GiveUpReading where
  booted : Nat
  now : Nat
  minted : Nat
  exchange : Exchange
  stamped : Nat

/-- A mode is left alone or is due an alert; each comes with the state of the mode. -/
inductive Judged where
  | passed (state : PerModeState)
  | due (state : PerModeState)

/-- What a cached STATUS says of a give-up, and the key it is known by. -/
def giveUpOf (status : Option InstanceStatus) : Option (RecoveryBlock × String) := do
  let r ← (← status).recovery
  guard (r.phase = "given_up")
  return (r,← dedupeKey r)

/-- An alert that was handed to the notification service. -/
structure GiveUpSend where
  mode : String
  key : String
  time : Nat
  push : Option Push

structure ReconnectGiveUpMonitor where
  state : String → PerModeState
  initialized : Bool

/-- What a check changes as it goes over the modes. -/
structure GiveUpSends where
  state : String → PerModeState
  service : NotificationService
  sent : List GiveUpSend

namespace ReconnectGiveUpMonitor

def start : ReconnectGiveUpMonitor := ⟨fun _ => .start,false⟩

variable (site : GiveUpSite)

/-- The cadence of one mode: a give-up that is new, one whose sends failed so far, and one whose
last alert is as old as the interval. -/
def cadence (r : RecoveryBlock) (key : String) (now : Nat) (s : PerModeState) : Judged :=
  if s.lastAlertedKey = some key then
    if s.lastAlertedWall = 0 then
      if ntfySendMaxAttempts ≤ s.sendAttempts then .passed s else .due s
    else if now - s.lastAlertedWall < r.resendInterval then .passed s
    else .due { s with lastAlertedWall := 0, sendAttempts := 0 }
  else .due { s with lastAlertedWall := 0, sendAttempts := 0 }

/-- On the first tick a give-up that has its stamp is taken as alerted then. -/
def judge (initialized : Bool) (r : RecoveryBlock) (key : String) (reading : GiveUpReading)
    (s : PerModeState) : Judged :=
  match if !initialized ∧ s.lastAlertedKey = none then site.stampAge r reading.booted else none with
  | some age => .passed { s with lastAlertedKey := some key, lastAlertedWall := reading.booted - age }
  | none => cadence r key reading.now s

def processMode (initialized : Bool) (status : Option InstanceStatus) (reading : GiveUpReading)
    (s : GiveUpSends) (mode : String) : GiveUpSends :=
  match giveUpOf status with
  | none => s
  | some (r,key) =>
    match judge site initialized r key reading (s.state mode) with
    | .passed state => { s with state := Function.update s.state mode state }
    | .due state =>
      let alert := buildGiveUpAlert site s.service.config.channel mode r (seconds reading.minted)
      let (success,service,push) := s.service.sendAlert alert true reading.exchange
      let state : PerModeState :=
        { state with
          sendAttempts := state.sendAttempts + 1
          lastAlertedKey := some key
          lastAlertedWall := if success then reading.stamped else state.lastAlertedWall }
      ⟨Function.update s.state mode state,service,
        s.sent ++ [⟨mode,key,reading.exchange.now,push⟩]⟩

variable (modes : List String) (cache : String → Option InstanceStatus)
  (readings : String → GiveUpReading) (ns : NotificationService) (m : ReconnectGiveUpMonitor)

def check : ReconnectGiveUpMonitor × NotificationService × List GiveUpSend :=
  let sends := modes.foldl (fun s mode =>
    processMode site m.initialized (cache mode) (readings mode) s mode) ⟨m.state,ns,[]⟩
  (⟨sends.state,true⟩,sends.service,sends.sent)

end ReconnectGiveUpMonitor

end Monitor

section Runs

/-- The cache and the clock that a check of the monitor meets. -/
structure GiveUpTick where
  cache : String → Option InstanceStatus
  readings : String → GiveUpReading

/-- The monitor with what it has sent since the start of the dashboard. -/
structure GiveUpWatch where
  monitor : ReconnectGiveUpMonitor
  service : NotificationService
  sent : List GiveUpSend

namespace GiveUpWatch

def start (ns : NotificationService) : GiveUpWatch := ⟨.start,ns,[]⟩

variable (site : GiveUpSite) (modes : List String)

def step (w : GiveUpWatch) (tick : GiveUpTick) : GiveUpWatch :=
  let (monitor,service,sent) := w.monitor.check site modes tick.cache tick.readings w.service
  ⟨monitor,service,w.sent ++ sent⟩

/-- Nothing was sent about this give-up before the time. -/
def Quiet (mode key : String) (time : Int) (w : GiveUpWatch) : Prop :=
  ∀ send ∈ w.sent, send.mode = mode → send.key = key → time ≤ send.time

end GiveUpWatch

def GiveUpReading.Ordered (reading : GiveUpReading) : Prop :=
  reading.booted ≤ reading.now ∧ reading.now ≤ reading.exchange.now ∧
    reading.exchange.now ≤ reading.stamped

/-- The clock of a mode does not go back. -/
def Chronological (mode : String) (ticks : List GiveUpTick) : Prop :=
  (∀ tick ∈ ticks, (tick.readings mode).Ordered) ∧
    ticks.Pairwise fun a b => (a.readings mode).stamped ≤ (b.readings mode).booted

/-- A start of the dashboard: the STATUS of the mode is not available to the early ticks, the first
one to have it finds the give-up with its stamp, the same ones find this give-up or none, and in
the rest it is over. -/
structure GiveUpStart (site : GiveUpSite) (mode key : String) (stamp : Int) (interval : Nat)
    (early : List GiveUpTick) (first : GiveUpTick) (same rest : List GiveUpTick) : Prop where
  unavailable : ∀ tick ∈ early, tick.cache mode = none
  shown : ∃ r, giveUpOf (first.cache mode) = some (r,key) ∧ site.stampTime r = some stamp
  past : stamp ≤ (first.readings mode).booted
  only : ∀ tick ∈ first :: same, ∀ r other,
    giveUpOf (tick.cache mode) = some (r,other) → other = key ∧ r.resendInterval = interval
  over_ : ∀ tick ∈ rest, ∀ r, giveUpOf (tick.cache mode) ≠ some (r,key)
  clock : Chronological mode (early ++ first :: same ++ rest)

section Steps

variable {site : GiveUpSite} {modes : List String} {mode : String}

namespace ReconnectGiveUpMonitor

theorem processMode_other {initialized : Bool} {status : Option InstanceStatus}
    {reading : GiveUpReading} {s : GiveUpSends} {other : String} (apart : other ≠ mode) :
    (processMode site initialized status reading s other).state mode = s.state mode ∧
      ∃ added, (processMode site initialized status reading s other).sent = s.sent ++ added ∧
        ∀ send ∈ added, send.mode ≠ mode := by
  unfold processMode
  split
  · exact ⟨rfl,[],(List.append_nil _).symm,by simp⟩
  · split
    · exact ⟨Function.update_of_ne apart.symm _ _,[],(List.append_nil _).symm,by simp⟩
    · exact ⟨Function.update_of_ne apart.symm _ _,_,rfl,by simpa using apart⟩

theorem foldl_other {initialized : Bool} {cache : String → Option InstanceStatus}
    {readings : String → GiveUpReading} {others : List String} (apart : mode ∉ others)
    (s : GiveUpSends) :
    (others.foldl (fun s other => processMode site initialized (cache other) (readings other) s
        other) s).state mode = s.state mode ∧
      ∃ added, (others.foldl (fun s other => processMode site initialized (cache other)
          (readings other) s other) s).sent = s.sent ++ added ∧
        ∀ send ∈ added, send.mode ≠ mode := by
  induction others generalizing s with
  | nil => exact ⟨rfl,[],(List.append_nil _).symm,by simp⟩
  | cons other rest ih =>
    obtain ⟨ne,others⟩ := not_or.mp (mt List.mem_cons.mpr apart)
    obtain ⟨state,added,sent,elsewhere⟩ := @processMode_other site mode initialized (cache other)
      (readings other) s other (Ne.symm ne)
    obtain ⟨state',added',sent',elsewhere'⟩ := ih others
      (processMode site initialized (cache other) (readings other) s other)
    refine ⟨state'.trans state,added ++ added',?_,?_⟩
    · rw [List.foldl_cons,sent',sent,List.append_assoc]
    · intro send found
      exact (List.mem_append.mp found).elim (elsewhere send) (elsewhere' send)

/-- What a check makes of one mode is what the mode alone makes of it, with some service. -/
theorem check_mode {m : ReconnectGiveUpMonitor} {cache : String → Option InstanceStatus}
    {readings : String → GiveUpReading} {ns : NotificationService} (registered : modes.Nodup)
    (member : mode ∈ modes) :
    ∃ s : GiveUpSends, s.state mode = m.state mode ∧ (∀ send ∈ s.sent, send.mode ≠ mode) ∧
      let alone := processMode site m.initialized (cache mode) (readings mode) s mode
      (check site modes cache readings ns m).1.state mode = alone.state mode ∧
        ∃ added, (check site modes cache readings ns m).2.2 = alone.sent ++ added ∧
          ∀ send ∈ added, send.mode ≠ mode := by
  obtain ⟨before,after,rfl,earlier,later⟩ := Runs.split_of_mem registered member
  obtain ⟨state,added,sent,elsewhere⟩ := @foldl_other site mode m.initialized cache readings before
    earlier ⟨m.state,ns,[]⟩
  refine ⟨_,state,?_,?_⟩
  · rw [sent]
    exact elsewhere
  · unfold check
    rw [List.foldl_append,List.foldl_cons]
    exact @foldl_other site mode m.initialized cache readings after later _

theorem judge_initialized {initialized : Bool} {r : RecoveryBlock} {key : String}
    {reading : GiveUpReading} {s : PerModeState} (begun : initialized = true) :
    judge site initialized r key reading s = cadence r key reading.now s := by
  simp [judge,begun]

/-- On the first tick a stamp that is not in the future is taken over. -/
theorem judge_first {r : RecoveryBlock} {key : String} {reading : GiveUpReading} {stamp : Int}
    (stamped : site.stampTime r = some stamp) (past : stamp ≤ reading.booted) :
    judge site false r key reading .start = .passed ⟨some key,stamp,0⟩ := by
  have age : site.stampAge r reading.booted = some (reading.booted - stamp) := by
    rw [GiveUpSite.stampAge,stamped]
    exact if_pos past
  simp [judge,PerModeState.start,age]

/-- A give-up that is known by its stamp is judged by the age of the stamp. -/
theorem judge_seeded {initialized : Bool} {r : RecoveryBlock} {key : String}
    {reading : GiveUpReading} {stamp : Int} {attempts : Nat} (known : stamp ≠ 0) :
    judge site initialized r key reading ⟨some key,stamp,attempts⟩ =
      if reading.now - stamp < r.resendInterval then .passed ⟨some key,stamp,attempts⟩
      else .due ⟨some key,0,0⟩ := by
  simp [judge,cadence,known]

end ReconnectGiveUpMonitor

theorem Chronological.late {ticks : List GiveUpTick} {tick : GiveUpTick}
    (clock : Chronological mode (tick :: ticks)) :
    ∀ other ∈ tick :: ticks,
      (tick.readings mode).exchange.now ≤ (other.readings mode).exchange.now := by
  intro other found
  rcases List.mem_cons.mp found with rfl | later
  · exact le_rfl
  · have after := List.rel_of_pairwise_cons clock.2 later
    have ordered := clock.1 tick (by simp)
    have ordered' := clock.1 other found
    exact ordered.2.2.trans (after.trans (ordered'.1.trans ordered'.2.1))

theorem Chronological.tail {ticks : List GiveUpTick} {tick : GiveUpTick}
    (clock : Chronological mode (tick :: ticks)) : Chronological mode ticks :=
  ⟨fun other found => clock.1 other (List.mem_cons_of_mem tick found),clock.2.of_cons⟩

namespace GiveUpWatch

open ReconnectGiveUpMonitor (judge)

variable {w : GiveUpWatch} {tick : GiveUpTick}

/-- What a tick does to a mode. -/
inductive Stepped (site : GiveUpSite) (mode : String) (w : GiveUpWatch) (tick : GiveUpTick)
    (state : PerModeState) (added : List GiveUpSend) : Prop where
  | absent (none : giveUpOf (tick.cache mode) = none) (kept : state = w.monitor.state mode)
      (silent : ∀ send ∈ added, send.mode ≠ mode)
  | passed (r : RecoveryBlock) (key : String) (found : giveUpOf (tick.cache mode) = some (r,key))
      (judged : judge site w.monitor.initialized r key (tick.readings mode)
        (w.monitor.state mode) = .passed state)
      (silent : ∀ send ∈ added, send.mode ≠ mode)
  | sent (r : RecoveryBlock) (key : String) (begun : PerModeState)
      (found : giveUpOf (tick.cache mode) = some (r,key))
      (judged : judge site w.monitor.initialized r key (tick.readings mode)
        (w.monitor.state mode) = .due begun)
      (one : ∃ send ∈ added, send.mode = mode)
      (only : ∀ send ∈ added, send.mode = mode → send.key = key ∧
        send.time = (tick.readings mode).exchange.now)

theorem stepped (registered : modes.Nodup) (member : mode ∈ modes) :
    (w.step site modes tick).monitor.initialized = true ∧
      ∃ added, (w.step site modes tick).sent = w.sent ++ added ∧
        Stepped site mode w tick ((w.step site modes tick).monitor.state mode) added := by
  obtain ⟨s,same,silent,state,added,sent,elsewhere⟩ :=
    @ReconnectGiveUpMonitor.check_mode site modes mode w.monitor tick.cache tick.readings w.service
      registered member
  refine ⟨rfl,_,rfl,?_⟩
  change Stepped site mode w tick ((w.monitor.check site modes tick.cache tick.readings
    w.service).1.state mode) (w.monitor.check site modes tick.cache tick.readings w.service).2.2
  rw [state,sent]
  have still (more : List GiveUpSend) (quiet : ∀ send ∈ more, send.mode ≠ mode) :
      ∀ send ∈ more ++ added, send.mode ≠ mode := fun send found =>
    (List.mem_append.mp found).elim (quiet send) (elsewhere send)
  unfold ReconnectGiveUpMonitor.processMode
  split
  next none => exact .absent none same (still _ silent)
  next r key found =>
    rw [same]
    split
    next state judged =>
      refine .passed r key found ?_ (still _ silent)
      simp [judged]
    next begun judged =>
      refine .sent r key begun found judged ⟨⟨mode,key,(tick.readings mode).exchange.now,_⟩,
        List.mem_append_left _ (List.mem_append_right _ (List.mem_singleton.mpr rfl)),rfl⟩ ?_
      intro send member there
      rcases List.mem_append.mp member with here | other
      · rcases List.mem_append.mp here with old | new
        · exact absurd there (silent send old)
        · rw [List.mem_singleton.mp new]
          exact ⟨rfl,rfl⟩
      · exact absurd there (elsewhere send other)

/-- The ticks that show the give-up come at the time or after it: then nothing is sent before. -/
theorem quiet_run {key : String} {time : Int} {ticks : List GiveUpTick} (registered : modes.Nodup)
    (member : mode ∈ modes) (quiet : w.Quiet mode key time)
    (late : ∀ tick ∈ ticks, ∀ r, giveUpOf (tick.cache mode) = some (r,key) →
      time ≤ (tick.readings mode).exchange.now) :
    (run (step site modes) w ticks).Quiet mode key time := by
  induction ticks generalizing w with
  | nil => exact quiet
  | cons tick rest ih =>
    refine ih ?_ fun other found => late other (List.mem_cons_of_mem tick found)
    obtain ⟨-,added,sent,stepped⟩ := @stepped site modes mode w tick registered member
    intro send found there sameKey
    rw [sent] at found
    rcases List.mem_append.mp found with old | new
    · exact quiet send old there sameKey
    · cases stepped with
      | absent none kept silent => exact absurd there (silent send new)
      | passed r other shown judged silent => exact absurd there (silent send new)
      | sent r other begun shown judged one only =>
        obtain ⟨rfl,at_⟩ := only send new there
        rw [at_]
        subst sameKey
        exact late tick (by simp) r shown

theorem sent_extends (ticks : List GiveUpTick) :
    ∃ more, (run (step site modes) w ticks).sent = w.sent ++ more := by
  induction ticks generalizing w with
  | nil => exact ⟨[],(List.append_nil _).symm⟩
  | cons tick rest ih =>
    obtain ⟨more,sent⟩ := @ih (w.step site modes tick)
    exact ⟨_,sent.trans (List.append_assoc _ _ _)⟩

/-- What is sent at a tick is part of what the run has sent. -/
theorem Quiet.of_run {key : String} {time : Int} {ticks : List GiveUpTick}
    (quiet : (run (step site modes) w ticks).Quiet mode key time) : w.Quiet mode key time := by
  obtain ⟨more,sent⟩ := @sent_extends site modes w ticks
  exact fun send found => quiet send (by rw [sent]; exact List.mem_append_left _ found)

/-- Until the mode has a STATUS the monitor keeps nothing of it. -/
theorem run_unavailable {ticks : List GiveUpTick} (registered : modes.Nodup)
    (member : mode ∈ modes) (fresh : w.monitor.state mode = .start)
    (silent : ∀ send ∈ w.sent, send.mode ≠ mode)
    (unavailable : ∀ tick ∈ ticks, tick.cache mode = none) :
    (run (step site modes) w ticks).monitor.state mode = .start ∧
      (∀ send ∈ (run (step site modes) w ticks).sent, send.mode ≠ mode) ∧
      ((run (step site modes) w ticks).monitor.initialized =
        (w.monitor.initialized || !ticks.isEmpty)) := by
  induction ticks generalizing w with
  | nil => exact ⟨fresh,silent,by simp⟩
  | cons tick rest ih =>
    obtain ⟨initialized,added,sent,stepped⟩ := @stepped site modes mode w tick registered member
    have absent : giveUpOf (tick.cache mode) = none := by rw [unavailable tick (by simp)]; rfl
    cases stepped with
    | absent _ kept quiet =>
      obtain ⟨state,quiet',begun⟩ := @ih (w.step site modes tick) (kept.trans fresh)
        (fun send found => by
          rw [sent] at found
          exact (List.mem_append.mp found).elim (silent send) (quiet send))
        (fun other found => unavailable other (List.mem_cons_of_mem tick found))
      exact ⟨state,quiet',begun.trans (by simp [initialized])⟩
    | passed r key found judged quiet => rw [absent] at found; cases found
    | sent r key begun found judged one only => rw [absent] at found; cases found

/-- A give-up that was alerted at its stamp is alerted again an interval later at the soonest. -/
theorem seeded_run {key : String} {stamp : Int} {interval attempts : Nat} {ticks : List GiveUpTick}
    (registered : modes.Nodup) (member : mode ∈ modes) (known : stamp ≠ 0)
    (seeded : w.monitor.state mode = ⟨some key,stamp,attempts⟩)
    (quiet : w.Quiet mode key (stamp + interval)) (clock : Chronological mode ticks)
    (only : ∀ tick ∈ ticks, ∀ r other, giveUpOf (tick.cache mode) = some (r,other) →
      other = key ∧ r.resendInterval = interval) :
    (run (step site modes) w ticks).Quiet mode key (stamp + interval) := by
  induction ticks generalizing w with
  | nil => exact quiet
  | cons tick rest ih =>
    have again (next : (w.step site modes tick).monitor.state mode = ⟨some key,stamp,attempts⟩)
        (added : List GiveUpSend) (sent : (w.step site modes tick).sent = w.sent ++ added)
        (silent : ∀ send ∈ added, send.mode ≠ mode) :
        (run (step site modes) w (tick :: rest)).Quiet mode key (stamp + interval) := by
      refine ih next (fun send found there sameKey => ?_) clock.tail
        fun other found => only other (List.mem_cons_of_mem tick found)
      rw [sent] at found
      exact (List.mem_append.mp found).elim (fun old => quiet send old there sameKey)
        fun new => absurd there (silent send new)
    obtain ⟨-,added,sent,stepped⟩ := @stepped site modes mode w tick registered member
    cases stepped with
    | absent none kept silent => exact again (kept.trans seeded) added sent silent
    | passed r other found judged silent =>
      obtain ⟨rfl,-⟩ := only tick (by simp) r other found
      rw [seeded,ReconnectGiveUpMonitor.judge_seeded known] at judged
      split at judged
      · exact again (Judged.passed.inj judged).symm added sent silent
      · cases judged
    | sent r other begun found judged one only' =>
      obtain ⟨rfl,interval'⟩ := only tick (by simp) r other found
      rw [seeded,ReconnectGiveUpMonitor.judge_seeded known,interval'] at judged
      split at judged
      · cases judged
      next elapsed =>
        refine quiet_run registered member quiet fun later found' r' _ => ?_
        have ordered := (clock.1 tick (by simp)).2.1
        have late := clock.late later found'
        omega

/-- A mode whose give-up is due whatever the clock shows is sent at the first tick that shows it. -/
theorem owed_run {key : String} {time : Int} {ticks : List GiveUpTick} (registered : modes.Nodup)
    (member : mode ∈ modes) (initialized : w.monitor.initialized = true)
    (owed : ∀ r now state,
      ReconnectGiveUpMonitor.cadence r key now (w.monitor.state mode) ≠ .passed state)
    (clock : Chronological mode ticks)
    (only : ∀ tick ∈ ticks, ∀ r other, giveUpOf (tick.cache mode) = some (r,other) → other = key)
    (quiet : (run (step site modes) w ticks).Quiet mode key time) :
    ∀ tick ∈ ticks, (∃ r, giveUpOf (tick.cache mode) = some (r,key)) →
      time ≤ (tick.readings mode).exchange.now := by
  induction ticks generalizing w with
  | nil => simp
  | cons tick rest ih =>
    obtain ⟨initialized',added,sent,stepped⟩ := @stepped site modes mode w tick registered member
    cases stepped with
    | absent none kept silent =>
      intro other found shown
      rcases List.mem_cons.mp found with rfl | later
      · obtain ⟨r,shown⟩ := shown
        rw [none] at shown
        cases shown
      · exact ih initialized' (by rwa [kept]) clock.tail
          (fun next there => only next (List.mem_cons_of_mem tick there)) quiet other later shown
    | passed r other found judged silent =>
      obtain rfl := only tick (by simp) r other found
      rw [ReconnectGiveUpMonitor.judge_initialized initialized] at judged
      exact absurd judged (owed r _ _)
    | sent r other begun found judged one only' =>
      obtain rfl := only tick (by simp) r other found
      obtain ⟨send,new,there⟩ := one
      obtain ⟨sameKey,at_⟩ := only' send new there
      have first : time ≤ (tick.readings mode).exchange.now := by
        have kept : (w.step site modes tick).Quiet mode other time :=
          @Quiet.of_run site modes mode _ other time rest quiet
        rw [← at_]
        exact kept send (by rw [sent]; exact List.mem_append_right _ new) there sameKey
      intro other found _
      exact first.trans (by exact_mod_cast clock.late other found)

end GiveUpWatch

end Steps

namespace GiveUpWatch

theorem chronological_middle {mode : String} {early ticks rest : List GiveUpTick}
    (clock : Chronological mode (early ++ ticks ++ rest)) : Chronological mode ticks :=
  ⟨fun tick found => clock.1 tick (by simp [found]),
    (List.pairwise_append.mp (List.pairwise_append.mp clock.2).1).2.1⟩

/-- A start of the dashboard does not repeat the alert before the interval is over exactly when the
give-up is there at its first tick, or the ticks that show it come late enough. -/
theorem giveup_unrepeated_iff {site : GiveUpSite} {modes : List String} {ns : NotificationService}
    {mode key : String} {stamp : Int} {interval : Nat} {early : List GiveUpTick}
    {first : GiveUpTick} {same rest : List GiveUpTick} (registered : modes.Nodup)
    (member : mode ∈ modes)
    (began : GiveUpStart site mode key stamp interval early first same rest) :
    (run (step site modes) (start ns) (early ++ first :: same ++ rest)).Quiet mode key
        (stamp + interval) ↔
      (early = [] ∧ stamp ≠ 0) ∨
        ∀ tick ∈ (if early = [] then same else first :: same),
          (∃ r, giveUpOf (tick.cache mode) = some (r,key)) →
            stamp + interval ≤ (tick.readings mode).exchange.now := by
  have clock := chronological_middle began.clock
  obtain ⟨state,silent,begun⟩ := @run_unavailable site modes mode (start ns) early registered member
    rfl (by simp [start]) began.unavailable
  have ending {w : GiveUpWatch} : (run (step site modes) w rest).Quiet mode key (stamp + interval) ↔
      w.Quiet mode key (stamp + interval) :=
    ⟨Quiet.of_run,fun quiet => quiet_run registered member quiet
      fun tick found r shown => absurd shown (began.over_ tick found r)⟩
  rw [run_append,ending,run_append]
  generalize run (step site modes) (start ns) early = w at state silent begun ⊢
  have fresh : w.Quiet mode key (stamp + interval) := fun send found there =>
    absurd there (silent send found)
  obtain ⟨r,shown,stamped⟩ := began.shown
  obtain ⟨initialized,added,sent,stepped⟩ := @stepped site modes mode w first registered member
  by_cases none : early = []
  · rw [if_pos none]
    -- the first tick has the give-up and takes its stamp over
    have uninitialized : w.monitor.initialized = false := by
      simpa [none,start,ReconnectGiveUpMonitor.start] using begun
    have seeded : (w.step site modes first).monitor.state mode = ⟨some key,stamp,0⟩ ∧
        ∀ send ∈ added, send.mode ≠ mode := by
      cases stepped with
      | absent absent kept silent => rw [absent] at shown; cases shown
      | passed r' other found judged silent =>
        obtain ⟨rfl,rfl⟩ := Prod.mk.inj (Option.some.inj (shown.symm.trans found))
        rw [uninitialized,state,ReconnectGiveUpMonitor.judge_first stamped began.past] at judged
        exact ⟨(Judged.passed.inj judged).symm,silent⟩
      | sent r' other begun' found judged one only =>
        obtain ⟨rfl,rfl⟩ := Prod.mk.inj (Option.some.inj (shown.symm.trans found))
        rw [uninitialized,state,ReconnectGiveUpMonitor.judge_first stamped began.past] at judged
        cases judged
    have quiet : (w.step site modes first).Quiet mode key (stamp + interval) := by
      intro send found there sameKey
      rw [sent] at found
      exact (List.mem_append.mp found).elim (fun old => fresh send old there sameKey)
        fun new => absurd there (seeded.2 send new)
    rw [run_cons]
    constructor
    · intro kept
      by_cases known : stamp = 0
      · refine .inr (owed_run registered member initialized ?_ clock.tail
          (fun tick found r other shows => (began.only tick (by simp [found]) r other shows).1) kept)
        simp [seeded.1,ReconnectGiveUpMonitor.cadence,known,ntfySendMaxAttempts]
      · exact .inl ⟨none,known⟩
    · rintro (⟨-,known⟩ | late)
      · exact seeded_run registered member known seeded.1 quiet clock.tail
          fun tick found => began.only tick (List.mem_cons_of_mem first found)
      · exact quiet_run registered member quiet fun tick found r shows => late tick found ⟨r,shows⟩
  · rw [if_neg none]
    -- the monitor is initialized: the first tick that has the give-up takes it for a new one
    have begun' : w.monitor.initialized = true := by
      rw [begun,List.isEmpty_eq_false_iff.mpr none]
      rfl
    constructor
    · intro kept
      refine .inr (owed_run registered member begun' ?_ clock
        (fun tick found r other shows => (began.only tick found r other shows).1) kept)
      simp [state,ReconnectGiveUpMonitor.cadence,PerModeState.start]
    · rintro (⟨absurd_,-⟩ | late)
      · exact absurd absurd_ none
      · exact quiet_run registered member fresh fun tick found r shows => late tick found ⟨r,shows⟩

section Sample

open HitlWorld (alertSite alertConfig twoModes)

def giveUpIssued : Nat := 1783785600

def giveUpSite : GiveUpSite where
  toAlertSite := alertSite
  fromIsoformat iso :=
    if iso = "2026-07-11T16:00:00+00:00" then some (giveUpIssued * microseconds : Nat) else none

def gaveUp : RecoveryBlock where
  phase := "given_up"
  phaseEnteredAt := some "2026-07-11T12:00:00-04:00[America/New_York]"
  giveupAlertSentAt := some "2026-07-11T16:00:00Z"
  giveupAlertResendIntervalHours := some 6
  callbackValidHours := some 12
  aggressivePhaseMaxSecs := some 3600
  backoffPhaseMaxSecs := some 10800
  minSuccessDwellSecs := some 60

def gaveUpKey : String := "entered:2026-07-11T12:00:00-04:00[America/New_York]"

def gaveUpStatus : InstanceStatus := ⟨"WaitingForLaunch",false,0,none,some gaveUp⟩

/-- A tick so many seconds after the give-up. -/
def giveUpTick (cached : Bool) (secs : Nat) : GiveUpTick where
  cache _ := if cached then some gaveUpStatus else none
  readings _ :=
    let now := (giveUpIssued + secs) * microseconds
    ⟨now,now,giveUpIssued + secs,⟨now,secs * microseconds,.status 200,secs * microseconds⟩,now⟩

theorem gaveUp_shown : giveUpOf (some gaveUpStatus) = some (gaveUp,gaveUpKey) := by
  decide +kernel

theorem gaveUp_start {early : List GiveUpTick}
    (shape : early = [] ∨ early = [giveUpTick false 60]) :
    GiveUpStart giveUpSite "paper" gaveUpKey (giveUpIssued * microseconds : Nat)
      (6 * 3600 * microseconds) early (giveUpTick true 120) [giveUpTick true 180] [] where
  unavailable tick found := by
    rcases shape with rfl | rfl
    · cases found
    · rw [List.mem_singleton.mp found]
      rfl
  shown := ⟨gaveUp,gaveUp_shown,by decide +kernel⟩
  past := by decide
  only tick found r other shows := by
    have cached : tick.cache "paper" = some gaveUpStatus := by
      simp only [List.mem_cons,List.not_mem_nil,or_false] at found
      rcases found with rfl | rfl <;> rfl
    rw [cached,gaveUp_shown] at shows
    cases shows
    exact ⟨rfl,rfl⟩
  over_ tick found := by cases found
  clock := by
    rcases shape with rfl | rfl <;>
      simp [Chronological,GiveUpReading.Ordered,giveUpTick,giveUpIssued,microseconds]

/-- Both ticks after the start find the give-up, and neither repeats its alert. -/
theorem giveup_unrepeated_cached :
    (run (step giveUpSite twoModes) (start (.start alertConfig))
      [giveUpTick true 120,giveUpTick true 180]).Quiet "paper" gaveUpKey
      ((giveUpIssued * microseconds : Nat) + (6 * 3600 * microseconds : Nat)) := by
  exact (giveup_unrepeated_iff (by decide) (by decide) (gaveUp_start (.inl rfl))).mpr
    (.inl ⟨rfl,by decide⟩)

/-- The first tick comes before the STATUS is cached, and the second repeats the alert two minutes
after its stamp. -/
theorem giveup_repeated :
    GiveUpStart giveUpSite "paper" gaveUpKey (giveUpIssued * microseconds : Nat)
        (6 * 3600 * microseconds) [giveUpTick false 60] (giveUpTick true 120)
        [giveUpTick true 180] [] ∧
      ¬ (run (step giveUpSite twoModes) (start (.start alertConfig))
        [giveUpTick false 60,giveUpTick true 120,giveUpTick true 180]).Quiet "paper" gaveUpKey
        ((giveUpIssued * microseconds : Nat) + (6 * 3600 * microseconds : Nat)) := by
  refine ⟨gaveUp_start (.inr rfl),fun quiet => ?_⟩
  have sent : (run (step giveUpSite twoModes) (start (.start alertConfig))
      [giveUpTick false 60,giveUpTick true 120,giveUpTick true 180]).sent.any (fun send =>
        send.mode = "paper" && send.key = gaveUpKey &&
          send.time < giveUpIssued * microseconds + 6 * 3600 * microseconds) = true := by
    decide +kernel
  obtain ⟨send,member,facts⟩ := List.any_eq_true.mp sent
  simp only [Bool.and_eq_true,decide_eq_true_eq] at facts
  have late := quiet send member facts.1.1 facts.1.2
  omega

end Sample

end GiveUpWatch

end Runs

end Ibctl.Dashboard
