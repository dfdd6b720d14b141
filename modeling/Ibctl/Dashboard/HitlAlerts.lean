import Ibctl.Dashboard.CallbackTokens
import Ibctl.Dashboard.Monitors
import Ibctl.Lib.Runs

/-! The alert for an instance that begins to wait for the operator. The monitor sends it by itself:
once when the history of an instance shows a new entry, and again while the channel fails. -/
namespace Ibctl.Dashboard
open Runs

/-- What the monitors that sign links are deployed with; the key is stripped. -/
structure AlertSite where
  mac : Mac
  signingKey : List Char
  baseUrl : List Char
  ntfySendRetries : Option String

section Alert

def defaultCallbackValidHours : Nat := 12

def ntfySendRetriesCeiling : Int := 5

def AlertSite.maxRetries (site : AlertSite) : Nat :=
  match Decimal.readInt (site.ntfySendRetries.getD "1").toList with
  | none => 1
  | some raw => (max 0 (min ntfySendRetriesCeiling raw)).toNat

def AlertSite.canUseAction (site : AlertSite) (channel : String) : Bool :=
  site.signingKey ≠ [] && channel = "ntfy"

def formatNextRetry : Option Int → String
  | none => "retry time unknown"
  | some secs =>
    if secs ≤ 0 then "retry pending now"
    else if secs < 60 then "next auto-retry in " ++ toString secs ++ "s"
    else if secs / 60 < 120 then "next auto-retry in ~" ++ toString (secs / 60) ++ " min"
    else "next auto-retry in ~" ++ toString (secs / 60 / 60) ++ "h"

def buildActionButton (baseUrl token : List Char) (mode : String) : Action where
  action := "view"
  label := "Retry " ++ upper mode ++ " 2FA"
  url := baseUrl ++ "/api/twofa/callback?t=".toList ++ token ++ "&mode=".toList ++ mode.toList
  clear := true

def resumeByHand : String :=
  "operator intervention required; use dashboard's state-machine dialog to send HITL_RESUME"

/-- Python's `or` between two counts. -/
def countOr (first second : Option Nat) : Option Nat := (first.filter (· ≠ 0)).orElse fun _ => second

/-- The alert of one mode; `now` is the time a token is minted at. -/
def buildRichAlert (site : AlertSite) (channel mode : String) (block : HitlBlock) (now : Nat) :
    Alert :=
  let validHours := (countOr block.callbackValidHours none).getD defaultCallbackValidHours
  let attempts := countOr block.consecutive2faTimeouts block.attemptsExhausted
  let lines := [upper mode ++ " exhausted automatic 2FA attempts (" ++
      ((attempts.map toString).getD "multiple") ++ " in a row).",
    formatNextRetry block.nextRetryInSecs ++ "."]
  let rich (last : String) (actions : List Action) : Alert := {
    eventType := "hitl_2fa_required"
    title := "ibctl: 2FA required for " ++ upper mode
    body := "\n".intercalate (lines ++ [last])
    priority := "urgent"
    tags := "warning,key"
    actions := actions }
  if site.canUseAction channel then
    match mintToken site.mac site.signingKey mode.toList validHours "hitl".toList now with
    | .ok token =>
      rich ("Tap the button below to retry (valid " ++ toString validHours ++ "h).")
        [buildActionButton site.baseUrl token mode]
    | .error _ => rich resumeByHand []
  else rich resumeByHand []

def isEntry (t : Transition) : Bool :=
  t.toState = "WaitingForHitl2fa" && t.fromState ≠ "WaitingForHitl2fa"

def hitlEntry : Scan := fun _ history =>
  (latest isEntry history).map fun t => (t.key,{
    eventType := "hitl_2fa_required"
    title := ""
    body := ""
    priority := "urgent"
    tags := "warning,key"
    actions := [] })

/-- What is said of an entry that the cached STATUS does not show yet. -/
def placeholder (alert : Alert) : Alert :=
  { alert with
    title := "ibctl: 2FA required"
    body := "ibctl entered WaitingForHitl2fa. Open the dashboard to resume." }

end Alert

section Monitor

/-- The entry of a mode whose alert was sent or failed. -/
structure Tracked where
  entryKey : String
  sendRetriesRemaining : Nat
  sendSucceeded : Bool
deriving DecidableEq

/-- The three dicts of the monitor have the same keys. -/
structure Hitl2faEntryMonitor where
  base : TransitionMonitor
  tracked : List (String × Tracked)

/-- What a check finds: the answers of the instances, the cached STATUS, and around the alert of
each mode the time its token is minted at and its exchange. -/
structure HitlTick where
  histories : String → Option (List Transition)
  cache : String → Option InstanceStatus
  minted : String → Nat
  exchanges : String → Exchange

def hitlBlock (status : Option InstanceStatus) : HitlBlock :=
  (status.bind InstanceStatus.hitl).getD ⟨false,none,none,none,none⟩

def HitlTick.inHitl (tick : HitlTick) (mode : String) : Bool := (hitlBlock (tick.cache mode)).active

/-- What a check changes as it goes: the POSTs are noted with their mode. -/
structure Sends where
  service : NotificationService
  tracked : List (String × Tracked)
  pushes : List (String × Push)

namespace Sends

def track (tracked : List (String × Tracked)) (mode : String) (value : Tracked) :
    List (String × Tracked) :=
  if tracked.any fun entry => entry.1 = mode then
    tracked.map fun entry => if entry.1 = mode then (mode,value) else entry
  else tracked ++ [(mode,value)]

variable (site : AlertSite) (lastSeenKey : String → Option String) (tick : HitlTick)

/-- The forced send of one mode, and what is tracked by its success. -/
def attempt (mode : String) (outcome : Bool → Tracked) (s : Sends) : Sends :=
  let alert := buildRichAlert site s.service.config.channel mode (hitlBlock (tick.cache mode))
    (tick.minted mode)
  let (success,service,push) := s.service.sendAlert alert true (tick.exchanges mode)
  ⟨service,track s.tracked mode (outcome success),s.pushes ++ (push.map (mode,·)).toList⟩

def firstAttempt (s : Sends) (mode : String) : Sends :=
  if tick.inHitl mode then
    s.attempt site tick mode fun success =>
      ⟨(lastSeenKey mode).getD "",if success then 0 else site.maxRetries,success⟩
  else s

def retry (s : Sends) (entry : String × Tracked) : Sends :=
  let (mode,t) := entry
  if tick.inHitl mode = false ∨ (lastSeenKey mode).getD "" ≠ t.entryKey then
    { s with tracked := s.tracked.filter fun other => other.1 ≠ mode }
  else if t.sendSucceeded ∨ t.sendRetriesRemaining = 0 then s
  else
    s.attempt site tick mode fun success =>
      { t with
        sendRetriesRemaining := if success then 0 else t.sendRetriesRemaining - 1
        sendSucceeded := success }

end Sends

namespace Hitl2faEntryMonitor

def start : Hitl2faEntryMonitor := ⟨.start,[]⟩

variable (site : AlertSite) (modes : List String) (tick : HitlTick) (ns : NotificationService)
  (m : Hitl2faEntryMonitor)

def baseCheck : List (String × Alert) × TransitionMonitor :=
  m.base.check ns "hitl_2fa_required" hitlEntry modes tick.histories

/-- The alerts that are returned, with their modes, the monitor and what was sent. -/
def check : List (String × Alert) × Hitl2faEntryMonitor × NotificationService ×
    List (String × Push) :=
  let (baseAlerts,base) := m.baseCheck modes tick ns
  let sends : Sends := ⟨ns,m.tracked,[]⟩
  if baseAlerts ≠ [] then
    let sends := modes.foldl (Sends.firstAttempt site base.lastSeenKey tick) sends
    let returned :=
      if modes.any tick.inHitl then []
      else baseAlerts.map fun entry => (entry.1,placeholder entry.2)
    (returned,⟨base,sends.tracked⟩,sends.service,sends.pushes)
  else
    let sends := m.tracked.foldl (Sends.retry site base.lastSeenKey tick) sends
    ([],⟨base,sends.tracked⟩,sends.service,sends.pushes)

end Hitl2faEntryMonitor

/-- The manager hands over the alerts that a check returned. -/
def dispatchAlerts (exchanges : String → Exchange) (ns : NotificationService)
    (alerts : List (String × Alert)) : NotificationService × List (String × Push) :=
  alerts.foldl (fun (ns,pushes) entry =>
    let (_,ns,push) := ns.sendAlert entry.2 false (exchanges entry.1)
    (ns,pushes ++ (push.map (entry.1,·)).toList)) (ns,[])

end Monitor

section Runs

/-- The instances with their histories and the number of entries each has made, the cache, the
monitor, and by mode and number of entry what the base check reported, what was POSTed and which
alerts were returned. -/
structure HitlWorld where
  histories : String → List Transition
  entries : String → Nat
  cache : String → Option InstanceStatus
  monitor : Hitl2faEntryMonitor
  service : NotificationService
  reported : List (String × Nat)
  posted : List (String × Nat)
  returned : List (String × Nat)

/-- What happens: an instance moves, its STATUS is cached, the cache is invalidated for one mode
or for all, and the monitor ticks. -/
inductive HitlEvent where
  | moved (mode : String) (t : Transition)
  | refreshed (mode : String) (status : InstanceStatus)
  | invalidated (mode : Option String)
  | ticked (answers : String → Bool) (minted : String → Nat) (exchanges : String → Exchange)

namespace HitlWorld

def historyMax : Nat := 100

def start (config : NotificationConfig) : HitlWorld where
  histories _ := []
  entries _ := 0
  cache _ := none
  monitor := .start
  service := .start config
  reported := []
  posted := []
  returned := []

variable (site : AlertSite) (modes : List String) (w : HitlWorld)

def tick (answers : String → Bool) (minted : String → Nat) (exchanges : String → Exchange) :
    HitlTick where
  histories mode := if answers mode then some (w.histories mode) else none
  cache := w.cache
  minted := minted
  exchanges := exchanges

/-- The modes with the number of the entry each is at. -/
def numbered (modes : List String) : List (String × Nat) :=
  modes.map fun mode => (mode,w.entries mode)

def step : HitlEvent → HitlWorld
  | .moved mode t =>
    { w with
      histories := Function.update w.histories mode ((w.histories mode ++ [t]).rtake historyMax)
      entries := if isEntry t then Function.update w.entries mode (w.entries mode + 1)
        else w.entries }
  | .refreshed mode status => { w with cache := Function.update w.cache mode (some status) }
  | .invalidated (some mode) => { w with cache := Function.update w.cache mode none }
  | .invalidated none => { w with cache := fun _ => none }
  | .ticked answers minted exchanges =>
    let tick := w.tick answers minted exchanges
    let reported := (w.monitor.baseCheck modes tick w.service).1
    let (returned,monitor,service,sent) := w.monitor.check site modes tick w.service
    let (service,handedOver) := dispatchAlerts exchanges service returned
    { w with
      monitor := monitor
      service := service
      reported := w.reported ++ w.numbered (reported.map Prod.fst)
      posted := w.posted ++ w.numbered ((sent ++ handedOver).map Prod.fst)
      returned := w.returned ++ w.numbered (returned.map Prod.fst) }

/-- Every entry that was reported has its POST or its returned alert, and no entry has two
POSTs. -/
def Alerted : Prop := (∀ entry ∈ w.reported, entry ∈ w.posted ∨ entry ∈ w.returned) ∧ w.posted.Nodup

/-- The transport answers each POST of the event with 200. -/
def Answers200 : HitlEvent → Prop
  | .ticked _ _ exchanges => ∀ mode, (exchanges mode).result = .status 200
  | _ => True

/-- The modes whose history shows an entry that the monitor has not seen. -/
def newEntries (answers : String → Bool) : List String :=
  modes.filter fun mode => w.monitor.base.initialized && answers mode &&
    (latest isEntry (w.histories mode)).any fun t => w.monitor.base.lastSeenKey mode ≠ some t.key

/-- The modes whose cached STATUS shows a wait for the operator. -/
def waiting : List String := modes.filter fun mode => (hitlBlock (w.cache mode)).active

end HitlWorld

namespace HitlWorld

variable (modes : List String) (w : HitlWorld)

/-- A tick that finds a new entry finds the cache of no mode waiting, or it finds those waiting
that have entered, and sends for these and for no mode that has had its alert: at the turn of a
mode that has entered the coalescing window is over, and at the turn of one that has had its alert
it is not. -/
def InTurn : HitlEvent → Prop
  | .ticked answers _ exchanges =>
    let alerted := if w.waiting modes = [] then w.newEntries modes answers
      else w.service.client.passed "hitl_2fa_required" exchanges (w.waiting modes)
    w.newEntries modes answers ≠ [] →
      (∀ mode ∈ w.newEntries modes answers, mode ∈ alerted) ∧
        ∀ mode ∈ alerted, (mode,w.entries mode) ∉ w.posted
  | _ => True

instance : (event : HitlEvent) → Decidable (w.InTurn modes event)
  | .moved _ _ => inferInstanceAs (Decidable True)
  | .refreshed _ _ => inferInstanceAs (Decidable True)
  | .invalidated _ => inferInstanceAs (Decidable True)
  | .ticked _ _ _ => inferInstanceAs (Decidable (_ → _))

end HitlWorld

section Checks

variable {site : AlertSite} {modes : List String} {tick : HitlTick} {ns : NotificationService}
  {m : Hitl2faEntryMonitor}

@[simp] theorem buildRichAlert_eventType (channel mode : String) (block : HitlBlock) (now : Nat) :
    (buildRichAlert site channel mode block now).eventType = "hitl_2fa_required" := by
  unfold buildRichAlert
  dsimp only
  split
  · split <;> rfl
  · rfl

/-- The modes a base check reports. -/
theorem TransitionMonitor.check_modes {eventType : String} {scan : Scan}
    {histories : String → Option (List Transition)} {base : TransitionMonitor}
    (enabled : ns.isEventEnabled eventType = true) :
    (base.check ns eventType scan modes histories).1.map Prod.fst =
      modes.filter fun mode => base.initialized &&
        ((histories mode).bind (scan mode)).any fun found =>
          base.lastSeenKey mode ≠ some found.1 := by
  have picked (answer : String → Option (String × Alert)) :
      (((modes.filterMap fun mode => (answer mode).map (mode,·)).filter
          fun entry => base.lastSeenKey entry.1 ≠ some entry.2.1).map
          fun entry => (entry.1,entry.2.2)).map Prod.fst =
        modes.filter fun mode => (answer mode).any fun found =>
          base.lastSeenKey mode ≠ some found.1 := by
    induction modes with
    | nil => rfl
    | cons mode rest ih =>
      cases scanned : answer mode with
      | none => simpa [scanned] using ih
      | some found =>
        by_cases seen : base.lastSeenKey mode = some found.1
        · simpa [scanned,seen] using ih
        · simpa [scanned,seen] using ih
  unfold check found
  rw [if_pos enabled]
  cases fresh : base.initialized with
  | false => simp
  | true => simpa using picked fun mode => (histories mode).bind (scan mode)

theorem track_succeeded {tracked : List (String × Tracked)} {mode : String} {value : Tracked}
    (all : ∀ entry ∈ tracked, entry.2.sendSucceeded = true) (new : value.sendSucceeded = true) :
    ∀ entry ∈ Sends.track tracked mode value, entry.2.sendSucceeded = true := by
  intro entry found
  unfold Sends.track at found
  split at found
  · obtain ⟨old,there,rfl⟩ := List.mem_map.mp found
    split
    · exact new
    · exact all old there
  · rcases List.mem_append.mp found with old | last
    · exact all entry old
    · rw [List.mem_singleton.mp last]
      exact new

/-- What holds of the monitor while its channel answers: nothing waits for a retry. -/
structure Sends.Settled (s : Sends) : Prop where
  transport : s.service.client.HasTransport
  succeeded : ∀ entry ∈ s.tracked, entry.2.sendSucceeded = true

theorem Sends.attempt_settled {s : Sends} {mode : String} {outcome : Bool → Tracked}
    (settled : s.Settled) (ok : (tick.exchanges mode).result = .status 200)
    (success : (outcome true).sendSucceeded = true) :
    (s.attempt site tick mode outcome).Settled ∧
      (s.attempt site tick mode outcome).service.config = s.service.config ∧
      (s.attempt site tick mode outcome).pushes.map Prod.fst ++
          (s.attempt site tick mode outcome).service.client.passed "hitl_2fa_required"
            tick.exchanges modes =
        s.pushes.map Prod.fst ++
          s.service.client.passed "hitl_2fa_required" tick.exchanges (mode :: modes) := by
  unfold attempt
  dsimp only
  generalize named : buildRichAlert site s.service.config.channel mode (hitlBlock (tick.cache mode))
    (tick.minted mode) = alert
  have kind : alert.eventType = "hitl_2fa_required" := by rw [← named,buildRichAlert_eventType]
  obtain ⟨succeeds,client,push⟩ :=
    @NotificationService.sendAlert_force s.service alert (tick.exchanges mode)
  rw [NotificationClient.send_success settled.transport ok] at succeeds
  have transport := @NotificationService.hasTransport_sendAlert s.service alert true
    (tick.exchanges mode) settled.transport
  have config := @NotificationService.sendAlert_config s.service alert true (tick.exchanges mode)
  refine ⟨⟨transport,?_⟩,config,?_⟩
  · rw [succeeds]
    exact track_succeeded settled.succeeded success
  · rw [client,push,kind,@NotificationClient.passed_cons _ alert _ _ _ ok,List.map_append,
      List.append_assoc]
    congr 2
    cases (s.service.client.send alert "hitl_2fa_required" (tick.exchanges mode)).2.2 <;> rfl

theorem Sends.foldl_firstAttempt {lastSeenKey : String → Option String}
    (ok : ∀ mode, (tick.exchanges mode).result = .status 200) {s : Sends} (settled : s.Settled) :
    (modes.foldl (Sends.firstAttempt site lastSeenKey tick) s).Settled ∧
      (modes.foldl (Sends.firstAttempt site lastSeenKey tick) s).service.config =
        s.service.config ∧
      (modes.foldl (Sends.firstAttempt site lastSeenKey tick) s).pushes.map Prod.fst =
        s.pushes.map Prod.fst ++ s.service.client.passed "hitl_2fa_required" tick.exchanges
          (modes.filter tick.inHitl) := by
  induction modes generalizing s with
  | nil => exact ⟨settled,rfl,by simp⟩
  | cons mode rest ih =>
    rw [List.foldl_cons]
    by_cases waits : tick.inHitl mode = true
    · obtain ⟨next,config,pushed⟩ := @Sends.attempt_settled site (rest.filter tick.inHitl) tick s
        mode (fun success =>
          ⟨(lastSeenKey mode).getD "",if success then 0 else site.maxRetries,success⟩)
        settled (ok mode) rfl
      obtain ⟨last,config',pushes⟩ := ih next
      rw [Sends.firstAttempt,if_pos waits,List.filter_cons_of_pos waits]
      exact ⟨last,config'.trans config,pushes.trans pushed⟩
    · rw [Sends.firstAttempt,if_neg waits,List.filter_cons_of_neg waits]
      exact ih settled

/-- What was sent with success is not sent again. -/
theorem Sends.foldl_retry {lastSeenKey : String → Option String}
    {entries : List (String × Tracked)} (sent : ∀ entry ∈ entries, entry.2.sendSucceeded = true)
    {s : Sends} (settled : s.Settled) :
    (entries.foldl (Sends.retry site lastSeenKey tick) s).Settled ∧
      (entries.foldl (Sends.retry site lastSeenKey tick) s).service = s.service ∧
      (entries.foldl (Sends.retry site lastSeenKey tick) s).pushes = s.pushes := by
  induction entries generalizing s with
  | nil => exact ⟨settled,rfl,rfl⟩
  | cons entry rest ih =>
    have kept : (Sends.retry site lastSeenKey tick s entry).Settled ∧
        (Sends.retry site lastSeenKey tick s entry).service = s.service ∧
        (Sends.retry site lastSeenKey tick s entry).pushes = s.pushes := by
      unfold Sends.retry
      dsimp only
      split
      · exact ⟨⟨settled.transport,fun other found =>
          settled.succeeded other (List.mem_of_mem_filter found)⟩,rfl,rfl⟩
      · rw [if_pos (Or.inl (sent entry (by simp)))]
        exact ⟨settled,rfl,rfl⟩
    obtain ⟨next,service,pushes⟩ := kept
    obtain ⟨last,service',pushes'⟩ := ih (fun other found => sent other (by simp [found])) next
    exact ⟨last,service'.trans service,pushes'.trans pushes⟩

/-- The manager POSTs for modes it was handed an alert of, once for each. -/
theorem dispatchAlerts_modes {exchanges : String → Exchange} {alerts : List (String × Alert)}
    (transport : ns.client.HasTransport) :
    (dispatchAlerts exchanges ns alerts).1.client.HasTransport ∧
      (dispatchAlerts exchanges ns alerts).1.config = ns.config ∧
      ((dispatchAlerts exchanges ns alerts).2.map Prod.fst).Sublist (alerts.map Prod.fst) := by
  have handed (pushes : List (String × Push)) :
      let result := alerts.foldl (fun (acc : NotificationService × List (String × Push)) entry =>
        ((acc.1.sendAlert entry.2 false (exchanges entry.1)).2.1,
          acc.2 ++ ((acc.1.sendAlert entry.2 false (exchanges entry.1)).2.2.map
            (entry.1,·)).toList)) (ns,pushes)
      result.1.client.HasTransport ∧ result.1.config = ns.config ∧
        ∃ sent, result.2 = pushes ++ sent ∧
          (sent.map Prod.fst).Sublist (alerts.map Prod.fst) := by
    induction alerts generalizing ns pushes with
    | nil => exact ⟨transport,rfl,[],by simp,List.Sublist.refl _⟩
    | cons entry rest ih =>
      have next := @NotificationService.hasTransport_sendAlert ns entry.2 false
        (exchanges entry.1) transport
      obtain ⟨last,config,sent,pushed,sublist⟩ := ih next
        (pushes ++ ((ns.sendAlert entry.2 false (exchanges entry.1)).2.2.map (entry.1,·)).toList)
      refine ⟨last,config.trans NotificationService.sendAlert_config,_,
        by rw [← List.append_assoc]; exact pushed,?_⟩
      cases (ns.sendAlert entry.2 false (exchanges entry.1)).2.2 with
      | none => exact sublist.cons _
      | some push => exact sublist.cons_cons _
  obtain ⟨last,config,sent,pushed,sublist⟩ := handed []
  refine ⟨last,config,?_⟩
  have same : (dispatchAlerts exchanges ns alerts).2 = sent := pushed.trans (List.nil_append _)
  rwa [same]

namespace Hitl2faEntryMonitor

variable (site modes tick ns m)

/-- The modes the base check reports. -/
def reports : List String := (m.baseCheck modes tick ns).1.map Prod.fst

variable {site modes tick ns m}

/-- A check that finds no new entry sends nothing. -/
theorem check_idle (settled : (⟨ns,m.tracked,[]⟩ : Sends).Settled)
    (idle : m.reports modes tick ns = []) :
    (m.check site modes tick ns).1 = [] ∧
      (⟨(m.check site modes tick ns).2.2.1,(m.check site modes tick ns).2.1.tracked,[]⟩ :
        Sends).Settled ∧
      (m.check site modes tick ns).2.2.1.config = ns.config ∧
      (m.check site modes tick ns).2.2.2 = [] := by
  have none : (m.baseCheck modes tick ns).1 = [] := List.map_eq_nil_iff.mp idle
  obtain ⟨last,service,pushes⟩ := @Sends.foldl_retry site tick
    (m.baseCheck modes tick ns).2.lastSeenKey m.tracked settled.succeeded _ settled
  unfold check
  dsimp only
  rw [if_neg (not_not.mpr none)]
  exact ⟨rfl,⟨last.transport,last.succeeded⟩,by rw [service],pushes⟩

/-- A check that finds one sends for the modes in HITL, or returns alerts for those with a new
entry. -/
theorem check_entered (ok : ∀ mode, (tick.exchanges mode).result = .status 200)
    (settled : (⟨ns,m.tracked,[]⟩ : Sends).Settled) (entered : m.reports modes tick ns ≠ []) :
    (m.check site modes tick ns).1.map Prod.fst =
        (if modes.any tick.inHitl then [] else m.reports modes tick ns) ∧
      (⟨(m.check site modes tick ns).2.2.1,(m.check site modes tick ns).2.1.tracked,[]⟩ :
        Sends).Settled ∧
      (m.check site modes tick ns).2.2.1.config = ns.config ∧
      (m.check site modes tick ns).2.2.2.map Prod.fst =
        ns.client.passed "hitl_2fa_required" tick.exchanges (modes.filter tick.inHitl) := by
  have some : (m.baseCheck modes tick ns).1 ≠ [] := fun none => entered (by rw [reports,none]; rfl)
  obtain ⟨last,config,pushes⟩ := @Sends.foldl_firstAttempt site modes tick
    (m.baseCheck modes tick ns).2.lastSeenKey ok _ settled
  unfold check
  dsimp only
  rw [if_pos some]
  refine ⟨?_,⟨last.transport,last.succeeded⟩,config,pushes⟩
  dsimp only
  split
  · rfl
  · rw [List.map_map]
    rfl

end Hitl2faEntryMonitor

end Checks

namespace HitlWorld

variable {site : AlertSite} {modes : List String} {w : HitlWorld} {event : HitlEvent}

/-- The event is enabled, and no alert waits for a retry. -/
structure Ready (w : HitlWorld) : Prop where
  enabled : w.service.isEventEnabled "hitl_2fa_required" = true
  settled : (⟨w.service,w.monitor.tracked,[]⟩ : Sends).Settled

theorem start_ready {config : NotificationConfig} (transport : (makeClient config).HasTransport)
    (enabled : (NotificationService.start config).isEventEnabled "hitl_2fa_required" = true) :
    (start config).Ready := ⟨enabled,transport,by simp [start,Hitl2faEntryMonitor.start]⟩

theorem reports_eq (ready : w.Ready) (answers : String → Bool) (minted : String → Nat)
    (exchanges : String → Exchange) :
    w.monitor.reports modes (w.tick answers minted exchanges) w.service =
      w.newEntries modes answers := by
  unfold Hitl2faEntryMonitor.reports Hitl2faEntryMonitor.baseCheck newEntries
  rw [TransitionMonitor.check_modes ready.enabled]
  refine List.filter_congr fun mode _ => ?_
  cases answered : answers mode with
  | false => simp [tick,answered]
  | true =>
    cases entered : latest isEntry (w.histories mode) with
    | none => simp [tick,answered,hitlEntry,entered]
    | some t => simp [tick,answered,hitlEntry,entered]

theorem posted_nodup {sent : List String} (before : w.posted.Nodup) (once : sent.Nodup)
    (fresh : ∀ mode ∈ sent, (mode,w.entries mode) ∉ w.posted) :
    (w.posted ++ w.numbered sent).Nodup := by
  refine List.nodup_append'.mpr ⟨before,?_,?_⟩
  · exact once.map fun mode other same => (Prod.mk.inj same).1
  · intro entry old new
    obtain ⟨mode,member,rfl⟩ := List.mem_map.mp new
    exact fresh mode member old

theorem step_ticked {answers : String → Bool} {minted : String → Nat}
    {exchanges : String → Exchange} {checked}
    (same : w.monitor.check site modes (w.tick answers minted exchanges) w.service = checked) :
    w.step site modes (.ticked answers minted exchanges) =
      { w with
        monitor := checked.2.1
        service := (dispatchAlerts exchanges checked.2.2.1 checked.1).1
        reported := w.reported ++ w.numbered
          (w.monitor.reports modes (w.tick answers minted exchanges) w.service)
        posted := w.posted ++ w.numbered
          ((checked.2.2.2 ++ (dispatchAlerts exchanges checked.2.2.1 checked.1).2).map Prod.fst)
        returned := w.returned ++ w.numbered (checked.1.map Prod.fst) } := by
  rw [← same]
  rfl

/-- A tick that finds no new entry adds nothing. -/
theorem ticked_idle {answers : String → Bool} {minted : String → Nat}
    {exchanges : String → Exchange} (ready : w.Ready) (idle : w.newEntries modes answers = []) :
    (w.step site modes (.ticked answers minted exchanges)).Ready ∧
      (w.step site modes (.ticked answers minted exchanges)).reported = w.reported ∧
      (w.step site modes (.ticked answers minted exchanges)).posted = w.posted ∧
      (w.step site modes (.ticked answers minted exchanges)).returned = w.returned := by
  have none := (@reports_eq modes w ready answers minted exchanges).trans idle
  obtain ⟨returned,settled,config,pushes⟩ :=
    @Hitl2faEntryMonitor.check_idle site modes (w.tick answers minted exchanges) w.service
      w.monitor ready.settled none
  generalize same : w.monitor.check site modes (w.tick answers minted exchanges) w.service =
    checked at returned settled config pushes
  rw [step_ticked same,none,returned,pushes]
  refine ⟨⟨?_,settled.transport,settled.succeeded⟩,List.append_nil _,List.append_nil _,
    List.append_nil _⟩
  exact (NotificationService.isEventEnabled_congr config _).trans ready.enabled

/-- What a tick does that finds a new entry: the modes it POSTs for and those it returns alerts
for are the ones the condition speaks of. -/
theorem ticked_entered {answers : String → Bool} {minted : String → Nat}
    {exchanges : String → Exchange} (ready : w.Ready)
    (ok : ∀ mode, (exchanges mode).result = .status 200)
    (entered : w.newEntries modes answers ≠ []) :
    (w.step site modes (.ticked answers minted exchanges)).Ready ∧ ∃ sent returned : List String,
      (w.step site modes (.ticked answers minted exchanges)).reported =
        w.reported ++ w.numbered (w.newEntries modes answers) ∧
      (w.step site modes (.ticked answers minted exchanges)).posted =
        w.posted ++ w.numbered sent ∧
      (w.step site modes (.ticked answers minted exchanges)).returned =
        w.returned ++ w.numbered returned ∧
      if w.waiting modes = [] then
        returned = w.newEntries modes answers ∧ sent.Sublist (w.newEntries modes answers)
      else sent = w.service.client.passed "hitl_2fa_required" exchanges (w.waiting modes) := by
  have reports := @reports_eq modes w ready answers minted exchanges
  have some : w.monitor.reports modes (w.tick answers minted exchanges) w.service ≠ [] := by
    rwa [reports]
  obtain ⟨returned,settled,config,pushes⟩ :=
    @Hitl2faEntryMonitor.check_entered site modes (w.tick answers minted exchanges) w.service
      w.monitor ok ready.settled some
  have shown : w.waiting modes = [] ↔
      modes.any (w.tick answers minted exchanges).inHitl = false := by
    rw [waiting,List.filter_eq_nil_iff,List.any_eq_false]
    exact Iff.rfl
  generalize same : w.monitor.check site modes (w.tick answers minted exchanges) w.service =
    checked at returned settled config pushes
  obtain ⟨transport,config',sublist⟩ :=
    @dispatchAlerts_modes checked.2.2.1 exchanges checked.1 settled.transport
  rw [step_ticked same,reports]
  refine ⟨⟨?_,transport,settled.succeeded⟩,_,_,rfl,rfl,rfl,?_⟩
  · exact (NotificationService.isEventEnabled_congr (config'.trans config) _).trans ready.enabled
  · rw [reports] at returned
    rw [List.map_append]
    split
    next none =>
      rw [shown.mp none] at returned
      have alerted := returned.trans (if_neg Bool.false_ne_true)
      have silent : checked.2.2.2.map Prod.fst = [] := by
        rw [pushes]
        exact (congrArg (w.service.client.passed "hitl_2fa_required" exchanges) none).trans
          (NotificationClient.passed_nil exchanges)
      refine ⟨alerted,?_⟩
      rw [silent,List.nil_append,← alerted]
      exact sublist
    next some =>
      have waits := Bool.of_not_eq_false (mt shown.mpr some)
      rw [waits,if_pos rfl] at returned
      rw [List.map_eq_nil_iff.mp returned,pushes]
      exact List.append_nil _

/-- One step of a run in turn: what was alerted before stays so, and a tick alerts what it
reports, once. -/
theorem alerted_step (registered : modes.Nodup) (ready : w.Ready) (alerted : w.Alerted)
    (ok : Answers200 event) (inTurn : w.InTurn modes event) :
    (w.step site modes event).Ready ∧ (w.step site modes event).Alerted := by
  cases event with
  | moved mode t => exact ⟨⟨ready.enabled,ready.settled⟩,alerted⟩
  | refreshed mode status => exact ⟨⟨ready.enabled,ready.settled⟩,alerted⟩
  | invalidated mode => cases mode <;> exact ⟨⟨ready.enabled,ready.settled⟩,alerted⟩
  | ticked answers minted exchanges =>
    by_cases entered : w.newEntries modes answers = []
    · obtain ⟨next,reported,posted,returned⟩ :=
        @ticked_idle site modes w answers minted exchanges ready entered
      refine ⟨next,?_⟩
      unfold Alerted
      rw [reported,posted,returned]
      exact alerted
    · obtain ⟨next,sent,returned,reported,posted,returned',turns⟩ :=
        @ticked_entered site modes w answers minted exchanges ready ok entered
      obtain ⟨covers,fresh⟩ := inTurn entered
      have once : sent.Nodup ∧ (∀ mode ∈ sent, (mode,w.entries mode) ∉ w.posted) ∧
          ∀ mode ∈ w.newEntries modes answers, mode ∈ sent ∨ mode ∈ returned := by
        split at turns
        next none =>
          rw [if_pos none] at covers fresh
          obtain ⟨rfl,sublist⟩ := turns
          exact ⟨(registered.filter _).sublist sublist,
            fun mode found => fresh mode (sublist.subset found),fun mode found => .inr found⟩
        next some =>
          rw [if_neg some,← turns] at covers fresh
          refine ⟨?_,fresh,fun mode found => .inl (covers mode found)⟩
          rw [turns]
          exact (registered.filter _).sublist (NotificationClient.passed_sublist _ _)
      refine ⟨next,?_⟩
      unfold Alerted
      rw [reported,posted,returned']
      refine ⟨fun entry found => ?_,posted_nodup alerted.2 once.1 once.2.1⟩
      rcases List.mem_append.mp found with old | new
      · exact (alerted.1 entry old).imp (List.mem_append_left _) (List.mem_append_left _)
      · obtain ⟨mode,member,rfl⟩ := List.mem_map.mp new
        exact (once.2.2 mode member).imp
          (fun there => List.mem_append_right _ (List.mem_map.mpr ⟨mode,there,rfl⟩))
          (fun there => List.mem_append_right _ (List.mem_map.mpr ⟨mode,there,rfl⟩))

/-- No entry goes without its alert or has two in a run whose ticks find the waiting modes in
turn. -/
theorem entries_alerted (site : AlertSite) (modes : List String) (config : NotificationConfig)
    (registered : modes.Nodup)
    (enabled : (NotificationService.start config).isEventEnabled "hitl_2fa_required" = true)
    (transport : (makeClient config).HasTransport) (events : List HitlEvent)
    (ok : ∀ event ∈ events, Answers200 event)
    (along : Along (step site modes) (InTurn modes) (start config) events) :
    (run (step site modes) (start config) events).Alerted := by
  have both := (along_and (start config) events).mpr
    ⟨along_of_forall (start config) events fun event found _ => ok event found,along⟩
  have initial : (start config).Ready ∧ (start config).Alerted :=
    ⟨start_ready transport enabled,by simp [start],List.nodup_nil⟩
  exact (@Along.invariant _ _ _ _ (fun w => w.Ready ∧ w.Alerted) (fun _ _ holds good =>
    alerted_step registered holds.1 holds.2 good.1 good.2) _ _ initial both).2

section Sample

def alertSite : AlertSite := ⟨fun _ _ => [],[],"http://dash.example".toList,none⟩

def alertConfig : NotificationConfig := { NotificationConfig.default with enabled := true }

def twoModes : List String := ["live","paper"]

def waitingStatus : InstanceStatus :=
  ⟨"WaitingForHitl2fa",false,0,some ⟨true,some 600,none,some 3,some 3⟩,none⟩

def enters (mode timestamp : String) : List HitlEvent :=
  [.moved mode ⟨timestamp,"WaitingFor2fa","WaitingForHitl2fa"⟩,.refreshed mode waitingStatus]

/-- A tick at this second, whose POSTs follow each other by one second and are answered. -/
def tickAt (secs : Nat) : HitlEvent :=
  .ticked (fun _ => true) (fun _ => secs) fun mode =>
    let at_ := (secs + if mode = "live" then 0 else 1) * microseconds
    ⟨at_,at_,.status 200,at_⟩

/-- Live waits, and an hour later paper does too, until it is resumed and enters again. -/
def laterEntry : List HitlEvent :=
  tickAt 100 :: enters "live" "10:00" ++ tickAt 115 :: enters "paper" "11:00" ++
    tickAt 3715 :: .moved "paper" ⟨"12:00","WaitingForHitl2fa","Restarting"⟩ :: enters "paper" "13:00"

/-- One mode waits after the other has been resumed. -/
def entriesInTurn : List HitlEvent :=
  tickAt 100 :: enters "live" "10:00" ++ tickAt 115 ::
    .moved "live" ⟨"10:30","WaitingForHitl2fa","Restarting"⟩ :: .invalidated (some "live") ::
    enters "paper" "11:00" ++ [tickAt 3715]

theorem entries_alerted_inTurn :
    (run (step alertSite twoModes) (start alertConfig) entriesInTurn).Alerted := by
  refine entries_alerted alertSite twoModes alertConfig (by decide) (by decide +kernel) ?_ _ ?_
    (by decide +kernel)
  · exact fun _ => NotificationClient.noConfusion
  · simp [entriesInTurn,enters,tickAt,Answers200]

/-- The first entry of paper is reported and over, and nobody was told of it: the POST of its tick
is a second one about live. -/
theorem entry_unalerted :
    let w := run (step alertSite twoModes) (start alertConfig) laterEntry
    w.entries "paper" = 2 ∧ w.reported = [("live",1),("paper",1)] ∧
      w.posted = [("live",1),("live",1)] ∧ w.returned = [] ∧ ¬ w.Alerted := by
  have facts : (run (step alertSite twoModes) (start alertConfig) laterEntry).entries "paper" = 2 ∧
      (run (step alertSite twoModes) (start alertConfig) laterEntry).reported =
        [("live",1),("paper",1)] ∧
      (run (step alertSite twoModes) (start alertConfig) laterEntry).posted =
        [("live",1),("live",1)] ∧
      (run (step alertSite twoModes) (start alertConfig) laterEntry).returned = [] := by
    decide +kernel
  obtain ⟨entries,reported,posted,returned⟩ := facts
  refine ⟨entries,reported,posted,returned,fun alerted => ?_⟩
  have told := alerted.1 ("paper",1)
  rw [reported,posted,returned] at told
  revert told
  decide

end Sample

end HitlWorld

end Runs

end Ibctl.Dashboard
