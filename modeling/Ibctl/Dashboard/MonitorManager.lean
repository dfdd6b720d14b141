import Ibctl.Dashboard.GiveUpAlerts

/-! The one task that runs every monitor and hands over the alerts they return. What leaves the host
on behalf of a monitor is held against what the operator has enabled. -/
namespace Ibctl.Dashboard
open Runs

inductive MonitorName where
  | coldRestartPending
  | loginFailed
  | noClients
  | sessionLost
  | reloginFailed
  | warmRestart
  | ibMaintenance
  | hitl2faEntry
  | reconnectGiveUp
deriving DecidableEq

namespace MonitorName

def eventType : MonitorName → String
  | coldRestartPending => "cold_restart_pending"
  | loginFailed => "login_failed"
  | noClients => "no_clients"
  | sessionLost => "session_lost"
  | reloginFailed => "relogin_failed"
  | warmRestart => "warm_restart"
  | ibMaintenance => "ib_maintenance"
  | hitl2faEntry => "hitl_2fa_required"
  | reconnectGiveUp => "reconnect_gave_up"

def intervalSeconds : MonitorName → Nat
  | coldRestartPending => 10
  | loginFailed => 30
  | noClients => 60
  | sessionLost => 30
  | reloginFailed => 30
  | warmRestart => 30
  | ibMaintenance => 60
  | hitl2faEntry => 15
  | reconnectGiveUp => 60

/-- The monitors in the order they are registered in. -/
def registered : List MonitorName :=
  [coldRestartPending,loginFailed,noClients,sessionLost,reloginFailed,warmRestart,ibMaintenance,
    hitl2faEntry,reconnectGiveUp]

end MonitorName

/-- What is fixed while the dashboard runs. -/
structure MonitorSite where
  giveUp : GiveUpSite
  schedule : RestartSchedule
  modes : List String
  registered : modes.Nodup

/-- What one round of the loop meets: the monotonic clock at its begin, the clocks, the answers of
the instances to each monitor, the cached STATUS, the audit log of the IB status, and around each
send its exchange. -/
structure Round where
  now : Nat
  wall : Nat
  localTime : LocalTime
  histories : MonitorName → String → Option (List Transition)
  cache : String → Option InstanceStatus
  auditLog : Option (List StatusEvent)
  minted : String → Nat
  exchanges : String → Exchange
  readings : String → GiveUpReading
  handed : MonitorName → Nat → Exchange

structure Monitors where
  coldRestartPending : ColdRestartPendingMonitor
  transitions : MonitorName → TransitionMonitor
  noClients : NoClientsMonitor
  ibMaintenance : IBMaintenanceMonitor
  hitl2faEntry : Hitl2faEntryMonitor
  reconnectGiveUp : ReconnectGiveUpMonitor

def Monitors.start : Monitors where
  coldRestartPending := ⟨false,none⟩
  transitions _ := .start
  noClients := ⟨fun _ => none,fun _ => false⟩
  ibMaintenance := ⟨false,""⟩
  hitl2faEntry := .start
  reconnectGiveUp := .start

/-- The alerts a check returns, and what it changed and sent by itself. -/
structure Checked where
  alerts : List Alert
  monitors : Monitors
  service : NotificationService
  pushes : List Push

def hitlTick (round : Round) : HitlTick :=
  ⟨round.histories .hitl2faEntry,round.cache,round.minted,round.exchanges⟩

section Check

variable (site : MonitorSite) (round : Round) (ns : NotificationService) (m : Monitors)

def checkTransitions (name : MonitorName)
    (result : List (String × Alert) × TransitionMonitor) : Checked :=
  ⟨result.1.map Prod.snd,{ m with transitions := Function.update m.transitions name result.2 },ns,[]⟩

def Monitors.check : MonitorName → Checked
  | .coldRestartPending =>
    let result := m.coldRestartPending.check site.schedule round.localTime ns
    ⟨result.1,{ m with coldRestartPending := result.2 },ns,[]⟩
  | .loginFailed =>
    checkTransitions ns m .loginFailed ((m.transitions .loginFailed).check ns "login_failed"
      loginFailed site.modes (round.histories .loginFailed))
  | .noClients =>
    let result := m.noClients.check ns round.wall site.modes round.cache
    ⟨result.1,{ m with noClients := result.2 },ns,[]⟩
  | .sessionLost =>
    checkTransitions ns m .sessionLost (sessionLostCheck site.schedule round.localTime ns site.modes
      (round.histories .sessionLost) (m.transitions .sessionLost))
  | .reloginFailed =>
    checkTransitions ns m .reloginFailed ((m.transitions .reloginFailed).check ns "relogin_failed"
      reloginFailed site.modes (round.histories .reloginFailed))
  | .warmRestart =>
    checkTransitions ns m .warmRestart ((m.transitions .warmRestart).check ns "warm_restart"
      warmRestart site.modes (round.histories .warmRestart))
  | .ibMaintenance =>
    let result := m.ibMaintenance.check ns round.auditLog
    ⟨result.1,{ m with ibMaintenance := result.2 },ns,[]⟩
  | .hitl2faEntry =>
    let result := m.hitl2faEntry.check site.giveUp.toAlertSite site.modes (hitlTick round) ns
    ⟨result.1.map Prod.snd,{ m with hitl2faEntry := result.2.1 },result.2.2.1,
      result.2.2.2.map Prod.snd⟩
  | .reconnectGiveUp =>
    let result := m.reconnectGiveUp.check site.giveUp site.modes round.cache round.readings ns
    ⟨[],{ m with reconnectGiveUp := result.1 },result.2.1,result.2.2.filterMap GiveUpSend.push⟩

end Check

/-- The alerts of a check are handed over one after the other, without force. -/
def handOver (exchanges : Nat → Exchange) : Nat → NotificationService → List Alert →
    NotificationService × List Push
  | _,ns,[] => (ns,[])
  | i,ns,alert :: rest =>
    let sent := ns.sendAlert alert false (exchanges i)
    let later := handOver exchanges (i + 1) sent.2.1 rest
    (later.1,sent.2.2.toList ++ later.2)

structure MonitorManager where
  monitors : Monitors
  service : NotificationService
  lastRun : MonitorName → Nat

/-- What happens to the manager: a round of its loop, and a change of the configuration. -/
inductive ManagerEvent where
  | looped (round : Round)
  | configured (config : NotificationConfig)

namespace MonitorManager

variable (site : MonitorSite)

def start (config : NotificationConfig) : MonitorManager := ⟨.start,.start config,fun _ => 0⟩

/-- The monitor has had its turn less than its interval ago. -/
def Rests (w : MonitorManager) (now : Nat) (name : MonitorName) : Prop :=
  now - w.lastRun name < name.intervalSeconds * microseconds

instance (w : MonitorManager) (now : Nat) (name : MonitorName) : Decidable (w.Rests now name) :=
  inferInstanceAs (Decidable (_ < _))

/-- The turn of one monitor, with what it has POSTed. -/
def turn (round : Round) (w : MonitorManager) (name : MonitorName) :
    MonitorManager × List Push :=
  if w.Rests round.now name then (w,[])
  else
    let checked := w.monitors.check site round w.service name
    let handed := handOver (round.handed name) 0 checked.service checked.alerts
    (⟨checked.monitors,handed.1,Function.update w.lastRun name round.now⟩,checked.pushes ++ handed.2)

/-- The turns of these monitors, with the POSTs of each. -/
def turns (round : Round) : MonitorManager → List MonitorName →
    MonitorManager × List (MonitorName × Push)
  | w,[] => (w,[])
  | w,name :: rest =>
    let first := w.turn site round name
    let later := turns round first.1 rest
    (later.1,first.2.map (name,·) ++ later.2)

def loop (w : MonitorManager) (round : Round) : MonitorManager × List (MonitorName × Push) :=
  turns site round w MonitorName.registered

def step (w : MonitorManager) : ManagerEvent → MonitorManager
  | .looped round => (w.loop site round).1
  | .configured config => { w with service := w.service.updateConfig config }

/-- Whatever the monitors POST in this step, its event is enabled. -/
def SendsEnabled (w : MonitorManager) : ManagerEvent → Prop
  | .looped round => ∀ sent ∈ (w.loop site round).2, w.service.isEventEnabled sent.1.eventType = true
  | .configured _ => True

end MonitorManager

section Returned

variable {site : MonitorSite} {round : Round} {ns : NotificationService} {m : Monitors}

theorem scans_typed (mode : String) (history : List Transition) (found : String × Alert) :
    (loginFailed mode history = some found → found.2.eventType = "login_failed") ∧
      (reloginFailed mode history = some found → found.2.eventType = "relogin_failed") ∧
      (warmRestart mode history = some found → found.2.eventType = "warm_restart") ∧
      (hitlEntry mode history = some found → found.2.eventType = "hitl_2fa_required") := by
  unfold loginFailed reloginFailed warmRestart hitlEntry
  refine ⟨?_,?_,?_,?_⟩
  all_goals
    intro scanned
    obtain ⟨t,-,rfl⟩ := Option.map_eq_some_iff.mp scanned
    rfl

theorem sessionLost_typed (suppressed : Bool) (mode : String) (history : List Transition)
    (found : String × Alert) (scanned : sessionLost suppressed mode history = some found) :
    found.2.eventType = "session_lost" := by
  unfold sessionLost at scanned
  split at scanned
  · cases scanned
  · obtain ⟨t,-,rfl⟩ := Option.map_eq_some_iff.mp scanned
    rfl

theorem sessionLostCheck_typed {schedule : RestartSchedule} {now : LocalTime}
    {modes : List String} {histories : String → Option (List Transition)} {t : TransitionMonitor} :
    ∀ entry ∈ (sessionLostCheck schedule now ns modes histories t).1,
      entry.2.eventType = "session_lost" := by
  unfold sessionLostCheck
  split
  · exact TransitionMonitor.eventType_of_check (sessionLost_typed _)
  · split
    · simp
    · exact TransitionMonitor.eventType_of_check (sessionLost_typed _)

theorem coldRestart_typed {schedule : RestartSchedule} {now : LocalTime}
    {c : ColdRestartPendingMonitor} :
    ∀ alert ∈ (c.check schedule now ns).1, alert.eventType = "cold_restart_pending" := by
  intro alert member
  unfold ColdRestartPendingMonitor.check at member
  split at member
  · split at member
    · dsimp only at member
      generalize (if c.lastResetDay = some now.day then c else ⟨false,some now.day⟩) = kept at member
      split at member
      · cases member
      · split at member
        · rw [List.mem_singleton.mp member]
        · cases member
    · cases member
  · cases member

theorem noClients_typed {now : Nat} {modes : List String}
    {cache : String → Option InstanceStatus} {c : NoClientsMonitor} :
    ∀ alert ∈ (c.check ns now modes cache).1, alert.eventType = "no_clients" := by
  have one (timeout : Nat) (mode : String) (status : Option InstanceStatus) (c : NoClientsMonitor)
      (alert : Alert) (raised : (c.checkInstance timeout now mode status).1 = some alert) :
      alert.eventType = "no_clients" := by
    unfold NoClientsMonitor.checkInstance at raised
    split at raised
    · cases raised
    · dsimp only at raised
      split at raised
      · generalize (if (c.zeroSince mode).isSome then c else _) = counted at raised
        split at raised
        · rw [← Option.some.inj raised]
        · cases raised
      · cases raised
  have all (timeout : Nat) (acc : List Alert × NoClientsMonitor)
      (before : ∀ alert ∈ acc.1, alert.eventType = "no_clients") :
      ∀ alert ∈ (modes.foldl (fun (acc : List Alert × NoClientsMonitor) mode =>
        (acc.1 ++ (acc.2.checkInstance timeout now mode (cache mode)).1.toList,
          (acc.2.checkInstance timeout now mode (cache mode)).2)) acc).1,
        alert.eventType = "no_clients" := by
    induction modes generalizing acc with
    | nil => exact before
    | cons mode rest ih =>
      refine ih _ fun alert member => ?_
      rcases List.mem_append.mp member with old | new
      · exact before alert old
      · exact one timeout mode (cache mode) acc.2 alert (Option.mem_toList.mp new)
  unfold NoClientsMonitor.check
  dsimp only
  split
  · exact all _ ([],c) (by simp)
  · simp

theorem ibMaintenance_typed {log : Option (List StatusEvent)} {c : IBMaintenanceMonitor} :
    ∀ alert ∈ (c.check ns log).1, alert.eventType = "ib_maintenance" := by
  intro alert member
  unfold IBMaintenanceMonitor.check at member
  split at member
  · split at member
    · cases member
    · split at member
      · cases member
      · dsimp only at member
        split at member
        · cases member
        · split at member
          · cases member
          · split at member
            · cases member
            · rw [List.mem_singleton.mp member]
  · cases member

/-- The monitors that only return their alerts. -/
def MonitorName.returning : List MonitorName :=
  [.coldRestartPending,.loginFailed,.noClients,.sessionLost,.reloginFailed,.warmRestart,
    .ibMaintenance]

theorem alerts_typed {alerts : List (String × Alert)} {eventType : String}
    (typed : ∀ entry ∈ alerts, entry.2.eventType = eventType) :
    ∀ alert ∈ alerts.map Prod.snd, alert.eventType = eventType := by
  intro alert member
  obtain ⟨entry,there,rfl⟩ := List.mem_map.mp member
  exact typed entry there

/-- What a check leaves alone that sends nothing by itself, and the type of its alerts. -/
structure Returns (name : MonitorName) (ns : NotificationService) (m : Monitors) (checked : Checked) :
    Prop where
  service : checked.service = ns
  silent : checked.pushes = []
  typed : ∀ alert ∈ checked.alerts, alert.eventType = name.eventType
  hitl : checked.monitors.hitl2faEntry = m.hitl2faEntry
  giveUp : checked.monitors.reconnectGiveUp = m.reconnectGiveUp

theorem Monitors.check_returning {name : MonitorName} (member : name ∈ MonitorName.returning) :
    Returns name ns m (m.check site round ns name) := by
  cases name with
  | coldRestartPending => exact ⟨rfl,rfl,coldRestart_typed,rfl,rfl⟩
  | loginFailed =>
    exact ⟨rfl,rfl,alerts_typed (TransitionMonitor.eventType_of_check fun mode history found =>
      (scans_typed mode history found).1),rfl,rfl⟩
  | noClients => exact ⟨rfl,rfl,noClients_typed,rfl,rfl⟩
  | sessionLost => exact ⟨rfl,rfl,alerts_typed sessionLostCheck_typed,rfl,rfl⟩
  | reloginFailed =>
    exact ⟨rfl,rfl,alerts_typed (TransitionMonitor.eventType_of_check fun mode history found =>
      (scans_typed mode history found).2.1),rfl,rfl⟩
  | warmRestart =>
    exact ⟨rfl,rfl,alerts_typed (TransitionMonitor.eventType_of_check fun mode history found =>
      (scans_typed mode history found).2.2.1),rfl,rfl⟩
  | ibMaintenance => exact ⟨rfl,rfl,ibMaintenance_typed,rfl,rfl⟩
  | hitl2faEntry => simp [MonitorName.returning] at member
  | reconnectGiveUp => simp [MonitorName.returning] at member

/-- Alerts of one type that are handed over go out only while it is enabled, and touch no window
of another. -/
theorem handOver_typed {exchanges : Nat → Exchange} {eventType : String} {alerts : List Alert}
    {i : Nat} (typed : ∀ alert ∈ alerts, alert.eventType = eventType) :
    (handOver exchanges i ns alerts).1.config = ns.config ∧
      (∀ kind asked, kind ≠ eventType →
        ((handOver exchanges i ns alerts).1.client.Posts kind asked ↔
          ns.client.Posts kind asked)) ∧
      (ns.isEventEnabled eventType = false → (handOver exchanges i ns alerts).2 = []) := by
  induction alerts generalizing ns i with
  | nil => exact ⟨rfl,fun _ _ _ => Iff.rfl,fun _ => rfl⟩
  | cons alert rest ih =>
    have first := typed alert (by simp)
    obtain ⟨config,posts,silent⟩ := @ih (ns.sendAlert alert false (exchanges i)).2.1 (i + 1)
      fun other member => typed other (List.mem_cons_of_mem alert member)
    refine ⟨config.trans NotificationService.sendAlert_config,fun kind asked apart =>
      (posts kind asked apart).trans
        (NotificationService.posts_sendAlert (by rwa [first])),fun disabled => ?_⟩
    have held := @NotificationService.sendAlert_held ns alert (exchanges i)
      (.inl (by rwa [first]))
    rw [held] at silent
    unfold handOver
    rw [held]
    exact silent disabled

end Returned

section Hitl

variable {site : AlertSite} {modes : List String} {tick : HitlTick} {ns : NotificationService}
  {m : Hitl2faEntryMonitor}

/-- A retry is due for an entry whose sends have failed so far: the mode still waits in it. -/
def Pending (lastSeenKey : String → Option String) (cache : String → Option InstanceStatus)
    (entry : String × Tracked) : Prop :=
  (hitlBlock (cache entry.1)).active = true ∧
    (lastSeenKey entry.1).getD "" = entry.2.entryKey ∧
    entry.2.sendSucceeded = false ∧ entry.2.sendRetriesRemaining ≠ 0

instance (lastSeenKey : String → Option String) (cache : String → Option InstanceStatus)
    (entry : String × Tracked) : Decidable (Pending lastSeenKey cache entry) :=
  inferInstanceAs (Decidable (_ ∧ _))

/-- The service as far as other kinds of alert can tell. -/
structure SameService (kind : String) (ns later : NotificationService) : Prop where
  config : later.config = ns.config
  posts : ∀ other asked, other ≠ kind → (later.client.Posts other asked ↔ ns.client.Posts other asked)

theorem SameService.refl {kind : String} : SameService kind ns ns := ⟨rfl,fun _ _ _ => Iff.rfl⟩

theorem SameService.trans {kind : String} {middle later : NotificationService}
    (first : SameService kind ns middle) (second : SameService kind middle later) :
    SameService kind ns later :=
  ⟨second.config.trans first.config,fun other asked apart =>
    (second.posts other asked apart).trans (first.posts other asked apart)⟩

theorem SameService.sendAlert {alert : Alert} {force : Bool} {x : Exchange} :
    SameService alert.eventType ns (ns.sendAlert alert force x).2.1 :=
  ⟨NotificationService.sendAlert_config,fun _ _ apart => NotificationService.posts_sendAlert apart⟩

theorem Sends.attempt_pushes {s : Sends} {mode : String} {outcome : Bool → Tracked} :
    SameService "hitl_2fa_required" s.service (s.attempt site tick mode outcome).service ∧
      if s.service.client.Posts "hitl_2fa_required" (tick.exchanges mode).asked then
        (s.attempt site tick mode outcome).pushes ≠ []
      else (s.attempt site tick mode outcome).pushes = s.pushes ∧
        (s.attempt site tick mode outcome).service.client = s.service.client := by
  unfold attempt
  dsimp only
  generalize named : buildRichAlert site s.service.config.channel mode (hitlBlock (tick.cache mode))
    (tick.minted mode) = alert
  have kind : alert.eventType = "hitl_2fa_required" := by rw [← named,buildRichAlert_eventType]
  have same := @SameService.sendAlert s.service alert true (tick.exchanges mode)
  have pushed := @NotificationService.isSome_push_force s.service alert (tick.exchanges mode)
  rw [kind] at same pushed
  refine ⟨same,?_⟩
  split
  next posts =>
    obtain ⟨push,sent⟩ := Option.isSome_iff_exists.mp (pushed.trans (decide_eq_true posts))
    simp [sent]
  next silent =>
    have none := Option.isSome_eq_false_iff.mp (pushed.trans (decide_eq_false silent))
    rw [Option.isNone_iff_eq_none.mp none]
    refine ⟨List.append_nil _,?_⟩
    rw [(@NotificationService.sendAlert_force s.service alert (tick.exchanges mode)).2.1,kind]
    exact NotificationClient.send_silent silent

/-- A look at one entry sends what is pending, and nothing else. -/
theorem Sends.retry_pushes {lastSeenKey : String → Option String} {s : Sends}
    {entry : String × Tracked} :
    SameService "hitl_2fa_required" s.service (s.retry site lastSeenKey tick entry).service ∧
      if Pending lastSeenKey tick.cache entry ∧
          s.service.client.Posts "hitl_2fa_required" (tick.exchanges entry.1).asked then
        (s.retry site lastSeenKey tick entry).pushes ≠ []
      else (s.retry site lastSeenKey tick entry).pushes = s.pushes ∧
        (s.retry site lastSeenKey tick entry).service.client = s.service.client := by
  unfold Sends.retry
  dsimp only
  split
  next ended =>
    have idle : ¬ Pending lastSeenKey tick.cache entry := by
      rintro ⟨waits,sameKey,-⟩
      rcases ended with exited | newKey
      · exact Bool.false_ne_true (exited.symm.trans waits)
      · exact newKey sameKey
    rw [if_neg fun due => idle due.1]
    exact ⟨.refl,rfl,rfl⟩
  next holds =>
    obtain ⟨waits,sameKey⟩ := not_or.mp holds
    split
    next settled =>
      have idle : ¬ Pending lastSeenKey tick.cache entry := by
        rintro ⟨-,-,failed,left⟩
        rcases settled with succeeded | spent
        · exact Bool.false_ne_true (failed.symm.trans succeeded)
        · exact left spent
      rw [if_neg fun due => idle due.1]
      exact ⟨.refl,rfl,rfl⟩
    next unsettled =>
      obtain ⟨failed,left⟩ := not_or.mp unsettled
      have pending : Pending lastSeenKey tick.cache entry :=
        ⟨Bool.of_not_eq_false waits,not_not.mp sameKey,Bool.of_not_eq_true failed,left⟩
      simp only [pending,true_and]
      exact Sends.attempt_pushes

theorem Sends.foldl_retry_pushes {lastSeenKey : String → Option String}
    {entries : List (String × Tracked)} {s : Sends} :
    SameService "hitl_2fa_required" s.service
        (entries.foldl (Sends.retry site lastSeenKey tick) s).service ∧
      ((entries.foldl (Sends.retry site lastSeenKey tick) s).pushes = [] ↔
        s.pushes = [] ∧ ∀ entry ∈ entries, Pending lastSeenKey tick.cache entry →
          ¬ s.service.client.Posts "hitl_2fa_required" (tick.exchanges entry.1).asked) := by
  induction entries generalizing s with
  | nil => exact ⟨.refl,by simp⟩
  | cons entry rest ih =>
    obtain ⟨same,pushed⟩ := @Sends.retry_pushes site tick lastSeenKey s entry
    obtain ⟨same',pushed'⟩ := @ih (s.retry site lastSeenKey tick entry)
    refine ⟨same.trans same',?_⟩
    rw [List.foldl_cons,pushed',List.forall_mem_cons]
    split at pushed
    next posts =>
      exact iff_of_false (fun none => pushed none.1) fun quiet => quiet.2.1 posts.1 posts.2
    next silent =>
      rw [pushed.1,pushed.2]
      exact and_congr_right fun _ =>
        ⟨fun later => ⟨fun pending posts => silent ⟨pending,posts⟩,later⟩,And.right⟩

theorem Sends.foldl_firstAttempt_same {lastSeenKey : String → Option String} {s : Sends} :
    SameService "hitl_2fa_required" s.service
      (modes.foldl (Sends.firstAttempt site lastSeenKey tick) s).service := by
  induction modes generalizing s with
  | nil => exact .refl
  | cons mode rest ih =>
    have first : SameService "hitl_2fa_required" s.service
        (Sends.firstAttempt site lastSeenKey tick s mode).service := by
      unfold Sends.firstAttempt
      split
      · exact Sends.attempt_pushes.1
      · exact .refl
    exact first.trans ih

namespace Hitl2faEntryMonitor

theorem check_same : SameService "hitl_2fa_required" ns (m.check site modes tick ns).2.2.1 := by
  unfold check
  dsimp only
  split
  · exact @Sends.foldl_firstAttempt_same site modes tick _ ⟨ns,m.tracked,[]⟩
  · exact (@Sends.foldl_retry_pushes site tick _ m.tracked ⟨ns,m.tracked,[]⟩).1

theorem check_typed :
    ∀ entry ∈ (m.check site modes tick ns).1, entry.2.eventType = "hitl_2fa_required" := by
  intro entry member
  have typed := @TransitionMonitor.eventType_of_check ns "hitl_2fa_required" hitlEntry modes
    tick.histories m.base fun mode history found => (scans_typed mode history found).2.2.2
  unfold check at member
  dsimp only at member
  split at member
  · dsimp only at member
    split at member
    · cases member
    · obtain ⟨old,there,rfl⟩ := List.mem_map.mp member
      exact typed old there
  · cases member

/-- While its event is disabled the monitor still sends what is pending. -/
theorem check_disabled (disabled : ns.isEventEnabled "hitl_2fa_required" = false) :
    (m.check site modes tick ns).2.2.2 = [] ↔
      ∀ entry ∈ m.tracked, Pending m.base.lastSeenKey tick.cache entry →
        ¬ ns.client.Posts "hitl_2fa_required" (tick.exchanges entry.1).asked := by
  have idle : m.baseCheck modes tick ns = ([],m.base) := by
    simp [baseCheck,TransitionMonitor.check,disabled]
  have retried := (@Sends.foldl_retry_pushes site tick m.base.lastSeenKey m.tracked
    ⟨ns,m.tracked,[]⟩).2
  simp only [true_and] at retried
  unfold check
  rw [idle]
  exact retried

end Hitl2faEntryMonitor

end Hitl

section GiveUp

variable {site : GiveUpSite} {modes : List String} {ns : NotificationService}

/-- The kind under which the give-up of a mode is coalesced. -/
def giveUpKind (mode : String) : String := "reconnect_gave_up:" ++ mode

theorem giveUpKind_ne (mode : String) (name : MonitorName) : giveUpKind mode ≠ name.eventType := by
  intro same
  have spelled : "reconnect_gave_up:".toList ++ mode.toList = name.eventType.toList := by
    rw [← String.toList_append]
    exact congrArg String.toList same
  have start := List.prefix_append "reconnect_gave_up:".toList mode.toList
  rw [spelled] at start
  revert start
  cases name <;> decide +kernel

@[simp] theorem buildGiveUpAlert_eventType (channel mode : String) (r : RecoveryBlock) (now : Nat) :
    (buildGiveUpAlert site channel mode r now).eventType = giveUpKind mode := by
  unfold buildGiveUpAlert
  dsimp only
  split
  · split <;> rfl
  · rfl

/-- A give-up is due an alert: it is not one that the first tick takes over, and it is new, or its
sends have failed fewer times than the ceiling, or its last alert is as old as the interval. -/
def AlertDue (site : GiveUpSite) (initialized : Bool) (status : Option InstanceStatus)
    (reading : GiveUpReading) (s : PerModeState) : Prop :=
  ∃ r key, giveUpOf status = some (r,key) ∧
    ¬ (initialized = false ∧ s.lastAlertedKey = none ∧ (site.stampAge r reading.booted).isSome) ∧
    (s.lastAlertedKey = some key →
      if s.lastAlertedWall = 0 then s.sendAttempts < ntfySendMaxAttempts
      else r.resendInterval ≤ reading.now - s.lastAlertedWall)

namespace ReconnectGiveUpMonitor

theorem cadence_due {r : RecoveryBlock} {key : String} {now : Nat} {s : PerModeState} :
    (∃ state, cadence r key now s = .due state) ↔
      (s.lastAlertedKey = some key →
        if s.lastAlertedWall = 0 then s.sendAttempts < ntfySendMaxAttempts
        else r.resendInterval ≤ now - s.lastAlertedWall) := by
  unfold cadence
  split
  next same =>
    split
    · split <;> simp [same] <;> omega
    · split <;> simp [same] <;> omega
  next other => simp [other]

theorem judge_due {initialized : Bool} {r : RecoveryBlock} {key : String}
    {reading : GiveUpReading} {s : PerModeState} :
    (∃ state, judge site initialized r key reading s = .due state) ↔
      ¬ (initialized = false ∧ s.lastAlertedKey = none ∧ (site.stampAge r reading.booted).isSome) ∧
      (s.lastAlertedKey = some key →
        if s.lastAlertedWall = 0 then s.sendAttempts < ntfySendMaxAttempts
        else r.resendInterval ≤ reading.now - s.lastAlertedWall) := by
  rw [← @cadence_due r key reading.now s]
  unfold judge
  by_cases first : initialized = false ∧ s.lastAlertedKey = none
  · cases age : site.stampAge r reading.booted with
    | none => simp [first]
    | some secs => simp [first]
  · have later : ¬ ((!initialized) = true ∧ s.lastAlertedKey = none) := by simpa using first
    rw [if_neg later]
    have skipped : ¬ (initialized = false ∧ s.lastAlertedKey = none ∧
        (site.stampAge r reading.booted).isSome) := fun all => first ⟨all.1,all.2.1⟩
    simp only [skipped,not_false_eq_true,true_and]

variable {initialized : Bool} {cache : String → Option InstanceStatus}
  {readings : String → GiveUpReading}

/-- The part of one mode: it sends what is due, whatever is enabled. -/
theorem processMode_pushes {s : GiveUpSends} {mode : String} :
    let processed := processMode site initialized (cache mode) (readings mode) s mode
    let owed := AlertDue site initialized (cache mode) (readings mode) (s.state mode) ∧
      s.service.client.Posts (giveUpKind mode) (readings mode).exchange.asked
    SameService (giveUpKind mode) s.service processed.service ∧
      (∀ other, other ≠ mode → processed.state other = s.state other) ∧
      (owed → processed.sent.filterMap GiveUpSend.push ≠ []) ∧
      (¬ owed → processed.sent.filterMap GiveUpSend.push = s.sent.filterMap GiveUpSend.push) := by
  dsimp only
  unfold processMode
  split
  next none =>
    refine ⟨.refl,fun _ _ => rfl,?_,fun _ => rfl⟩
    rintro ⟨⟨r,key,found,-⟩,-⟩
    rw [none] at found
    cases found
  next r key found =>
    have dueIff : AlertDue site initialized (cache mode) (readings mode) (s.state mode) ↔
        ∃ state, judge site initialized r key (readings mode) (s.state mode) = .due state := by
      rw [judge_due]
      constructor
      · rintro ⟨r',key',found',due⟩
        obtain ⟨rfl,rfl⟩ := Prod.mk.inj (Option.some.inj (found.symm.trans found'))
        exact due
      · exact fun due => ⟨r,key,found,due⟩
    rw [dueIff]
    split
    next state judged =>
      refine ⟨.refl,fun other apart => Function.update_of_ne apart _ _,?_,fun _ => rfl⟩
      rintro ⟨⟨begun,due⟩,-⟩
      rw [judged] at due
      cases due
    next state judged =>
      dsimp only
      generalize named : buildGiveUpAlert site s.service.config.channel mode r
        (seconds (readings mode).minted) = alert
      have kind : alert.eventType = giveUpKind mode := by rw [← named,buildGiveUpAlert_eventType]
      have same := @SameService.sendAlert s.service alert true (readings mode).exchange
      have pushed := @NotificationService.isSome_push_force s.service alert (readings mode).exchange
      rw [kind] at same pushed
      refine ⟨same,fun other apart => Function.update_of_ne apart _ _,?_,?_⟩
      · rintro ⟨-,posts⟩
        obtain ⟨push,sent⟩ := Option.isSome_iff_exists.mp (pushed.trans (decide_eq_true posts))
        simp [sent]
      · intro quiet
        have silent : ¬ s.service.client.Posts (giveUpKind mode) (readings mode).exchange.asked :=
          fun posts => quiet ⟨⟨state,judged⟩,posts⟩
        have none := Option.isSome_eq_false_iff.mp (pushed.trans (decide_eq_false silent))
        simp [Option.isNone_iff_eq_none.mp none]

theorem foldl_pushes {s : GiveUpSends} (registered : modes.Nodup) :
    (modes.foldl (fun s mode => processMode site initialized (cache mode) (readings mode) s
        mode) s).sent.filterMap GiveUpSend.push = [] ↔
      s.sent.filterMap GiveUpSend.push = [] ∧ ∀ mode ∈ modes,
        AlertDue site initialized (cache mode) (readings mode) (s.state mode) →
          ¬ s.service.client.Posts (giveUpKind mode) (readings mode).exchange.asked := by
  induction modes generalizing s with
  | nil => simp
  | cons mode rest ih =>
    obtain ⟨apart,once⟩ := List.nodup_cons.mp registered
    obtain ⟨same,others,sends,silent⟩ :=
      @processMode_pushes site initialized cache readings s mode
    have later : (∀ other ∈ rest,
        AlertDue site initialized (cache other) (readings other)
            ((processMode site initialized (cache mode) (readings mode) s mode).state other) →
          ¬ (processMode site initialized (cache mode) (readings mode) s mode).service.client.Posts
            (giveUpKind other) (readings other).exchange.asked) ↔
        ∀ other ∈ rest, AlertDue site initialized (cache other) (readings other) (s.state other) →
          ¬ s.service.client.Posts (giveUpKind other) (readings other).exchange.asked := by
      refine forall₂_congr fun other member => ?_
      have ne : other ≠ mode := fun found => apart (found ▸ member)
      rw [others other ne,same.posts (giveUpKind other) _ fun kind =>
        ne ((String.append_right_inj _).mp kind)]
    rw [List.foldl_cons,ih once,later,List.forall_mem_cons]
    by_cases owed : AlertDue site initialized (cache mode) (readings mode) (s.state mode) ∧
        s.service.client.Posts (giveUpKind mode) (readings mode).exchange.asked
    · exact iff_of_false (fun none => sends owed none.1) fun quiet => quiet.2.1 owed.1 owed.2
    · rw [silent owed]
      exact and_congr_right fun _ => ⟨fun after => ⟨fun due posts => owed ⟨due,posts⟩,after⟩,And.right⟩

end ReconnectGiveUpMonitor

end GiveUp

namespace MonitorManager

variable {site : MonitorSite} {round : Round} {w : MonitorManager} {name : MonitorName}

/-- What the turns of these monitors leave alone. -/
structure Beside (names : List MonitorName) (w later : MonitorManager) : Prop where
  config : later.service.config = w.service.config
  posts : ∀ kind asked, (∀ name ∈ names, kind ≠ name.eventType) →
    (later.service.client.Posts kind asked ↔ w.service.client.Posts kind asked)
  lastRun : ∀ name ∉ names, later.lastRun name = w.lastRun name
  hitl : later.monitors.hitl2faEntry = w.monitors.hitl2faEntry
  giveUp : later.monitors.reconnectGiveUp = w.monitors.reconnectGiveUp

/-- The turn of a monitor that is up. -/
theorem turn_up (up : ¬ w.Rests round.now name) {checked : Checked}
    (same : w.monitors.check site round w.service name = checked) :
    w.turn site round name =
      (⟨checked.monitors,(handOver (round.handed name) 0 checked.service checked.alerts).1,
          Function.update w.lastRun name round.now⟩,
        checked.pushes ++ (handOver (round.handed name) 0 checked.service checked.alerts).2) := by
  unfold turn
  rw [if_neg up,same]

theorem turn_rests (rests : w.Rests round.now name) : w.turn site round name = (w,[]) := by
  unfold turn
  rw [if_pos rests]

theorem turn_returning (member : name ∈ MonitorName.returning) :
    Beside [name] w (w.turn site round name).1 ∧
      (w.service.isEventEnabled name.eventType = false → (w.turn site round name).2 = []) := by
  by_cases rests : w.Rests round.now name
  · rw [turn_rests rests]
    exact ⟨⟨rfl,fun _ _ _ => Iff.rfl,fun _ _ => rfl,rfl,rfl⟩,fun _ => rfl⟩
  · have returns := @Monitors.check_returning site round w.service w.monitors name member
    generalize same : w.monitors.check site round w.service name = checked at returns
    obtain ⟨config,posts,silent⟩ := @handOver_typed checked.service (round.handed name)
      name.eventType checked.alerts 0 returns.typed
    rw [returns.service] at config posts silent
    rw [turn_up rests same,returns.service,returns.silent]
    refine ⟨⟨config,fun kind asked apart => posts kind asked (apart name (by simp)),
      fun other apart => ?_,returns.hitl,returns.giveUp⟩,silent⟩
    exact Function.update_of_ne (by simpa using apart) _ _

theorem turns_cons (names : List MonitorName) :
    turns site round w (name :: names) =
      ((turns site round (w.turn site round name).1 names).1,
        (w.turn site round name).2.map (name,·) ++
          (turns site round (w.turn site round name).1 names).2) := rfl

theorem turns_append (first second : List MonitorName) :
    (turns site round w (first ++ second)).2 = (turns site round w first).2 ++
      (turns site round (turns site round w first).1 second).2 := by
  induction first generalizing w with
  | nil => rfl
  | cons name rest ih => rw [List.cons_append,turns_cons,turns_cons,ih,List.append_assoc]

theorem turns_returning {names : List MonitorName}
    (returning : ∀ name ∈ names, name ∈ MonitorName.returning) :
    Beside names w (turns site round w names).1 ∧
      ∀ sent ∈ (turns site round w names).2, w.service.isEventEnabled sent.1.eventType = true := by
  induction names generalizing w with
  | nil => exact ⟨⟨rfl,fun _ _ _ => Iff.rfl,fun _ _ => rfl,rfl,rfl⟩,by simp [turns]⟩
  | cons name rest ih =>
    obtain ⟨beside,silent⟩ := @turn_returning site round w name (returning name (by simp))
    obtain ⟨beside',enabled⟩ := @ih (w.turn site round name).1
      fun other member => returning other (List.mem_cons_of_mem name member)
    rw [turns_cons]
    refine ⟨⟨beside'.config.trans beside.config,fun kind asked apart => ?_,fun other apart => ?_,
      beside'.hitl.trans beside.hitl,beside'.giveUp.trans beside.giveUp⟩,fun sent member => ?_⟩
    · exact (beside'.posts kind asked fun other there =>
        apart other (List.mem_cons_of_mem name there)).trans
        (beside.posts kind asked fun other there => apart other (by simp_all))
    · exact (beside'.lastRun other (mt (List.mem_cons_of_mem name) apart)).trans
        (beside.lastRun other (by simp_all))
    · rcases List.mem_append.mp member with first | later
      · obtain ⟨push,there,rfl⟩ := List.mem_map.mp first
        by_contra disabled
        rw [silent (Bool.of_not_eq_true disabled)] at there
        cases there
      · exact (NotificationService.isEventEnabled_congr beside.config _).symm.trans
          (enabled sent later)

/-- While the event of a monitor that sends by itself is disabled, nothing is due in its turn that
the client would POST: no failed alert of a mode that still waits, and no give-up. -/
def NothingDue (site : MonitorSite) (w : MonitorManager) : ManagerEvent → Prop
  | .looped round =>
    (w.service.isEventEnabled "hitl_2fa_required" = false → ¬ w.Rests round.now .hitl2faEntry →
      ∀ entry ∈ w.monitors.hitl2faEntry.tracked,
        Pending w.monitors.hitl2faEntry.base.lastSeenKey round.cache entry →
          ¬ w.service.client.Posts "hitl_2fa_required" (round.exchanges entry.1).asked) ∧
    (w.service.isEventEnabled "reconnect_gave_up" = false → ¬ w.Rests round.now .reconnectGiveUp →
      ∀ mode ∈ site.modes,
        AlertDue site.giveUp w.monitors.reconnectGiveUp.initialized (round.cache mode)
            (round.readings mode) (w.monitors.reconnectGiveUp.state mode) →
          ¬ w.service.client.Posts (giveUpKind mode) (round.readings mode).exchange.asked)
  | .configured _ => True

theorem turn_hitl (disabled : w.service.isEventEnabled "hitl_2fa_required" = false) :
    (w.turn site round .hitl2faEntry).2 = [] ↔
      (¬ w.Rests round.now .hitl2faEntry → ∀ entry ∈ w.monitors.hitl2faEntry.tracked,
        Pending w.monitors.hitl2faEntry.base.lastSeenKey round.cache entry →
          ¬ w.service.client.Posts "hitl_2fa_required" (round.exchanges entry.1).asked) := by
  by_cases rests : w.Rests round.now .hitl2faEntry
  · rw [turn_rests rests]
    exact iff_of_true rfl fun up => absurd rests up
  · have checked := @Hitl2faEntryMonitor.check_disabled site.giveUp.toAlertSite site.modes
      (hitlTick round) w.service w.monitors.hitl2faEntry disabled
    have same := @Hitl2faEntryMonitor.check_same site.giveUp.toAlertSite site.modes
      (hitlTick round) w.service w.monitors.hitl2faEntry
    have typed := @Hitl2faEntryMonitor.check_typed site.giveUp.toAlertSite site.modes
      (hitlTick round) w.service w.monitors.hitl2faEntry
    have silent := (@handOver_typed _ (round.handed .hitl2faEntry) _ _ 0
      (alerts_typed typed)).2.2
      ((NotificationService.isEventEnabled_congr same.config _).trans disabled)
    rw [turn_up rests rfl]
    have none : (handOver (round.handed .hitl2faEntry) 0
        (w.monitors.check site round w.service .hitl2faEntry).service
        (w.monitors.check site round w.service .hitl2faEntry).alerts).2 = [] := silent
    rw [none,List.append_nil]
    exact List.map_eq_nil_iff.trans (checked.trans ⟨fun quiet _ => quiet,fun quiet => quiet rests⟩)

theorem turn_giveUp :
    (w.turn site round .reconnectGiveUp).2 = [] ↔
      (¬ w.Rests round.now .reconnectGiveUp → ∀ mode ∈ site.modes,
        AlertDue site.giveUp w.monitors.reconnectGiveUp.initialized (round.cache mode)
            (round.readings mode) (w.monitors.reconnectGiveUp.state mode) →
          ¬ w.service.client.Posts (giveUpKind mode) (round.readings mode).exchange.asked) := by
  by_cases rests : w.Rests round.now .reconnectGiveUp
  · rw [turn_rests rests]
    exact iff_of_true rfl fun up => absurd rests up
  · have pushed := @ReconnectGiveUpMonitor.foldl_pushes site.giveUp site.modes
      w.monitors.reconnectGiveUp.initialized round.cache round.readings
      ⟨w.monitors.reconnectGiveUp.state,w.service,[]⟩ site.registered
    rw [turn_up rests rfl]
    refine (List.append_eq_nil_iff.trans (and_iff_left rfl)).trans (pushed.trans ?_)
    exact ⟨fun quiet _ => quiet.2,fun quiet => ⟨rfl,quiet rests⟩⟩

/-- The turn of the first monitor that sends by itself leaves the second one alone. -/
theorem turn_hitl_beside :
    (w.turn site round .hitl2faEntry).1.monitors.reconnectGiveUp = w.monitors.reconnectGiveUp ∧
      (w.turn site round .hitl2faEntry).1.lastRun .reconnectGiveUp = w.lastRun .reconnectGiveUp ∧
      SameService "hitl_2fa_required" w.service (w.turn site round .hitl2faEntry).1.service := by
  by_cases rests : w.Rests round.now .hitl2faEntry
  · rw [turn_rests rests]
    exact ⟨rfl,rfl,.refl⟩
  · have same := @Hitl2faEntryMonitor.check_same site.giveUp.toAlertSite site.modes
      (hitlTick round) w.service w.monitors.hitl2faEntry
    have typed := @Hitl2faEntryMonitor.check_typed site.giveUp.toAlertSite site.modes
      (hitlTick round) w.service w.monitors.hitl2faEntry
    obtain ⟨config,posts,-⟩ := @handOver_typed
      (w.monitors.hitl2faEntry.check site.giveUp.toAlertSite site.modes (hitlTick round)
        w.service).2.2.1 (round.handed .hitl2faEntry) _ _ 0 (alerts_typed typed)
    rw [turn_up rests rfl]
    have apart : MonitorName.reconnectGiveUp ≠ .hitl2faEntry := by decide
    refine ⟨rfl,?_,same.trans ⟨config,posts⟩⟩
    dsimp only
    rw [Function.update_of_ne apart]

theorem forall_enabled_iff {pushes : List Push} {enabled : Bool} :
    (∀ push ∈ pushes, enabled = true) ↔ (enabled = false → pushes = []) := by
  cases enabled with
  | true => simp
  | false => simpa using List.eq_nil_iff_forall_not_mem.symm

/-- What a round sends, up to what only returned alerts account for. -/
theorem loop_enabled_iff :
    (∀ sent ∈ (w.loop site round).2, w.service.isEventEnabled sent.1.eventType = true) ↔
      (w.service.isEventEnabled "hitl_2fa_required" = false →
        ((turns site round w MonitorName.returning).1.turn site round .hitl2faEntry).2 = []) ∧
      (w.service.isEventEnabled "reconnect_gave_up" = false →
        (((turns site round w MonitorName.returning).1.turn site round .hitl2faEntry).1.turn site
          round .reconnectGiveUp).2 = []) := by
  have split_ : MonitorName.registered =
      MonitorName.returning ++ [.hitl2faEntry,.reconnectGiveUp] := rfl
  have enabled := (@turns_returning site round w MonitorName.returning fun _ member => member).2
  unfold loop
  rw [split_,turns_append,turns_cons,turns_cons,← forall_enabled_iff,← forall_enabled_iff]
  simp only [List.forall_mem_append,List.forall_mem_map]
  constructor
  · rintro ⟨-,hitl,giveUp,-⟩
    exact ⟨hitl,giveUp⟩
  · rintro ⟨hitl,giveUp⟩
    exact ⟨enabled,hitl,giveUp,by simp [turns]⟩

theorem sendsEnabled_iff (event : ManagerEvent) :
    w.SendsEnabled site event ↔ w.NothingDue site event := by
  cases event with
  | configured config => exact Iff.rfl
  | looped round =>
    have beside := (@turns_returning site round w MonitorName.returning fun _ member => member).1
    refine loop_enabled_iff.trans (and_congr ?_ ?_)
    · refine imp_congr_right fun disabled => ?_
      rw [turn_hitl ((NotificationService.isEventEnabled_congr beside.config _).trans disabled),
        Rests,Rests,beside.lastRun _ (by decide),beside.hitl]
      refine imp_congr_right fun _ => forall₂_congr fun entry _ => imp_congr_right fun _ => ?_
      rw [beside.posts "hitl_2fa_required" _ (by decide +kernel)]
    · refine imp_congr_right fun _ => ?_
      obtain ⟨giveUp,lastRun,same⟩ :=
        @turn_hitl_beside site round (turns site round w MonitorName.returning).1
      rw [turn_giveUp,Rests,Rests,lastRun,beside.lastRun _ (by decide),giveUp,beside.giveUp]
      refine imp_congr_right fun _ => forall₂_congr fun mode _ => imp_congr_right fun _ => ?_
      rw [same.posts (giveUpKind mode) _ (giveUpKind_ne mode .hitl2faEntry),
        beside.posts (giveUpKind mode) _ fun name _ => giveUpKind_ne mode name]

/-- In a run of the manager nothing is sent that is not enabled exactly when no step finds a
monitor that is disabled with something due. -/
theorem sends_enabled_iff (site : MonitorSite) (config : NotificationConfig)
    (events : List ManagerEvent) :
    Along (step site) (SendsEnabled site) (start config) events ↔
      Along (step site) (NothingDue site) (start config) events :=
  along_congr (fun _ event => sendsEnabled_iff event) (start config) events

section Sample

open HitlWorld (alertSite)
open GiveUpWatch (giveUpSite giveUpIssued giveUpTick)

def monitorSite : MonitorSite where
  giveUp := { giveUpSite with signingKey := "key".toList }
  schedule := ⟨"","",""⟩
  modes := ["paper"]
  registered := by decide

/-- A round so many seconds after paper gave up, with its STATUS in the cache or not. -/
def roundAt (secs : Nat) (cached : Bool) : Round where
  now := secs * microseconds
  wall := (giveUpIssued + secs) * microseconds
  localTime := ⟨6,12,0,0⟩
  histories _ _ := some []
  cache := (giveUpTick cached secs).cache
  auditLog := none
  minted _ := giveUpIssued + secs
  exchanges _ := ⟨secs * microseconds,secs * microseconds,.status 200,secs * microseconds⟩
  readings := (giveUpTick cached secs).readings
  handed _ _ := ⟨secs * microseconds,secs * microseconds,.status 200,secs * microseconds⟩

def links : Push → List Action
  | .ntfyJson _ _ _ _ actions _ _ _ => actions
  | _ => []

/-- Notifications are disabled, as they are by default, and a signed link leaves the host. -/
theorem disabled_sends :
    NotificationConfig.default.enabled = false ∧
      ((loop monitorSite (run (step monitorSite) (start .default) [.looped (roundAt 100 false)])
        (roundAt 160 true)).2.any fun sent =>
          sent.1 = .reconnectGiveUp && links sent.2 ≠ []) = true ∧
      ¬ Along (step monitorSite) (SendsEnabled monitorSite) (start .default)
        [.looped (roundAt 100 false),.looped (roundAt 160 true)] := by
  have sent : ((loop monitorSite (run (step monitorSite) (start .default)
      [.looped (roundAt 100 false)]) (roundAt 160 true)).2.any fun sent =>
        sent.1 = .reconnectGiveUp && links sent.2 ≠ []) = true := by
    decide +kernel
  have disabled : (run (step monitorSite) (start .default)
      [.looped (roundAt 100 false)]).service.isEventEnabled "reconnect_gave_up" = false := by
    decide +kernel
  refine ⟨rfl,sent,fun along => ?_⟩
  obtain ⟨push,member,facts⟩ := List.any_eq_true.mp sent
  simp only [Bool.and_eq_true,decide_eq_true_eq] at facts
  have enabled := along.2.1 push member
  rw [facts.1] at enabled
  exact Bool.false_ne_true (disabled.symm.trans enabled)

end Sample

end MonitorManager

end Ibctl.Dashboard
