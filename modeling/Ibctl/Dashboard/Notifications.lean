import Mathlib.Logic.Function.Basic
import Ibctl.Dashboard.SignedData
import Ibctl.Dashboard.Subscription
import Ibctl.Lib.Debounce

/-! The notifications of the dashboard: what is enabled, how an alert goes out to the channel, and
which alerts are held back on the way. -/
namespace Ibctl.Dashboard

/-- An action button of ntfy. -/
structure Action where
  action : String
  label : String
  url : List Char
  clear : Bool
deriving DecidableEq

structure Alert where
  eventType : String
  title : String
  body : String
  priority : String
  tags : String
  actions : List Action
deriving DecidableEq

structure EventSettings where
  enabled : Option Bool
  timeoutMinutes : Option Nat
  leadSeconds : Option Nat

structure NotificationConfig where
  enabled : Bool
  channel : String
  ntfyUrl : String
  ntfyTopic : String
  ntfyToken : String
  slackWebhookUrl : String
  telegramBotToken : String
  telegramChatId : String
  events : List (String × EventSettings)

def eventOn : EventSettings := ⟨some true,none,none⟩

def eventOff : EventSettings := ⟨some false,none,none⟩

def defaultEvents : List (String × EventSettings) :=
  [("login_failed",eventOn),("no_clients",{ eventOn with timeoutMinutes := some 30 }),
    ("session_lost",eventOn),("relogin_failed",eventOn),("warm_restart",eventOff),
    ("ib_maintenance",eventOff),("cold_restart_pending",{ eventOn with leadSeconds := some 30 }),
    ("hitl_2fa_required",eventOn)]

def NotificationConfig.default : NotificationConfig where
  enabled := false
  channel := "ntfy"
  ntfyUrl := "https://ntfy.sh"
  ntfyTopic := "ibctl"
  ntfyToken := ""
  slackWebhookUrl := ""
  telegramBotToken := ""
  telegramChatId := ""
  events := defaultEvents

section Clients

/-- The POST of a client. -/
inductive Push where
  | ntfyJson (url topic title message : String) (actions : List Action) (priority : Option Int)
      (tags : List String) (token : String)
  | ntfyText (url title body priority tags token : String)
  | slack (url text : String)
  | telegram (url chatId text : String)
deriving DecidableEq

/-- What comes of a POST. -/
inductive PostResult where
  | status (code : Nat)
  | raised
deriving DecidableEq

/-- The clocks around one alert, in microseconds, and what comes of its POST: `now` is the wall
clock of `send_alert`, the others are the monotonic clock before and after the POST. -/
structure Exchange where
  now : Nat
  asked : Nat
  result : PostResult
  answered : Nat

structure NtfyClient where
  url : String
  topic : String
  token : String
  coalesceWindowSecs : Nat
  lastSuccessfulSend : String → Nat

inductive NotificationClient where
  | null (reason : String)
  | ntfy (client : NtfyClient)
  | slack (webhookUrl : String)
  | telegram (botToken chatId : String)

def ntfyPriorities : List (String × Int) :=
  [("min",1),("low",2),("default",3),("high",4),("urgent",5),("max",5)]

def priorityToInt (priority : String) : Int :=
  if priority = "" then 3
  else
    match Decimal.readInt priority.toList with
    | some n => max 1 (min 5 n)
    | none => (ntfyPriorities.lookup (Text.toLowercase priority)).getD 3

def rstripSlash (url : String) : String :=
  String.ofList ((url.toList.reverse.dropWhile (· = '/')).reverse)

def hasPriority (alert : Alert) : Bool := alert.priority ≠ "" && alert.priority ≠ "default"

/-- The lines Slack and Telegram are sent. -/
def plainText (title : String) (alert : Alert) : String :=
  "\n".intercalate ([title,alert.body] ++
    (if hasPriority alert then ["Priority: " ++ alert.priority] else []) ++
    (if alert.tags ≠ "" then ["Tags: " ++ alert.tags] else []))

namespace NtfyClient

variable (c : NtfyClient)

/-- The same kind went out less than the window ago. -/
def Coalesces (kind : String) (asked : Nat) : Prop :=
  Debounce.Held (c.coalesceWindowSecs * microseconds) (c.lastSuccessfulSend kind) asked

instance (kind : String) (asked : Nat) : Decidable (c.Coalesces kind asked) :=
  inferInstanceAs (Decidable (Debounce.Held _ _ _))

def push (alert : Alert) : Push :=
  if alert.actions ≠ [] then
    .ntfyJson c.url c.topic alert.title alert.body alert.actions
      (if hasPriority alert then some (priorityToInt alert.priority) else none)
      (((alert.tags.toList.splitOn ',').map fun tag => strip (String.ofList tag)).filter (· ≠ ""))
      c.token
  else
    .ntfyText (c.url ++ "/" ++ c.topic) alert.title alert.body
      (if hasPriority alert then alert.priority else "") alert.tags c.token

def send (alert : Alert) (kind : String) (x : Exchange) : Bool × NtfyClient × Option Push :=
  if c.Coalesces kind x.asked then (true,c,none)
  else if x.result = .status 200 then
    (true,{ c with lastSuccessfulSend := Function.update c.lastSuccessfulSend kind x.answered },
      some (c.push alert))
  else (false,c,some (c.push alert))

end NtfyClient

namespace NotificationClient

def send (alert : Alert) (kind : String) (x : Exchange) :
    NotificationClient → Bool × NotificationClient × Option Push
  | .null reason => (false,.null reason,none)
  | .ntfy client =>
    let (success,client,push) := client.send alert kind x
    (success,.ntfy client,push)
  | .slack webhookUrl =>
    (decide (x.result = .status 200),.slack webhookUrl,
      some (.slack webhookUrl (plainText ("*" ++ alert.title ++ "*") alert)))
  | .telegram botToken chatId =>
    (decide (x.result = .status 200),.telegram botToken chatId,
      some (.telegram ("https://api.telegram.org/bot" ++ botToken ++ "/sendMessage") chatId
        (plainText ("<b>" ++ alert.title ++ "</b>") alert)))

/-- An alert of this kind makes the client POST. -/
def Posts (kind : String) (asked : Nat) : NotificationClient → Prop
  | .null _ => False
  | .ntfy client => ¬ client.Coalesces kind asked
  | _ => True

instance (kind : String) (asked : Nat) :
    (client : NotificationClient) → Decidable (client.Posts kind asked)
  | .null _ => inferInstanceAs (Decidable False)
  | .ntfy client => inferInstanceAs (Decidable (¬ client.Coalesces kind asked))
  | .slack _ => inferInstanceAs (Decidable True)
  | .telegram _ _ => inferInstanceAs (Decidable True)

/-- The channel is one that POSTs at all. -/
def HasTransport (client : NotificationClient) : Prop := ∀ reason, client ≠ .null reason

variable {client : NotificationClient} {alert : Alert} {kind : String} {x : Exchange}

theorem isSome_push_send :
    (client.send alert kind x).2.2.isSome = decide (client.Posts kind x.asked) := by
  cases client with
  | null reason => rfl
  | ntfy client =>
    simp only [send,Posts,NtfyClient.send]
    by_cases held : client.Coalesces kind x.asked
    · simp [held]
    · by_cases ok : x.result = .status 200 <;> simp [held,ok]
  | slack webhookUrl => rfl
  | telegram botToken chatId => rfl

theorem send_success (transport : client.HasTransport) (ok : x.result = .status 200) :
    (client.send alert kind x).1 = true := by
  cases client with
  | null reason => exact absurd rfl (transport reason)
  | ntfy client =>
    simp only [send,NtfyClient.send,ok,if_true]
    split <;> rfl
  | slack webhookUrl => exact decide_eq_true ok
  | telegram botToken chatId => exact decide_eq_true ok

theorem HasTransport.send (transport : client.HasTransport) :
    (client.send alert kind x).2.1.HasTransport := by
  cases client with
  | null reason => exact absurd rfl (transport reason)
  | ntfy client => exact fun _ => NotificationClient.noConfusion
  | slack webhookUrl => exact fun _ => NotificationClient.noConfusion
  | telegram botToken chatId => exact fun _ => NotificationClient.noConfusion

/-- The window of one kind is not touched by an alert of another. -/
theorem posts_send {other : String} {asked : Nat} (apart : other ≠ kind) :
    (client.send alert kind x).2.1.Posts other asked ↔ client.Posts other asked := by
  cases client with
  | null reason => exact Iff.rfl
  | ntfy client =>
    simp only [send,NtfyClient.send]
    split
    · exact Iff.rfl
    · split
      · simp [Posts,NtfyClient.Coalesces,apart]
      · exact Iff.rfl
  | slack webhookUrl => exact Iff.rfl
  | telegram botToken chatId => exact Iff.rfl

/-- Where nothing is POSTed the client stays as it is. -/
theorem send_silent (silent : ¬ client.Posts kind x.asked) :
    (client.send alert kind x).2.1 = client := by
  cases client with
  | null reason => rfl
  | ntfy client => simp [send,NtfyClient.send,not_not.mp silent]
  | slack webhookUrl => exact absurd trivial silent
  | telegram botToken chatId => exact absurd trivial silent

/-- Those of the modes whose alert is POSTed, when all are sent in this order and answered with
200. -/
def passed (kind : String) (exchanges : String → Exchange) :
    NotificationClient → List String → List String
  | .null _,_ => []
  | .ntfy client,modes =>
    Debounce.passed (client.coalesceWindowSecs * microseconds) (fun mode => (exchanges mode).asked)
      (fun mode => (exchanges mode).answered) (client.lastSuccessfulSend kind) modes
  | .slack _,modes => modes
  | .telegram _ _,modes => modes

theorem passed_sublist (exchanges : String → Exchange) (modes : List String) :
    (client.passed kind exchanges modes).Sublist modes := by
  cases client with
  | null reason => exact List.nil_sublist modes
  | ntfy client => exact Debounce.passed_sublist _ modes
  | slack webhookUrl => exact List.Sublist.refl modes
  | telegram botToken chatId => exact List.Sublist.refl modes

@[simp] theorem passed_nil (exchanges : String → Exchange) :
    client.passed kind exchanges [] = [] := by
  exact List.sublist_nil.mp (passed_sublist exchanges [])

theorem passed_cons {exchanges : String → Exchange} {mode : String}
    (ok : (exchanges mode).result = .status 200) (modes : List String) :
    client.passed kind exchanges (mode :: modes) =
      ((client.send alert kind (exchanges mode)).2.2.map fun _ => mode).toList ++
        (client.send alert kind (exchanges mode)).2.1.passed kind exchanges modes := by
  cases client with
  | null reason => rfl
  | ntfy client =>
    by_cases held : client.Coalesces kind (exchanges mode).asked
    · have kept : Debounce.Held (client.coalesceWindowSecs * microseconds)
          (client.lastSuccessfulSend kind) (exchanges mode).asked := held
      simp [passed,Debounce.passed,send,NtfyClient.send,held,kept]
    · have out : ¬ Debounce.Held (client.coalesceWindowSecs * microseconds)
          (client.lastSuccessfulSend kind) (exchanges mode).asked := held
      simp [passed,Debounce.passed,send,NtfyClient.send,held,out,ok]
  | slack webhookUrl => rfl
  | telegram botToken chatId => rfl

end NotificationClient

end Clients

section Service

structure NotificationEvent where
  timestamp : Nat
  eventType : String
  title : String
  body : String
  priority : String
  success : Bool
deriving DecidableEq

def maxHistory : Nat := 50

structure NotificationService where
  config : NotificationConfig
  client : NotificationClient
  history : List NotificationEvent
  lastSent : String → Option Nat

def cooldownSecs : Nat := 300

def makeClient (config : NotificationConfig) : NotificationClient :=
  if config.channel = "ntfy" then
    .ntfy ⟨rstripSlash config.ntfyUrl,config.ntfyTopic,config.ntfyToken,30,fun _ => 0⟩
  else if config.channel = "slack" then
    if config.slackWebhookUrl = "" then
      .null "Slack channel selected but webhook URL is empty"
    else .slack config.slackWebhookUrl
  else if config.channel = "telegram" then
    if config.telegramBotToken = "" ∨ config.telegramChatId = "" then
      .null "Telegram channel selected but bot token or chat id is empty"
    else .telegram config.telegramBotToken config.telegramChatId
  else .null ("Unsupported notification channel: " ++ config.channel)

namespace NotificationService

def start (config : NotificationConfig) : NotificationService :=
  ⟨config,makeClient config,[],fun _ => none⟩

variable (ns : NotificationService)

def updateConfig (config : NotificationConfig) : NotificationService :=
  { ns with config := config, client := makeClient config }

def isEventEnabled (eventType : String) : Bool :=
  ns.config.enabled && (((ns.config.events.lookup eventType).bind EventSettings.enabled).getD false)

def getEventTimeout (eventType : String) : Nat :=
  ((ns.config.events.lookup eventType).bind EventSettings.timeoutMinutes).getD 0

/-- An alert of this type went out less than the cooldown ago. -/
def Cooling (eventType : String) (now : Nat) : Prop :=
  ∃ sent, ns.lastSent eventType = some sent ∧ now < sent + cooldownSecs * microseconds

instance (eventType : String) (now : Nat) : Decidable (ns.Cooling eventType now) :=
  match sent : ns.lastSent eventType with
  | none => isFalse (by simp [Cooling,sent])
  | some time => decidable_of_iff (now < time + cooldownSecs * microseconds) (by simp [Cooling,sent])

def sendAlert (alert : Alert) (force : Bool) (x : Exchange) :
    Bool × NotificationService × Option Push :=
  if !force && !ns.isEventEnabled alert.eventType then (false,ns,none)
  else if !force ∧ ns.Cooling alert.eventType x.now then (false,ns,none)
  else
    let (success,client,push) := ns.client.send alert alert.eventType x
    let event : NotificationEvent :=
      ⟨x.now,alert.eventType,alert.title,alert.body,alert.priority,success⟩
    let lastSent :=
      if success then Function.update ns.lastSent alert.eventType (some x.now) else ns.lastSent
    (success,⟨ns.config,client,(ns.history ++ [event]).rtake maxHistory,lastSent⟩,push)

variable {ns} {alert : Alert} {force : Bool} {x : Exchange}

/-- An alert that is held back changes nothing. -/
theorem sendAlert_held
    (held : (ns.isEventEnabled alert.eventType = false ∨ ns.Cooling alert.eventType x.now)) :
    ns.sendAlert alert false x = (false,ns,none) := by
  unfold sendAlert
  rcases held with disabled | cooling
  · simp [disabled]
  · simp [cooling]

theorem sendAlert_force :
    (ns.sendAlert alert true x).1 = (ns.client.send alert alert.eventType x).1 ∧
      (ns.sendAlert alert true x).2.1.client = (ns.client.send alert alert.eventType x).2.1 ∧
      (ns.sendAlert alert true x).2.2 = (ns.client.send alert alert.eventType x).2.2 := by
  simp [sendAlert]

@[simp] theorem sendAlert_config : (ns.sendAlert alert force x).2.1.config = ns.config := by
  unfold sendAlert
  split
  · rfl
  · split <;> rfl

/-- A forced alert is POSTed exactly when the client does so. -/
theorem isSome_push_force :
    (ns.sendAlert alert true x).2.2.isSome = decide (ns.client.Posts alert.eventType x.asked) := by
  rw [(@sendAlert_force ns alert x).2.2,NotificationClient.isSome_push_send]

theorem posts_sendAlert {kind : String} {asked : Nat} (apart : kind ≠ alert.eventType) :
    (ns.sendAlert alert force x).2.1.client.Posts kind asked ↔ ns.client.Posts kind asked := by
  unfold sendAlert
  split
  · exact Iff.rfl
  · split
    · exact Iff.rfl
    · exact NotificationClient.posts_send apart

theorem hasTransport_sendAlert (transport : ns.client.HasTransport) :
    (ns.sendAlert alert force x).2.1.client.HasTransport := by
  unfold sendAlert
  split
  · exact transport
  · split
    · exact transport
    · exact transport.send

theorem isEventEnabled_congr {other : NotificationService} (same : other.config = ns.config)
    (eventType : String) : other.isEventEnabled eventType = ns.isEventEnabled eventType := by
  unfold isEventEnabled
  rw [same]

end NotificationService

end Service

end Ibctl.Dashboard
