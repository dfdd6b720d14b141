import Ibctl.Dashboard.Subscription
import Ibctl.Lib.Runs
import Mathlib.Data.List.Induction

/-! The settings of the notifications: they are loaded from a file under the environment, shown with
their secrets masked, replaced by what is posted and saved again. A restart in between is not to be
noticed, a secret is neither to be shown nor to be lost when its mask is posted back. -/
namespace Ibctl.Dashboard

section Settings

/-- A `NotificationConfig` with whatever values a file gives it; the tokens are in `SecretStr`. -/
structure NotificationSettings where
  enabled : Json
  channel : Json
  ntfyUrl : Json
  ntfyTopic : Json
  ntfyToken : Json
  slackWebhookUrl : Json
  telegramBotToken : Json
  telegramChatId : Json
  events : Json

def enabledEvent (on : Bool) (more : List (String × Json)) : Json := .object (("enabled",.bool on) :: more)

namespace NotificationSettings

def initial : NotificationSettings where
  enabled := .bool false
  channel := .string "ntfy"
  ntfyUrl := .string "https://ntfy.sh"
  ntfyTopic := .string "ibctl"
  ntfyToken := .string ""
  slackWebhookUrl := .string ""
  telegramBotToken := .string ""
  telegramChatId := .string ""
  events := .object [("login_failed",enabledEvent true []),
    ("no_clients",enabledEvent true [("timeout_minutes",.number "30")]),
    ("session_lost",enabledEvent true []),("relogin_failed",enabledEvent true []),
    ("warm_restart",enabledEvent false []),("ib_maintenance",enabledEvent false []),
    ("cold_restart_pending",enabledEvent true [("lead_seconds",.number "30")]),
    ("hitl_2fa_required",enabledEvent true [])]

def maskedToken : String := "••••••••"

/-- The dictionary of the settings with some values in the place of the tokens. -/
def document (c : NotificationSettings) (ntfyToken botToken : Json) : Json :=
  .object [("enabled",c.enabled),("channel",c.channel),
    ("ntfy",.object [("url",c.ntfyUrl),("topic",c.ntfyTopic),("token",ntfyToken)]),
    ("slack",.object [("webhook_url",c.slackWebhookUrl)]),
    ("telegram",.object [("bot_token",botToken),("chat_id",c.telegramChatId)]),
    ("events",c.events)]

/-- What Python takes for true, when it reads these numbers as zero. -/
def truthy (zero : String → Bool) : Json → Bool
  | .null => false
  | .bool b => b
  | .number text => !zero text
  | .string s => s ≠ ""
  | .array elements => !elements.isEmpty
  | .object members => !members.isEmpty

def shownToken (zero : String → Bool) (maskToken : Bool) (token : Json) : Json :=
  .string (if maskToken && truthy zero token then maskedToken else "")

def toDict (zero : String → Bool) (maskToken : Bool) (c : NotificationSettings) : Json :=
  c.document (shownToken zero maskToken c.ntfyToken) (shownToken zero maskToken c.telegramBotToken)

/-- `save` puts the tokens themselves into the dictionary without them. -/
def saved (c : NotificationSettings) : Json := c.document c.ntfyToken c.telegramBotToken

/-- A `get` on what is no dictionary raises. -/
def dict : Json → Option Json
  | .object members => some (.object members)
  | _ => none

def fromDict (data : Json) : Option NotificationSettings := do
  let data ← dict data
  let ntfy ← dict ((data.get "ntfy").getD (.object []))
  let slack ← dict ((data.get "slack").getD (.object []))
  let telegram ← dict ((data.get "telegram").getD (.object []))
  return {
    enabled := (data.get "enabled").getD (.bool false)
    channel := (data.get "channel").getD (.string "ntfy")
    ntfyUrl := (ntfy.get "url").getD (.string "https://ntfy.sh")
    ntfyTopic := (ntfy.get "topic").getD (.string "ibctl")
    ntfyToken := (ntfy.get "token").getD (.string "")
    slackWebhookUrl := (slack.get "webhook_url").getD (.string "")
    telegramBotToken := (telegram.get "bot_token").getD (.string "")
    telegramChatId := (telegram.get "chat_id").getD (.string "")
    events := (data.get "events").getD initial.events }

end NotificationSettings

/-- What the file of the settings holds, if it can be read as JSON. -/
inductive SettingsFile where
  | absent
  | unreadable
  | holds (data : Json)

/-- A file that cannot be used is passed over. -/
def SettingsFile.read : SettingsFile → NotificationSettings
  | .holds data => (NotificationSettings.fromDict data).getD .initial
  | _ => .initial

/-- The values that are posted, as pydantic lets them through. -/
structure NotificationConfigRequest where
  enabled : Bool
  channel : String
  ntfyUrl : String
  ntfyTopic : String
  ntfyToken : String
  slackWebhookUrl : String
  telegramBotToken : String
  telegramChatId : String
  events : List (String × Json)

end Settings

section Environment

variable (env : String → Option String)

/-- An environment variable that is set, and not to nothing. -/
def envValue (name : String) : Option String := (env name).filter (fun value => value ≠ "")

def locked (name : String) : Bool := (envValue env name).isSome

def forced : Bool :=
  Text.toLowercase ((env "IBCTL_NOTIFICATIONS_ENABLED").getD "") ∈ ["true","1","yes"]

def overridden (name : String) (value : Json) : Json := ((envValue env name).map Json.string).getD value

/-- The environment has the highest precedence. -/
def overlay (c : NotificationSettings) : NotificationSettings where
  enabled := if forced env then .bool true else c.enabled
  channel := overridden env "IBCTL_NOTIFICATION_CHANNEL" c.channel
  ntfyUrl := overridden env "IBCTL_NTFY_URL" c.ntfyUrl
  ntfyTopic := overridden env "IBCTL_NTFY_TOPIC" c.ntfyTopic
  ntfyToken := overridden env "IBCTL_NTFY_TOKEN" c.ntfyToken
  slackWebhookUrl := overridden env "IBCTL_SLACK_WEBHOOK_URL" c.slackWebhookUrl
  telegramBotToken := overridden env "IBCTL_TELEGRAM_BOT_TOKEN" c.telegramBotToken
  telegramChatId := overridden env "IBCTL_TELEGRAM_CHAT_ID" c.telegramChatId
  events := c.events

def load (file : SettingsFile) : NotificationSettings := overlay env file.read

def envLockedFields : List (String × Bool) :=
  [("channel",locked env "IBCTL_NOTIFICATION_CHANNEL"),("ntfy_url",locked env "IBCTL_NTFY_URL"),
    ("ntfy_topic",locked env "IBCTL_NTFY_TOPIC"),("ntfy_token",locked env "IBCTL_NTFY_TOKEN"),
    ("slack_webhook_url",locked env "IBCTL_SLACK_WEBHOOK_URL"),
    ("telegram_bot_token",locked env "IBCTL_TELEGRAM_BOT_TOKEN"),
    ("telegram_chat_id",locked env "IBCTL_TELEGRAM_CHAT_ID"),("enabled",forced env)]

/-- Nothing and the mask leave a secret as it is. -/
def real (token : String) : Option String :=
  if token = "" ∨ token = NotificationSettings.maskedToken then none else some token

def resolveSecret (name : String) (new : String) (old : Json) : Json :=
  if locked env name then old else ((real new).map Json.string).getD old

def resolveField (name : String) (new : String) (old : Json) : Json :=
  if locked env name then old else .string new

/-- `enabled` is replaced also where the environment forces it. -/
def replaced (c : NotificationSettings) (body : NotificationConfigRequest) : NotificationSettings where
  enabled := .bool body.enabled
  channel := resolveField env "IBCTL_NOTIFICATION_CHANNEL" body.channel c.channel
  ntfyUrl := resolveField env "IBCTL_NTFY_URL" body.ntfyUrl c.ntfyUrl
  ntfyTopic := resolveField env "IBCTL_NTFY_TOPIC" body.ntfyTopic c.ntfyTopic
  ntfyToken := resolveSecret env "IBCTL_NTFY_TOKEN" body.ntfyToken c.ntfyToken
  slackWebhookUrl := resolveField env "IBCTL_SLACK_WEBHOOK_URL" body.slackWebhookUrl c.slackWebhookUrl
  telegramBotToken := resolveSecret env "IBCTL_TELEGRAM_BOT_TOKEN" body.telegramBotToken c.telegramBotToken
  telegramChatId := resolveField env "IBCTL_TELEGRAM_CHAT_ID" body.telegramChatId c.telegramChatId
  events := .object body.events

end Environment

section Running

/-- The environment of the process, the file and the settings in use. -/
structure SettingsState where
  env : String → Option String
  file : SettingsFile
  config : NotificationSettings

/-- Settings are posted, and where they cannot be saved, the file is left in some way; or the
dashboard starts anew. -/
inductive SettingsEvent where
  | posted (body : NotificationConfigRequest) (unsaved : Option SettingsFile)
  | restarted (env : String → Option String)

namespace SettingsState

def boot (env : String → Option String) (file : SettingsFile) : SettingsState := ⟨env,file,load env file⟩

def step (s : SettingsState) : SettingsEvent → SettingsState
  | .posted body unsaved =>
    let config := replaced s.env s.config body
    ⟨s.env,unsaved.getD (.holds config.saved),config⟩
  | .restarted env => boot env s.file

/-- What `get_notification_config` answers. -/
def getNotificationConfig (zero : String → Bool) (s : SettingsState) : Json × List (String × Bool) :=
  (s.config.toDict zero true,envLockedFields s.env)

end SettingsState

end Running

section Durability

open SettingsState

variable {env : String → Option String} {file : SettingsFile} {c : NotificationSettings}
  {events : List SettingsEvent} {event : SettingsEvent}

/-- What is saved is read back. -/
theorem read_saved (c : NotificationSettings) : (SettingsFile.holds c.saved).read = c := rfl

theorem overridden_locked {name : String} (own : locked env name = true) (value value' : Json) :
    overridden env name value = overridden env name value' := by
  unfold overridden
  obtain ⟨text,set_⟩ := Option.isSome_iff_exists.mp own
  rw [set_]
  rfl

theorem overridden_free {name : String} (free : locked env name = false) (value : Json) :
    overridden env name value = value := by
  unfold overridden
  rw [Option.isSome_eq_false_iff.mp free |> Option.isNone_iff_eq_none.mp]
  rfl

theorem overridden_twice (name : String) (value : Json) :
    overridden env name (overridden env name value) = overridden env name value := by
  cases own : locked env name with
  | true => exact overridden_locked own _ _
  | false => exact overridden_free own _

/-- The settings that the environment gives are in place; only `enabled` may differ from it. -/
def Overlaid (env : String → Option String) (c : NotificationSettings) : Prop :=
  overlay env c = { c with enabled := if forced env then .bool true else c.enabled }

theorem overlaid_overlay (c : NotificationSettings) : Overlaid env (overlay env c) := by
  unfold Overlaid
  conv_lhs => unfold overlay
  simp only [overlay,overridden_twice]

theorem overridden_resolveField {name : String} (new : String) {old : Json}
    (kept : overridden env name old = old) :
    overridden env name (resolveField env name new old) = resolveField env name new old := by
  unfold resolveField
  cases own : locked env name with
  | true => exact kept
  | false => exact overridden_free own _

theorem overridden_resolveSecret {name : String} (new : String) {old : Json}
    (kept : overridden env name old = old) :
    overridden env name (resolveSecret env name new old) = resolveSecret env name new old := by
  unfold resolveSecret
  cases own : locked env name with
  | true => exact kept
  | false => exact overridden_free own _

/-- Posting respects what the environment gives. -/
theorem Overlaid.replaced (overlaid : Overlaid env c) (body : NotificationConfigRequest) :
    Overlaid env (replaced env c body) := by
  unfold Overlaid overlay at overlaid
  simp only [NotificationSettings.mk.injEq,and_true,true_and] at overlaid
  obtain ⟨channel,url,topic,token,webhook,bot,chat⟩ := overlaid
  unfold Overlaid overlay Ibctl.Dashboard.replaced
  simp only [overridden_resolveField _ channel,overridden_resolveField _ url,overridden_resolveField _ topic,
    overridden_resolveField _ webhook,overridden_resolveField _ chat,overridden_resolveSecret _ token,
    overridden_resolveSecret _ bot]

theorem replaced_enabled (c : NotificationSettings) (enabled : Json) (body : NotificationConfigRequest) :
    replaced env { c with enabled := enabled } body = replaced env c body := rfl

/-- Every post is saved, and the environment stays as it is. -/
def Steady (env : String → Option String) : SettingsEvent → Prop
  | .posted _ unsaved => unsaved = none
  | .restarted env' => env' = env

def isPost : SettingsEvent → Bool
  | .posted _ _ => true
  | .restarted _ => false

def endsRestarted (events : List SettingsEvent) : Bool := (events.getLast?.map fun event => !isPost event).getD false

/-- What the restarts leave of a run, beside the one without them. -/
structure Survives (env : String → Option String) (restarted : Bool) (s p : SettingsState) : Prop where
  same : s.env = env
  same' : p.env = env
  overlaid : Overlaid env p.config
  file : overlay env s.file.read =
    { p.config with enabled := if forced env then .bool true else p.config.enabled }
  config : s.config =
    { p.config with enabled := if forced env && restarted then .bool true else p.config.enabled }

theorem survives_boot : Survives env false (boot env file) (boot env file) where
  same := rfl
  same' := rfl
  overlaid := overlaid_overlay _
  file := by
    unfold boot load overlay
    cases forced env <;> rfl
  config := by
    rw [Bool.and_false]
    rfl

theorem Survives.posted {restarted : Bool} {s p : SettingsState} (survives : Survives env restarted s p)
    (body : NotificationConfigRequest) :
    Survives env false (s.step (.posted body none)) (p.step (.posted body none)) where
  same := survives.same
  same' := survives.same'
  overlaid := by
    unfold step
    rw [survives.same']
    exact survives.overlaid.replaced body
  file := by
    have overlaid := survives.overlaid.replaced body
    unfold step
    dsimp only
    rw [Option.getD_none,read_saved,survives.same,survives.same',survives.config,replaced_enabled]
    exact overlaid
  config := by
    unfold step
    dsimp only
    rw [survives.same,survives.same',survives.config,replaced_enabled,Bool.and_false]
    rfl

theorem Survives.restarted {restarted : Bool} {s p : SettingsState} (survives : Survives env restarted s p) :
    Survives env true (s.step (.restarted env)) p where
  same := rfl
  same' := survives.same'
  overlaid := survives.overlaid
  file := survives.file
  config := by
    rw [Bool.and_true]
    exact survives.file

theorem survives_run (steady : ∀ event ∈ events, Steady env event) :
    Survives env (endsRestarted events) (Runs.run step (boot env file) events)
      (Runs.run step (boot env file) (events.filter isPost)) := by
  induction events using List.reverseRecOn with
  | nil => exact survives_boot
  | append_singleton events event ih =>
    have survives := ih fun other member => steady other (by simp [member])
    have last := steady event (by simp)
    unfold endsRestarted
    rw [Runs.run_concat,List.filter_append,List.getLast?_concat]
    cases event with
    | posted body unsaved =>
      cases (show unsaved = none from last)
      have kept : [SettingsEvent.posted body none].filter isPost = [.posted body none] := rfl
      rw [kept,Runs.run_concat]
      exact survives.posted body
    | restarted env' =>
      cases (show env' = env from last)
      have dropped : [SettingsEvent.restarted env].filter isPost = [] := rfl
      rw [dropped,List.append_nil]
      exact survives.restarted

/-- A restart is not noticed: the settings in use are those of the posts alone, but that a restart
after the last post brings `enabled` back where the environment forces it. -/
theorem restarts_unnoticed (file : SettingsFile) (steady : ∀ event ∈ events, Steady env event) :
    (Runs.run step (boot env file) events).config =
      { (Runs.run step (boot env file) (events.filter isPost)).config with
        enabled := if forced env && endsRestarted events then .bool true
          else (Runs.run step (boot env file) (events.filter isPost)).config.enabled } :=
  (survives_run steady).config

/-- Notifications are forced on, and the topic is given. -/
def givenEnv (name : String) : Option String :=
  if name = "IBCTL_NOTIFICATIONS_ENABLED" then some "Yes"
  else if name = "IBCTL_NTFY_TOPIC" then some "gateway"
  else none

def postedToken (ntfyToken : String) : NotificationConfigRequest where
  enabled := false
  channel := "ntfy"
  ntfyUrl := "https://ntfy.sh"
  ntfyTopic := "ibctl"
  ntfyToken := ntfyToken
  slackWebhookUrl := ""
  telegramBotToken := ""
  telegramChatId := ""
  events := []

/-- A token is posted, and its mask is posted back after a restart. -/
def maskedBack : List SettingsEvent :=
  [.posted (postedToken "tk_1") none,.restarted givenEnv,
    .posted (postedToken NotificationSettings.maskedToken) none,.restarted givenEnv]

theorem maskedBack_steady : ∀ event ∈ maskedBack, Steady givenEnv event := by
  intro event member
  simp only [maskedBack,List.mem_cons,List.not_mem_nil,or_false] at member
  rcases member with rfl | rfl | rfl | rfl <;> rfl

theorem maskedBack_unnoticed :
    (Runs.run step (boot givenEnv .absent) maskedBack).config =
      { (Runs.run step (boot givenEnv .absent) (maskedBack.filter isPost)).config with
        enabled := if forced givenEnv && endsRestarted maskedBack then .bool true
          else (Runs.run step (boot givenEnv .absent) (maskedBack.filter isPost)).config.enabled } :=
  restarts_unnoticed .absent maskedBack_steady

end Durability

section Secrets

open SettingsState

variable {env : String → Option String} {file : SettingsFile} {events : List SettingsEvent}

inductive Secret where
  | ntfyToken
  | telegramBotToken
deriving DecidableEq

namespace Secret

def variableName : Secret → String
  | ntfyToken => "IBCTL_NTFY_TOKEN"
  | telegramBotToken => "IBCTL_TELEGRAM_BOT_TOKEN"

def of (c : NotificationSettings) : Secret → Json
  | ntfyToken => c.ntfyToken
  | telegramBotToken => c.telegramBotToken

def posted (body : NotificationConfigRequest) : Secret → String
  | ntfyToken => body.ntfyToken
  | telegramBotToken => body.telegramBotToken

/-- The new value of the secret that an event submits, which is neither nothing nor its mask. -/
def submitted (secret : Secret) : SettingsEvent → Option Json
  | .posted body _ => (real (posted body secret)).map .string
  | .restarted _ => none

end Secret

variable {secret : Secret}

theorem secret_replaced (c : NotificationSettings) (body : NotificationConfigRequest) (unsaved : Option SettingsFile) :
    secret.of (replaced env c body) =
      if locked env secret.variableName then secret.of c
      else Runs.register secret.submitted (secret.of c) (.posted body unsaved) := by
  cases secret <;> rfl

theorem secret_posts {s : SettingsState} (posts : ∀ event ∈ events, isPost event = true) :
    secret.of (Runs.run step s events).config =
      if locked s.env secret.variableName then secret.of s.config
      else ((events.filterMap secret.submitted).getLast?).getD (secret.of s.config) := by
  rw [← Runs.run_register]
  induction events generalizing s with
  | nil => exact (ite_self _).symm
  | cons event events ih =>
    have rest : ∀ event ∈ events, isPost event = true := fun other member => posts other (by simp [member])
    cases event with
    | restarted env' => cases posts (.restarted env') (by simp)
    | posted body unsaved =>
      have next : secret.of (s.step (.posted body unsaved)).config =
          if locked s.env secret.variableName then secret.of s.config
          else Runs.register secret.submitted (secret.of s.config) (.posted body unsaved) :=
        secret_replaced s.config body unsaved
      have same : (s.step (.posted body unsaved)).env = s.env := rfl
      rw [Runs.run_cons,Runs.run_cons,ih rest,same,next]
      split <;> rfl

theorem submitted_posts (events : List SettingsEvent) :
    (events.filter isPost).filterMap secret.submitted = events.filterMap secret.submitted := by
  rw [List.filterMap_filter]
  congr 1
  funext event
  cases event <;> rfl

/-- A secret is that of the environment, else the last one that was really submitted, else the one
that was loaded at the start: no restart and no mask or gap that is posted loses it. -/
theorem secret_kept (file : SettingsFile) (secret : Secret) (steady : ∀ event ∈ events, Steady env event) :
    secret.of (Runs.run step (boot env file) events).config =
      if locked env secret.variableName then secret.of (load env file)
      else ((events.filterMap secret.submitted).getLast?).getD (secret.of (load env file)) := by
  have posts : ∀ event ∈ events.filter isPost, isPost event = true := fun event member =>
    (List.mem_filter.mp member).2
  have unnoticed : secret.of (Runs.run step (boot env file) events).config =
      secret.of (Runs.run step (boot env file) (events.filter isPost)).config := by
    rw [restarts_unnoticed file steady]
    cases secret <;> rfl
  rw [unnoticed,secret_posts posts,submitted_posts]
  rfl

theorem maskedBack_kept :
    Secret.ntfyToken.of (Runs.run step (boot givenEnv .absent) maskedBack).config =
      if locked givenEnv Secret.ntfyToken.variableName then Secret.ntfyToken.of (load givenEnv .absent)
      else ((maskedBack.filterMap Secret.ntfyToken.submitted).getLast?).getD
        (Secret.ntfyToken.of (load givenEnv .absent)) :=
  secret_kept .absent .ntfyToken maskedBack_steady

example : Secret.ntfyToken.of (Runs.run step (boot givenEnv .absent) maskedBack).config = .string "tk_1" := rfl

end Secrets

section Masking

open SettingsState

variable {zero : String → Bool} {env env' : String → Option String} {c c' : NotificationSettings}
  {s s' : SettingsState} {event event' : SettingsEvent} {events events' : List SettingsEvent}

/-- Two settings that differ at most in what their secrets are. -/
structure Alike (zero : String → Bool) (c c' : NotificationSettings) : Prop where
  rest : c' = { c with ntfyToken := c'.ntfyToken, telegramBotToken := c'.telegramBotToken }
  set_ : ∀ secret : Secret,
    NotificationSettings.truthy zero (secret.of c') = NotificationSettings.truthy zero (secret.of c)

/-- Two environments that differ at most in what the secrets are. -/
structure AlikeEnv (env env' : String → Option String) : Prop where
  rest : ∀ name, name ≠ Secret.ntfyToken.variableName → name ≠ Secret.telegramBotToken.variableName →
    env' name = env name
  set_ : ∀ secret : Secret, locked env' secret.variableName = locked env secret.variableName

/-- Two posts that differ at most in what the new secrets are, and leave alike files where they are
not saved; or two restarts in alike environments. -/
inductive AlikeEvent (zero : String → Bool) : SettingsEvent → SettingsEvent → Prop
  | posted {body body' : NotificationConfigRequest} {unsaved unsaved' : Option SettingsFile}
      (rest : body' = { body with ntfyToken := body'.ntfyToken, telegramBotToken := body'.telegramBotToken })
      (new : ∀ secret : Secret, (real (secret.posted body')).isSome = (real (secret.posted body)).isSome)
      (left : Option.Rel (fun file file' => Alike zero file.read file'.read) unsaved unsaved') :
      AlikeEvent zero (.posted body unsaved) (.posted body' unsaved')
  | restarted {env env' : String → Option String} (alike : AlikeEnv env env') :
      AlikeEvent zero (.restarted env) (.restarted env')

structure AlikeState (zero : String → Bool) (s s' : SettingsState) : Prop where
  env : AlikeEnv s.env s'.env
  file : Alike zero s.file.read s'.file.read
  config : Alike zero s.config s'.config

theorem AlikeEnv.locked (alike : AlikeEnv env env') (name : String) :
    locked env' name = locked env name := by
  by_cases first : name = Secret.ntfyToken.variableName
  · rw [first]
    exact alike.set_ .ntfyToken
  by_cases second : name = Secret.telegramBotToken.variableName
  · rw [second]
    exact alike.set_ .telegramBotToken
  unfold Ibctl.Dashboard.locked envValue
  rw [alike.rest name first second]

theorem AlikeEnv.forced (alike : AlikeEnv env env') : forced env' = forced env := by
  unfold Ibctl.Dashboard.forced
  rw [alike.rest _ (by decide) (by decide)]

theorem AlikeEnv.overridden (alike : AlikeEnv env env') (name : String)
    (first : name ≠ Secret.ntfyToken.variableName) (second : name ≠ Secret.telegramBotToken.variableName)
    (value : Json) : overridden env' name value = overridden env name value := by
  unfold Ibctl.Dashboard.overridden envValue
  rw [alike.rest name first second]

theorem truthy_overridden (alike : AlikeEnv env env') (secret : Secret) {old old' : Json}
    (same : NotificationSettings.truthy zero old' = NotificationSettings.truthy zero old) :
    NotificationSettings.truthy zero (overridden env' secret.variableName old') =
      NotificationSettings.truthy zero (overridden env secret.variableName old) := by
  have filled : ∀ {env : String → Option String} {old : Json}, locked env secret.variableName = true →
      NotificationSettings.truthy zero (overridden env secret.variableName old) = true := by
    intro env old own
    obtain ⟨text,set_⟩ := Option.isSome_iff_exists.mp own
    unfold overridden
    rw [set_]
    exact (Option.filter_eq_some_iff.mp set_).2
  have own := alike.locked secret.variableName
  cases here : locked env secret.variableName with
  | true => rw [filled here,filled (own.trans here)]
  | false => rw [overridden_free here,overridden_free (own.trans here),same]

theorem truthy_resolveSecret (alike : AlikeEnv env env') (name : String) {new new' : String} {old old' : Json}
    (fresh : (real new').isSome = (real new).isSome)
    (same : NotificationSettings.truthy zero old' = NotificationSettings.truthy zero old) :
    NotificationSettings.truthy zero (resolveSecret env' name new' old') =
      NotificationSettings.truthy zero (resolveSecret env name new old) := by
  have filled : ∀ {new token : String}, real new = some token →
      NotificationSettings.truthy zero (.string token) = true := by
    intro new token submitted
    unfold real at submitted
    split at submitted
    · cases submitted
    · rename_i fresh
      cases submitted
      exact decide_eq_true fun none_ => fresh (.inl none_)
  unfold resolveSecret
  rw [alike.locked name]
  split
  · exact same
  · cases here : real new with
    | none =>
      rw [here] at fresh
      rw [Option.isSome_eq_false_iff.mp fresh |> Option.isNone_iff_eq_none.mp]
      exact same
    | some token =>
      rw [here] at fresh
      obtain ⟨token',there⟩ := Option.isSome_iff_exists.mp fresh
      rw [there]
      exact (filled there).trans (filled here).symm

/-- Loading adds nothing to the difference. -/
theorem Alike.overlay (alike : Alike zero c c') (environment : AlikeEnv env env') :
    Alike zero (overlay env c) (overlay env' c') := by
  constructor
  · rw [alike.rest]
    unfold Ibctl.Dashboard.overlay
    simp only [environment.forced,
      environment.overridden "IBCTL_NOTIFICATION_CHANNEL" (by decide) (by decide),
      environment.overridden "IBCTL_NTFY_URL" (by decide) (by decide),
      environment.overridden "IBCTL_NTFY_TOPIC" (by decide) (by decide),
      environment.overridden "IBCTL_SLACK_WEBHOOK_URL" (by decide) (by decide),
      environment.overridden "IBCTL_TELEGRAM_CHAT_ID" (by decide) (by decide)]
  · intro secret
    have same := truthy_overridden environment secret (alike.set_ secret)
    cases secret <;> exact same

/-- Posting adds nothing to the difference. -/
theorem Alike.replaced (alike : Alike zero c c') (environment : AlikeEnv env env')
    {body body' : NotificationConfigRequest}
    (rest : body' = { body with ntfyToken := body'.ntfyToken, telegramBotToken := body'.telegramBotToken })
    (new : ∀ secret : Secret, (real (secret.posted body')).isSome = (real (secret.posted body)).isSome) :
    Alike zero (replaced env c body) (replaced env' c' body') := by
  constructor
  · rw [alike.rest,rest]
    unfold Ibctl.Dashboard.replaced resolveField
    simp only [environment.locked]
  · intro secret
    have same := truthy_resolveSecret environment secret.variableName (new secret) (alike.set_ secret)
    cases secret <;> exact same

theorem AlikeState.step (alike : AlikeState zero s s') (same : AlikeEvent zero event event') :
    AlikeState zero (s.step event) (s'.step event') := by
  cases same with
  | posted rest new left =>
    have config := alike.config.replaced alike.env rest new
    refine ⟨alike.env,?_,config⟩
    cases left with
    | none => exact config
    | some files => exact files
  | restarted environment => exact ⟨environment,alike.file,alike.file.overlay environment⟩

/-- What is shown tells of a secret only whether there is one. -/
theorem AlikeState.shown (alike : AlikeState zero s s') :
    s'.getNotificationConfig zero = s.getNotificationConfig zero := by
  have tokens := fun secret => alike.config.set_ secret
  unfold getNotificationConfig NotificationSettings.toDict NotificationSettings.shownToken envLockedFields
  rw [show NotificationSettings.truthy zero s'.config.ntfyToken = _ from tokens .ntfyToken,
    show NotificationSettings.truthy zero s'.config.telegramBotToken = _ from tokens .telegramBotToken]
  simp only [alike.env.locked,alike.env.forced]
  rw [alike.config.rest]
  rfl

/-- However settings are posted, saved or not, and the dashboard is restarted: nothing that is shown
depends on a secret, in the environment, in the file or posted, but for whether it is set. -/
theorem shown_alike (environment : AlikeEnv env env') {file file' : SettingsFile}
    (files : Alike zero file.read file'.read) (alike : List.Forall₂ (AlikeEvent zero) events events') :
    (Runs.run step (boot env' file') events').getNotificationConfig zero =
      (Runs.run step (boot env file) events).getNotificationConfig zero := by
  have start : AlikeState zero (boot env file) (boot env' file') :=
    ⟨environment,files,files.overlay environment⟩
  generalize boot env file = s at start
  generalize boot env' file' = s' at start
  induction alike generalizing s s' with
  | nil => exact start.shown
  | cons same rest ih => exact ih _ _ (start.step same)

/-- Another ntfy token is posted, and the token of the bot in the environment is another one. -/
theorem otherTokens_shown :
    (Runs.run step (boot (fun name => if name = "IBCTL_TELEGRAM_BOT_TOKEN" then some "2:b" else none) .absent)
        [.posted (postedToken "tk_2") none]).getNotificationConfig (fun text => text = "0") =
      (Runs.run step (boot (fun name => if name = "IBCTL_TELEGRAM_BOT_TOKEN" then some "1:a" else none) .absent)
        [.posted (postedToken "tk_1") none]).getNotificationConfig (fun text => text = "0") := by
  refine shown_alike ⟨?_,?_⟩ ⟨rfl,fun _ => rfl⟩ (.cons (.posted rfl ?_ .none) .nil)
  · intro name _ other
    exact (if_neg other).trans (if_neg other).symm
  · intro secret
    cases secret <;> decide
  · intro secret
    cases secret <;> decide

end Masking

end Ibctl.Dashboard
