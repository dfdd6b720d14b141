import Ibctl.Handlers.IbcCompat

/-! The other dialog handlers, and the registry with all of them in their order. -/
namespace Ibctl.Handlers
open Tasks Task Machine

inductive SessionAction where
  | primary
  | secondary
  | primaryOverride
deriving DecidableEq, Repr

inductive AcceptIncoming where
  | accept
  | reject
  | manual
deriving DecidableEq, Repr

/-- The handler of one kind of title that clicks the first button there is. -/
def clickAnyOf (window : WindowInfo) (labels : List String) (missing : String) : Handle HandlerResult := do
  if ← clickFirst window.id labels then return .handled
  return .error missing

namespace SessionConflictHandler

def canHandle (window : WindowInfo) : Bool :=
  titleContains window.title ["existing session","session conflict","another session"]

def buttonCandidates : SessionAction → List String
  | .secondary => ["Cancel","Exit Application"]
  | _ => ["Reconnect This Session","Continue Login","OK"]

def handle (action : SessionAction) (window : WindowInfo) : Handle HandlerResult :=
  clickAnyOf window (buttonCandidates action) "no matching button found"

def registered (action : SessionAction) : DialogHandler :=
  ⟨"SessionConflictHandler",fun _ => canHandle,handle action⟩

end SessionConflictHandler

namespace ReloginHandler

def canHandle (window : WindowInfo) : Bool :=
  titleContains window.title ["re-login","relogin","login is required"]

def handle (window : WindowInfo) : Handle HandlerResult := do
  let _ ← clickFirst window.id ["Cancel","OK"]
  return .handled

def registered : DialogHandler := ⟨"ReloginHandler",fun _ => canHandle,handle⟩

end ReloginHandler

namespace SslReconnectHandler

def canHandle (window : WindowInfo) : Bool := titleContains window.title ["ssl","encryption"]

def handle (window : WindowInfo) : Handle HandlerResult :=
  clickAnyOf window ["Reconnect using SSL","OK"] "no matching button"

def registered : DialogHandler := ⟨"SslReconnectHandler",fun _ => canHandle,handle⟩

end SslReconnectHandler

namespace TipOfDayHandler

def canHandle (window : WindowInfo) : Bool := titleContains window.title ["tip of the day","tips"]

/-- OK is clicked where the click on Close fails, not where there is no such button. -/
def handle (window : WindowInfo) : Handle HandlerResult := do
  match ← clickButton window.id "Close" with
  | .ok _ => return .handled
  | .error _ =>
    let _ ← orFail .agentError (← clickButton window.id "OK")
    return .handled

def registered : DialogHandler := ⟨"TipOfDayHandler",fun _ => canHandle,handle⟩

end TipOfDayHandler

namespace AcceptConnectionHandler

def canHandle (window : WindowInfo) : Bool :=
  titleContains window.title ["accept incoming connection","api connection","incoming connection"]

def handle (action : AcceptIncoming) (window : WindowInfo) : Handle HandlerResult :=
  match action with
  | .manual => return .notApplicable
  | .reject => do
    let _ ← orFail .agentError (← clickButton window.id "Reject")
    return .handled
  | .accept => do
    let _ ← orFail .agentError (← clickButton window.id "Accept")
    return .handled

def registered (action : AcceptIncoming) : DialogHandler :=
  ⟨"AcceptConnectionHandler",fun _ => canHandle,handle action⟩

end AcceptConnectionHandler

namespace PaperWarningHandler

def canHandle (window : WindowInfo) : Bool :=
  !titleContains window.title ["configuration"] &&
    titleContains window.title ["paper trading","non-brokerage","warning"]

def handle (window : WindowInfo) : Handle HandlerResult :=
  clickAnyOf window ["I understand and accept","OK","Yes","Accept"] "no matching button found"

def registered : DialogHandler := ⟨"PaperWarningHandler",fun _ => canHandle,handle⟩

end PaperWarningHandler

namespace VersionNoticeHandler

def canHandle (window : WindowInfo) : Bool :=
  titleContains window.title ["newer version","update available"] ||
    (titleContains window.title ["version"] && titleContains window.title ["update","upgrade","new"])

/-- A button that is not there counts as clicked; the next one is tried after an error. -/
def clickUntilAnswered (window : WindowInfo) : List String → Handle Bool
  | [] => return false
  | label :: rest => do
    match ← clickButton window.id label with
    | .ok _ => return true
    | .error _ => clickUntilAnswered window rest

def handle (window : WindowInfo) : Handle HandlerResult := do
  if !(← clickUntilAnswered window ["OK","Close","Dismiss"]) then
    emit (.sentKey window.id "Escape")
    let _ ← orFail .agentError (← await Answers.sendKey)
  return .handled

def registered : DialogHandler := ⟨"VersionNoticeHandler",fun _ => canHandle,handle⟩

end VersionNoticeHandler

namespace GatewayNotificationHandler

/-- The main window has the same title, but is larger. -/
def canHandle (window : WindowInfo) : Bool :=
  isGatewayTitle window.title && boundedBy window isSmall

def handle (window : WindowInfo) : Handle HandlerResult := do
  if ← clickFirst window.id ["Close","OK"] then return .handled
  return .notApplicable

def registered : DialogHandler := ⟨"GatewayNotificationHandler",fun _ => canHandle,handle⟩

end GatewayNotificationHandler

/-- What the registry takes from the configuration and the environment. -/
structure DialogHandlerRegistry where
  login : LoginHandler
  totpEntry : TotpEntryHandler
  sessionAction : SessionAction
  acceptIncoming : AcceptIncoming
  policy : DialogPolicy

/-- `DialogHandlerRegistry::with_defaults`. -/
def DialogHandlerRegistry.handlers (self : DialogHandlerRegistry) : List DialogHandler :=
  withDefaults self.login self.totpEntry
    [SessionConflictHandler.registered self.sessionAction,ReloginHandler.registered,
      SslReconnectHandler.registered,TipOfDayHandler.registered,
      IbcCompatibilityDialogHandler.registered ⟨self.policy⟩,
      AcceptConnectionHandler.registered self.acceptIncoming,PaperWarningHandler.registered,
      VersionNoticeHandler.registered,GatewayNotificationHandler.registered]

end Ibctl.Handlers
