import Ibctl.StateMachine.Types
import Ibctl.Lib.Text

/-! What the supervisor knows of the Gateway's windows: the cache that agent events keep,
the window list the agent answers with, and the tests on titles and component dumps. -/
namespace Ibctl.Machine
open Text

structure WindowId where
  id : Nat
deriving DecidableEq, Repr

structure Bounds where
  width : Int
  height : Int
deriving DecidableEq, Repr

structure WindowInfo where
  id : WindowId
  title : String
  className : String
  bounds : Option Bounds
deriving DecidableEq, Repr

structure ObservedWindow where
  id : Nat
  title : String
  className : String
  hasLoginButton : Bool
deriving DecidableEq, Repr

inductive AgentEvent where
  | hello (protocolVersion : Nat)
  | snapshot (seq : Nat) (windows : List ObservedWindow)
  | windowOpened (seq windowId : Nat) (windowTitle windowClass : String) (hasLoginButton : Bool)
  | windowClosed (seq windowId : Nat) (windowTitle : String)
  | overflow
  | keepalive
  | loginFormReady (textFieldCount passwordFieldCount : Nat)
      (loginButton selectedMode : Option String)
  | twofaPrompt (promptType : String) (devices : List String)
  | errorDialog (windowTitle : String) (message : Option String) (buttons : List String)
  | connectionStatusChanged (fromStatus toStatus : String)
deriving DecidableEq, Repr

def titleContains (title : String) (needles : List String) : Bool :=
  needles.any (containsText (toLowercase title))

def isGatewayTitle (title : String) : Bool := titleContains title ["ib gateway","ibkr gateway"]

def isTwofaTitle (title : String) : Bool :=
  titleContains title ["second factor","two-factor","2fa","security code","ib key authenticat",
    "ibkr mobile authenticat","mobile authenticator","verification code","one-time password",
    "one time password","passcode","authentication challenge"]

structure AgentObservation where
  windows : List ObservedWindow
  lastUpdated : Instant
  lastEventSeq : Nat
  synced : Bool
deriving DecidableEq, Repr

namespace AgentObservation

def new (now : Instant) : AgentObservation := ⟨[],now,0,false⟩

variable (self : AgentObservation)

def applySnapshot (windows : List ObservedWindow) (seq : Nat) (now : Instant) : AgentObservation :=
  { windows, lastUpdated := now, lastEventSeq := seq, synced := true }

def windowOpened (window : ObservedWindow) (seq : Nat) (now : Instant) : AgentObservation :=
  { self with windows := self.windows.filter (fun w => w.id ≠ window.id) ++ [window]
              lastEventSeq := seq, lastUpdated := now }

def windowClosed (id seq : Nat) (now : Instant) : AgentObservation :=
  { self with windows := self.windows.filter (fun w => w.id ≠ id)
              lastEventSeq := seq, lastUpdated := now }

def clearLoginButtons : AgentObservation :=
  { self with windows := self.windows.map (fun w => { w with hasLoginButton := false }) }

def markDesync : AgentObservation := { self with synced := false }

def isGatewayWindow (window : ObservedWindow) : Bool :=
  titleContains window.title ["ib gateway","ibkr gateway","interactive brokers gateway"]

def mainGatewayWindow : Option ObservedWindow :=
  self.windows.find? (fun w => isGatewayWindow w && !titleContains w.title ["configuration"])

def hasLoginForm : Bool := self.windows.any (fun w => isGatewayWindow w && w.hasLoginButton)

def has2faDialog : Bool := self.windows.any (fun w => isTwofaTitle w.title)

def hasSessionConflict : Bool := self.windows.any (fun w => titleContains w.title ["existing session"])

def hasReloginDialog : Bool :=
  self.windows.any (fun w => titleContains w.title ["re-login is required","re-login","relogin"])

end AgentObservation

/-- The state a window's title asks for, if it blocks the work of the present one. -/
def classifyBlockingDialog (title : String) : Option State :=
  if titleContains title ["re-login","relogin","login is required"] then some .reconnectingSession
  else if isTwofaTitle title then some .waitingFor2fa
  else none

def nonEmptyArray (components : Json) (key : String) : Bool :=
  match (components.get key).bind Json.asArray with
  | some elements => !elements.isEmpty
  | none => false

def componentsHaveLoginForm (components : Json) : Bool := nonEmptyArray components "textfields"

/-- The label after the first one that names the API server and has a label after it. -/
def statusAfterApiServer : List String → Option String
  | [] => none
  | [_] => none
  | text :: status :: rest =>
    if containsText text "api server" then some status else statusAfterApiServer (status :: rest)

def apiServerRowStatus (components : Json) : Option String :=
  ((components.get "labels").bind Json.asArray).bind
    (fun labels => statusAfterApiServer ((labels.filterMap Json.asStr).map toLowercase))

def componentsIndicateDisconnected (components : Json) : Bool :=
  apiServerRowStatus components = some "disconnected"

def componentsIndicateConnected (components : Json) : Bool :=
  apiServerRowStatus components = some "connected"

def componentsConfirmAuthenticated (components : Json) : Bool :=
  !componentsHaveLoginForm components && componentsIndicateConnected components

def flagOr (field : Json) (key : String) : Bool := ((field.get key).bind Json.asBool).getD true

def looksLikeTwofaComponents (components : Json) : Bool :=
  let fields := (((components.get "textfields").bind Json.asArray).getD []).filter
    (fun field => flagOr field "visible" && flagOr field "enabled" && flagOr field "editable")
  let texts := Json.stringsAt (fun key text => key ≠ some "text" && trim text ≠ "") none components
  let text := toAsciiLowercase (" ".intercalate texts)
  let mentions (needles : List String) : Bool := needles.any (containsText text)
  let hasCodeSemantics := mentions ["security code","authentication code","verification code",
    "one-time code","one time code","one-time password","passcode","enter the code","verification",
    " otp "]
  let looksLikeCredentials := mentions ["username","user name","account username"] &&
    mentions ["password"]
  !fields.isEmpty && hasCodeSemantics && !looksLikeCredentials

end Ibctl.Machine
