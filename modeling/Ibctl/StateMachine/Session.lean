import Ibctl.Lib.Task
import Ibctl.StateMachine.Observation
import Ibctl.StateMachine.Revocation
import Ibctl.StateMachine.TimeSync

/-! What a state's handler works on: the fields it may write, the ones it only reads, the
answers of the world around it and what it does to that world. The types keep a handler
away from the state, the coordinator, the pause and the history, which the main loop owns. -/
namespace Ibctl.Machine
open Tasks

/-- The fields handlers write. -/
structure Session where
  stateEnteredAt : Instant
  returnState : Option State
  socatRunning : Bool
  configRetries : Nat
  cachedClientIds : List String
  warmRestartPending : Option String
  clientIdTask : Bool
  reloginAttempts : Nat
  connectedWindowClass : Option String
  twofaDeviceSelected : Bool
  twofaSeen : Bool
  twofaGoneAt : Option Instant
  twofaRetryNotBefore : Option Instant
  twofaRetryWaitingForScreen : Bool
  popupLastDismissed : Option Instant
  consecutiveAgentFailures : Nat
  observation : AgentObservation
  stats : Stats
  revocation : RevocationTracker
  consecutive2faTimeouts : Nat
  consecutiveJvmRestarts : Nat
  settingsGoodMarked : Bool
  hitlEnteredAt : Option Instant
  hitlNextRetryAt : Option Instant
  hitlIntervalsIndex : Nat
  hitlLoginFormObservationTicks : Nat
  hitlConnectedObservationTicks : Nat
  apiPortProbeFailed : Bool
deriving DecidableEq, Repr

/-- The fields handlers only read. -/
structure Frame where
  config : Config
  ibAvailable : Bool
  connectedContinuouslySince : Option Instant
  connectionEventDisconnected : Bool

structure ApiConfigReport where
  precautionLabelsNotFound : Nat
  readOnlyApiLabelNotFound : Nat
deriving DecidableEq, Repr

/-- What the world answers to each call: the clocks, the process, the agent and its dialog
handlers, and the client refresh task. -/
structure Answers where
  now : Nat → Instant
  wall : Nat → Zoned
  twsPathExists : Nat → Bool
  isRunning : Nat → Bool
  launch : Nat → Except String Unit
  findAutorestartPath : Nat → Option String
  health : Nat → Except AgentError Bool
  listWindows : Nat → Except AgentError (List WindowInfo)
  dumpComponents : Nat → Except AgentError Json
  selectListItem : Nat → Except AgentError Bool
  dispatch : Nat → Option (Except HandlerError HandlerResult)
  dispatchNamed : Nat → Option (Except HandlerError HandlerResult)
  applyApiConfig : Nat → Except String ApiConfigReport
  socatAlive : Nat → Bool
  spawnSocat : Nat → Bool
  clientIds : Nat → Option (List String)

inductive Effect where
  | launched (restartHash : Option String)
  | killedJvm
  | clicked (window : WindowId) (button : String)
  | sentKey (window : WindowId) (key : String)
  | dispatched (window : WindowInfo)
  | dispatchedNamed (handler : String) (window : WindowInfo)
  | registryReset
  | appliedApiConfig
  | containerRecycle (restarts : Nat)
deriving DecidableEq, Repr

abbrev Step := Task Answers Effect StateMachineError Session

/-- Addition that stops at the largest value of so many bits. -/
def saturatingSucc (bits n : Nat) : Nat := min (n + 1) (2 ^ bits - 1)

namespace Step

def elapsed (since : Instant) : Step Duration := do
  let now ← Task.ask Answers.now
  return now.durationSince since

def abortClientIdTask : Step Unit := Task.update fun s => { s with clientIdTask := false }

def stopSocat : Step Unit := Task.update fun s => { s with socatRunning := false }

def startSocat : Step Unit := do
  stopSocat
  let spawned ← Task.ask Answers.spawnSocat
  if spawned then Task.update fun s => { s with socatRunning := true }

def resetRegistry : Step Unit := Task.emit .registryReset

def listWindows : Step (Except AgentError (List WindowInfo)) := Task.await Answers.listWindows

def dumpComponents : Step (Except AgentError Json) := Task.await Answers.dumpComponents

def clickButton (window : WindowId) (label : String) : Step Unit := do
  Task.sleep
  Task.emit (.clicked window label)

def killJvm : Step Unit := do
  Task.sleep
  Task.emit .killedJvm

def dispatch (window : WindowInfo) : Step (Option (Except HandlerError HandlerResult)) := do
  Task.emit (.dispatched window)
  Task.await Answers.dispatch

def dispatchNamed (handler : String) (window : WindowInfo) :
    Step (Option (Except HandlerError HandlerResult)) := do
  Task.emit (.dispatchedNamed handler window)
  Task.await Answers.dispatchNamed

def findByComponents (test : Json → Bool) : List WindowInfo → Step (Option WindowInfo)
  | [] => return none
  | window :: rest => do
    match ← dumpComponents with
    | .ok components => if test components then return some window else findByComponents test rest
    | .error _ => findByComponents test rest

def dumps : List WindowInfo → Step (List Json)
  | [] => return []
  | _ :: rest => do
    match ← dumpComponents with
    | .ok components => return components :: (← dumps rest)
    | .error _ => dumps rest

def gatewayWindows (windows : List WindowInfo) : List WindowInfo :=
  windows.filter (fun w => isGatewayTitle w.title)

def dismissMenus : Step Unit := do
  match ← listWindows with
  | .error _ => return
  | .ok windows =>
    match (gatewayWindows windows).head? with
    | none => return
    | some window =>
      Task.sleep
      Task.emit (.sentKey window.id "escape")

def checkBlockingDialog : Step (Option State) := do
  match ← listWindows with
  | .error _ => return none
  | .ok windows => return windows.findSome? (fun w => classifyBlockingDialog w.title)

end Step

end Ibctl.Machine
