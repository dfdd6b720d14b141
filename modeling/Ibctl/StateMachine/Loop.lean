import Ibctl.Lib.Runs
import Ibctl.StateMachine.Machine

/-! The main loop. An iteration runs the prelude, lets an interrupt race against the handler
of the present state, and processes whichever came first after the agent events that
arrived meanwhile. An interrupt wins before the handler starts or at one of its waits. -/
namespace Ibctl.Machine
open Tasks Recovery

variable (codec : MarkerCodec)

namespace StateMachine

def modeTag : TradingMode → String
  | .live => "live"
  | .paper => "paper"
  | .both => "paper"

def new (config : Config) (recoveryConfig : RecoveryConfig) (files : Files.Directory)
    (settingsDir : String) (now : Clocks) : StateMachine where
  session := {
    stateEnteredAt := now.mono
    returnState := none
    socatRunning := false
    configRetries := 0
    cachedClientIds := []
    warmRestartPending := none
    clientIdTask := false
    reloginAttempts := 0
    connectedWindowClass := none
    twofaDeviceSelected := false
    twofaSeen := false
    twofaGoneAt := none
    twofaRetryNotBefore := none
    twofaRetryWaitingForScreen := false
    popupLastDismissed := none
    consecutiveAgentFailures := 0
    observation := .new now.mono
    stats := ⟨0,0⟩
    revocation := .new
    consecutive2faTimeouts := 0
    consecutiveJvmRestarts := 0
    settingsGoodMarked := false
    hitlEnteredAt := none
    hitlNextRetryAt := none
    hitlIntervalsIndex := 0
    hitlLoginFormObservationTicks := 0
    hitlConnectedObservationTicks := 0
    apiPortProbeFailed := false }
  state := .init
  config := config
  pause := ⟨false,none⟩
  ibStatus := ⟨true,"available","",none⟩
  transitionHistory := []
  connectedSince := none
  connectedContinuouslySince := none
  connectionEventDisconnected := false
  coldRestartEquivalentPending := false
  lastColdRestartSkip := none
  apiPortProbeTask := false
  recovery := (RecoveryCoordinator.boot codec files settingsDir (modeTag config.tradingMode)
    recoveryConfig (config.env "IBCTL_RECOVERY_FORCE_RESET") now).1
  files := files
  dwellGuard := none
  dwellQueue := []
  pendingResumeToken := none
  recoveryModeTag := modeTag config.tradingMode

variable (sm : StateMachine)

/-- The gate of a site that does not launch by itself. -/
def launchGate : StateMachine :=
  if sm.config.autoLaunch = false ∧ sm.state = .init then { sm with state := .waitingForLaunch }
  else sm

/-- The gate of a coordinator that refused to reset a give-up. -/
def blockedGate (now : Clocks) : StateMachine :=
  if sm.recovery.blockedAwaitingResume ∧ sm.state ≠ .waitingForLaunch then
    sm.moveTo .waitingForLaunch now
  else sm

def gates (now : Clocks) : StateMachine := sm.launchGate.blockedGate now

end StateMachine

inductive SelectOutcome where
  | interrupted (interrupt : Interrupt)
  | transitioned (result : Except StateMachineError State)
deriving DecidableEq, Repr

/-- The states whose handlers agent events do not cancel. -/
def actionInProgress (state : State) : Bool :=
  state ∈ [.authenticating,.configuringApi,.handlingSessionConflict]

/-- The interrupt the select can take: no agent event while an action is in progress. -/
def Turn.selectable (turn : Turn) (state : State) : Option Interrupt :=
  match turn.interrupt with
  | some (.agentEvent event) =>
    if actionInProgress state then none else some (.agentEvent event)
  | other => other

def Turn.pendingEvents (turn : Turn) (state : State) : List AgentEvent :=
  match turn.interrupt with
  | some (.agentEvent event) =>
    if actionInProgress state then event :: turn.events else turn.events
  | _ => turn.events

namespace StateMachine

variable (sm : StateMachine)

/-- The handler is polled: the machine is not paused, and no interrupt was there before. -/
def polls (turn : Turn) : Bool :=
  !sm.pause.paused && ((turn.selectable sm.state).isNone || turn.schedule.dropAt.isSome)

/-- The handler runs until it returns, or is dropped at the wait where the interrupt came. -/
def runHandler (turn : Turn) : Task.Outcome ConnectedEffect StateMachineError Session State :=
  let schedule := if (turn.selectable sm.state).isNone then { turn.schedule with dropAt := none }
    else turn.schedule
  sm.transition.start schedule sm.session

def select (turn : Turn) : SelectOutcome × StateMachine × List LoopEffect :=
  if sm.polls turn then
    let outcome := sm.runHandler turn
    let after := { sm with session := outcome.state }
    let effects := outcome.effects.map LoopEffect.handler
    match outcome.result,turn.selectable sm.state with
    | .ok next,_ => (.transitioned (.ok next),after,effects)
    | .error (.failed error),_ => (.transitioned (.error error),after,effects)
    | .error .dropped,some interrupt => (.interrupted interrupt,after,effects)
    | .error .dropped,none => (.transitioned (.ok sm.state),after,effects)
  else
    match turn.selectable sm.state with
    | some interrupt => (.interrupted interrupt,sm,[])
    | none => (.transitioned (.ok sm.state),sm,[])

end StateMachine

inductive Status where
  | running
  | stopped
  | failed (error : StateMachineError)
  | panicked
deriving DecidableEq, Repr

structure Process where
  machine : StateMachine
  status : Status

structure Turned where
  process : Process
  effects : List LoopEffect

namespace StateMachine

variable (sm : StateMachine)

def settle (outcome : SelectOutcome) (turn : Turn) : Turned :=
  match outcome with
  | .interrupted interrupt =>
    let (handled,effects) := sm.handleInterrupt interrupt turn
    if handled.state = .shutdown then
      let (ended,ends) := handled.doShutdown turn.isRunning
      ⟨⟨ended,.stopped⟩,effects ++ ends⟩
    else ⟨⟨handled,.running⟩,effects⟩
  | .transitioned (.error error) => ⟨⟨sm,.failed error⟩,[]⟩
  | .transitioned (.ok next) =>
    let (applied,effects) := if next ≠ sm.state then sm.applyTransition next turn else (sm,[])
    ⟨⟨applied,if applied.state = .shutdown then .stopped else .running⟩,effects⟩

def afterPrelude (turn : Turn) : Turned :=
  let (outcome,selected,effects) := sm.select turn
  let fired := selected.fireDwell turn.dwellFiresLater
  let (drained,events) := handleAgentEvents turn.later (turn.pendingEvents sm.state) fired
  let turned := drained.settle outcome turn
  ⟨turned.process,effects ++ events ++ turned.effects⟩

def iterate (turn : Turn) : Turned :=
  match sm.prelude codec turn with
  | none => ⟨⟨sm,.panicked⟩,[]⟩
  | some (ready,effects) =>
    let turned := ready.afterPrelude turn
    ⟨turned.process,effects ++ turned.effects⟩

end StateMachine

namespace Process

def turn (p : Process) (t : Turn) : Turned :=
  match p.status with
  | .running => p.machine.iterate codec t
  | _ => ⟨p,[]⟩

def step (p : Process) (t : Turn) : Process := (p.turn codec t).process

/-- The handler an iteration polls. -/
def handlerRun (p : Process) (t : Turn) : Option State :=
  match p.status,p.machine.prelude codec t with
  | .running,some (ready,_) => if ready.polls t then some ready.state else none
  | _,_ => none

def start (config : Config) (recoveryConfig : RecoveryConfig) (files : Files.Directory)
    (settingsDir : String) (now : Clocks) : Process where
  machine := (StateMachine.new codec config recoveryConfig files settingsDir now).gates now
  status := .running

end Process

end Ibctl.Machine
