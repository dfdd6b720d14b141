import Ibctl.StateMachine.Login
import Ibctl.StateMachine.Established

/-! The whole machine and the parts of it that act between two handlers: the history, the
prelude of an iteration with the tick of the recovery coordinator, the entry into a new
state, and what a command, a signal or an agent event does. -/
namespace Ibctl.Machine
open Tasks Recovery

/-- The task that reports a dwell; dropping its guard aborts it. -/
structure DwellTimer where
  armedAt : Instant
  dwellSecs : Nat
  fired : Bool
deriving DecidableEq, Repr

structure StateMachine where
  session : Session
  state : State
  config : Config
  pause : PauseControl
  ibStatus : IbSystemStatus
  transitionHistory : List Transition
  connectedSince : Option Instant
  connectedContinuouslySince : Option Instant
  connectionEventDisconnected : Bool
  coldRestartEquivalentPending : Bool
  lastColdRestartSkip : Option ColdRestartSkipRecord
  apiPortProbeTask : Bool
  recovery : RecoveryCoordinator
  /-- The settings directory the recovery marker lives in. -/
  files : Files.Directory
  dwellGuard : Option DwellTimer
  dwellQueue : List Clocks
  pendingResumeToken : Option ResumeToken
  recoveryModeTag : String

/-- What the loop itself does to the world, besides what its handlers do. -/
inductive LoopEffect where
  | handler (effect : ConnectedEffect)
  | killedJvm
  | registryReset
  | gaveUp (signal : RecoveryGaveUp)
  | coldRestartEquivalentMarker
  | verifyTime
deriving DecidableEq, Repr

inductive Interrupt where
  | signal (signal : Signal)
  | command (command : Command)
  | coldRestart (signal : ColdRestartSignal)
  | agentEvent (event : AgentEvent)
deriving DecidableEq, Repr

/-- What one iteration of the main loop is given: the clocks at its top and after the
select, the outcomes of its marker writes, the dwell messages that arrive, the answers to
its handler and what the select takes. -/
structure Turn where
  now : Clocks
  later : Clocks
  dwellFires : Option Clocks
  dwellFiresLater : Option Clocks
  dwellIo : Nat → SaveIo
  applyIo : SaveIo
  isRunning : Bool
  spawnSocat : Bool
  schedule : Schedule Answers
  interrupt : Option Interrupt
  events : List AgentEvent

variable (codec : MarkerCodec)

namespace StateMachine

variable (sm : StateMachine)

def frame : Frame where
  config := sm.config
  ibAvailable := sm.ibStatus.available
  connectedContinuouslySince := sm.connectedContinuouslySince
  connectionEventDisconnected := sm.connectionEventDisconnected

/-- The history keeps its last hundred entries. -/
def recordTransition (source target : State) (at_ : Clocks) : StateMachine :=
  if source = target then sm
  else
    let kept := if 100 ≤ sm.transitionHistory.length then sm.transitionHistory.drop 1
      else sm.transitionHistory
    { sm with transitionHistory :=
                kept ++ [⟨asSecond at_.wall.timestamp,source.display,target.display⟩] }

def moveTo (target : State) (at_ : Clocks) : StateMachine :=
  { sm with state := target }.recordTransition sm.state target at_

def abortClientIdTask : StateMachine := { sm with session.clientIdTask := false }

def stopSocat : StateMachine := { sm with session.socatRunning := false }

section Prelude

def checkIbStatusTtl (now : Clocks) : StateMachine :=
  match sm.ibStatus.lastUpdated with
  | none => sm
  | some last =>
    if now.mono.durationSince last > .fromSecs 600 ∧ sm.ibStatus.available = false then
      { sm with ibStatus := { sm.ibStatus with available := true, status := "available", reason := "" } }
    else sm

def checkIbSystemAvailability (now : Clocks) : StateMachine :=
  if sm.ibStatus.available then sm
  else if sm.state ∈ [.waitingForIB,.shutdown,.waitingForLaunch] then sm
  else if sm.state ∈ [.connected,.dismissingPopups,.waitingForApiReady,.configuringApi] ∧
      sm.config.kickActiveSession = false then sm
  else { sm with session.returnState := some sm.state }.moveTo .waitingForIB now

/-- The dwell messages in the channel, each with the outcome of its marker write. A message
counts only while the machine is connected and the coordinator has not given up. -/
def drainDwell (io : Nat → SaveIo) : Nat → List Clocks → StateMachine → StateMachine
  | _,[],sm => { sm with dwellQueue := [] }
  | n,dwell :: rest,sm =>
    if sm.state ≠ .connected then drainDwell io (n + 1) rest sm
    else if sm.recovery.phase = .givenUp then
      drainDwell io (n + 1) rest { sm with dwellGuard := none }
    else
      let effect := sm.recovery.recordSuccess codec sm.files dwell (io n)
      drainDwell io (n + 1) rest { sm with recovery := effect.coord, files := effect.files }

/-- The first part of the tick: the guard of a connection that was left is dropped, and the
dwell messages are taken. -/
def takeDwellSuccesses (turn : Turn) : StateMachine :=
  let guarded := if sm.state ≠ .connected then { sm with dwellGuard := none } else sm
  drainDwell codec turn.dwellIo 0 guarded.dwellQueue guarded

/-- The halt of a give-up: the Gateway is killed and the machine parked. -/
def giveUpHalt (turn : Turn) : StateMachine × List LoopEffect :=
  let unguarded := { sm with dwellGuard := none }
  match sm.state with
  | .waitingForLaunch => (unguarded,[])
  | .shutdown => (unguarded,[])
  | .error _ => (unguarded,[])
  | _ =>
    (unguarded.abortClientIdTask.stopSocat.moveTo .waitingForLaunch turn.now,
      (if turn.isRunning then [.killedJvm] else []) ++ [.registryReset])

def afterApply (applied : AppliedAction) (turn : Turn) : StateMachine × List LoopEffect :=
  match applied with
  | .noChange => (sm,[])
  | .deferred => (sm,[])
  | .escalatedToBackoff => (sm,[])
  | .firedGiveUpAlert => sm.giveUpHalt turn
  | .resumedToAggressive =>
    if sm.state = .waitingForLaunch then (sm.moveTo .init turn.now,[]) else (sm,[])

/-- The decision of the tick: no cold restart is ever pending and no failure streak counted. -/
def tickAction (turn : Turn) : Option NextAction :=
  sm.recovery.compute turn.now false sm.pendingResumeToken 0

/-- Compute and apply one action of the coordinator. A decision that panics ends the process. -/
def driveRecovery (turn : Turn) : Option (StateMachine × List LoopEffect) :=
  match sm.tickAction turn with
  | none => none
  | some action =>
    let effect := sm.recovery.apply codec sm.files action turn.now sm.pendingResumeToken turn.applyIo
    let applied := { sm with
      pendingResumeToken := none, recovery := effect.coord, files := effect.files }
    match effect.result with
    | .error _ => some (applied,[])
    | .ok action =>
      let (after,effects) := applied.afterApply action turn
      some (after,effect.sent.map .gaveUp ++ effects)

def tickRecovery (turn : Turn) : Option (StateMachine × List LoopEffect) :=
  let drained := sm.takeDwellSuccesses codec turn
  if drained.state.activeRecovery then drained.driveRecovery codec turn else some (drained,[])

/-- A dwell timer that is still guarded sends its one message after its time has passed. -/
def fireDwell (fires : Option Clocks) : StateMachine :=
  match sm.dwellGuard,fires with
  | some timer,some recorded =>
    if timer.fired = false ∧
        recorded.mono.durationSince timer.armedAt ≥ .fromSecs timer.dwellSecs then
      { sm with
        dwellGuard := some { timer with fired := true }
        dwellQueue := sm.dwellQueue ++ [recorded] }
    else sm
  | _,_ => sm

def checks (turn : Turn) : StateMachine :=
  ((sm.fireDwell turn.dwellFires).checkIbStatusTtl turn.now).checkIbSystemAvailability turn.now

def prelude (turn : Turn) : Option (StateMachine × List LoopEffect) :=
  (sm.checks turn).tickRecovery codec turn

end Prelude

section Transition

def transition : Task Answers ConnectedEffect StateMachineError Session State :=
  match sm.state with
  | .waitingForLaunch => Task.mapEffects .gateway doWaitingForLaunch
  | .init => Task.mapEffects .gateway (doInit sm.frame)
  | .launching => Task.mapEffects .gateway doLaunch
  | .waitingForAgent => Task.mapEffects .gateway doWaitForAgent
  | .waitingForLogin => Task.mapEffects .gateway (doWaitForLogin sm.frame)
  | .authenticating => Task.mapEffects .gateway doAuthenticate
  | .waitingFor2fa => Task.mapEffects .gateway (doWaitFor2fa sm.frame)
  | .handlingSessionConflict => Task.mapEffects .gateway doHandleSessionConflict
  | .dismissingPopups => Task.mapEffects .gateway doDismissPopups
  | .waitingForApiReady => Task.mapEffects .gateway (doWaitForApiReady sm.frame)
  | .configuringApi => Task.mapEffects .gateway doConfigureApi
  | .connected => doConnected sm.frame
  | .reconnectingSession => Task.mapEffects .gateway (doReconnectingSession sm.frame)
  | .restarting => Task.mapEffects .gateway (doRestart sm.frame)
  | .waitingForIB => Task.mapEffects .gateway (doWaitingForIb sm.frame)
  | .waitingForHitl2fa => Task.mapEffects .gateway (doWaitingForHitl2fa sm.frame)
  | .shutdown => pure .shutdown
  | .error message => pure (.error message)

/-- A machine told to stop at the next state pauses on the way into it. -/
def checkCeiling (next : State) : StateMachine :=
  if sm.pause.ceilingState = some next then { sm with pause := ⟨true,none⟩ } else sm

/-- A second factor was answered on the way from the present state into the next. -/
def noteTwofaAnswered (next : State) : StateMachine :=
  let answered :=
    (sm.state = .waitingFor2fa ∧ sm.session.twofaSeen = true ∧
      next ∈ [.dismissingPopups,.waitingForApiReady,.configuringApi,.connected]) ∨
    (sm.state = .waitingForHitl2fa ∧ next = .waitingForApiReady)
  if answered then { sm with coldRestartEquivalentPending := true } else sm

def startApiPortProbe : StateMachine :=
  { sm with
    apiPortProbeTask := decide (sm.config.timing.apiPortProbeIntervalSecs ≠ 0)
    session.apiPortProbeFailed := false }

/-- The entry into Connected arms the dwell timer and starts the clocks of the connection. -/
def enterConnected (at_ : Clocks) : StateMachine × List LoopEffect :=
  let marked : List LoopEffect :=
    if sm.state.isCredentialGathering && sm.coldRestartEquivalentPending then
      [.coldRestartEquivalentMarker]
    else []
  let entered := { sm with
    dwellGuard := some ⟨at_.mono,sm.recovery.config.minSuccessDwellSecs,false⟩
    connectionEventDisconnected := false
    coldRestartEquivalentPending := false
    connectedSince := some at_.mono
    connectedContinuouslySince := some at_.mono
    session :=
      { sm.session with
        twofaRetryNotBefore := none
        twofaRetryWaitingForScreen := false
        reloginAttempts := 0
        consecutive2faTimeouts :=
          if sm.config.twofa.backoff.counterReset = CounterResetScope.anyReach then 0
          else sm.session.consecutive2faTimeouts } }
  (entered.startApiPortProbe,marked)

/-- The one clean-up site of a connection that is left. -/
def leaveConnected : StateMachine :=
  { sm with
    dwellGuard := none
    connectedSince := none
    connectedContinuouslySince := none
    apiPortProbeTask := false
    connectionEventDisconnected := false
    session :=
      { sm.session with
        settingsGoodMarked := false
        apiPortProbeFailed := false
        revocation := sm.session.revocation.clearAll
        clientIdTask := false
        connectedWindowClass := none
        socatRunning := false } }

def stayDisconnected : StateMachine :=
  { sm with connectedSince := none, connectedContinuouslySince := none }

def crossConnected (next : State) (at_ : Clocks) : StateMachine × List LoopEffect :=
  if next = .connected ∧ sm.state ≠ .connected then sm.enterConnected at_
  else if sm.state = .connected ∧ next ≠ .connected then (sm.leaveConnected,[.registryReset])
  else if next ≠ .connected then (sm.stayDisconnected,[])
  else (sm,[])

def leaveHitl (next : State) : StateMachine :=
  if sm.state = .waitingForHitl2fa ∧ next ≠ .waitingForHitl2fa then
    { sm with session :=
                { sm.session with
                  hitlEnteredAt := none
                  hitlNextRetryAt := none
                  hitlIntervalsIndex := 0
                  hitlLoginFormObservationTicks := 0
                  hitlConnectedObservationTicks := 0 } }
  else sm

/-- What is set afresh for the next state, whatever the present one is. -/
def freshFor (next : State) (at_ : Clocks) (s : Session) : Session :=
  let s := if next ∈ [.waitingForLogin,.waitingFor2fa,.launching,.restarting] then
      { s with twofaDeviceSelected := false } else s
  let s := if next ∈ [.shutdown,.waitingForLaunch] then { s with warmRestartPending := none } else s
  let s :=
    match next with
    | .restarting => { s with observation := .new at_.mono }
    | .launching => { s with observation := .new at_.mono }
    | .waitingFor2fa => { s with twofaSeen := false, twofaGoneAt := none }
    | .dismissingPopups => { s with popupLastDismissed := none }
    | .reconnectingSession => { s with reloginAttempts := s.reloginAttempts + 1 }
    | _ => s
  if next ∈ [.dismissingPopups,.waitingFor2fa,.waitingForApiReady,.configuringApi,.connected] then
    { s with observation := s.observation.clearLoginButtons }
  else s

def doShutdown (isRunning : Bool) : StateMachine × List LoopEffect :=
  (sm.stopSocat,if isRunning then [.killedJvm] else [])

/-- The state a transition ends in: an error is recovered by a restart. -/
def settled : State → State
  | .error _ => .restarting
  | next => next

def prepare (next : State) (at_ : Clocks) : StateMachine × List LoopEffect :=
  let recorded := (sm.checkCeiling next).recordTransition sm.state next at_
  let reset := { recorded with
    session.stateEnteredAt := at_.mono, session.consecutiveAgentFailures := 0 }
  let (crossed,effects) := (reset.noteTwofaAnswered next).crossConnected next at_
  let left := crossed.leaveHitl next
  ({ left with
      session := freshFor next at_ left.session
      coldRestartEquivalentPending :=
        if next = .launching then false else left.coldRestartEquivalentPending },effects)

def applyTransition (next : State) (turn : Turn) : StateMachine × List LoopEffect :=
  let (prepared,effects) := sm.prepare next turn.later
  match next with
  | .shutdown =>
    let (ended,ends) := prepared.abortClientIdTask.doShutdown turn.isRunning
    ({ ended with state := .shutdown },effects ++ ends)
  | other => ({ prepared with state := settled other },effects)

end Transition

section Interrupts

/-- RESUME_RECONNECT is accepted where there is something to resume. -/
def resumable : Bool := sm.recovery.phase = .givenUp || sm.recovery.blockedAwaitingResume

def handleCommand (command : Command) (turn : Turn) : StateMachine :=
  match command with
  | .ibStatus status reason =>
    { sm with ibStatus := ⟨status = "available",status,reason,some turn.later.mono⟩ }
  | .restartSocat => { sm with session.socatRunning := turn.spawnSocat }
  | .pause => { sm with pause := ⟨true,none⟩ }
  | .pauseAt name =>
    match State.fromName name with
    | none => sm
    | some target =>
      if target = sm.state then { sm with pause := ⟨true,none⟩ }
      else { sm with pause.ceilingState := some target }
  | .resume => { sm with pause := ⟨false,none⟩ }
  | .setState name =>
    match State.fromName name with
    | none => sm
    | some target => sm.moveTo target turn.later
  | .hitlResume =>
    if sm.state = .waitingForHitl2fa then sm.moveTo .restarting turn.later else sm
  | .resumeReconnect token =>
    if sm.resumable then
      { sm with pendingResumeToken := some ⟨sm.recoveryModeTag,turn.later.wall.timestamp,token⟩ }
    else sm
  -- Keystrokes, menus and settings of the Gateway change nothing of the machine.
  | _ => sm

def dispatchCommand (command : Command) (turn : Turn) : StateMachine × List LoopEffect :=
  match command with
  | .stop =>
    if sm.state = .waitingForLaunch then (sm,[])
    else
      (sm.abortClientIdTask.stopSocat.moveTo .waitingForLaunch turn.later,
        (if turn.isRunning then [.killedJvm] else []) ++ [.registryReset])
  | .exit => ({ sm.abortClientIdTask with state := .shutdown },[])
  | .start => if sm.state = .waitingForLaunch then (sm.moveTo .init turn.later,[]) else (sm,[])
  | .restart => ({ sm.abortClientIdTask with state := .restarting },[])
  | other => (sm.handleCommand other turn,[])

def noteTwofaFailure (text : String) (at_ : Clocks) : StateMachine × List LoopEffect :=
  if isTwofaFailure text then
    let noted :=
      match parseRetrySeconds text with
      | some serverWait =>
        { sm with session :=
                    { sm.session with
                      twofaRetryNotBefore :=
                        some (at_.mono.add (.fromSecs (saturatingAdd serverWait 2)))
                      twofaRetryWaitingForScreen := false } }
      | none =>
        { sm with session :=
                    { sm.session with
                      twofaRetryNotBefore := none
                      twofaRetryWaitingForScreen := true } }
    (noted,[.registryReset,.verifyTime])
  else (sm,[])

/-- Only a change during an established connection counts. -/
def noteConnectionStatus (status : String) (at_ : Clocks) : StateMachine :=
  if sm.state ≠ .connected then sm
  else if Text.toAsciiLowercase status = "disconnected" then
    { sm with
      connectionEventDisconnected := true
      session.revocation := (sm.session.revocation.observe .connectionStatusEvent at_.mono).2 }
  else if Text.toAsciiLowercase status = "connected" then
    { sm with
      connectionEventDisconnected := false
      session.revocation := sm.session.revocation.clear .connectionStatusEvent }
  else sm

def handleAgentEvent (event : AgentEvent) (at_ : Clocks) : StateMachine × List LoopEffect :=
  match event with
  | .snapshot seq windows =>
    ({ sm with session.observation := AgentObservation.applySnapshot windows seq at_.mono },[])
  | .windowOpened seq windowId title windowClass hasLoginButton =>
    ({ sm with session.observation :=
                sm.session.observation.windowOpened ⟨windowId,title,windowClass,hasLoginButton⟩ seq
                  at_.mono },[])
  | .windowClosed seq windowId _ =>
    ({ sm with session.observation := sm.session.observation.windowClosed windowId seq at_.mono },[])
  | .overflow => ({ sm with session.observation := sm.session.observation.markDesync },[])
  | .errorDialog title message buttons =>
    sm.noteTwofaFailure (title ++ " " ++ message.getD "" ++ " " ++ " ".intercalate buttons) at_
  | .connectionStatusChanged _ status => (sm.noteConnectionStatus status at_,[])
  | _ => (sm,[])

def handleAgentEvents (at_ : Clocks) : List AgentEvent → StateMachine → StateMachine × List LoopEffect
  | [],sm => (sm,[])
  | event :: rest,sm =>
    let (first,effects) := sm.handleAgentEvent event at_
    let (last,more) := handleAgentEvents at_ rest first
    (last,effects ++ more)

/-- The states in which a cold restart has nothing to restart. -/
def coldRestartDormant (state : State) : Bool :=
  match state with
  | .waitingForLaunch => true
  | .shutdown => true
  | .error _ => true
  | .waitingForHitl2fa => true
  | _ => false

def handleColdRestart (signal : ColdRestartSignal) (turn : Turn) : StateMachine :=
  match signal with
  | .fire =>
    if coldRestartDormant sm.state then
      { sm with lastColdRestartSkip := some ⟨turn.later.wall,.dormantSite⟩ }
    else { sm.abortClientIdTask with lastColdRestartSkip := none, state := .restarting }
  | .skipped reason => { sm with lastColdRestartSkip := some ⟨turn.later.wall,reason⟩ }

def handleInterrupt (interrupt : Interrupt) (turn : Turn) : StateMachine × List LoopEffect :=
  match interrupt with
  | .signal .terminate => ({ sm.abortClientIdTask with state := .shutdown },[])
  | .signal .interrupt => ({ sm.abortClientIdTask with state := .shutdown },[])
  | .signal (.recoveryGaveUp ..) => (sm,[])
  | .command command => sm.dispatchCommand command turn
  | .coldRestart signal => (sm.handleColdRestart signal turn,[])
  | .agentEvent event => sm.handleAgentEvent event turn.later

end Interrupts

end StateMachine

end Ibctl.Machine
