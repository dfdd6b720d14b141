import Ibctl.StateMachine.Session

/-! The handlers of an established session and of everything that follows its loss. -/
namespace Ibctl.Machine
open Tasks Step

namespace Step

/-- Record a contradiction; the state it leads to once it has lasted. -/
def observe (source : RevocationSource) : Step (Option State) := do
  let now ← Task.ask Answers.now
  let s ← Task.current
  let (fired,revocation) := s.revocation.observe source now
  Task.update fun s => { s with revocation }
  return fired.map RevocationSource.nextState

def clear (tag : RevocationTag) : Step Unit :=
  Task.update fun s => { s with revocation := s.revocation.clear tag }

def observeOrClear (present : Bool) (source : RevocationSource) : Step (Option State) := do
  if present then observe source
  else
    clear source.tag
    return none

def reviveSocat : Step Unit := do
  let s ← Task.current
  let alive ← if s.socatRunning then Task.ask Answers.socatAlive else pure false
  if !alive then startSocat

def dispatchAll : List WindowInfo → Step Unit
  | [] => return
  | window :: rest => do
    let _ ← dispatch window
    dispatchAll rest

end Step

def recordWindowClass : Step Unit := do
  let s ← Task.current
  if s.connectedWindowClass.isNone then
    match s.observation.mainGatewayWindow with
    | some main => Task.update fun s => { s with connectedWindowClass := some main.className }
    | none =>
      match ← listWindows with
      | .error _ => return
      | .ok windows =>
        match (gatewayWindows windows).head? with
        | none => return
        | some main => Task.update fun s => { s with connectedWindowClass := some main.className }

/-- The checks that need no look at the windows: the process, the status events, the API
port and the dialogs in the cache. -/
def directContradiction (frame : Frame) : Step (Option State) := do
  if !(← Task.ask Answers.isRunning) then
    let hash ← Task.ask Answers.findAutorestartPath
    Task.update fun s => { s with warmRestartPending := hash }
    let _ ← observe .jvmDied
    return some RevocationSource.jvmDied.nextState
  if let some next ← observeOrClear frame.connectionEventDisconnected .connectionStatusEvent then
    return next
  let s ← Task.current
  if s.apiPortProbeFailed then
    if let some next ← observe .apiPortListenerLost then
      Task.update fun s => { s with apiPortProbeFailed := false }
      return next
  reviveSocat
  let s ← Task.current
  if let some next ← observeOrClear s.observation.hasReloginDialog .reloginDialog then return next
  observeOrClear s.observation.hasSessionConflict .sessionConflict

/-- A window besides the main one that carries the Gateway's name. -/
def cacheSuggestsProbe (observation : AgentObservation) : Bool :=
  let main := observation.mainGatewayWindow
  (main.map (fun m => m.hasLoginButton)).getD false ||
    observation.windows.any (fun w => isGatewayTitle w.title &&
      !titleContains w.title ["configuration"] && main.map (fun m => m.id) ≠ some w.id)

/-- A change of the main window's class is followed as long as no login form comes with it. -/
def followWindowClass : Step Unit :=
  Task.update fun s =>
    match s.observation.mainGatewayWindow,s.connectedWindowClass with
    | some main,some expected =>
      if main.className ≠ expected ∧ main.hasLoginButton = false then
        { s with connectedWindowClass := some main.className }
      else s
    | _,_ => s

def probedContradiction : Step (Option State) := do
  let windows ← listWindows
  clear .errorDialog
  let s ← Task.current
  let observedLoginButton :=
    (s.observation.mainGatewayWindow.map (fun m => m.hasLoginButton)).getD false
  followWindowClass
  let entered ← elapsed s.stateEnteredAt
  let probeNeeded := s.revocation.anyPending || cacheSuggestsProbe s.observation ||
    decide (entered.asSecs % 30 < 3)
  let (probeTwofa,components) ← match windows with
    | .error _ => pure (false,[])
    | .ok windows => do
      let components ← if probeNeeded then dumps (gatewayWindows windows) else pure []
      dispatchAll windows
      pure (probeNeeded && windows.any (fun w => isTwofaTitle w.title),components)
  if probeTwofa then return some .waitingFor2fa
  let loginForm := observedLoginButton || components.any componentsHaveLoginForm
  if let some next ← observeOrClear loginForm .loginFormVisible then return next
  observeOrClear (components.any componentsIndicateDisconnected) .disconnectedLabelStable

def syncClientIds : Step Unit := do
  let s ← Task.current
  if s.clientIdTask then
    if let some ids ← Task.ask Answers.clientIds then
      Task.update fun s => { s with cachedClientIds := ids }

def resetTwofaTimeouts (frame : Frame) : Step Unit := do
  let s ← Task.current
  let backoff := frame.config.twofa.backoff
  if backoff.counterReset = .stable ∧ 0 < s.consecutive2faTimeouts then
    if let some since := frame.connectedContinuouslySince then
      if (← elapsed since) ≥ .fromSecs backoff.stableSecs then
        Task.update fun s => { s with consecutive2faTimeouts := 0 }

/-- One tick of the connected state up to its last two steps; the state it leaves for. -/
def superviseConnection (frame : Frame) : Step (Option State) := do
  recordWindowClass
  reviveSocat
  Task.update fun s => { s with clientIdTask := true }
  if let some next ← directContradiction frame then return next
  if let some next ← probedContradiction then return next
  syncClientIds
  resetTwofaTimeouts frame
  return none

/-- The connected handler alone writes the settings-good marker. -/
inductive ConnectedEffect where
  | gateway (effect : Effect)
  | settingsGood (checkedAt : Instant) (writtenAt : Zoned)
deriving DecidableEq, Repr

/-- After a stable dwell the restart counter is forgotten and the settings are marked good,
once for each connection. -/
def markStable (frame : Frame) : Task Answers ConnectedEffect StateMachineError Session Unit := do
  match frame.connectedContinuouslySince with
  | none => return
  | some since =>
    let now ← Task.ask Answers.now
    if now.durationSince since ≥ .fromSecs frame.config.timing.minSuccessDwellSecs then
      Task.update fun s => { s with consecutiveJvmRestarts := 0 }
      let s ← Task.current
      if !s.settingsGoodMarked then
        let written ← Task.ask Answers.wall
        Task.emit (.settingsGood now written)
        Task.update fun s => { s with settingsGoodMarked := true }

def doConnected (frame : Frame) : Task Answers ConnectedEffect StateMachineError Session State := do
  if let some next ← Task.mapEffects .gateway (superviseConnection frame) then return next
  markStable frame
  Task.sleep
  return .connected

def isReloginDialog (window : WindowInfo) : Bool :=
  titleContains window.title ["re-login","login is required"]

def cancelRelogin : List WindowInfo → Step Unit
  | [] => return
  | window :: rest => do
    if isReloginDialog window then clickButton window.id "Cancel"
    cancelRelogin rest

/-- The attempts are used up: cancel, and log in again or restart. -/
def giveUpRelogin (frame : Frame) : Step State := do
  match ← listWindows with
  | .ok windows => cancelRelogin windows
  | .error _ => pure ()
  resetRegistry
  abortClientIdTask
  Task.update fun s => { s with reloginAttempts := 0 }
  Task.sleep
  match frame.config.timing.reloginFailureAction with
  | .restart => return .restarting
  | .reauth =>
    let s ← Task.current
    if s.observation.hasLoginForm then return .waitingForLogin
    match ← listWindows with
    | .ok windows =>
      if windows.any (fun w => isGatewayTitle w.title) then return .waitingForLogin
      else return .restarting
    | .error _ => return .restarting

def endRelogin (next : State) : Step (Option State) := do
  resetRegistry
  Task.update fun s => { s with reloginAttempts := 0 }
  return some next

/-- The dialog is gone: only the main window's components confirm the session. -/
def confirmRelogin : Step (Option State) := do
  Task.sleep
  let s ← Task.current
  if s.observation.has2faDialog then return (← endRelogin .waitingFor2fa)
  let components ← match ← listWindows with
    | .error _ => pure (some [])
    | .ok windows =>
      if windows.any (fun w => isTwofaTitle w.title) then pure none
      else do pure (some (← dumps (gatewayWindows windows)))
  match components with
  | none => endRelogin .waitingFor2fa
  | some components =>
    if components.any componentsHaveLoginForm then endRelogin .waitingForLogin
    else if components.any componentsConfirmAuthenticated then
      Task.update fun s => { s with reloginAttempts := 0 }
      return some .connected
    else return none

def doReconnectingSession (frame : Frame) : Step State := do
  if !(← Task.ask Answers.isRunning) then
    resetRegistry
    abortClientIdTask
    Task.update fun s => { s with reloginAttempts := 0 }
    return .restarting
  let s ← Task.current
  if s.reloginAttempts > frame.config.timing.reloginMaxAttempts then
    return (← giveUpRelogin frame)
  if (← elapsed s.stateEnteredAt) < .fromSecs 30 then
    Task.sleep
    return .reconnectingSession
  match ← listWindows with
  | .error _ => pure ()
  | .ok windows =>
    match windows.find? isReloginDialog with
    | none => if let some next ← confirmRelogin then return next
    | some dialog =>
      clickButton dialog.id "Re-login"
      resetRegistry
      Task.sleep
      return .waitingForLogin
  Task.sleep
  return .reconnectingSession

def tearDown : Step Unit := do
  abortClientIdTask
  stopSocat
  if ← Task.ask Answers.isRunning then killJvm
  Task.sleep
  Task.sleep
  if ← Task.ask Answers.isRunning then
    killJvm
    Task.sleep
  resetRegistry

def doRestart (frame : Frame) : Step State := do
  let s ← Task.current
  let isWarmRestart := s.warmRestartPending.isSome
  let exponent := min s.consecutiveJvmRestarts 4
  let delay := if isWarmRestart then 0
    else min (saturatingMul frame.config.timing.restartDelaySecs (2 ^ exponent)) 900
  if !isWarmRestart && 0 < delay then
    if (← elapsed s.stateEnteredAt).asSecs < delay then
      Task.sleep
      return .restarting
  if !isWarmRestart then
    Task.update fun s =>
      { s with consecutiveJvmRestarts := saturatingSucc 32 s.consecutiveJvmRestarts }
    let s ← Task.current
    let exitThreshold := frame.config.envUnsigned 32 "IBCTL_CONTAINER_EXIT_AFTER_RESTARTS" 8
    if 0 < exitThreshold ∧ exitThreshold ≤ s.consecutiveJvmRestarts then
      Task.emit (.containerRecycle s.consecutiveJvmRestarts)
      return .shutdown
  tearDown
  return .launching

def doWaitingForIb (frame : Frame) : Step State := do
  if frame.ibAvailable then
    let s ← Task.current
    match s.returnState with
    | some state =>
      Task.update fun s => { s with returnState := none }
      return state
    | none => return .init
  else
    Task.sleep
    return .waitingForIB

def computeNextHitlDeadline (strategy : HitlStrategy) (intervals : List Nat) (index : Nat)
    (now : Instant) : Option Instant :=
  if strategy = .periodic ∨ strategy = .both then
    (if index < intervals.length then intervals[index]? else intervals.getLast?).map
      (fun minutes => now.add (.fromSecs (minutes * 60)))
  else none

def enterHitl (backoff : TwoFaBackoff) : Step Unit := do
  let s ← Task.current
  if s.hitlEnteredAt.isNone then
    let now ← Task.ask Answers.now
    let deadlineFrom ← Task.ask Answers.now
    Task.update fun s =>
      { s with
        hitlEnteredAt := some now
        hitlIntervalsIndex := 0
        hitlLoginFormObservationTicks := 0
        hitlConnectedObservationTicks := 0
        hitlNextRetryAt :=
          computeNextHitlDeadline backoff.strategy backoff.intervalsMinutes 0 deadlineFrom }

/-- The Gateway fell back to its login form, for three ticks in a row. -/
def observeHitlLoginForm : Step Bool := do
  let s ← Task.current
  if s.observation.hasLoginForm && !s.observation.has2faDialog then
    Task.update fun s =>
      { s with hitlLoginFormObservationTicks := saturatingSucc 8 s.hitlLoginFormObservationTicks }
    let s ← Task.current
    return 3 ≤ s.hitlLoginFormObservationTicks
  else
    Task.update fun s => { s with hitlLoginFormObservationTicks := 0 }
    return false

/-- The Gateway's main window shows the API server connected, for three ticks in a row. -/
def observeHitlConnected : Step Bool := do
  let s ← Task.current
  let connected ←
    if !s.observation.has2faDialog && !s.observation.hasLoginForm &&
        s.observation.mainGatewayWindow.isSome then do
      match ← dumpComponents with
      | .ok components => pure (componentsIndicateConnected components)
      | .error _ => pure false
    else pure false
  if connected then
    Task.update fun s =>
      { s with hitlConnectedObservationTicks := saturatingSucc 8 s.hitlConnectedObservationTicks }
    let s ← Task.current
    return 3 ≤ s.hitlConnectedObservationTicks
  else
    Task.update fun s => { s with hitlConnectedObservationTicks := 0 }
    return false

def hitlRetryDue (backoff : TwoFaBackoff) : Step Bool := do
  let s ← Task.current
  match s.hitlNextRetryAt with
  | none => return false
  | some deadline =>
    let now ← Task.ask Answers.now
    if now.nanos < deadline.nanos then return false
    let deadlineFrom ← Task.ask Answers.now
    Task.update fun s =>
      { s with
        hitlIntervalsIndex := saturatingSucc 64 s.hitlIntervalsIndex
        hitlNextRetryAt := computeNextHitlDeadline backoff.strategy backoff.intervalsMinutes
          (saturatingSucc 64 s.hitlIntervalsIndex) deadlineFrom }
    return true

/-- While a handler runs, `cold_restart_rx` is the dummy the loop put in its place, whose
sender is gone: the preemption never receives a signal. -/
def tryRecvColdRestart : Option ColdRestartSignal := none

def doWaitingForHitl2fa (frame : Frame) : Step State := do
  let backoff := frame.config.twofa.backoff
  enterHitl backoff
  if backoff.coldRestartPreemptsHitl && tryRecvColdRestart.isSome then return .restarting
  if ← observeHitlLoginForm then return .waitingForLogin
  if ← observeHitlConnected then return .waitingForApiReady
  if ← hitlRetryDue backoff then return .restarting
  Task.sleep
  Task.sleep
  return .waitingForHitl2fa

end Ibctl.Machine
