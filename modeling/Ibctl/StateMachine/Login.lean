import Ibctl.StateMachine.Session

/-! The handlers from the launch of the Gateway to its configured API. -/
namespace Ibctl.Machine
open Tasks Step

def doWaitingForLaunch : Step State := do
  Task.sleep
  return .waitingForLaunch

def doInit (frame : Frame) : Step State := do
  if ← Task.ask Answers.twsPathExists then return .launching
  else return .error ("TWS path does not exist: " ++ frame.config.twsPath)

def doLaunch : Step State := do
  let s ← Task.current
  let result ← Task.ask Answers.launch
  Task.orFail .supervisor result
  Task.emit (.launched s.warmRestartPending)
  return .waitingForAgent

def doWaitForAgent : Step State := do
  if !(← Task.ask Answers.isRunning) then
    return .error "JVM process exited before agent became ready"
  match ← Task.await Answers.health with
  | .ok true => return .waitingForLogin
  | _ =>
    let s ← Task.current
    if (← elapsed s.stateEnteredAt) > .fromSecs 60 then
      return .error "Timed out waiting for agent health check"
    Task.sleep
    return .waitingForAgent

def isSelfAuthenticated (window : WindowInfo) : Bool :=
  isGatewayTitle window.title && !titleContains window.title ["login"] &&
    !titleContains window.title ["configuration"] &&
    (window.bounds.map (fun b => decide (400 < b.width))).getD false

/-- The warm restart path of `do_wait_for_login`; nothing where the cold path goes on. -/
def waitForWarmLogin : Step (Option State) := do
  if !(← Task.ask Answers.isRunning) then
    Task.update fun s => { s with warmRestartPending := none }
    return some (.error "JVM exited during warm restart login")
  match ← listWindows with
  | .ok windows =>
    if windows.any isSelfAuthenticated then
      Task.update fun s => { s with warmRestartPending := none }
      return some .dismissingPopups
  | .error _ => pure ()
  let s ← Task.current
  if (← elapsed s.stateEnteredAt) > .fromSecs 120 then
    let now ← Task.ask Answers.now
    Task.update fun s => { s with warmRestartPending := none, stateEnteredAt := now }
    return none
  Task.sleep
  return some .waitingForLogin

/-- What a synced cache decides while the login window is awaited. -/
def observedLoginState (observation : AgentObservation) : Option State :=
  if observation.hasSessionConflict then some .handlingSessionConflict
  else if observation.has2faDialog then some .waitingFor2fa
  else if observation.hasReloginDialog then some .reconnectingSession
  else observation.mainGatewayWindow.map
    (fun main => if main.hasLoginButton then .authenticating else .dismissingPopups)

/-- What the agent's window list decides while the login window is awaited. -/
def polledLoginState : Step (Option State) := do
  if let some next ← checkBlockingDialog then return some next
  match ← listWindows with
  | .error _ => return none
  | .ok windows =>
    if windows.any (fun w => titleContains w.title ["existing session"]) then
      return some .handlingSessionConflict
    match (gatewayWindows windows).head? with
    | none => return none
    | some _ =>
      match ← dumpComponents with
      | .ok components =>
        if componentsHaveLoginForm components then return some .authenticating
        else return some .dismissingPopups
      | .error _ => return some .authenticating

def doWaitForLogin (frame : Frame) : Step State := do
  let s ← Task.current
  if s.warmRestartPending.isSome then
    if let some next ← waitForWarmLogin then return next
  if !(← Task.ask Answers.isRunning) then
    return .error "JVM process exited while waiting for login window"
  let s ← Task.current
  let decided ← if s.observation.synced then pure (observedLoginState s.observation)
    else polledLoginState
  if let some next := decided then return next
  let s ← Task.current
  let timeoutSecs := frame.config.timing.loginDialogTimeoutSecs
  if 0 < timeoutSecs then
    if (← elapsed s.stateEnteredAt) > .fromSecs timeoutSecs then
      return .error "Timed out waiting for login window"
  Task.sleep
  return .waitingForLogin

/-- Wait for the countdown of a rejection to be shown. True when the handler ends here. -/
def waitForObservedTwofaRetry : Step Bool := do
  let s ← Task.current
  if !s.twofaRetryWaitingForScreen then return false
  let windows ← Task.orFail .agent (← listWindows)
  let components ← dumps windows
  let visible := windows.map (fun w => w.title) ++ components.flatMap Json.strings
  if let some serverWait := parseRetrySeconds (" ".intercalate visible) then
    let now ← Task.ask Answers.now
    Task.update fun s =>
      { s with twofaRetryNotBefore := some (now.add (.fromSecs (saturatingAdd serverWait 2)))
               twofaRetryWaitingForScreen := false }
  Task.sleep
  return true

/-- The server's deadline is ahead; one that has passed is dropped. -/
def waitForRetryDeadline : Step Bool := do
  let s ← Task.current
  match s.twofaRetryNotBefore with
  | none => return false
  | some deadline =>
    let now ← Task.ask Answers.now
    if now.nanos < deadline.nanos then
      Task.sleep
      return true
    Task.update fun s => { s with twofaRetryNotBefore := none }
    return false

def submitLogin (window : WindowInfo) : Step State := do
  match ← dispatchNamed "LoginHandler" window with
  | some (.ok .handled) =>
    Task.update fun s => { s with observation := s.observation.clearLoginButtons }
    Task.sleep
    return .waitingFor2fa
  | some (.ok (.error _)) =>
    resetRegistry
    return .waitingForLogin
  | some (.error _) =>
    resetRegistry
    return .waitingForLogin
  | some (.ok .notApplicable) =>
    Task.sleep
    return .waitingForLogin
  | none =>
    Task.sleep
    return .waitingForLogin

def doAuthenticate : Step State := do
  if ← waitForObservedTwofaRetry then return .authenticating
  if ← waitForRetryDeadline then return .authenticating
  if let some next ← checkBlockingDialog then return next
  let windows ← Task.orFail .agent (← listWindows)
  match (gatewayWindows windows).head? with
  | none => return .waitingForLogin
  | some window =>
    match ← dumpComponents with
    | .ok components =>
      if componentsHaveLoginForm components then submitLogin window
      else return .dismissingPopups
    | .error _ => return .dismissingPopups

def isLargeGateway (window : WindowInfo) : Bool :=
  (window.bounds.map (fun b => decide (650 ≤ b.width) && decide (400 ≤ b.height))).getD false &&
    Text.containsText (Text.toAsciiLowercase window.title) "gateway"

def findTwofaWindow (windows : List WindowInfo) : Step (Option WindowInfo) := do
  match windows.find? (fun w => isTwofaTitle w.title) with
  | some window => return some window
  | none =>
    findByComponents looksLikeTwofaComponents (windows.filter (fun w => !isLargeGateway w))

/-- The second factor's dialog is there: choose the device once, then enter the code. -/
def answerTwofa (frame : Frame) (window : WindowInfo) : Step (Option State) := do
  Task.update fun s => { s with twofaGoneAt := none, twofaSeen := true }
  let s ← Task.current
  let device := frame.config.twofa.device
  if !s.twofaDeviceSelected then
    if device ≠ "" then
      match ← Task.await Answers.selectListItem with
      | .ok true =>
        Task.sleep
        clickButton window.id "OK"
        Task.update fun s => { s with twofaDeviceSelected := true }
        Task.sleep
        return some .waitingFor2fa
      | _ => Task.update fun s => { s with twofaDeviceSelected := true }
    else Task.update fun s => { s with twofaDeviceSelected := true }
  if frame.config.twofa.hasSecret then
    if let some (.ok .handled) ← dispatchNamed "TotpEntryHandler" window then
      Task.sleep
      return some .dismissingPopups
  return none

/-- The dialog was seen and is gone: only the main window's components confirm the login. -/
def confirmTwofa (windows : List WindowInfo) : Step (Option State) := do
  let s ← Task.current
  if s.twofaGoneAt.isNone then
    let now ← Task.ask Answers.now
    Task.update fun s => { s with twofaGoneAt := some now }
  let s ← Task.current
  let gone ← match s.twofaGoneAt with
    | some since => elapsed since
    | none => pure (Duration.fromSecs 5)
  if gone < .fromSecs 5 then return none
  let components ← dumps (gatewayWindows windows)
  if components.any componentsHaveLoginForm then
    resetRegistry
    return some .waitingForLogin
  if components.any (fun c => !componentsHaveLoginForm c) then return some .dismissingPopups
  return none

def watchTwofa (frame : Frame) : Step (Option State) := do
  match ← listWindows with
  | .ok windows =>
    Task.update fun s => { s with consecutiveAgentFailures := 0 }
    if windows.any (fun w => titleContains w.title ["existing session"]) then
      return some .handlingSessionConflict
    match ← findTwofaWindow windows with
    | some window => answerTwofa frame window
    | none =>
      let s ← Task.current
      if s.twofaSeen then confirmTwofa windows
      else
        if (← elapsed s.stateEnteredAt) > .fromSecs 10 then return some .dismissingPopups
        return none
  | .error _ =>
    Task.update fun s => { s with consecutiveAgentFailures := s.consecutiveAgentFailures + 1 }
    let s ← Task.current
    if 10 ≤ s.consecutiveAgentFailures then
      return some (.error "Agent unreachable during 2FA wait")
    return none

def twofaTimeout (frame : Frame) : Step State := do
  let twofa := frame.config.twofa
  if !twofa.reloginAfterTimeout && twofa.timeoutAction = .exit then return .shutdown
  Task.update fun s =>
    { s with consecutive2faTimeouts := saturatingSucc 32 s.consecutive2faTimeouts }
  let s ← Task.current
  match twofa.backoff.onTimeout with
  | .restartForever => return .restarting
  | .hitlImmediately => return .waitingForHitl2fa
  | .restartThenHitl =>
    if twofa.backoff.maxImmediateAttempts ≤ s.consecutive2faTimeouts then return .waitingForHitl2fa
    else return .restarting

def doWaitFor2fa (frame : Frame) : Step State := do
  if ← waitForObservedTwofaRetry then return .waitingFor2fa
  if ← waitForRetryDeadline then return .waitingFor2fa
  if !(← Task.ask Answers.isRunning) then return .error "JVM exited during 2FA wait"
  let s ← Task.current
  if s.observation.hasReloginDialog then return .waitingForLogin
  if s.observation.hasSessionConflict then return .handlingSessionConflict
  if (← checkBlockingDialog) = some .waitingForLogin then return .waitingForLogin
  if let some next ← watchTwofa frame then return next
  let s ← Task.current
  if (← elapsed s.stateEnteredAt) > .fromSecs frame.config.twofa.timeoutSeconds then
    twofaTimeout frame
  else
    Task.sleep
    return .waitingFor2fa

def doHandleSessionConflict : Step State := do
  let windows ← Task.orFail .agent (← listWindows)
  match windows.find? (fun w => titleContains w.title ["existing session"]) with
  | some window => let _ ← dispatch window
  | none => pure ()
  Task.sleep
  return .dismissingPopups

/-- Hand every window to the dialog handlers; true when one of them took a window. -/
def dispatchPopups : List WindowInfo → Step Bool
  | [] => return false
  | window :: rest => do
    match ← dispatch window with
    | some (.ok _) =>
      let now ← Task.ask Answers.now
      Task.update fun s => { s with popupLastDismissed := some now }
      let _ ← dispatchPopups rest
      return true
    | _ => dispatchPopups rest

def doDismissPopups : Step State := do
  if !(← Task.ask Answers.isRunning) then return .error "JVM exited during popup dismissal"
  let s ← Task.current
  if s.observation.has2faDialog then return .waitingFor2fa
  if s.observation.hasReloginDialog then
    resetRegistry
    return .reconnectingSession
  if s.observation.hasSessionConflict then
    resetRegistry
    return .handlingSessionConflict
  if !s.observation.synced then
    if let some next ← checkBlockingDialog then
      if next ≠ .waitingFor2fa then resetRegistry
      return next
  let foundPopup ← match ← listWindows with
    | .ok windows => dispatchPopups windows
    | .error _ => pure false
  let s ← Task.current
  if !foundPopup then
    if (← elapsed (s.popupLastDismissed.getD s.stateEnteredAt)) > .fromSecs 5 then
      return .waitingForApiReady
  if (← elapsed s.stateEnteredAt) > .fromSecs 30 then return .waitingForApiReady
  Task.sleep
  return .dismissingPopups

/-- What the Gateway's own windows tell of its API: ready, or whether the last one looked
at shows the server disconnected. A login form ends the search. -/
def inspectApiServer (disconnected : Bool) : List WindowInfo → Step (Bool × Bool)
  | [] => return (false,disconnected)
  | _ :: rest => do
    match ← dumpComponents with
    | .error _ => inspectApiServer disconnected rest
    | .ok components =>
      if componentsHaveLoginForm components then return (false,disconnected)
      else if componentsIndicateConnected components then return (true,disconnected)
      else inspectApiServer (componentsIndicateDisconnected components) rest

def doWaitForApiReady (frame : Frame) : Step State := do
  if !(← Task.ask Answers.isRunning) then return .restarting
  let s ← Task.current
  if s.observation.has2faDialog then return .waitingFor2fa
  if s.observation.hasReloginDialog then return .reconnectingSession
  if s.observation.hasSessionConflict then return .handlingSessionConflict
  if s.observation.hasLoginForm then return .waitingForLogin
  if let some next ← checkBlockingDialog then return next
  let (ready,disconnected) ← match ← listWindows with
    | .ok windows => inspectApiServer false (gatewayWindows windows)
    | .error _ => pure (false,false)
  if ready then return .configuringApi
  let timeoutSecs := if disconnected then
      frame.config.envUnsigned 64 "IBCTL_API_DISCONNECTED_GRACE_SECS" 600
    else 120
  let s ← Task.current
  if (← elapsed s.stateEnteredAt) > .fromSecs timeoutSecs then
    abortClientIdTask
    return .restarting
  Task.sleep
  return .waitingForApiReady

def doConfigureApi : Step State := do
  dismissMenus
  if let some next ← checkBlockingDialog then
    Task.update fun s => { s with configRetries := 0 }
    return next
  if !(← Task.ask Answers.isRunning) then
    Task.update fun s => { s with configRetries := 0 }
    return .restarting
  Task.update fun s => { s with configRetries := s.configRetries + 1 }
  Task.emit .appliedApiConfig
  match ← Task.await Answers.applyApiConfig with
  | .ok report =>
    Task.update fun s =>
      { s with
        stats :=
          { precautionLabelsNotFound :=
              min (s.stats.precautionLabelsNotFound + report.precautionLabelsNotFound) (2 ^ 32 - 1)
            readOnlyApiLabelNotFound :=
              min (s.stats.readOnlyApiLabelNotFound + report.readOnlyApiLabelNotFound) (2 ^ 32 - 1) }
        configRetries := 0 }
    return .connected
  | .error _ =>
    dismissMenus
    let s ← Task.current
    if 3 ≤ s.configRetries then
      Task.update fun s => { s with configRetries := 0 }
      abortClientIdTask
      return .restarting
    else
      Task.sleep
      return .configuringApi

end Ibctl.Machine
