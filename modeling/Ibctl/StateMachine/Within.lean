import Ibctl.StateMachine.Cleanup

/-! What the handlers are made of. None but ConfiguringApi writes the count of its attempts, none
but those of the second factor and of Connected write the count of timeouts, none
synchronises the cache of windows, and none but those that wait for a countdown, log in or answer a session conflict hands on an
error of the agent. -/
namespace Ibctl.Machine
open Tasks Step Task

def LeavesSynced (f : Session → Session) : Prop :=
  ∀ s, (f s).observation.synced = s.observation.synced

def LeavesAlone (f : Session → Session) : Prop :=
  ∀ s, (f s).configRetries = s.configRetries ∧ (f s).observation.synced = s.observation.synced

def LeavesTimeouts (f : Session → Session) : Prop :=
  ∀ s, (f s).observation.synced = s.observation.synced ∧
    (f s).consecutive2faTimeouts = s.consecutive2faTimeouts

@[grind] def LeavesCounts (f : Session → Session) : Prop :=
  ∀ s, (f s).configRetries = s.configRetries ∧ (f s).observation.synced = s.observation.synced ∧
    (f s).consecutive2faTimeouts = s.consecutive2faTimeouts

theorem LeavesCounts.alone {f : Session → Session} (leaves : LeavesCounts f) : LeavesAlone f :=
  fun s => ⟨(leaves s).1,(leaves s).2.1⟩

theorem LeavesCounts.timeouts {f : Session → Session} (leaves : LeavesCounts f) : LeavesTimeouts f :=
  fun s => (leaves s).2

@[grind =] theorem clearLoginButtons_synced (o : AgentObservation) : o.clearLoginButtons.synced = o.synced := rfl

variable {E : StateMachineError → Prop}

theorem alone {φ α : Type} {task : Task Answers φ StateMachineError Session α}
    (within : task.Within LeavesCounts E) : task.Within LeavesAlone E :=
  within.mono fun _ leaves => leaves.alone

@[grind .] theorem elapsed_within (since : Instant) : (elapsed since).Within LeavesCounts E := by
  unfold elapsed
  grind

@[grind .] theorem listWindows_within : listWindows.Within LeavesCounts E := Within.await _

@[grind .] theorem dumpComponents_within : dumpComponents.Within LeavesCounts E := Within.await _

@[grind .] theorem abortClientIdTask_within : abortClientIdTask.Within LeavesCounts E := Within.update fun _ => ⟨rfl,rfl,rfl⟩

@[grind .] theorem resetRegistry_within : resetRegistry.Within LeavesCounts E := Within.emit _

@[grind .] theorem stopSocat_within : stopSocat.Within LeavesCounts E := Within.update fun _ => ⟨rfl,rfl,rfl⟩

@[grind .] theorem clickButton_within (window : WindowId) (label : String) :
    (clickButton window label).Within LeavesCounts E :=
  Within.bind Within.sleep fun _ => Within.emit _

@[grind .] theorem killJvm_within : killJvm.Within LeavesCounts E :=
  Within.bind Within.sleep fun _ => Within.emit _

@[grind .] theorem dispatch_within (window : WindowInfo) : (dispatch window).Within LeavesCounts E :=
  Within.bind (Within.emit _) fun _ => Within.await _

@[grind .] theorem dispatchNamed_within (handler : String) (window : WindowInfo) :
    (dispatchNamed handler window).Within LeavesCounts E :=
  Within.bind (Within.emit _) fun _ => Within.await _

@[grind .] theorem reviveSocat_within : reviveSocat.Within LeavesCounts E := by
  unfold reviveSocat startSocat
  grind

@[grind .] theorem dispatchAll_within (windows : List WindowInfo) :
    (dispatchAll windows).Within LeavesCounts E := by
  induction windows with
  | nil => exact Within.pure _
  | cons window rest ih => exact Within.bind (dispatch_within window) fun _ => ih

@[grind .] theorem findByComponents_within (test : Json → Bool) (windows : List WindowInfo) :
    (findByComponents test windows).Within LeavesCounts E := by
  induction windows with
  | nil => exact Within.pure _
  | cons window rest ih =>
    refine Within.bind dumpComponents_within fun dumped => ?_
    cases dumped with
    | error e => exact ih
    | ok components => grind

@[grind .] theorem dumps_within (windows : List WindowInfo) : (dumps windows).Within LeavesCounts E := by
  induction windows with
  | nil => exact Within.pure _
  | cons window rest ih =>
    refine Within.bind dumpComponents_within fun dumped => ?_
    cases dumped with
    | error e => exact ih
    | ok components => exact Within.bind ih fun _ => Within.pure _

@[grind .] theorem dismissMenus_within : dismissMenus.Within LeavesCounts E := by
  unfold dismissMenus
  grind

@[grind .] theorem checkBlockingDialog_within : checkBlockingDialog.Within LeavesCounts E := by
  unfold checkBlockingDialog
  grind

theorem doWaitingForLaunch_within : doWaitingForLaunch.Within LeavesCounts E :=
  Within.bind Within.sleep fun _ => Within.pure _

theorem doInit_within (frame : Frame) : (doInit frame).Within LeavesCounts E := by
  unfold doInit
  grind

/-- A launch fails with an error of the supervisor. -/
theorem doLaunch_within (other : ∀ reason, E (.supervisor reason)) : doLaunch.Within LeavesCounts E := by
  refine Within.bind Within.current fun s => Within.bind (Within.ask _) fun result => ?_
  refine Within.bind (.orFail other result) fun _ => ?_
  exact Within.bind (Within.emit _) fun _ => Within.pure _

theorem doWaitForAgent_within : doWaitForAgent.Within LeavesCounts E := by
  unfold doWaitForAgent
  grind

@[grind .] theorem waitForWarmLogin_within : waitForWarmLogin.Within LeavesCounts E := by
  unfold waitForWarmLogin
  refine Within.bind (Within.ask _) fun running => ?_
  split
  · grind
  · refine Within.bind listWindows_within fun listed => ?_
    grind

@[grind .] theorem polledLoginState_within : polledLoginState.Within LeavesCounts E := by
  unfold polledLoginState
  refine Within.bind checkBlockingDialog_within fun blocking => ?_
  cases blocking with
  | some next => exact Within.pure _
  | none =>
    refine Within.bind listWindows_within fun listed => ?_
    grind

theorem doWaitForLogin_within (frame : Frame) : (doWaitForLogin frame).Within LeavesCounts E := by
  unfold doWaitForLogin
  refine Within.bind Within.current fun s => ?_
  extract_lets timeoutSecs ends decides colds
  have ended : ∀ r, (ends r).Within LeavesCounts E := fun r => Within.bind Within.sleep fun _ => Within.pure _
  have decided : ∀ found, (decides found).Within LeavesCounts E := by
    intro found
    cases found with
    | some next => exact Within.pure _
    | none =>
      refine Within.bind Within.current fun s => ?_
      split
      · refine Within.bind (elapsed_within _) fun waited => ?_
        split
        · exact Within.pure _
        · exact ended ()
      · exact ended ()
  have cold : ∀ r, (colds r).Within LeavesCounts E := by
    intro r
    refine Within.bind (Within.ask _) fun running => ?_
    split
    · exact Within.pure _
    · refine Within.bind Within.current fun s => ?_
      split
      · exact Within.bind (Within.pure _) decided
      · exact Within.bind polledLoginState_within decided
  split
  · refine Within.bind waitForWarmLogin_within fun found => ?_
    cases found with
    | some next => exact Within.pure _
    | none => exact cold ()
  · exact cold ()

@[grind .] theorem waitForRetryDeadline_within : waitForRetryDeadline.Within LeavesCounts E := by
  unfold waitForRetryDeadline
  grind

@[grind .] theorem submitLogin_within (window : WindowInfo) : (submitLogin window).Within LeavesCounts E := by
  unfold submitLogin
  refine Within.bind (dispatchNamed_within _ _) fun dispatched => ?_
  grind

@[grind .] theorem findTwofaWindow_within (windows : List WindowInfo) :
    (findTwofaWindow windows).Within LeavesCounts E := by
  unfold findTwofaWindow
  grind

@[grind .] theorem answerTwofa_within (frame : Frame) (window : WindowInfo) :
    (answerTwofa frame window).Within LeavesCounts E := by
  unfold answerTwofa
  refine Within.bind (Within.update fun _ => ⟨rfl,rfl,rfl⟩) fun _ => Within.bind Within.current fun s => ?_
  extract_lets device enters answers
  have answered : ∀ r, (answers r).Within LeavesCounts E := by
    intro r
    unfold answers enters
    grind
  split
  · split
    · refine Within.bind (Within.await _) fun selected => ?_
      split
      · grind
      · exact Within.bind (Within.update fun _ => ⟨rfl,rfl,rfl⟩) answered
    · exact Within.bind (Within.update fun _ => ⟨rfl,rfl,rfl⟩) answered
  · exact answered ()

@[grind .] theorem confirmTwofa_within (windows : List WindowInfo) :
    (confirmTwofa windows).Within LeavesCounts E := by
  unfold confirmTwofa
  refine Within.bind Within.current fun s => ?_
  extract_lets judges confirms
  have judged : ∀ gone, (judges gone).Within LeavesCounts E := by
    intro gone
    unfold judges
    grind
  have confirmed : ∀ r, (confirms r).Within LeavesCounts E := by
    intro r
    refine Within.bind Within.current fun s => ?_
    split
    · exact Within.bind (elapsed_within _) judged
    · exact Within.bind (Within.pure _) judged
  split
  · exact Within.bind (Within.ask _) fun _ => Within.bind (Within.update fun _ => ⟨rfl,rfl,rfl⟩) confirmed
  · exact confirmed ()

@[grind .] theorem watchTwofa_within (frame : Frame) : (watchTwofa frame).Within LeavesCounts E := by
  unfold watchTwofa
  refine Within.bind listWindows_within fun listed => ?_
  cases listed with
  | error e => grind
  | ok windows =>
    refine Within.bind (Within.update fun _ => ⟨rfl,rfl,rfl⟩) fun _ => ?_
    split
    · exact Within.pure _
    · refine Within.bind (findTwofaWindow_within windows) fun found => ?_
      cases found with
      | some window => exact answerTwofa_within frame window
      | none => grind

theorem twofaTimeout_within (frame : Frame) : (twofaTimeout frame).Within LeavesAlone E := by
  unfold twofaTimeout
  simp only
  split
  · exact Within.pure _
  · refine Within.bind (Within.update fun _ => ⟨rfl,rfl⟩) fun _ => Within.bind Within.current fun s => ?_
    grind

theorem dispatchPopups_within (windows : List WindowInfo) :
    (dispatchPopups windows).Within LeavesCounts E := by
  induction windows with
  | nil => exact Within.pure _
  | cons window rest ih =>
    refine Within.bind (dispatch_within window) fun dispatched => ?_
    split
    · refine Within.bind (Within.ask _) fun now => Within.bind (Within.update fun _ => ⟨rfl,rfl,rfl⟩) fun _ => ?_
      exact Within.bind ih fun _ => Within.pure _
    · exact ih

theorem doDismissPopups_within : doDismissPopups.Within LeavesCounts E := by
  unfold doDismissPopups
  refine Within.bind (Within.ask _) fun running => ?_
  split
  · exact Within.pure _
  refine Within.bind Within.current fun s => ?_
  extract_lets waits dismisses
  have waited : ∀ found, (waits found).Within LeavesCounts E := by
    intro found
    refine Within.bind Within.current fun s => ?_
    grind
  have dismissed : ∀ r, (dismisses r).Within LeavesCounts E := by
    intro r
    refine Within.bind listWindows_within fun listed => ?_
    split
    · exact Within.bind (dispatchPopups_within _) waited
    · exact Within.bind (Within.pure _) waited
  split
  · exact Within.pure _
  split
  · exact Within.bind resetRegistry_within fun _ => Within.pure _
  split
  · exact Within.bind resetRegistry_within fun _ => Within.pure _
  split
  · refine Within.bind checkBlockingDialog_within fun blocking => ?_
    cases blocking with
    | none => exact dismissed ()
    | some next => grind
  · exact dismissed ()

theorem inspectApiServer_within (disconnected : Bool) (windows : List WindowInfo) :
    (inspectApiServer disconnected windows).Within LeavesCounts E := by
  induction windows generalizing disconnected with
  | nil => exact Within.pure _
  | cons window rest ih =>
    refine Within.bind dumpComponents_within fun dumped => ?_
    cases dumped with
    | error e => exact ih disconnected
    | ok components => grind

theorem doWaitForApiReady_within (frame : Frame) : (doWaitForApiReady frame).Within LeavesCounts E := by
  unfold doWaitForApiReady
  refine Within.bind (Within.ask _) fun running => ?_
  split
  · exact Within.pure _
  refine Within.bind Within.current fun s => ?_
  split
  · exact Within.pure _
  split
  · exact Within.pure _
  split
  · exact Within.pure _
  split
  · exact Within.pure _
  refine Within.bind checkBlockingDialog_within fun blocking => ?_
  cases blocking with
  | some next => exact Within.pure _
  | none =>
    refine Within.bind listWindows_within fun listed => ?_
    extract_lets judges
    have judged : ∀ found, (judges found).Within LeavesCounts E := by
      rintro ⟨ready,disconnected⟩
      unfold judges
      dsimp -zeta only
      split
      · exact Within.pure _
      · extract_lets timeoutSecs
        refine Within.bind Within.current fun s => Within.bind (elapsed_within _) fun waited => ?_
        split
        · exact Within.bind abortClientIdTask_within fun _ => Within.pure _
        · exact Within.bind Within.sleep fun _ => Within.pure _
    split
    · exact Within.bind (inspectApiServer_within _ _) judged
    · exact Within.bind (Within.pure _) judged

/-- The attempts are counted by ConfiguringApi itself. -/
theorem doConfigureApi_timeouts : doConfigureApi.Within LeavesTimeouts E := by
  have menus := dismissMenus_within.mono (E := E) fun _ leaves => leaves.timeouts
  have blocked := checkBlockingDialog_within.mono (E := E) fun _ leaves => leaves.timeouts
  have aborted := abortClientIdTask_within.mono (E := E) fun _ leaves => leaves.timeouts
  unfold doConfigureApi
  refine Within.bind menus fun _ => Within.bind blocked fun blocking => ?_
  cases blocking with
  | some next => exact Within.bind (.update fun _ => ⟨rfl,rfl⟩) fun _ => .pure _
  | none =>
    refine Within.bind (.ask _) fun running => ?_
    split
    · exact Within.bind (.update fun _ => ⟨rfl,rfl⟩) fun _ => .pure _
    · refine Within.bind (.update fun _ => ⟨rfl,rfl⟩) fun _ => Within.bind (.emit _) fun _ => ?_
      refine Within.bind (.await _) fun applied => ?_
      cases applied with
      | ok report => exact Within.bind (.update fun _ => ⟨rfl,rfl⟩) fun _ => .pure _
      | error e =>
        refine Within.bind menus fun _ => Within.bind .current fun s => ?_
        split
        · exact Within.bind (.update fun _ => ⟨rfl,rfl⟩) fun _ => Within.bind aborted fun _ => .pure _
        · exact Within.bind .sleep fun _ => .pure _

theorem doConfigureApi_within : doConfigureApi.Within LeavesSynced E :=
  doConfigureApi_timeouts.mono fun _ leaves s => (leaves s).1

section Established

@[grind .] theorem observe_within (source : RevocationSource) : (observe source).Within LeavesCounts E := by
  unfold observe
  grind

@[grind .] theorem clear_within (tag : RevocationTag) : (clear tag).Within LeavesCounts E := Within.update fun _ => ⟨rfl,rfl,rfl⟩

@[grind .] theorem observeOrClear_within (present : Bool) (source : RevocationSource) :
    (observeOrClear present source).Within LeavesCounts E := by
  unfold observeOrClear
  grind

theorem recordWindowClass_within : recordWindowClass.Within LeavesCounts E := by
  unfold recordWindowClass
  refine Within.bind Within.current fun s => ?_
  split
  · split
    · exact Within.update fun _ => ⟨rfl,rfl,rfl⟩
    · refine Within.bind listWindows_within fun listed => ?_
      grind
  · exact Within.pure _

theorem runningContradiction_within (frame : Frame) :
    (runningContradiction frame).Within LeavesCounts E := by
  unfold runningContradiction
  refine Within.bind (observeOrClear_within _ _) fun lost => ?_
  cases lost with
  | some next => exact Within.pure _
  | none =>
    refine Within.bind Within.current fun s => ?_
    extract_lets looks
    have looked : ∀ r, (looks r).Within LeavesCounts E := by
      intro r
      refine Within.bind reviveSocat_within fun _ => Within.bind Within.current fun s => ?_
      refine Within.bind (observeOrClear_within _ _) fun relogin => ?_
      grind
    split
    · refine Within.bind (observe_within _) fun probed => ?_
      cases probed with
      | some next => exact Within.bind (Within.update fun _ => ⟨rfl,rfl,rfl⟩) fun _ => Within.pure _
      | none => exact looked ()
    · exact looked ()

theorem followWindowClass_within : followWindowClass.Within LeavesCounts E := by
  apply Within.update
  intro s
  dsimp only
  split
  · split <;> exact ⟨rfl,rfl,rfl⟩
  · exact ⟨rfl,rfl,rfl⟩

theorem probedContradiction_within : probedContradiction.Within LeavesCounts E := by
  unfold probedContradiction
  refine Within.bind listWindows_within fun listed => Within.bind (clear_within _) fun _ => ?_
  refine Within.bind Within.current fun s => Within.bind followWindowClass_within fun _ => ?_
  refine Within.bind (elapsed_within _) fun entered => ?_
  extract_lets probeNeeded judges
  have judged : ∀ probed, (judges probed).Within LeavesCounts E := by
    rintro ⟨probeTwofa,components⟩
    unfold judges
    dsimp -zeta only
    split
    · exact Within.pure _
    · refine Within.bind (observeOrClear_within _ _) fun form => ?_
      cases form with
      | some next => exact Within.pure _
      | none => exact observeOrClear_within _ _
  split
  · exact Within.bind (Within.pure _) judged
  · extract_lets probes
    have probed : ∀ components, (probes components).Within LeavesCounts E := by
      intro components
      refine Within.bind (dispatchAll_within _) fun _ => ?_
      exact Within.bind (Within.pure _) judged
    split
    · exact Within.bind (dumps_within _) probed
    · exact Within.bind (Within.pure _) probed

@[grind .] theorem syncClientIds_within : syncClientIds.Within LeavesCounts E := by
  unfold syncClientIds
  grind

theorem resetTwofaTimeouts_within (frame : Frame) :
    (resetTwofaTimeouts frame).Within LeavesAlone E := by
  unfold resetTwofaTimeouts
  refine Within.bind Within.current fun s => ?_
  dsimp only
  split
  · split
    · refine Within.bind (alone (elapsed_within _)) fun since => ?_
      split
      · exact Within.update fun _ => ⟨rfl,rfl⟩
      · exact Within.pure _
    · exact Within.pure _
  · exact Within.pure _

/-- The supervision of a connection up to the count of timeouts, and where it leads. -/
def findContradiction (frame : Frame) : Step (Option State) := do
  recordWindowClass
  reviveSocat
  update fun s => { s with clientIdTask := true }
  if let some next ← directContradiction frame then return next
  if let some next ← probedContradiction then return next
  syncClientIds
  return none

theorem superviseConnection_parts (frame : Frame) : superviseConnection frame = (do
    match ← findContradiction frame with
    | some next => return some next
    | none =>
      resetTwofaTimeouts frame
      return none) := by
  unfold superviseConnection findContradiction
  simp only [bind_assoc]
  refine bind_congr fun _ => bind_congr fun _ => bind_congr fun _ => bind_congr fun direct => ?_
  cases direct with
  | some next => rfl
  | none =>
    simp only [bind_assoc]
    refine bind_congr fun probed => ?_
    cases probed with
    | some next => rfl
    | none =>
      dsimp only
      rw [bind_assoc]
      rfl

theorem findContradiction_within (frame : Frame) : (findContradiction frame).Within LeavesCounts E := by
  have direct : (directContradiction frame).Within LeavesCounts E := by
    rw [directContradiction_eq]
    refine Within.bind (Within.ask _) fun running => ?_
    split
    · refine Within.bind (Within.ask _) fun hash => Within.bind (Within.update fun _ => ⟨rfl,rfl,rfl⟩) fun _ => ?_
      exact Within.bind (observe_within _) fun _ => Within.pure _
    · exact runningContradiction_within frame
  unfold findContradiction
  refine Within.bind recordWindowClass_within fun _ => Within.bind reviveSocat_within fun _ => ?_
  refine Within.bind (Within.update fun _ => ⟨rfl,rfl,rfl⟩) fun _ => Within.bind direct fun found => ?_
  cases found with
  | some next => exact Within.pure _
  | none =>
    refine Within.bind probedContradiction_within fun probed => ?_
    grind

theorem superviseConnection_within (frame : Frame) : (superviseConnection frame).Within LeavesAlone E := by
  rw [superviseConnection_parts]
  refine Within.bind (alone (findContradiction_within frame)) fun found => ?_
  cases found with
  | some next => exact Within.pure _
  | none => exact Within.bind (resetTwofaTimeouts_within frame) fun _ => Within.pure _

theorem markStable_within (frame : Frame) : (markStable frame).Within LeavesCounts E := by
  unfold markStable
  cases frame.connectedContinuouslySince with
  | none => exact Within.pure _
  | some since =>
    refine Within.bind (Within.ask _) fun now => ?_
    split
    · refine Within.bind (Within.update fun _ => ⟨rfl,rfl,rfl⟩) fun _ => Within.bind Within.current fun s => ?_
      split
      · refine Within.bind (Within.ask _) fun written => Within.bind (Within.emit _) fun _ => ?_
        exact Within.update fun _ => ⟨rfl,rfl,rfl⟩
      · exact Within.pure _
    · exact Within.pure _

theorem cancelRelogin_within (windows : List WindowInfo) :
    (cancelRelogin windows).Within LeavesCounts E := by
  induction windows with
  | nil => exact Within.pure _
  | cons window rest ih =>
    unfold cancelRelogin
    dsimp only
    split
    · exact Within.bind (clickButton_within _ _) fun _ => ih
    · exact ih

theorem giveUpRelogin_within (frame : Frame) : (giveUpRelogin frame).Within LeavesCounts E := by
  unfold giveUpRelogin
  refine Within.bind listWindows_within fun listed => ?_
  extract_lets ends
  have ended : ∀ r, (ends r).Within LeavesCounts E := by
    intro r
    refine Within.bind resetRegistry_within fun _ => Within.bind abortClientIdTask_within fun _ => ?_
    refine Within.bind (Within.update fun _ => ⟨rfl,rfl,rfl⟩) fun _ => Within.bind Within.sleep fun _ => ?_
    grind
  split
  · exact Within.bind (cancelRelogin_within _) ended
  · exact ended ()

@[grind .] theorem endRelogin_within (next : State) : (endRelogin next).Within LeavesCounts E := by
  unfold endRelogin
  grind

theorem confirmRelogin_within : confirmRelogin.Within LeavesCounts E := by
  unfold confirmRelogin
  refine Within.bind Within.sleep fun _ => Within.bind Within.current fun s => ?_
  split
  · exact endRelogin_within _
  refine Within.bind listWindows_within fun listed => ?_
  extract_lets judges
  have judged : ∀ components, (judges components).Within LeavesCounts E := by
    intro components
    unfold judges
    grind
  split
  · exact Within.bind (Within.pure _) judged
  · split
    · exact Within.bind (Within.pure _) judged
    · exact Within.bind (dumps_within _) fun _ => Within.bind (Within.pure _) judged

theorem doReconnectingSession_within (frame : Frame) :
    (doReconnectingSession frame).Within LeavesCounts E := by
  unfold doReconnectingSession
  refine Within.bind (Within.ask _) fun running => ?_
  split
  · grind
  refine Within.bind Within.current fun s => ?_
  split
  · exact giveUpRelogin_within frame
  refine Within.bind (elapsed_within _) fun entered => ?_
  split
  · exact Within.bind Within.sleep fun _ => Within.pure _
  refine Within.bind listWindows_within fun listed => ?_
  have waits : (do sleep; return .reconnectingSession : Step State).Within LeavesCounts E :=
    Within.bind Within.sleep fun _ => Within.pure _
  dsimp only
  split
  · exact waits
  · split
    · refine Within.bind confirmRelogin_within fun confirmed => ?_
      cases confirmed with
      | some next => exact Within.pure _
      | none => exact waits
    · refine Within.bind (clickButton_within _ _) fun _ => Within.bind resetRegistry_within fun _ => ?_
      exact Within.bind Within.sleep fun _ => Within.pure _

@[grind .] theorem tearDown_within : tearDown.Within LeavesCounts E := by
  unfold tearDown
  refine Within.bind abortClientIdTask_within fun _ => Within.bind stopSocat_within fun _ => ?_
  grind

theorem doRestart_within (frame : Frame) : (doRestart frame).Within LeavesCounts E := by
  unfold doRestart
  refine Within.bind Within.current fun s => ?_
  extract_lets warm exponent delay tears threshold restarts
  have torn : ∀ r, (tears r).Within LeavesCounts E :=
    fun r => Within.bind tearDown_within fun _ => Within.pure _
  have restarted : ∀ r, (restarts r).Within LeavesCounts E := by
    intro r
    unfold restarts
    split
    · refine Within.bind (Within.update fun _ => ⟨rfl,rfl,rfl⟩) fun _ => Within.bind Within.current fun s => ?_
      split
      · exact Within.bind (Within.emit _) fun _ => Within.pure _
      · exact torn ()
    · exact torn ()
  split
  · refine Within.bind (elapsed_within _) fun waited => ?_
    split
    · exact Within.bind Within.sleep fun _ => Within.pure _
    · exact restarted ()
  · exact restarted ()

theorem doWaitingForIb_within (frame : Frame) : (doWaitingForIb frame).Within LeavesCounts E := by
  unfold doWaitingForIb
  grind

theorem doWaitingForHitl2fa_within (frame : Frame) : (doWaitingForHitl2fa frame).Within LeavesCounts E := by
  have entered : ∀ backoff, (enterHitl backoff).Within LeavesCounts E := by
    intro backoff
    unfold enterHitl
    grind
  have formed : observeHitlLoginForm.Within LeavesCounts E := by
    unfold observeHitlLoginForm
    grind
  have connected : observeHitlConnected.Within LeavesCounts E := by
    unfold observeHitlConnected
    grind
  have due : ∀ backoff, (hitlRetryDue backoff).Within LeavesCounts E := by
    intro backoff
    unfold hitlRetryDue
    grind
  unfold doWaitingForHitl2fa
  refine Within.bind (entered _) fun _ => ?_
  grind

end Established

section Handing

/-! The three that hand an error of the agent on, each cut where its last such call is made. -/

/-- A login from its listing on. -/
def loginAmong (windows : List WindowInfo) : Step State := do
  match (gatewayWindows windows).head? with
  | none => return .waitingForLogin
  | some window =>
    match ← dumpComponents with
    | .ok components =>
      if componentsHaveLoginForm components then submitLogin window
      else return .dismissingPopups
    | .error _ => return .dismissingPopups

/-- A login behind its two gates. -/
def loginBehindGates : Step State := do
  if let some next ← checkBlockingDialog then return next
  let windows ← orFail .agent (← listWindows)
  loginAmong windows

/-- The wait for the second factor behind its first gate, and where it leads; nothing where it
has timed out. -/
def awaitTwofa (frame : Frame) : Step (Option State) := do
  if ← waitForRetryDeadline then return some .waitingFor2fa
  if !(← ask Answers.isRunning) then return some (.error "JVM exited during 2FA wait")
  let s ← current
  if s.observation.hasReloginDialog then return some .waitingForLogin
  if s.observation.hasSessionConflict then return some .handlingSessionConflict
  if (← checkBlockingDialog) = some .waitingForLogin then return some .waitingForLogin
  if let some next ← watchTwofa frame then return some next
  let s ← current
  if (← elapsed s.stateEnteredAt) > .fromSecs frame.config.twofa.timeoutSeconds then return none
  sleep
  return some .waitingFor2fa

/-- The wait for the second factor behind its first gate. -/
def twofaBehindGate (frame : Frame) : Step State := do
  if ← waitForRetryDeadline then return .waitingFor2fa
  if !(← ask Answers.isRunning) then return .error "JVM exited during 2FA wait"
  let s ← current
  if s.observation.hasReloginDialog then return .waitingForLogin
  if s.observation.hasSessionConflict then return .handlingSessionConflict
  if (← checkBlockingDialog) = some .waitingForLogin then return .waitingForLogin
  if let some next ← watchTwofa frame then return next
  let s ← current
  if (← elapsed s.stateEnteredAt) > .fromSecs frame.config.twofa.timeoutSeconds then
    twofaTimeout frame
  else
    sleep
    return .waitingFor2fa

/-- The answer to a session conflict from its listing on. -/
def conflictAmong (windows : List WindowInfo) : Step State := do
  match windows.find? (fun w => titleContains w.title ["existing session"]) with
  | some window => let _ ← dispatch window
  | none => pure ()
  sleep
  return .dismissingPopups

theorem doAuthenticate_eq : doAuthenticate = (do
    if ← waitForObservedTwofaRetry then return .authenticating
    if ← waitForRetryDeadline then return .authenticating
    loginBehindGates) := rfl

theorem doWaitFor2fa_eq (frame : Frame) : doWaitFor2fa frame = (do
    if ← waitForObservedTwofaRetry then return .waitingFor2fa
    twofaBehindGate frame) := rfl

theorem twofaBehindGate_eq (frame : Frame) : twofaBehindGate frame = (do
    match ← awaitTwofa frame with
    | some next => return next
    | none => twofaTimeout frame) := by
  have chosen : ∀ {α β : Type} (c : Prop) [Decidable c] (first second : Step α) (rest : α → Step β),
      (if c then first else second) >>= rest = if c then first >>= rest else second >>= rest := by
    intro α β c decides first second rest
    split <;> rfl
  unfold twofaBehindGate awaitTwofa
  simp only [bind_assoc,chosen,pure_bind]
  refine bind_congr fun blocked => ite_congr rfl (fun _ => rfl) fun _ => ?_
  refine bind_congr fun running => ite_congr rfl (fun _ => rfl) fun _ => ?_
  refine bind_congr fun s => ite_congr rfl (fun _ => rfl) fun _ => ite_congr rfl (fun _ => rfl) fun _ => ?_
  refine bind_congr fun blocking => ite_congr rfl (fun _ => rfl) fun _ => bind_congr fun watched => ?_
  cases watched with
  | some next => rfl
  | none => simp only [bind_assoc,chosen,pure_bind]

theorem doHandleSessionConflict_eq : doHandleSessionConflict = (do
    let windows ← orFail .agent (← listWindows)
    conflictAmong windows) := rfl

theorem loginAmong_within (windows : List WindowInfo) :
    (loginAmong windows).Within LeavesCounts E := by
  unfold loginAmong
  split
  · exact Within.pure _
  · refine Within.bind dumpComponents_within fun dumped => ?_
    grind

theorem awaitTwofa_within (frame : Frame) : (awaitTwofa frame).Within LeavesCounts E := by
  refine Within.bind waitForRetryDeadline_within fun blocked => ?_
  split
  · exact Within.pure _
  refine Within.bind (Within.ask _) fun running => ?_
  split
  · exact Within.pure _
  refine Within.bind Within.current fun s => ?_
  split
  · exact Within.pure _
  split
  · exact Within.pure _
  refine Within.bind checkBlockingDialog_within fun blocking => ?_
  split
  · exact Within.pure _
  refine Within.bind (watchTwofa_within frame) fun watched => ?_
  cases watched with
  | some next => exact Within.pure _
  | none =>
    refine Within.bind Within.current fun s => Within.bind (elapsed_within _) fun waited => ?_
    split
    · exact Within.pure _
    · exact Within.bind Within.sleep fun _ => Within.pure _

theorem twofaBehindGate_within (frame : Frame) : (twofaBehindGate frame).Within LeavesAlone E := by
  rw [twofaBehindGate_eq]
  refine Within.bind (alone (awaitTwofa_within frame)) fun found => ?_
  cases found with
  | some next => exact Within.pure _
  | none => exact twofaTimeout_within frame

theorem conflictAmong_within (windows : List WindowInfo) :
    (conflictAmong windows).Within LeavesCounts E := by
  unfold conflictAmong
  grind

variable (handed : ∀ e, E (.agent e))
include handed

theorem waitForObservedTwofaRetry_within :
    waitForObservedTwofaRetry.Within LeavesCounts E := by
  unfold waitForObservedTwofaRetry
  refine Within.bind Within.current fun s => ?_
  split
  · exact Within.pure _
  · refine Within.bind listWindows_within fun listed => Within.bind (.orFail handed _) fun windows => ?_
    refine Within.bind (dumps_within windows) fun components => ?_
    grind

theorem doAuthenticate_within : doAuthenticate.Within LeavesCounts E := by
  rw [doAuthenticate_eq]
  refine Within.bind (waitForObservedTwofaRetry_within handed) fun waits => ?_
  split
  · exact Within.pure _
  refine Within.bind waitForRetryDeadline_within fun blocked => ?_
  split
  · exact Within.pure _
  refine Within.bind checkBlockingDialog_within fun blocking => ?_
  cases blocking with
  | some next => exact Within.pure _
  | none =>
    refine Within.bind listWindows_within fun listed => ?_
    exact Within.bind (.orFail handed _) loginAmong_within

theorem doWaitFor2fa_within (frame : Frame) : (doWaitFor2fa frame).Within LeavesAlone E := by
  rw [doWaitFor2fa_eq]
  refine Within.bind (alone (waitForObservedTwofaRetry_within handed)) fun waits => ?_
  split
  · exact Within.pure _
  · exact twofaBehindGate_within frame

theorem doHandleSessionConflict_within : doHandleSessionConflict.Within LeavesCounts E := by
  rw [doHandleSessionConflict_eq]
  refine Within.bind listWindows_within fun listed => ?_
  exact Within.bind (.orFail handed _) conflictAmong_within

end Handing

/-- What every update of a handler keeps but for those of the three that count, the handler of the
present state keeps if these do. -/
theorem StateMachine.transition_counts {sm : StateMachine} {schedule : Schedule Answers} {S : Session → Prop}
    (leaves : ∀ f, LeavesCounts f → ∀ s, S s → S (f s))
    (waits : sm.state = .waitingFor2fa → (doWaitFor2fa sm.frame).Keeps schedule (fun s _ => S s))
    (configures : sm.state = .configuringApi → doConfigureApi.Keeps schedule (fun s _ => S s))
    (supervises : sm.state = .connected → (superviseConnection sm.frame).Keeps schedule (fun s _ => S s))
    {s : Session} (before : S s) : S (sm.transition.start schedule s).state := by
  have kept : ∀ {φ α : Type} {t : Task Answers φ StateMachineError Session α},
      t.Within LeavesCounts (fun _ => True) → t.Keeps schedule (fun s _ => S s) :=
    fun within => within.keeps leaves
  have gateway : ∀ {t : Step State}, t.Within LeavesCounts (fun _ => True) →
      S ((mapEffects ConnectedEffect.gateway t).start schedule s).state :=
    fun within => (keeps_renamed (kept within)).start s before
  unfold StateMachine.transition
  cases state : sm.state with
  | waitingForLaunch => exact gateway doWaitingForLaunch_within
  | init => exact gateway (doInit_within _)
  | launching => exact gateway (doLaunch_within fun _ => trivial)
  | waitingForAgent => exact gateway doWaitForAgent_within
  | waitingForLogin => exact gateway (doWaitForLogin_within _)
  | authenticating => exact gateway (doAuthenticate_within fun _ => trivial)
  | waitingFor2fa => exact (keeps_renamed (waits state)).start s before
  | handlingSessionConflict => exact gateway (doHandleSessionConflict_within fun _ => trivial)
  | dismissingPopups => exact gateway doDismissPopups_within
  | waitingForApiReady => exact gateway (doWaitForApiReady_within _)
  | configuringApi => exact (keeps_renamed (configures state)).start s before
  | connected =>
    have connects : (doConnected sm.frame).Keeps schedule (fun s _ => S s) := by
      refine keeps_bind (keeps_renamed (supervises state)) fun found => ?_
      cases found with
      | some next => exact keeps_pure _
      | none =>
        refine keeps_bind (kept (markStable_within _)) fun _ => ?_
        exact keeps_bind keeps_sleep fun _ => keeps_pure _
    exact connects.start s before
  | reconnectingSession => exact gateway (doReconnectingSession_within _)
  | restarting => exact gateway (doRestart_within _)
  | waitingForIB => exact gateway (doWaitingForIb_within _)
  | waitingForHitl2fa => exact gateway (doWaitingForHitl2fa_within _)
  | shutdown => exact before
  | error message => exact before

/-- What every update of a handler keeps, the handler of the present state keeps. -/
theorem StateMachine.transition_leaves {sm : StateMachine} {schedule : Schedule Answers} {S : Session → Prop}
    (leaves : ∀ f, LeavesAlone f → ∀ s, S s → S (f s))
    (configures : sm.state = .configuringApi → doConfigureApi.Keeps schedule (fun s _ => S s))
    {s : Session} (before : S s) : S (sm.transition.start schedule s).state := by
  refine StateMachine.transition_counts (fun f counts => leaves f counts.alone) (fun _ => ?_) configures
    (fun _ => ?_) before
  · exact (doWaitFor2fa_within (E := fun _ => True) (fun _ => trivial) _).keeps leaves
  · exact (superviseConnection_within (E := fun _ => True) _).keeps leaves

/-- No handler synchronises the cache of windows. -/
theorem StateMachine.transition_synced (sm : StateMachine) (schedule : Schedule Answers) (s : Session) :
    (sm.transition.start schedule s).state.observation.synced = s.observation.synced := by
  refine StateMachine.transition_leaves (S := fun after => after.observation.synced = s.observation.synced)
    (fun f leaves s' same => (leaves s').2.trans same) (fun _ => ?_) rfl
  have configures : doConfigureApi.Within LeavesSynced (fun _ => True) := doConfigureApi_within
  exact configures.keeps fun f leaves s' same => (leaves s').trans same

end Ibctl.Machine
