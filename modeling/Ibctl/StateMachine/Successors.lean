import Ibctl.StateMachine.Machine

/-! The graph of the states: where each handler can lead, whatever it is answered and wherever
it is dropped. An error of any state is one more successor; WaitingForIB also leads back to
the state it was entered from. -/
namespace Ibctl.Machine
open Tasks Step Task

def State.successors : State → List State
  | .waitingForLaunch => [.waitingForLaunch]
  | .init => [.launching]
  | .launching => [.waitingForAgent]
  | .waitingForAgent => [.waitingForAgent,.waitingForLogin]
  | .waitingForLogin =>
    [.waitingForLogin,.authenticating,.dismissingPopups,.handlingSessionConflict,.waitingFor2fa,
      .reconnectingSession]
  | .authenticating =>
    [.authenticating,.waitingForLogin,.waitingFor2fa,.dismissingPopups,.reconnectingSession]
  | .waitingFor2fa =>
    [.waitingFor2fa,.waitingForLogin,.handlingSessionConflict,.dismissingPopups,.restarting,
      .waitingForHitl2fa,.shutdown]
  | .handlingSessionConflict => [.dismissingPopups]
  | .dismissingPopups =>
    [.dismissingPopups,.waitingFor2fa,.reconnectingSession,.handlingSessionConflict,
      .waitingForApiReady]
  | .waitingForApiReady =>
    [.waitingForApiReady,.restarting,.waitingFor2fa,.reconnectingSession,.handlingSessionConflict,
      .waitingForLogin,.configuringApi]
  | .configuringApi => [.configuringApi,.connected,.restarting,.reconnectingSession,.waitingFor2fa]
  | .connected =>
    [.connected,.restarting,.reconnectingSession,.handlingSessionConflict,.waitingForLogin,
      .waitingFor2fa]
  | .reconnectingSession =>
    [.reconnectingSession,.restarting,.waitingForLogin,.waitingFor2fa,.connected]
  | .restarting => [.restarting,.launching,.shutdown]
  | .waitingForIB => [.waitingForIB,.init]
  | .waitingForHitl2fa => [.waitingForHitl2fa,.waitingForLogin,.waitingForApiReady,.restarting]
  | .shutdown => [.shutdown]
  | .error _ => []

def State.isError : State → Bool
  | .error _ => true
  | _ => false

/-- A handler of the first state can return the second. -/
def State.LeadsTo (source next : State) : Prop := next ∈ source.successors ∨ next.isError = true

instance (source next : State) : Decidable (source.LeadsTo next) :=
  inferInstanceAs (Decidable (_ ∨ _))

/-- What a task that may decide for a state decides for. -/
def Decides (source : State) (decided : Option State) : Prop :=
  ∀ next, decided = some next → source.LeadsTo next

variable {schedule : Schedule Answers} {source : State}

theorem decides_none : Decides source none := fun _ same => by cases same

theorem decides_some {next : State} (leads : source.LeadsTo next) : Decides source (some next) :=
  fun _ same => by cases same; exact leads

section Login

theorem checkBlockingDialog_decides (source : State)
    (relogin : source.LeadsTo .reconnectingSession) (twofa : source.LeadsTo .waitingFor2fa) :
    checkBlockingDialog.Returns schedule (Decides source) := by
  have classified : ∀ title next, classifyBlockingDialog title = some next → source.LeadsTo next := by
    intro title next classified
    unfold classifyBlockingDialog at classified
    split at classified
    · cases classified
      exact relogin
    · split at classified
      · cases classified
        exact twofa
      · cases classified
  unfold checkBlockingDialog
  refine returns_last fun listed => ?_
  cases listed with
  | error e => exact returns_pure decides_none
  | ok windows =>
    refine returns_pure fun next found => ?_
    obtain ⟨window,-,title⟩ := List.exists_of_findSome?_eq_some found
    exact classified _ _ title

theorem doWaitingForLaunch_returns :
    doWaitingForLaunch.Returns schedule State.waitingForLaunch.LeadsTo :=
  returns_last fun _ => returns_pure (by decide)

theorem doInit_returns (frame : Frame) : (doInit frame).Returns schedule State.init.LeadsTo := by
  unfold doInit
  refine returns_last fun found => ?_
  split
  · exact returns_pure (by decide)
  · exact returns_pure (.inr rfl)

theorem doLaunch_returns : doLaunch.Returns schedule State.launching.LeadsTo := by
  unfold doLaunch
  exact returns_last fun _ => returns_last fun _ => returns_last fun _ => returns_last fun _ =>
    returns_pure (by decide)

theorem doWaitForAgent_returns : doWaitForAgent.Returns schedule State.waitingForAgent.LeadsTo := by
  unfold doWaitForAgent
  refine returns_last fun running => ?_
  split
  · exact returns_pure (.inr rfl)
  · refine returns_last fun health => ?_
    split
    · exact returns_pure (by decide)
    · refine returns_last fun s => returns_last fun waited => ?_
      split
      · exact returns_pure (.inr rfl)
      · exact returns_last fun _ => returns_pure (by decide)

theorem waitForWarmLogin_decides :
    waitForWarmLogin.Returns schedule (Decides .waitingForLogin) := by
  unfold waitForWarmLogin
  refine returns_last fun running => ?_
  split
  · exact returns_last fun _ => returns_pure (decides_some (.inr rfl))
  refine returns_last fun listed => ?_
  extract_lets waits
  have waited : ∀ r, (waits r).Returns schedule (Decides .waitingForLogin) := by
    intro r
    refine returns_last fun s => returns_last fun entered => ?_
    split
    · exact returns_last fun _ => returns_last fun _ => returns_pure decides_none
    · exact returns_last fun _ => returns_pure (decides_some (by decide))
  split
  · split
    · exact returns_last fun _ => returns_pure (decides_some (by decide))
    · exact waited ()
  · exact waited ()

theorem observedLoginState_decides (observation : AgentObservation) :
    Decides .waitingForLogin (observedLoginState observation) := by
  unfold observedLoginState
  split
  · exact decides_some (by decide)
  split
  · exact decides_some (by decide)
  split
  · exact decides_some (by decide)
  · intro next found
    obtain ⟨main,-,rfl⟩ := Option.map_eq_some_iff.mp found
    split <;> decide

theorem polledLoginState_decides :
    polledLoginState.Returns schedule (Decides .waitingForLogin) := by
  unfold polledLoginState
  refine returns_bind (checkBlockingDialog_decides .waitingForLogin (by decide) (by decide))
    fun blocking blocks => ?_
  cases blocking with
  | some next => exact returns_pure blocks
  | none =>
    refine returns_last fun listed => ?_
    cases listed with
    | error e => exact returns_pure decides_none
    | ok windows =>
      simp only
      split
      · exact returns_pure (decides_some (by decide))
      · split
        · exact returns_pure decides_none
        · refine returns_last fun dumped => ?_
          cases dumped with
          | error e => exact returns_pure (decides_some (by decide))
          | ok components =>
            simp only
            split
            · exact returns_pure (decides_some (by decide))
            · exact returns_pure (decides_some (by decide))

theorem doWaitForLogin_returns (frame : Frame) :
    (doWaitForLogin frame).Returns schedule State.waitingForLogin.LeadsTo := by
  unfold doWaitForLogin
  refine returns_last fun s => ?_
  extract_lets timeoutSecs ends decides colds
  have ended : ∀ r, (ends r).Returns schedule State.waitingForLogin.LeadsTo :=
    fun r => returns_last fun _ => returns_pure (by decide)
  have decided : ∀ found, Decides .waitingForLogin found →
      (decides found).Returns schedule State.waitingForLogin.LeadsTo := by
    intro found finds
    cases found with
    | some next => exact returns_pure (finds next rfl)
    | none =>
      refine returns_last fun s => ?_
      split
      · refine returns_last fun waited => ?_
        split
        · exact returns_pure (.inr rfl)
        · exact ended ()
      · exact ended ()
  have cold : ∀ r, (colds r).Returns schedule State.waitingForLogin.LeadsTo := by
    intro r
    refine returns_last fun running => ?_
    split
    · exact returns_pure (.inr rfl)
    · refine returns_last fun s => ?_
      split
      · exact returns_bind (returns_pure (observedLoginState_decides _)) decided
      · exact returns_bind polledLoginState_decides decided
  split
  · refine returns_bind waitForWarmLogin_decides fun found finds => ?_
    cases found with
    | some next => exact returns_pure (finds next rfl)
    | none => exact cold ()
  · exact cold ()

theorem submitLogin_returns (window : WindowInfo) :
    (submitLogin window).Returns schedule State.authenticating.LeadsTo := by
  unfold submitLogin
  refine returns_last fun dispatched => ?_
  split
  · exact returns_last fun _ => returns_last fun _ => returns_pure (by decide)
  · exact returns_last fun _ => returns_pure (by decide)
  · exact returns_last fun _ => returns_pure (by decide)
  · exact returns_last fun _ => returns_pure (by decide)
  · exact returns_last fun _ => returns_pure (by decide)

theorem doAuthenticate_returns : doAuthenticate.Returns schedule State.authenticating.LeadsTo := by
  unfold doAuthenticate
  refine returns_last fun observed => ?_
  split
  · exact returns_pure (by decide)
  refine returns_last fun waiting => ?_
  split
  · exact returns_pure (by decide)
  refine returns_bind (checkBlockingDialog_decides .authenticating (by decide) (by decide))
    fun blocking blocks => ?_
  cases blocking with
  | some next => exact returns_pure (blocks next rfl)
  | none =>
    refine returns_last fun listed => returns_last fun windows => ?_
    split
    · exact returns_pure (by decide)
    · refine returns_last fun dumped => ?_
      cases dumped with
      | error e => exact returns_pure (by decide)
      | ok components =>
        simp only
        split
        · exact submitLogin_returns _
        · exact returns_pure (by decide)

theorem answerTwofa_decides (frame : Frame) (window : WindowInfo) :
    (answerTwofa frame window).Returns schedule (Decides .waitingFor2fa) := by
  unfold answerTwofa
  refine returns_last fun _ => returns_last fun s => ?_
  extract_lets device enters answers
  have answered : ∀ r, (answers r).Returns schedule (Decides .waitingFor2fa) := by
    intro r
    unfold answers
    split
    · refine returns_last fun entry => ?_
      split
      · exact returns_last fun _ => returns_pure (decides_some (by decide))
      · exact returns_pure decides_none
    · exact returns_pure decides_none
  split
  · split
    · refine returns_last fun selected => ?_
      split
      · exact returns_last fun _ => returns_last fun _ => returns_last fun _ => returns_last fun _ =>
          returns_pure (decides_some (by decide))
      · exact returns_last answered
    · exact returns_last answered
  · exact answered ()

theorem confirmTwofa_decides (windows : List WindowInfo) :
    (confirmTwofa windows).Returns schedule (Decides .waitingFor2fa) := by
  unfold confirmTwofa
  refine returns_last fun s => ?_
  extract_lets judges confirms
  have judged : ∀ gone, (judges gone).Returns schedule (Decides .waitingFor2fa) := by
    intro gone
    unfold judges
    split
    · exact returns_pure decides_none
    · refine returns_last fun components => ?_
      split
      · exact returns_last fun _ => returns_pure (decides_some (by decide))
      · split
        · exact returns_pure (decides_some (by decide))
        · exact returns_pure decides_none
  have confirmed : ∀ r, (confirms r).Returns schedule (Decides .waitingFor2fa) := by
    intro r
    refine returns_last fun s => ?_
    split
    · exact returns_last judged
    · exact returns_last judged
  split
  · exact returns_last fun _ => returns_last confirmed
  · exact confirmed ()

theorem watchTwofa_decides (frame : Frame) :
    (watchTwofa frame).Returns schedule (Decides .waitingFor2fa) := by
  unfold watchTwofa
  refine returns_last fun listed => ?_
  cases listed with
  | error e =>
    refine returns_last fun _ => returns_last fun s => ?_
    split
    · exact returns_pure (decides_some (.inr rfl))
    · exact returns_pure decides_none
  | ok windows =>
    refine returns_last fun _ => ?_
    split
    · exact returns_pure (decides_some (by decide))
    · refine returns_last fun found => ?_
      cases found with
      | some window => exact answerTwofa_decides frame window
      | none =>
        refine returns_last fun s => ?_
        split
        · exact confirmTwofa_decides windows
        · refine returns_last fun waited => ?_
          split
          · exact returns_pure (decides_some (by decide))
          · exact returns_pure decides_none

theorem twofaTimeout_returns (frame : Frame) :
    (twofaTimeout frame).Returns schedule State.waitingFor2fa.LeadsTo := by
  unfold twofaTimeout
  dsimp only
  split
  · exact returns_pure (by decide)
  · refine returns_last fun _ => returns_last fun s => ?_
    split
    · exact returns_pure (by decide)
    · exact returns_pure (by decide)
    · split
      · exact returns_pure (by decide)
      · exact returns_pure (by decide)

theorem doWaitFor2fa_returns (frame : Frame) :
    (doWaitFor2fa frame).Returns schedule State.waitingFor2fa.LeadsTo := by
  unfold doWaitFor2fa
  refine returns_last fun observed => ?_
  split
  · exact returns_pure (by decide)
  refine returns_last fun waiting => ?_
  split
  · exact returns_pure (by decide)
  refine returns_last fun running => ?_
  split
  · exact returns_pure (.inr rfl)
  refine returns_last fun s => ?_
  split
  · exact returns_pure (by decide)
  split
  · exact returns_pure (by decide)
  refine returns_last fun blocking => ?_
  split
  · exact returns_pure (by decide)
  refine returns_bind (watchTwofa_decides frame) fun watched watches => ?_
  cases watched with
  | some next => exact returns_pure (watches next rfl)
  | none =>
    refine returns_last fun s => returns_last fun waited => ?_
    split
    · exact twofaTimeout_returns frame
    · exact returns_last fun _ => returns_pure (by decide)

theorem doHandleSessionConflict_returns :
    doHandleSessionConflict.Returns schedule State.handlingSessionConflict.LeadsTo := by
  unfold doHandleSessionConflict
  refine returns_last fun listed => returns_last fun windows => ?_
  extract_lets ends
  have ended : ∀ r, (ends r).Returns schedule State.handlingSessionConflict.LeadsTo :=
    fun r => returns_last fun _ => returns_pure (by decide)
  split
  · exact returns_last fun _ => ended ()
  · exact ended ()

theorem doDismissPopups_returns :
    doDismissPopups.Returns schedule State.dismissingPopups.LeadsTo := by
  unfold doDismissPopups
  refine returns_last fun running => ?_
  split
  · exact returns_pure (.inr rfl)
  refine returns_last fun s => ?_
  split
  · exact returns_pure (by decide)
  split
  · exact returns_last fun _ => returns_pure (by decide)
  split
  · exact returns_last fun _ => returns_pure (by decide)
  extract_lets judges pops
  have popped : ∀ r, (pops r).Returns schedule State.dismissingPopups.LeadsTo := by
    intro r
    have judged : ∀ found, (judges found).Returns schedule State.dismissingPopups.LeadsTo := by
      intro found
      refine returns_last fun s => ?_
      extract_lets ends
      have ended : ∀ r, (ends r).Returns schedule State.dismissingPopups.LeadsTo := by
        intro r
        refine returns_last fun entered => ?_
        split
        · exact returns_pure (by decide)
        · exact returns_last fun _ => returns_pure (by decide)
      split
      · refine returns_last fun dismissed => ?_
        split
        · exact returns_pure (by decide)
        · exact ended ()
      · exact ended ()
    refine returns_last fun listed => ?_
    split
    · exact returns_last judged
    · exact returns_last judged
  split
  · refine returns_bind (checkBlockingDialog_decides .dismissingPopups (by decide) (by decide))
      fun blocking blocks => ?_
    cases blocking with
    | some next =>
      simp only
      split
      · exact returns_last fun _ => returns_pure (blocks next rfl)
      · exact returns_pure (blocks next rfl)
    | none => exact popped ()
  · exact popped ()

theorem doWaitForApiReady_returns (frame : Frame) :
    (doWaitForApiReady frame).Returns schedule State.waitingForApiReady.LeadsTo := by
  unfold doWaitForApiReady
  refine returns_last fun running => ?_
  split
  · exact returns_pure (by decide)
  refine returns_last fun s => ?_
  split
  · exact returns_pure (by decide)
  split
  · exact returns_pure (by decide)
  split
  · exact returns_pure (by decide)
  split
  · exact returns_pure (by decide)
  refine returns_bind (checkBlockingDialog_decides .waitingForApiReady (by decide) (by decide))
    fun blocking blocks => ?_
  cases blocking with
  | some next => exact returns_pure (blocks next rfl)
  | none =>
    refine returns_last fun listed => ?_
    extract_lets judges
    have judged : ∀ inspected, (judges inspected).Returns schedule
        State.waitingForApiReady.LeadsTo := by
      rintro ⟨ready,disconnected⟩
      unfold judges
      dsimp -zeta only
      split
      · exact returns_pure (by decide)
      · extract_lets timeoutSecs
        refine returns_last fun s => returns_last fun waited => ?_
        split
        · exact returns_last fun _ => returns_pure (by decide)
        · exact returns_last fun _ => returns_pure (by decide)
    split
    · exact returns_last judged
    · exact returns_last judged

theorem doConfigureApi_returns : doConfigureApi.Returns schedule State.configuringApi.LeadsTo := by
  unfold doConfigureApi
  refine returns_last fun _ => ?_
  refine returns_bind (checkBlockingDialog_decides .configuringApi (by decide) (by decide))
    fun blocking blocks => ?_
  cases blocking with
  | some next => exact returns_last fun _ => returns_pure (blocks next rfl)
  | none =>
    refine returns_last fun running => ?_
    split
    · exact returns_last fun _ => returns_pure (by decide)
    refine returns_last fun _ => returns_last fun _ => returns_last fun applied => ?_
    split
    · exact returns_last fun _ => returns_pure (by decide)
    · refine returns_last fun _ => returns_last fun s => ?_
      split
      · exact returns_last fun _ => returns_last fun _ => returns_pure (by decide)
      · exact returns_last fun _ => returns_pure (by decide)

end Login

section Established

theorem observe_decides (source : RevocationSource) :
    (observe source).Returns schedule (Decides .connected) := by
  have named : ∀ fired : RevocationSource, State.connected.LeadsTo fired.nextState := by
    intro fired
    cases fired <;> exact .inl (by simp [State.successors,RevocationSource.nextState])
  unfold observe
  refine returns_last fun now => returns_last fun s => returns_last fun _ => returns_pure ?_
  intro next found
  obtain ⟨fired,-,rfl⟩ := Option.map_eq_some_iff.mp found
  exact named fired

theorem observeOrClear_decides (present : Bool) (source : RevocationSource) :
    (observeOrClear present source).Returns schedule (Decides .connected) := by
  unfold observeOrClear
  split
  · exact observe_decides source
  · exact returns_last fun _ => returns_pure decides_none

theorem directContradiction_decides (frame : Frame) :
    (directContradiction frame).Returns schedule (Decides .connected) := by
  unfold directContradiction
  refine returns_last fun running => ?_
  split
  · exact returns_last fun _ => returns_last fun _ => returns_last fun _ =>
      returns_pure (decides_some (by decide))
  refine returns_bind (observeOrClear_decides _ _) fun lost loses => ?_
  cases lost with
  | some next => exact returns_pure loses
  | none =>
    refine returns_last fun s => ?_
    extract_lets looks
    have looked : ∀ r, (looks r).Returns schedule (Decides .connected) := by
      intro r
      refine returns_last fun _ => returns_last fun s => ?_
      refine returns_bind (observeOrClear_decides _ _) fun relogin relogs => ?_
      cases relogin with
      | some next => exact returns_pure relogs
      | none => exact observeOrClear_decides _ _
    split
    · refine returns_bind (observe_decides _) fun probed probes => ?_
      cases probed with
      | some next => exact returns_last fun _ => returns_pure probes
      | none => exact looked ()
    · exact looked ()

theorem probedContradiction_decides :
    probedContradiction.Returns schedule (Decides .connected) := by
  unfold probedContradiction
  refine returns_last fun windows => returns_last fun _ => returns_last fun s => ?_
  extract_lets observed judges
  refine returns_last fun _ => returns_last fun entered => ?_
  extract_lets probeNeeded
  have judged : ∀ probed, (judges probed).Returns schedule (Decides .connected) := by
    rintro ⟨probeTwofa,components⟩
    unfold judges
    dsimp -zeta only
    split
    · exact returns_pure (decides_some (by decide))
    · refine returns_bind (observeOrClear_decides _ _) fun form forms => ?_
      cases form with
      | some next => exact returns_pure forms
      | none => exact observeOrClear_decides _ _
  split
  · exact returns_last judged
  · extract_lets probes
    have probed : ∀ components, (probes components).Returns schedule (Decides .connected) :=
      fun components => returns_last fun _ => returns_last judged
    split
    · exact returns_last probed
    · exact returns_last probed

theorem doConnected_returns (frame : Frame) :
    (doConnected frame).Returns schedule State.connected.LeadsTo := by
  have supervised : (superviseConnection frame).Returns schedule (Decides .connected) := by
    unfold superviseConnection
    refine returns_last fun _ => returns_last fun _ => returns_last fun _ => ?_
    refine returns_bind (directContradiction_decides frame) fun direct directs => ?_
    cases direct with
    | some next => exact returns_pure directs
    | none =>
      refine returns_bind probedContradiction_decides fun probed probes => ?_
      cases probed with
      | some next => exact returns_pure probes
      | none => exact returns_last fun _ => returns_last fun _ => returns_pure decides_none
  unfold doConnected
  refine returns_bind (returns_mapEffects supervised) fun found finds => ?_
  cases found with
  | some next => exact returns_pure (finds next rfl)
  | none => exact returns_last fun _ => returns_last fun _ => returns_pure (by decide)

theorem giveUpRelogin_returns (frame : Frame) :
    (giveUpRelogin frame).Returns schedule (fun next => next ∈ [.restarting,.waitingForLogin]) := by
  unfold giveUpRelogin
  refine returns_last fun listed => ?_
  extract_lets ends
  have ended : ∀ r, (ends r).Returns schedule (fun next => next ∈ [.restarting,.waitingForLogin]) := by
    intro r
    refine returns_last fun _ => returns_last fun _ => returns_last fun _ => returns_last fun _ => ?_
    split
    · exact returns_pure (by decide)
    · refine returns_last fun s => ?_
      split
      · exact returns_pure (by decide)
      · refine returns_last fun listed => ?_
        split
        · split
          · exact returns_pure (by decide)
          · exact returns_pure (by decide)
        · exact returns_pure (by decide)
  split
  · exact returns_last ended
  · exact ended ()

theorem confirmRelogin_decides :
    confirmRelogin.Returns schedule (Decides .reconnectingSession) := by
  have ended : ∀ next, State.reconnectingSession.LeadsTo next →
      (endRelogin next).Returns schedule (Decides .reconnectingSession) := fun next leads =>
    returns_last fun _ => returns_last fun _ => returns_pure (decides_some leads)
  unfold confirmRelogin
  refine returns_last fun _ => returns_last fun s => ?_
  split
  · exact ended _ (by decide)
  refine returns_last fun listed => ?_
  extract_lets judges
  have judged : ∀ components, (judges components).Returns schedule
      (Decides .reconnectingSession) := by
    intro components
    cases components with
    | none => exact ended _ (by decide)
    | some components =>
      unfold judges
      dsimp only
      split
      · exact ended _ (by decide)
      · split
        · exact returns_last fun _ => returns_pure (decides_some (by decide))
        · exact returns_pure decides_none
  split
  · exact returns_last judged
  · split
    · exact returns_last judged
    · exact returns_last fun _ => returns_last judged

theorem doReconnectingSession_returns (frame : Frame) :
    (doReconnectingSession frame).Returns schedule State.reconnectingSession.LeadsTo := by
  unfold doReconnectingSession
  refine returns_last fun running => ?_
  split
  · exact returns_last fun _ => returns_last fun _ => returns_last fun _ => returns_pure (by decide)
  refine returns_last fun s => ?_
  split
  · intro here next returned
    have ended := giveUpRelogin_returns frame here next returned
    simp only [List.mem_cons,List.not_mem_nil,or_false] at ended
    rcases ended with rfl | rfl <;> exact .inl (by decide)
  refine returns_last fun entered => ?_
  split
  · exact returns_last fun _ => returns_pure (by decide)
  refine returns_last fun listed => ?_
  have waits : (do sleep; return .reconnectingSession : Step State).Returns schedule
      State.reconnectingSession.LeadsTo := returns_last fun _ => returns_pure (by decide)
  dsimp only
  split
  · exact waits
  · split
    · refine returns_bind confirmRelogin_decides fun confirmed confirms => ?_
      cases confirmed with
      | some next => exact returns_pure (confirms next rfl)
      | none => exact waits
    · exact returns_last fun _ => returns_last fun _ => returns_last fun _ => returns_pure (by decide)

theorem doRestart_returns (frame : Frame) :
    (doRestart frame).Returns schedule State.restarting.LeadsTo := by
  unfold doRestart
  refine returns_last fun s => ?_
  extract_lets warm exponent delay tears threshold restarts
  have torn : ∀ r, (tears r).Returns schedule State.restarting.LeadsTo :=
    fun r => returns_last fun _ => returns_pure (by decide)
  have restarted : ∀ r, (restarts r).Returns schedule State.restarting.LeadsTo := by
    intro r
    unfold restarts
    split
    · refine returns_last fun _ => returns_last fun s => ?_
      split
      · exact returns_last fun _ => returns_pure (by decide)
      · exact torn ()
    · exact torn ()
  split
  · refine returns_last fun waited => ?_
    split
    · exact returns_last fun _ => returns_pure (by decide)
    · exact restarted ()
  · exact restarted ()

theorem doWaitingForHitl2fa_returns (frame : Frame) :
    (doWaitingForHitl2fa frame).Returns schedule State.waitingForHitl2fa.LeadsTo := by
  unfold doWaitingForHitl2fa
  refine returns_last fun _ => ?_
  split
  · exact returns_pure (by decide)
  refine returns_last fun form => ?_
  split
  · exact returns_pure (by decide)
  refine returns_last fun connected => ?_
  split
  · exact returns_pure (by decide)
  refine returns_last fun due => ?_
  split
  · exact returns_pure (by decide)
  · exact returns_last fun _ => returns_last fun _ => returns_pure (by decide)

/-- The wait for IB waits, or leads back to where the machine came from. -/
theorem doWaitingForIb_run (frame : Frame) (here : Local Session Effect) :
    if frame.ibAvailable then
      doWaitingForIb frame schedule here =
        (.ok (here.state.returnState.getD .init),
          { here with state := { here.state with returnState := none } })
    else
      (doWaitingForIb frame schedule here).2.state = here.state ∧
        ∀ next, (doWaitingForIb frame schedule here).1 = .ok next → next = .waitingForIB := by
  unfold doWaitingForIb
  cases available : frame.ibAvailable with
  | true =>
    rw [if_pos rfl,if_pos rfl]
    simp only [bind_apply,current]
    obtain ⟨state,calls,effects⟩ := here
    cases back : state.returnState with
    | some next => simp [bind_apply,update,pure_apply]
    | none =>
      have same : { state with returnState := none } = state := by
        rw [← back]
      simp [pure_apply,same]
  | false =>
    rw [if_neg (by decide),if_neg (by decide)]
    simp only [bind_apply,sleep,await]
    by_cases dropped : schedule.dropAt = some here.calls
    · simp [dropped]
    · simp [dropped,pure_apply]

end Established

namespace StateMachine

variable {sm : StateMachine}

/-- What a handler returns follows its state in the graph; WaitingForIB returns what was put
aside for it. -/
theorem transition_leads {next : State}
    (returned : (sm.transition.start schedule sm.session).result = .ok next) :
    sm.state.LeadsTo next ∨ (sm.state = .waitingForIB ∧ sm.session.returnState = some next) := by
  have leads : ∀ {task : Step State}, task.Returns schedule sm.state.LeadsTo →
      ((mapEffects ConnectedEffect.gateway task).start schedule sm.session).result = .ok next →
        sm.state.LeadsTo next :=
    fun returns ok => (returns_mapEffects returns).start sm.session next ok
  unfold transition at returned
  split at returned
  next here => exact .inl (leads (here ▸ doWaitingForLaunch_returns) returned)
  next here => exact .inl (leads (here ▸ doInit_returns _) returned)
  next here => exact .inl (leads (here ▸ doLaunch_returns) returned)
  next here => exact .inl (leads (here ▸ doWaitForAgent_returns) returned)
  next here => exact .inl (leads (here ▸ doWaitForLogin_returns _) returned)
  next here => exact .inl (leads (here ▸ doAuthenticate_returns) returned)
  next here => exact .inl (leads (here ▸ doWaitFor2fa_returns _) returned)
  next here => exact .inl (leads (here ▸ doHandleSessionConflict_returns) returned)
  next here => exact .inl (leads (here ▸ doDismissPopups_returns) returned)
  next here => exact .inl (leads (here ▸ doWaitForApiReady_returns _) returned)
  next here => exact .inl (leads (here ▸ doConfigureApi_returns) returned)
  next here => exact .inl (here ▸ (doConnected_returns _).start sm.session next returned)
  next here => exact .inl (leads (here ▸ doReconnectingSession_returns _) returned)
  next here => exact .inl (leads (here ▸ doRestart_returns _) returned)
  next here =>
    rw [start_mapEffects] at returned
    have ran := @doWaitingForIb_run schedule sm.frame ⟨sm.session,0,[]⟩
    rw [here]
    split at ran
    · have same : sm.session.returnState.getD .init = next := by
        unfold Task.start at returned
        simp only [ran] at returned
        exact Except.ok.inj returned
      cases back : sm.session.returnState with
      | none =>
        rw [back] at same
        exact .inl (same ▸ (by decide))
      | some state =>
        rw [back] at same
        exact .inr ⟨rfl,congrArg some same⟩
    · have waits : next = .waitingForIB := ran.2 next returned
      rw [waits]
      exact .inl (by decide)
  next here => exact .inl (leads (here ▸ doWaitingForHitl2fa_returns _) returned)
  next here =>
    cases returned
    rw [here]
    exact .inl (by decide)
  next here =>
    cases returned
    exact .inl (.inr rfl)

end StateMachine

end Ibctl.Machine
