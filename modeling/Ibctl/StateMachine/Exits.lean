import Ibctl.StateMachine.Lasting

/-! What the handlers of an established session and of a login do to what outlasts a state.
The hash of a warm restart is found by the connected handler at the exit of the process and
forgotten by the login that follows; the attempts belong to the re-login, the restarts to the
restart. -/
namespace Ibctl.Machine
open Tasks Step Task

variable {I : Session → List Effect → Prop} [Stable I] {J : Lasting → Prop}
  {schedule : Schedule Answers}

section Established

omit [Stable I] in
theorem doWaitingForIb_steady [StableReturn I] (frame : Frame) :
    (doWaitingForIb frame).Keeps schedule I := by
  unfold doWaitingForIb
  split
  · refine keeps_bind keeps_current fun s => ?_
    split
    · exact keeps_bind (keeps_update StableReturn.returns) fun _ => keeps_pure _
    · exact keeps_pure _
  · exact keeps_bind keeps_sleep fun _ => keeps_pure _

omit [Stable I] in
theorem enterHitl_steady [StableHitl I] (backoff : TwoFaBackoff) :
    (enterHitl backoff).Keeps schedule I := by
  unfold enterHitl
  refine keeps_bind keeps_current fun s => ?_
  split
  · refine keeps_bind (keeps_ask _) fun now => keeps_bind (keeps_ask _) fun deadlineFrom => ?_
    exact keeps_hitl fun _ => rfl
  · exact keeps_pure _

omit [Stable I] in
theorem observeHitlLoginForm_keeps
    (counts : ∀ s n effects, I s effects → I { s with hitlLoginFormObservationTicks := n } effects) :
    observeHitlLoginForm.Keeps schedule I := by
  unfold observeHitlLoginForm
  refine keeps_bind keeps_current fun s => ?_
  split
  · refine keeps_bind (keeps_update fun s effects kept => counts s _ effects kept) fun _ => ?_
    exact keeps_bind keeps_current fun _ => keeps_pure _
  · exact keeps_bind (keeps_update fun s effects kept => counts s _ effects kept) fun _ => keeps_pure _

omit [Stable I] in
theorem observeHitlConnected_keeps
    (counts : ∀ s n effects, I s effects → I { s with hitlConnectedObservationTicks := n } effects) :
    observeHitlConnected.Keeps schedule I := by
  unfold observeHitlConnected
  refine keeps_bind keeps_current fun s => ?_
  extract_lets judges
  have judged : ∀ connected, (judges connected).Keeps schedule I := by
    intro connected
    unfold judges
    split
    · refine keeps_bind (keeps_update fun s effects kept => counts s _ effects kept) fun _ => ?_
      exact keeps_bind keeps_current fun _ => keeps_pure _
    · exact keeps_bind (keeps_update fun s effects kept => counts s _ effects kept) fun _ => keeps_pure _
  split
  · refine keeps_bind dumpComponents_steady fun dumped => ?_
    cases dumped with
    | ok components => exact keeps_bind (keeps_pure _) judged
    | error e => exact keeps_bind (keeps_pure _) judged
  · exact keeps_bind (keeps_pure _) judged

omit [Stable I] in
theorem hitlRetryDue_steady [StableHitl I] (backoff : TwoFaBackoff) :
    (hitlRetryDue backoff).Keeps schedule I := by
  unfold hitlRetryDue
  refine keeps_bind keeps_current fun s => ?_
  split
  · exact keeps_pure _
  · refine keeps_bind (keeps_ask _) fun now => ?_
    split
    · exact keeps_pure _
    · refine keeps_bind (keeps_ask _) fun deadlineFrom => ?_
      exact keeps_bind (keeps_hitl fun _ => rfl) fun _ => keeps_pure _

omit [Stable I] in
theorem doWaitingForHitl2fa_steady [StableHitl I] (frame : Frame) :
    (doWaitingForHitl2fa frame).Keeps schedule I := by
  unfold doWaitingForHitl2fa
  refine keeps_bind (enterHitl_steady _) fun _ => ?_
  split
  · exact keeps_pure _
  refine keeps_bind (observeHitlLoginForm_keeps fun s _ effects => StableHitl.waits s _ effects rfl)
    fun form => ?_
  split
  · exact keeps_pure _
  refine keeps_bind (observeHitlConnected_keeps fun s _ effects => StableHitl.waits s _ effects rfl)
    fun connected => ?_
  split
  · exact keeps_pure _
  refine keeps_bind (hitlRetryDue_steady _) fun due => ?_
  split
  · exact keeps_pure _
  · exact keeps_bind keeps_sleep fun _ => keeps_bind keeps_sleep fun _ => keeps_pure _

theorem tearDown_steady : tearDown.Keeps schedule I := by
  unfold tearDown
  refine keeps_bind abortClientIdTask_steady fun _ => keeps_bind stopSocat_steady fun _ => ?_
  refine keeps_bind (keeps_ask _) fun running => ?_
  extract_lets resets kills
  have killed : ∀ r, (kills r).Keeps schedule I := by
    intro r
    refine keeps_bind keeps_sleep fun _ => keeps_bind keeps_sleep fun _ => ?_
    refine keeps_bind (keeps_ask _) fun running => ?_
    split
    · exact keeps_bind killJvm_steady fun _ => keeps_bind keeps_sleep fun _ => resetRegistry_steady
    · exact resetRegistry_steady
  split
  · exact keeps_bind killJvm_steady killed
  · exact killed ()

end Established

section Exceptions

/-- The hash of a warm restart is gone. -/
def Forgotten (J : Lasting → Prop) (l : Lasting) : Prop := J l ∧ l.warmRestartPending = none

theorem steady_of_forgotten {s : Session} {effects : List Effect}
    (forgotten : Steady (Forgotten J) s effects) : Steady J s effects :=
  ⟨forgotten.1.1,forgotten.2⟩

theorem forget_steady {f : Session → Session}
    (forgets : ∀ s, (f s).lasting = { s.lasting with warmRestartPending := none })
    (kept : ∀ l, J l → J { l with warmRestartPending := none }) :
    (update f : Step Unit).Triple schedule (Steady J) (fun _ => Steady (Forgotten J)) (Steady J) := by
  refine triple_update fun s effects steady => ⟨?_,steady.2⟩
  change Forgotten J (f s).lasting
  rw [forgets s]
  exact ⟨kept _ steady.1,rfl⟩

/-- A result other than the one that goes on waiting comes without a hash. -/
def LeavesForgotten (J : Lasting → Prop) {α : Type} (waits : α) (a : α) (s : Session)
    (effects : List Effect) : Prop :=
  Steady J s effects ∧ (a ≠ waits → s.warmRestartPending = none)

theorem leaves_of_forgotten {α : Type} {waits a : α} {s : Session} {effects : List Effect}
    (forgotten : Steady (Forgotten J) s effects) : LeavesForgotten J waits a s effects :=
  ⟨steady_of_forgotten forgotten,fun _ => forgotten.1.2⟩

theorem waitForWarmLogin_forgets (kept : ∀ l, J l → J { l with warmRestartPending := none }) :
    waitForWarmLogin.Triple schedule (Steady J)
      (LeavesForgotten J (some State.waitingForLogin)) (Steady J) := by
  have forgets := fun f lasting => @forget_steady J schedule f lasting kept
  have returns : ∀ found : Option State,
      (return found : Step (Option State)).Triple schedule (Steady (Forgotten J))
        (LeavesForgotten J (some State.waitingForLogin)) (Steady J) :=
    fun found => triple_pure fun _ _ forgotten => leaves_of_forgotten forgotten
  unfold waitForWarmLogin
  refine triple_bind (keeps_ask _) fun running => ?_
  split
  · exact triple_bind (forgets _ fun _ => rfl) fun _ => returns _
  refine triple_bind listWindows_steady fun listed => ?_
  extract_lets waits
  have waited : ∀ r, (waits r).Triple schedule (Steady J)
      (LeavesForgotten J (some State.waitingForLogin)) (Steady J) := by
    intro r
    refine triple_bind keeps_current fun s => triple_bind (elapsed_steady _) fun entered => ?_
    split
    · exact triple_bind (keeps_ask _) fun now => triple_bind (forgets _ fun _ => rfl) fun _ => returns _
    · refine triple_bind keeps_sleep fun _ => triple_pure fun _ _ steady => ⟨steady,fun apart => ?_⟩
      exact absurd rfl apart
  split
  · split
    · exact triple_bind (forgets _ fun _ => rfl) fun _ => returns _
    · exact waited ()
  · exact waited ()

/-- The login window is awaited without a hash, or the hash is forgotten before the machine
leaves for another state. -/
theorem doWaitForLogin_forgets (frame : Frame)
    (kept : ∀ l, J l → J { l with warmRestartPending := none }) :
    (doWaitForLogin frame).Triple schedule (Steady J) (LeavesForgotten J State.waitingForLogin)
      (Steady J) := by
  unfold doWaitForLogin
  refine triple_bind (R := fun seen s effects => Steady J s effects ∧ s = seen)
    (triple_current fun _ _ steady => ⟨steady,rfl⟩) fun s => ?_
  extract_lets timeoutSecs ends decides colds
  have ended : ∀ r, (ends r).Keeps schedule (Steady (Forgotten J)) :=
    fun r => keeps_bind keeps_sleep fun _ => keeps_pure _
  have decided : ∀ found, (decides found).Keeps schedule (Steady (Forgotten J)) := by
    intro found
    cases found with
    | some next => exact keeps_pure _
    | none =>
      refine keeps_bind keeps_current fun s => ?_
      split
      · refine keeps_bind (elapsed_steady _) fun waited => ?_
        split
        · exact keeps_pure _
        · exact ended ()
      · exact ended ()
  have cold : ∀ r, (colds r).Keeps schedule (Steady (Forgotten J)) := by
    intro r
    refine keeps_bind (keeps_ask _) fun running => ?_
    split
    · exact keeps_pure _
    · refine keeps_bind keeps_current fun s => ?_
      split
      · exact keeps_bind (keeps_pure _) decided
      · exact keeps_bind polledLoginState_steady decided
  -- Without a hash the cold path is all there is.
  have leaves : ∀ r, (colds r).Triple schedule (Steady (Forgotten J))
      (LeavesForgotten J State.waitingForLogin) (Steady J) := fun r =>
    (cold r).mono (fun _ _ forgotten => forgotten) (fun _ _ _ forgotten => leaves_of_forgotten forgotten)
      fun _ _ forgotten => steady_of_forgotten forgotten
  split
  next pending =>
    refine triple_bind (((waitForWarmLogin_forgets kept).mono (fun _ _ steady => steady.1)
      (fun _ _ _ left => left) fun _ _ steady => steady)) fun found => ?_
    cases found with
    | some next =>
      refine triple_pure fun s effects left => ⟨left.1,fun apart => left.2 fun same => ?_⟩
      exact apart (Option.some.inj same)
    | none =>
      exact (leaves ()).mono (fun s effects left => ⟨⟨left.1.1,left.2 (by simp)⟩,left.1.2⟩)
        (fun _ _ _ left => left) fun _ _ steady => steady
  next absent =>
    refine (leaves ()).mono ?_ (fun _ _ _ left => left) fun _ _ steady => steady
    rintro _ effects ⟨steady,rfl⟩
    exact ⟨⟨steady.1,Option.not_isSome_iff_eq_none.mp absent⟩,steady.2⟩

section Relogin

theorem cancelRelogin_steady (windows : List WindowInfo) :
    (cancelRelogin windows).Keeps schedule I := by
  induction windows with
  | nil => exact keeps_pure _
  | cons window rest ih =>
    unfold cancelRelogin
    dsimp only
    split
    · exact keeps_bind (clickButton_steady _ _) fun _ => ih
    · exact ih

variable (resets : ∀ s effects, I s effects → I { s with reloginAttempts := 0 } effects)
include resets

theorem giveUpRelogin_keeps (frame : Frame) : (giveUpRelogin frame).Keeps schedule I := by
  unfold giveUpRelogin
  refine keeps_bind listWindows_steady fun listed => ?_
  extract_lets ends
  have ended : ∀ r, (ends r).Keeps schedule I := by
    intro r
    refine keeps_bind resetRegistry_steady fun _ => keeps_bind abortClientIdTask_steady fun _ => ?_
    refine keeps_bind (keeps_update resets) fun _ => ?_
    refine keeps_bind keeps_sleep fun _ => ?_
    split
    · exact keeps_pure _
    · refine keeps_bind keeps_current fun s => ?_
      split
      · exact keeps_pure _
      · refine keeps_bind listWindows_steady fun listed => ?_
        split
        · split
          · exact keeps_pure _
          · exact keeps_pure _
        · exact keeps_pure _
  split
  · exact keeps_bind (cancelRelogin_steady _) ended
  · exact ended ()

theorem endRelogin_keeps (next : State) : (endRelogin next).Keeps schedule I := by
  refine keeps_bind resetRegistry_steady fun _ => ?_
  exact keeps_bind (keeps_update resets) fun _ => keeps_pure _

theorem confirmRelogin_keeps : confirmRelogin.Keeps schedule I := by
  unfold confirmRelogin
  refine keeps_bind keeps_sleep fun _ => keeps_bind keeps_current fun s => ?_
  split
  · exact endRelogin_keeps resets _
  refine keeps_bind listWindows_steady fun listed => ?_
  extract_lets judges
  have judged : ∀ components, (judges components).Keeps schedule I := by
    intro components
    cases components with
    | none => exact endRelogin_keeps resets _
    | some components =>
      unfold judges
      dsimp only
      split
      · exact endRelogin_keeps resets _
      · split
        · exact keeps_bind (keeps_update resets) fun _ => keeps_pure _
        · exact keeps_pure _
  split
  · exact keeps_bind (keeps_pure _) judged
  · split
    · exact keeps_bind (keeps_pure _) judged
    · exact keeps_bind (dumps_steady _) fun _ => keeps_bind (keeps_pure _) judged

/-- A re-login touches nothing but its own attempts. -/
theorem doReconnectingSession_keeps (frame : Frame) :
    (doReconnectingSession frame).Keeps schedule I := by
  unfold doReconnectingSession
  refine keeps_bind (keeps_ask _) fun running => ?_
  split
  · refine keeps_bind resetRegistry_steady fun _ => keeps_bind abortClientIdTask_steady fun _ => ?_
    exact keeps_bind (keeps_update resets) fun _ => keeps_pure _
  refine keeps_bind keeps_current fun s => ?_
  split
  · exact giveUpRelogin_keeps resets frame
  refine keeps_bind (elapsed_steady _) fun entered => ?_
  split
  · exact keeps_bind keeps_sleep fun _ => keeps_pure _
  refine keeps_bind listWindows_steady fun listed => ?_
  have waits : (do sleep; return .reconnectingSession : Step State).Keeps schedule I :=
    keeps_bind keeps_sleep fun _ => keeps_pure _
  dsimp only
  split
  · exact waits
  · split
    · refine keeps_bind (confirmRelogin_keeps resets) fun confirmed => ?_
      cases confirmed with
      | some next => exact keeps_pure _
      | none => exact waits
    · refine keeps_bind (clickButton_steady _ _) fun _ => keeps_bind resetRegistry_steady fun _ => ?_
      exact keeps_bind keeps_sleep fun _ => keeps_pure _

end Relogin

section Supervision

theorem recordWindowClass_steady : recordWindowClass.Keeps schedule I := by
  unfold recordWindowClass
  refine keeps_bind keeps_current fun s => ?_
  split
  · split
    · exact keeps_write fun _ => rfl
    · refine keeps_bind listWindows_steady fun listed => ?_
      split
      · exact keeps_pure _
      · split
        · exact keeps_pure _
        · exact keeps_write fun _ => rfl
  · exact keeps_pure _

theorem followWindowClass_steady : followWindowClass.Keeps schedule I := by
  apply keeps_write
  intro s
  split
  · split <;> rfl
  · rfl

section Recounting

variable {C : RevocationTag → Prop}
  (observes : ∀ s source now effects, I s effects →
    I { s with revocation := (s.revocation.observe source now).2 } effects)
  (clears : ∀ s tag effects, C tag → I s effects →
    I { s with revocation := s.revocation.clear tag } effects)

omit [Stable I] in
include observes in
theorem observe_keeps (source : RevocationSource) : (observe source).Keeps schedule I :=
  fun here before => observes here.state source _ here.effects before

omit [Stable I] in
include clears in
theorem clear_keeps {tag : RevocationTag} (cleared : C tag) : (clear tag).Keeps schedule I :=
  keeps_update fun s effects kept => clears s tag effects cleared kept

include observes clears

omit [Stable I] in
theorem observeOrClear_keeps (present : Bool) {source : RevocationSource} (cleared : C source.tag) :
    (observeOrClear present source).Keeps schedule I := by
  unfold observeOrClear
  split
  · exact observe_keeps observes source
  · exact keeps_bind (clear_keeps clears cleared) fun _ => keeps_pure _

/-- The checks of a process that is still there. -/
def runningContradiction (frame : Frame) : Step (Option State) := do
  if let some next ← observeOrClear frame.connectionEventDisconnected .connectionStatusEvent then
    return next
  let s ← current
  if s.apiPortProbeFailed then
    if let some next ← observe .apiPortListenerLost then
      update fun s => { s with apiPortProbeFailed := false }
      return next
  reviveSocat
  let s ← current
  if let some next ← observeOrClear s.observation.hasReloginDialog .reloginDialog then return next
  observeOrClear s.observation.hasSessionConflict .sessionConflict

/-- What the checks of a running process may clear. -/
theorem runningContradiction_keeps (frame : Frame)
    (cleared : ∀ tag ∈ [RevocationTag.connectionStatusEvent,.reloginDialog,.sessionConflict], C tag) :
    (runningContradiction frame).Keeps schedule I := by
  have heard : C RevocationTag.connectionStatusEvent := cleared _ (by simp)
  have relogs : C RevocationTag.reloginDialog := cleared _ (by simp)
  have conflicts : C RevocationTag.sessionConflict := cleared _ (by simp)
  unfold runningContradiction
  refine keeps_bind (observeOrClear_keeps observes clears _ heard) fun lost => ?_
  cases lost with
  | some next => exact keeps_pure _
  | none =>
    refine keeps_bind keeps_current fun s => ?_
    extract_lets looks
    have looked : ∀ r, (looks r).Keeps schedule I := by
      intro r
      refine keeps_bind reviveSocat_steady fun _ => keeps_bind keeps_current fun s => ?_
      refine keeps_bind (observeOrClear_keeps observes clears _ relogs) fun relogin => ?_
      cases relogin with
      | some next => exact keeps_pure _
      | none => exact observeOrClear_keeps observes clears _ conflicts
    split
    · refine keeps_bind (observe_keeps observes _) fun probed => ?_
      cases probed with
      | some next => exact keeps_bind (keeps_write fun _ => rfl) fun _ => keeps_pure _
      | none => exact looked ()
    · exact looked ()

end Recounting

variable (observes : ∀ s revocation effects, I s effects → I { s with revocation } effects)
include observes

theorem probedContradiction_from {here : Local Session Effect}
    (allowed : ∀ window ∈ schedule.answers.listed here.calls, ∀ s effects, I s effects →
      I s (effects ++ [.dispatched window])) :
    probedContradiction.KeepsFrom schedule I here := by
  have recounted : ∀ present source, (observeOrClear present source).Keeps schedule I :=
    fun present source => observeOrClear_keeps (C := fun _ => True)
      (fun s _ _ effects => observes s _ effects) (fun s _ effects _ => observes s _ effects)
      present trivial
  unfold probedContradiction listWindows
  apply keepsFrom_await
  apply Keeps.keepsFrom
  refine keeps_bind (clear_keeps (C := fun _ => True) (fun s _ effects _ => observes s _ effects) trivial) fun _ => ?_
  refine keeps_bind keeps_current fun s => keeps_bind followWindowClass_steady fun _ => ?_
  refine keeps_bind (elapsed_steady _) fun entered => ?_
  extract_lets probeNeeded judges
  have judged : ∀ probed, (judges probed).Keeps schedule I := by
    rintro ⟨probeTwofa,components⟩
    unfold judges
    dsimp -zeta only
    split
    · exact keeps_pure _
    · refine keeps_bind (recounted _ _) fun form => ?_
      cases form with
      | some next => exact keeps_pure _
      | none => exact recounted _ _
  split
  · exact keeps_bind (keeps_pure _) judged
  next windows listed =>
    rw [Answers.listed,listed] at allowed
    extract_lets probes
    have probed : ∀ components, (probes components).Keeps schedule I := by
      intro components
      refine keeps_bind (dispatchAll_steady allowed) fun _ => ?_
      exact keeps_bind (keeps_pure _) judged
    split
    · exact keeps_bind (dumps_steady _) probed
    · exact keeps_bind (keeps_pure _) probed

end Supervision

theorem syncClientIds_steady : syncClientIds.Keeps schedule I := by
  unfold syncClientIds
  refine keeps_bind keeps_current fun s => ?_
  split
  · refine keeps_bind (keeps_ask _) fun ids => ?_
    split
    · exact keeps_write fun _ => rfl
    · exact keeps_pure _
  · exact keeps_pure _

theorem resetTwofaTimeouts_steady (frame : Frame) :
    (resetTwofaTimeouts frame).Keeps schedule I := by
  unfold resetTwofaTimeouts
  refine keeps_bind keeps_current fun s => ?_
  dsimp only
  split
  · split
    · refine keeps_bind (elapsed_steady _) fun since => ?_
      split
      · exact keeps_write fun _ => rfl
      · exact keeps_pure _
    · exact keeps_pure _
  · exact keeps_pure _

/-- The part of the connected handler that finds the process gone, with what it finds of a
warm restart. -/
def findExit : Step (Option (Option String)) := do
  recordWindowClass
  reviveSocat
  update fun s => { s with clientIdTask := true }
  if !(← ask Answers.isRunning) then return some (← ask Answers.findAutorestartPath)
  else return none

/-- What the connected handler does after the look at the process. -/
def afterExit (frame : Frame) : Option (Option String) → Step (Option State)
  | some hash => do
    update fun s => { s with warmRestartPending := hash }
    let _ ← observe .jvmDied
    return some RevocationSource.jvmDied.nextState
  | none => do
    if let some next ← runningContradiction frame then return next
    if let some next ← probedContradiction then return next
    syncClientIds
    resetTwofaTimeouts frame
    return none

theorem directContradiction_eq (frame : Frame) : directContradiction frame = (do
    if !(← ask Answers.isRunning) then
      let hash ← ask Answers.findAutorestartPath
      update fun s => { s with warmRestartPending := hash }
      let _ ← observe .jvmDied
      return some RevocationSource.jvmDied.nextState
    else runningContradiction frame) := rfl

theorem superviseConnection_eq (frame : Frame) :
    superviseConnection frame = (do afterExit frame (← findExit)) := by
  unfold superviseConnection findExit
  rw [directContradiction_eq]
  simp only [bind_assoc]
  refine bind_congr fun _ => bind_congr fun _ => bind_congr fun _ => bind_congr fun running => ?_
  cases running with
  | true => rfl
  | false => rfl

theorem findExit_steady : findExit.Keeps schedule I := by
  unfold findExit
  refine keeps_bind recordWindowClass_steady fun _ => keeps_bind reviveSocat_steady fun _ => ?_
  refine keeps_bind (keeps_write fun _ => rfl) fun _ => keeps_bind (keeps_ask _) fun running => ?_
  split
  · exact keeps_bind (keeps_ask _) fun _ => keeps_pure _
  · exact keeps_pure _

/-- The windows that a process still there hands over: none where its loss is found first. -/
def probeShown (frame : Frame) (schedule : Schedule Answers) (here : Local Session Effect) :
    List WindowInfo :=
  match runningContradiction frame schedule here with
  | (.ok none,before) => schedule.answers.listed before.calls
  | _ => []

theorem stillThere_from (frame : Frame) {here : Local Session Effect}
    (observes : ∀ s revocation effects, I s effects → I { s with revocation } effects)
    (allowed : ∀ window ∈ probeShown frame schedule here, ∀ s effects, I s effects →
      I s (effects ++ [.dispatched window])) :
    (afterExit frame none).KeepsFrom schedule I here := by
  unfold afterExit
  have checked : (runningContradiction frame).Keeps schedule I :=
    runningContradiction_keeps (C := fun _ => True) (fun s _ _ effects => observes s _ effects)
      (fun s _ effects _ => observes s _ effects) frame fun _ _ => trivial
  refine keepsFrom_bind (checked.keepsFrom _) ?_
  intro direct before returned
  cases direct with
  | some next => exact (keeps_pure _).keepsFrom _
  | none =>
    unfold probeShown at allowed
    rw [returned] at allowed
    refine keepsFrom_bind (probedContradiction_from observes allowed) ?_
    intro probed after _
    apply Keeps.keepsFrom
    cases probed with
    | some next => exact keeps_pure _
    | none =>
      refine keeps_bind syncClientIds_steady fun _ => ?_
      exact keeps_bind (resetTwofaTimeouts_steady frame) fun _ => keeps_pure _

theorem stillThere_keeps [Dispatches schedule I] (frame : Frame)
    (observes : ∀ s revocation effects, I s effects → I { s with revocation } effects) :
    (afterExit frame none).Keeps schedule I := by
  apply keeps_of_keepsFrom
  intro here
  apply stillThere_from frame observes
  intro window member
  unfold probeShown at member
  split at member
  · exact dispatched_of_listed member
  · cases member

/-- The windows that Connected hands over: those its probe lists. -/
def connectedShown (frame : Frame) (schedule : Schedule Answers) (here : Local Session Effect) :
    List WindowInfo :=
  match findExit schedule here with
  | (.ok none,found) => probeShown frame schedule found
  | _ => []

/-- The supervision keeps what the observations and the exit keep. -/
theorem superviseConnection_from (frame : Frame) {here : Local Session Effect}
    (observes : ∀ s revocation effects, I s effects → I { s with revocation } effects)
    (exits : ∀ s hash effects, I s effects → I { s with warmRestartPending := hash } effects)
    (allowed : ∀ window ∈ connectedShown frame schedule here, ∀ s effects, I s effects →
      I s (effects ++ [.dispatched window])) :
    (superviseConnection frame).KeepsFrom schedule I here := by
  rw [superviseConnection_eq]
  refine keepsFrom_bind (findExit_steady.keepsFrom _) ?_
  intro found after returned
  cases found with
  | none =>
    unfold connectedShown at allowed
    rw [returned] at allowed
    exact stillThere_from frame observes allowed
  | some hash =>
    apply Keeps.keepsFrom
    refine keeps_bind (keeps_update fun s => exits s _) fun _ => ?_
    exact keeps_bind (observe_keeps (fun s _ _ effects => observes s _ effects) _) fun _ => keeps_pure _

theorem superviseConnection_keeps [Dispatches schedule I] (frame : Frame)
    (observes : ∀ s revocation effects, I s effects → I { s with revocation } effects)
    (exits : ∀ s hash effects, I s effects → I { s with warmRestartPending := hash } effects) :
    (superviseConnection frame).Keeps schedule I := by
  apply keeps_of_keepsFrom
  intro here
  apply superviseConnection_from frame observes exits
  intro window member
  unfold connectedShown probeShown at member
  split at member
  · split at member
    · exact dispatched_of_listed member
    · cases member
  · cases member

/-- A restart touches nothing but its own count. -/
theorem doRestart_keeps (frame : Frame)
    (counts : ∀ s n effects, I s effects → I { s with consecutiveJvmRestarts := n } effects) :
    (doRestart frame).Keeps schedule I := by
  unfold doRestart
  refine keeps_bind keeps_current fun s => ?_
  extract_lets warm exponent delay tears threshold restarts
  have torn : ∀ r, (tears r).Keeps schedule I :=
    fun r => keeps_bind tearDown_steady fun _ => keeps_pure _
  have restarted : ∀ r, (restarts r).Keeps schedule I := by
    intro r
    unfold restarts
    split
    · refine keeps_bind (keeps_update fun s => counts s _) fun _ => ?_
      refine keeps_bind keeps_current fun s => ?_
      split
      · exact keeps_bind (keeps_routine rfl) fun _ => keeps_pure _
      · exact torn ()
    · exact torn ()
  split
  · refine keeps_bind (elapsed_steady _) fun waited => ?_
    split
    · exact keeps_bind keeps_sleep fun _ => keeps_pure _
    · exact restarted ()
  · exact restarted ()

end Exceptions

section Connected

/-- What the connected handler finds of an exit of the process, if it comes to look. -/
def exitFound (schedule : Schedule Answers) (s : Session) : Option (Option String) :=
  match (findExit.start schedule s).result with
  | .ok found => found
  | .error _ => none

def ConnectedEffect.isLaunch : ConnectedEffect → Bool
  | .gateway effect => effect.isLaunch
  | .settingsGood .. => false

/-- A condition on the effects of the handlers, for those of the connected one. -/
def ConnectedEffect.Lifts (p : Effect → Prop) : ConnectedEffect → Prop
  | .gateway effect => p effect
  | .settingsGood .. => True

theorem markStable_steady {S : Session → Prop} {p : Effect → Prop} (frame : Frame)
    (counts : ∀ s n, S s → S { s with consecutiveJvmRestarts := n })
    (marks : ∀ s b, S s → S { s with settingsGoodMarked := b }) :
    (markStable frame).Keeps schedule (All S (ConnectedEffect.Lifts p)) := by
  unfold markStable
  cases frame.connectedContinuouslySince with
  | none => exact keeps_pure _
  | some since =>
    refine keeps_bind (keeps_ask _) fun now => ?_
    split
    · refine keeps_bind (keeps_update fun s _ kept => ⟨counts s _ kept.1,kept.2⟩) fun _ => ?_
      refine keeps_bind keeps_current fun s => ?_
      split
      · refine keeps_bind (keeps_ask _) fun written => keeps_bind ?_ fun _ => ?_
        · apply keeps_emit
          intro s effects kept
          apply all_append kept.2
          refine ⟨kept.1,fun effect member => ?_⟩
          rw [List.mem_singleton.mp member]
          trivial
        · exact keeps_update fun s _ kept => ⟨marks s _ kept.1,kept.2⟩
      · exact keeps_pure _
    · exact keeps_pure _

theorem isLaunch_lifts (effect : ConnectedEffect) :
    effect.Lifts (fun e => e.isLaunch = false) ↔ effect.isLaunch = false := by
  cases effect with
  | gateway effect => exact Iff.rfl
  | settingsGood checkedAt writtenAt => exact iff_of_true trivial rfl

/-- The rest of a connected tick marks the settings and sleeps. -/
theorem stays_keeps (frame : Frame) (pending : Option String) :
    (do markStable frame; sleep; return .connected :
      Task Answers ConnectedEffect StateMachineError Session State).Keeps schedule
      (All (fun s => s.warmRestartPending = pending) fun effect => effect.isLaunch = false) := by
  have lifted : (fun effect : ConnectedEffect => effect.isLaunch = false) =
      ConnectedEffect.Lifts fun e => e.isLaunch = false :=
    funext fun effect => propext (isLaunch_lifts effect).symm
  rw [lifted]
  refine keeps_bind ?_ fun _ => keeps_bind keeps_sleep fun _ => keeps_pure _
  exact markStable_steady frame (fun _ _ kept => kept) fun _ _ kept => kept

theorem doConnected_quiet (frame : Frame) (s : Session) :
    ∀ effect ∈ ((doConnected frame).start schedule s).effects, effect.isLaunch = false := by
  have supervised : (mapEffects .gateway (superviseConnection frame)).Keeps schedule
      (All (fun _ => True) fun effect : ConnectedEffect => effect.isLaunch = false) :=
    triple_mapEffects (fun _ quiet => quiet)
      (superviseConnection_keeps (I := Steady fun _ => True) frame (fun _ _ _ quiet => quiet)
        fun _ _ _ quiet => quiet)
  have kept : (doConnected frame).Triple schedule
      (All (fun _ => True) fun effect : ConnectedEffect => effect.isLaunch = false)
      (fun _ => All (fun _ => True) fun effect => effect.isLaunch = false)
      (All (fun _ => True) fun effect => effect.isLaunch = false) := by
    unfold doConnected
    refine keeps_bind supervised fun found => ?_
    cases found with
    | some next => exact keeps_pure _
    | none =>
      intro here before
      exact ((stays_keeps frame here.state.warmRestartPending).mono (fun _ _ before => before)
        (fun _ _ _ after => ⟨trivial,after.2⟩) fun _ _ after => ⟨trivial,after.2⟩) here ⟨rfl,before.2⟩
  exact (Keeps.start kept _ ⟨trivial,by simp⟩).2

/-- An exit that is found sets the hash and restarts; a tick without one keeps the hash. -/
theorem doConnected_exit (frame : Frame) (s : Session) :
    match exitFound schedule s with
    | some hash => ((doConnected frame).start schedule s).result = .ok .restarting ∧
      ((doConnected frame).start schedule s).state.warmRestartPending = hash
    | none => ((doConnected frame).start schedule s).state.warmRestartPending =
      s.warmRestartPending := by
  have finds : findExit.Keeps schedule
      (Steady fun l => l.warmRestartPending = s.warmRestartPending) := findExit_steady
  have found := finds.after ⟨s,0,[]⟩ ⟨rfl,by simp⟩
  unfold exitFound Task.start doConnected
  simp only [bind_apply,mapEffects,superviseConnection_eq]
  generalize findExit schedule ⟨s,0,[]⟩ = looked at found ⊢
  obtain ⟨result,after⟩ := looked
  cases result with
  | error stop => exact found.1
  | ok exit =>
    cases exit with
    | some hash => exact ⟨rfl,rfl⟩
    | none =>
      have stays : (afterExit frame none).Keeps schedule
          (Steady fun l => l.warmRestartPending = s.warmRestartPending) :=
        stillThere_keeps frame fun _ _ _ kept => kept
      have still := stays.after _ found
      simp only
      generalize afterExit frame none schedule after = judged at still ⊢
      obtain ⟨result,judgement⟩ := judged
      cases result with
      | error stop => exact still.1
      | ok decided =>
        cases decided with
        | some next => exact still.1
        | none =>
          have quiet : ∀ effect ∈ judgement.effects.map ConnectedEffect.gateway,
              effect.isLaunch = false := by
            intro effect member
            obtain ⟨named,among,rfl⟩ := List.mem_map.mp member
            exact still.2 named among
          exact ((@stays_keeps schedule frame s.warmRestartPending).after
            { judgement with effects := judgement.effects.map .gateway } ⟨still.1,quiet⟩).1

end Connected

end Ibctl.Machine
