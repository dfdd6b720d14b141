import Ibctl.StateMachine.Moves

/-! What a handler keeps. An invariant is stable when it looks at the ledger of a session only
and no routine effect breaks it; a handler keeps every stable invariant, and asks for more
where it writes to the ledger itself, hands windows to the dialog handlers or submits. -/
namespace Ibctl.Machine
open Tasks Step Task

structure TwofaRetry where
  notBefore : Option Instant
  waitingForScreen : Bool
deriving DecidableEq

structure HitlEpisode where
  enteredAt : Option Instant
  nextRetryAt : Option Instant
  intervalsIndex : Nat
  loginFormObservationTicks : Nat
  connectedObservationTicks : Nat
deriving DecidableEq

/-- The fields of a session that mean something beyond the handler that writes them. -/
structure SessionLedger where
  revocation : RevocationTracker
  warmRestartPending : Option String
  consecutiveJvmRestarts : Nat
  reloginAttempts : Nat
  returnState : Option State
  retry : TwofaRetry
  hitl : HitlEpisode

def Session.retry (s : Session) : TwofaRetry :=
  ⟨s.twofaRetryNotBefore,s.twofaRetryWaitingForScreen⟩

def Session.hitl (s : Session) : HitlEpisode :=
  ⟨s.hitlEnteredAt,s.hitlNextRetryAt,s.hitlIntervalsIndex,s.hitlLoginFormObservationTicks,
    s.hitlConnectedObservationTicks⟩

def Session.ledger (s : Session) : SessionLedger :=
  ⟨s.revocation,s.warmRestartPending,s.consecutiveJvmRestarts,s.reloginAttempts,s.returnState,
    s.retry,s.hitl⟩

/-- Neither a launch nor a window handed to the dialog handlers. -/
def Effect.isRoutine : Effect → Bool
  | .launched _ => false
  | .dispatched _ => false
  | .dispatchedNamed .. => false
  | _ => true

class Stable (I : Session → List Effect → Prop) : Prop where
  write : ∀ s s' effects, s'.ledger = s.ledger → I s effects → I s' effects
  emit : ∀ s effects effect, effect.isRoutine = true → I s effects → I s (effects ++ [effect])

class StableRetry (I : Session → List Effect → Prop) : Prop where
  retries : ∀ s s' effects, { s'.ledger with retry := s.retry } = s.ledger → I s effects →
    I s' effects

class StableHitl (I : Session → List Effect → Prop) : Prop where
  waits : ∀ s s' effects, { s'.ledger with hitl := s.hitl } = s.ledger → I s effects →
    I s' effects

class StableReturn (I : Session → List Effect → Prop) : Prop where
  returns : ∀ s effects, I s effects → I { s with returnState := none } effects

/-- A window that was listed may be handed to the dialog handlers. -/
class Dispatches (schedule : Schedule Answers) (I : Session → List Effect → Prop) : Prop where
  dispatched : ∀ n windows, schedule.answers.listWindows n = .ok windows → ∀ window ∈ windows,
    ∀ s effects, I s effects → I s (effects ++ [.dispatched window])

class Submits (I : Session → List Effect → Prop) : Prop where
  submitted : ∀ handler window s effects, I s effects →
    I s (effects ++ [.dispatchedNamed handler window])

variable {I : Session → List Effect → Prop} [Stable I] {schedule : Schedule Answers}

theorem keeps_write {f : Session → Session} (aside : ∀ s, (f s).ledger = s.ledger) :
    (update f : Step Unit).Keeps schedule I :=
  keeps_update fun s effects kept => Stable.write s (f s) effects (aside s) kept

theorem keeps_routine {effect : Effect} (routine : effect.isRoutine = true) :
    (emit effect : Step Unit).Keeps schedule I :=
  keeps_emit fun s effects kept => Stable.emit s effects effect routine kept

omit [Stable I] in
theorem keeps_retry [StableRetry I] {f : Session → Session}
    (aside : ∀ s, { (f s).ledger with retry := s.retry } = s.ledger) :
    (update f : Step Unit).Keeps schedule I :=
  keeps_update fun s effects kept => StableRetry.retries s (f s) effects (aside s) kept

omit [Stable I] in
theorem keeps_hitl [StableHitl I] {f : Session → Session}
    (aside : ∀ s, { (f s).ledger with hitl := s.hitl } = s.ledger) :
    (update f : Step Unit).Keeps schedule I :=
  keeps_update fun s effects kept => StableHitl.waits s (f s) effects (aside s) kept

section Parts

omit [Stable I] in
theorem elapsed_steady (since : Instant) : (elapsed since).Keeps schedule I :=
  keeps_bind (keeps_ask _) fun _ => keeps_pure _

theorem abortClientIdTask_steady : abortClientIdTask.Keeps schedule I :=
  keeps_write fun _ => rfl

theorem stopSocat_steady : stopSocat.Keeps schedule I := keeps_write fun _ => rfl

theorem startSocat_steady : startSocat.Keeps schedule I := by
  unfold startSocat
  refine keeps_bind stopSocat_steady fun _ => keeps_bind (keeps_ask _) fun spawned => ?_
  split
  · exact keeps_write fun _ => rfl
  · exact keeps_pure _

theorem reviveSocat_steady : reviveSocat.Keeps schedule I := by
  unfold reviveSocat
  refine keeps_bind keeps_current fun s => ?_
  have revived : ∀ alive : Bool,
      (if (!alive) = true then startSocat else pure () : Step Unit).Keeps schedule I := by
    intro alive
    split
    · exact startSocat_steady
    · exact keeps_pure _
  dsimp only
  split
  · exact keeps_bind (keeps_ask _) revived
  · exact keeps_bind (keeps_pure _) revived

theorem resetRegistry_steady : resetRegistry.Keeps schedule I := keeps_routine rfl

omit [Stable I] in
theorem listWindows_steady : listWindows.Keeps schedule I := keeps_await _

omit [Stable I] in
theorem dumpComponents_steady : dumpComponents.Keeps schedule I := keeps_await _

theorem clickButton_steady (window : WindowId) (label : String) :
    (clickButton window label).Keeps schedule I :=
  keeps_bind keeps_sleep fun _ => keeps_routine rfl

theorem killJvm_steady : killJvm.Keeps schedule I :=
  keeps_bind keeps_sleep fun _ => keeps_routine rfl

omit [Stable I] in
theorem dispatch_steady {window : WindowInfo}
    (allowed : ∀ s effects, I s effects → I s (effects ++ [.dispatched window])) :
    (dispatch window).Keeps schedule I :=
  keeps_bind (keeps_emit allowed) fun _ => keeps_await _

omit [Stable I] in
theorem dispatchNamed_steady [Submits I] (handler : String) (window : WindowInfo) :
    (dispatchNamed handler window).Keeps schedule I :=
  keeps_bind (keeps_emit (Submits.submitted handler window)) fun _ => keeps_await _

omit [Stable I] in
theorem dispatchAll_steady {windows : List WindowInfo}
    (allowed : ∀ window ∈ windows, ∀ s effects, I s effects → I s (effects ++ [.dispatched window])) :
    (dispatchAll windows).Keeps schedule I := by
  induction windows with
  | nil => exact keeps_pure _
  | cons window rest ih =>
    refine keeps_bind (dispatch_steady (allowed window (by simp))) fun _ => ?_
    exact ih fun other member => allowed other (by simp [member])

omit [Stable I] in
theorem findByComponents_steady (test : Json → Bool) (windows : List WindowInfo) :
    (findByComponents test windows).Keeps schedule I := by
  induction windows with
  | nil => exact keeps_pure _
  | cons window rest ih =>
    refine keeps_bind dumpComponents_steady fun dumped => ?_
    cases dumped with
    | error e => exact ih
    | ok components =>
      simp only
      split
      · exact keeps_pure _
      · exact ih

omit [Stable I] in
theorem dumps_steady (windows : List WindowInfo) : (dumps windows).Keeps schedule I := by
  induction windows with
  | nil => exact keeps_pure _
  | cons window rest ih =>
    refine keeps_bind dumpComponents_steady fun dumped => ?_
    cases dumped with
    | error e => exact ih
    | ok components => exact keeps_bind ih fun _ => keeps_pure _

theorem dismissMenus_steady : dismissMenus.Keeps schedule I := by
  refine keeps_bind listWindows_steady fun listed => ?_
  cases listed with
  | error e => exact keeps_pure _
  | ok windows =>
    simp only
    split
    · exact keeps_pure _
    · exact keeps_bind keeps_sleep fun _ => keeps_routine rfl

omit [Stable I] in
theorem checkBlockingDialog_steady : checkBlockingDialog.Keeps schedule I := by
  refine keeps_bind listWindows_steady fun listed => ?_
  cases listed with
  | error e => exact keeps_pure _
  | ok windows => exact keeps_pure _

end Parts

section Login

omit [Stable I] in
theorem doWaitingForLaunch_steady : doWaitingForLaunch.Keeps schedule I :=
  keeps_bind keeps_sleep fun _ => keeps_pure _

omit [Stable I] in
theorem doInit_steady (frame : Frame) : (doInit frame).Keeps schedule I := by
  unfold doInit
  refine keeps_bind (keeps_ask _) fun found => ?_
  split
  · exact keeps_pure _
  · exact keeps_pure _

omit [Stable I] in
theorem doWaitForAgent_steady : doWaitForAgent.Keeps schedule I := by
  unfold doWaitForAgent
  refine keeps_bind (keeps_ask _) fun running => ?_
  split
  · exact keeps_pure _
  · refine keeps_bind (keeps_await _) fun health => ?_
    split
    · exact keeps_pure _
    · refine keeps_bind keeps_current fun s => keeps_bind (elapsed_steady _) fun waited => ?_
      split
      · exact keeps_pure _
      · exact keeps_bind keeps_sleep fun _ => keeps_pure _

omit [Stable I] in
theorem polledLoginState_steady : polledLoginState.Keeps schedule I := by
  unfold polledLoginState
  refine keeps_bind checkBlockingDialog_steady fun blocking => ?_
  cases blocking with
  | some next => exact keeps_pure _
  | none =>
    refine keeps_bind listWindows_steady fun listed => ?_
    cases listed with
    | error e => exact keeps_pure _
    | ok windows =>
      simp only
      split
      · exact keeps_pure _
      · split
        · exact keeps_pure _
        · refine keeps_bind dumpComponents_steady fun dumped => ?_
          cases dumped with
          | error e => exact keeps_pure _
          | ok components =>
            simp only
            split
            · exact keeps_pure _
            · exact keeps_pure _

omit [Stable I] in
theorem waitForObservedTwofaRetry_steady [StableRetry I] :
    waitForObservedTwofaRetry.Keeps schedule I := by
  unfold waitForObservedTwofaRetry
  refine keeps_bind keeps_current fun s => ?_
  split
  · exact keeps_pure _
  · refine keeps_bind listWindows_steady fun listed => keeps_bind (keeps_orFail _ _) fun windows => ?_
    refine keeps_bind (dumps_steady windows) fun components => ?_
    have waits : (do sleep; return true : Step Bool).Keeps schedule I :=
      keeps_bind keeps_sleep fun _ => keeps_pure _
    dsimp only
    split
    · exact keeps_bind (keeps_ask _) fun _ => keeps_bind (keeps_retry fun _ => rfl) fun _ => waits
    · exact waits

omit [Stable I] in
theorem waitForRetryDeadline_steady [StableRetry I] :
    waitForRetryDeadline.Keeps schedule I := by
  unfold waitForRetryDeadline
  refine keeps_bind keeps_current fun s => ?_
  split
  · exact keeps_pure _
  · refine keeps_bind (keeps_ask _) fun now => ?_
    split
    · exact keeps_bind keeps_sleep fun _ => keeps_pure _
    · exact keeps_bind (keeps_retry fun _ => rfl) fun _ => keeps_pure _

theorem submitLogin_steady [Submits I] (window : WindowInfo) :
    (submitLogin window).Keeps schedule I := by
  unfold submitLogin
  refine keeps_bind (dispatchNamed_steady _ _) fun dispatched => ?_
  have waits : (do sleep; return .waitingForLogin : Step State).Keeps schedule I :=
    keeps_bind keeps_sleep fun _ => keeps_pure _
  have resets : (do resetRegistry; return .waitingForLogin : Step State).Keeps schedule I :=
    keeps_bind resetRegistry_steady fun _ => keeps_pure _
  split
  · refine keeps_bind (keeps_write fun _ => rfl) fun _ => ?_
    exact keeps_bind keeps_sleep fun _ => keeps_pure _
  · exact resets
  · exact resets
  · exact waits
  · exact waits

omit [Stable I] in
theorem findTwofaWindow_steady (windows : List WindowInfo) :
    (findTwofaWindow windows).Keeps schedule I := by
  unfold findTwofaWindow
  split
  · exact keeps_pure _
  · exact findByComponents_steady _ _

theorem answerTwofa_steady [Submits I] (frame : Frame) (window : WindowInfo) :
    (answerTwofa frame window).Keeps schedule I := by
  unfold answerTwofa
  refine keeps_bind (keeps_write fun _ => rfl) fun _ => keeps_bind keeps_current fun s => ?_
  extract_lets device enters answers
  have entered : ∀ r, (enters r).Keeps schedule I := fun _ => keeps_pure _
  have answered : ∀ r, (answers r).Keeps schedule I := by
    intro r
    unfold answers
    split
    · refine keeps_bind (dispatchNamed_steady _ _) fun entry => ?_
      split
      · exact keeps_bind keeps_sleep fun _ => keeps_pure _
      · exact keeps_pure _
    · exact keeps_pure _
  split
  · split
    · refine keeps_bind (keeps_await _) fun selected => ?_
      split
      · refine keeps_bind keeps_sleep fun _ => keeps_bind (clickButton_steady _ _) fun _ => ?_
        refine keeps_bind (keeps_write fun _ => rfl) fun _ => ?_
        exact keeps_bind keeps_sleep fun _ => keeps_pure _
      · exact keeps_bind (keeps_write fun _ => rfl) answered
    · exact keeps_bind (keeps_write fun _ => rfl) answered
  · exact answered ()

theorem confirmTwofa_steady (windows : List WindowInfo) :
    (confirmTwofa windows).Keeps schedule I := by
  unfold confirmTwofa
  refine keeps_bind keeps_current fun s => ?_
  extract_lets judges confirms
  have judged : ∀ gone, (judges gone).Keeps schedule I := by
    intro gone
    unfold judges
    split
    · exact keeps_pure _
    · refine keeps_bind (dumps_steady _) fun components => ?_
      split
      · exact keeps_bind resetRegistry_steady fun _ => keeps_pure _
      · split
        · exact keeps_pure _
        · exact keeps_pure _
  have confirmed : ∀ r, (confirms r).Keeps schedule I := by
    intro r
    refine keeps_bind keeps_current fun s => ?_
    split
    · exact keeps_bind (elapsed_steady _) judged
    · exact keeps_bind (keeps_pure _) judged
  split
  · exact keeps_bind (keeps_ask _) fun _ => keeps_bind (keeps_write fun _ => rfl) confirmed
  · exact confirmed ()

theorem watchTwofa_steady [Submits I] (frame : Frame) :
    (watchTwofa frame).Keeps schedule I := by
  unfold watchTwofa
  refine keeps_bind listWindows_steady fun listed => ?_
  cases listed with
  | error e =>
    refine keeps_bind (keeps_write fun _ => rfl) fun _ => keeps_bind keeps_current fun s => ?_
    split
    · exact keeps_pure _
    · exact keeps_pure _
  | ok windows =>
    refine keeps_bind (keeps_write fun _ => rfl) fun _ => ?_
    split
    · exact keeps_pure _
    · refine keeps_bind (findTwofaWindow_steady windows) fun found => ?_
      cases found with
      | some window => exact answerTwofa_steady frame window
      | none =>
        refine keeps_bind keeps_current fun s => ?_
        split
        · exact confirmTwofa_steady windows
        · refine keeps_bind (elapsed_steady _) fun waited => ?_
          split
          · exact keeps_pure _
          · exact keeps_pure _

theorem twofaTimeout_steady (frame : Frame) : (twofaTimeout frame).Keeps schedule I := by
  unfold twofaTimeout
  simp only
  split
  · exact keeps_pure _
  · refine keeps_bind (keeps_write fun _ => rfl) fun _ => keeps_bind keeps_current fun s => ?_
    split
    · exact keeps_pure _
    · exact keeps_pure _
    · split
      · exact keeps_pure _
      · exact keeps_pure _

section Gates

/-! Behind the two gates of a rejected login nothing but the rest of the handler is reached. -/

variable {P M Q J : Session → List Effect → Prop} [Stable J] [Submits J]
  (observed : waitForObservedTwofaRetry.Triple schedule P (fun blocked => if blocked then Q else M) Q)
  (waited : waitForRetryDeadline.Triple schedule M (fun blocked => if blocked then Q else J) Q)
  (opened : ∀ s effects, J s effects → Q s effects)
include observed waited opened

omit [Stable J] [Submits J] in
theorem gated {next : State} {rest : Step State} (passed : rest.Keeps schedule J) :
    (do
      if ← waitForObservedTwofaRetry then return next
      if ← waitForRetryDeadline then return next
      rest : Step State).Triple schedule P (fun _ => Q) Q := by
  refine triple_bind observed fun blocked => ?_
  cases blocked with
  | true => exact triple_pure fun _ _ holds => holds
  | false =>
    refine triple_bind waited fun blocked => ?_
    cases blocked with
    | true => exact triple_pure fun _ _ holds => holds
    | false => exact passed.mono (fun _ _ holds => holds) (fun _ => opened) opened

theorem doAuthenticate_gated : doAuthenticate.Triple schedule P (fun _ => Q) Q := by
  refine gated observed waited opened ?_
  refine keeps_bind checkBlockingDialog_steady fun blocking => ?_
  cases blocking with
  | some next => exact keeps_pure _
  | none =>
    refine keeps_bind listWindows_steady fun listed => keeps_bind (keeps_orFail _ _) fun windows => ?_
    split
    · exact keeps_pure _
    · refine keeps_bind dumpComponents_steady fun dumped => ?_
      cases dumped with
      | error e => exact keeps_pure _
      | ok components =>
        simp only
        split
        · exact submitLogin_steady _
        · exact keeps_pure _

theorem doWaitFor2fa_gated (frame : Frame) :
    (doWaitFor2fa frame).Triple schedule P (fun _ => Q) Q := by
  refine gated observed waited opened ?_
  refine keeps_bind (keeps_ask _) fun running => ?_
  split
  · exact keeps_pure _
  refine keeps_bind keeps_current fun s => ?_
  split
  · exact keeps_pure _
  split
  · exact keeps_pure _
  refine keeps_bind checkBlockingDialog_steady fun blocking => ?_
  split
  · exact keeps_pure _
  refine keeps_bind (watchTwofa_steady frame) fun watched => ?_
  cases watched with
  | some next => exact keeps_pure _
  | none =>
    refine keeps_bind keeps_current fun s => keeps_bind (elapsed_steady _) fun waited => ?_
    split
    · exact twofaTimeout_steady frame
    · exact keeps_bind keeps_sleep fun _ => keeps_pure _

end Gates

omit [Stable I] in
theorem either_gate {gate : Step Bool} (kept : gate.Keeps schedule I) :
    gate.Triple schedule I (fun blocked => if blocked then I else I) I := by
  simp only [ite_self]
  exact kept

theorem doAuthenticate_steady [StableRetry I] [Submits I] : doAuthenticate.Keeps schedule I :=
  doAuthenticate_gated (either_gate waitForObservedTwofaRetry_steady)
    (either_gate waitForRetryDeadline_steady) fun _ _ kept => kept

theorem doWaitFor2fa_steady [StableRetry I] [Submits I] (frame : Frame) :
    (doWaitFor2fa frame).Keeps schedule I :=
  doWaitFor2fa_gated (either_gate waitForObservedTwofaRetry_steady)
    (either_gate waitForRetryDeadline_steady) (fun _ _ kept => kept) frame

/-- The windows the agent lists at a call, if it answers. -/
def Answers.listed (answers : Answers) (n : Nat) : List WindowInfo :=
  match answers.listWindows n with
  | .ok windows => windows
  | .error _ => []

omit [Stable I] in
theorem dispatched_of_listed [dispatches : Dispatches schedule I] {n : Nat} {window : WindowInfo}
    (member : window ∈ schedule.answers.listed n) (s : Session) (effects : List Effect)
    (kept : I s effects) : I s (effects ++ [.dispatched window]) := by
  unfold Answers.listed at member
  split at member
  next windows listed => exact dispatches.dispatched n windows listed window member s effects kept
  · cases member

/-- The window that HandlingSessionConflict hands over. -/
def conflictShown (answers : Answers) (calls : Nat) : Option WindowInfo :=
  (answers.listed calls).find? fun w => titleContains w.title ["existing session"]

omit [Stable I] in
theorem doHandleSessionConflict_from {here : Local Session Effect}
    (allowed : ∀ window, conflictShown schedule.answers here.calls = some window →
      ∀ s effects, I s effects → I s (effects ++ [.dispatched window])) :
    doHandleSessionConflict.KeepsFrom schedule I here := by
  unfold doHandleSessionConflict listWindows
  apply keepsFrom_await
  apply Keeps.keepsFrom
  apply keeps_orFail_bind
  intro windows listed
  have leaves : (do sleep; return .dismissingPopups : Step State).Keeps schedule I :=
    keeps_bind keeps_sleep fun _ => keeps_pure _
  have shown : schedule.answers.listed here.calls = windows := by
    rw [Answers.listed,listed]
  dsimp only
  split
  next window found =>
    refine keeps_bind (dispatch_steady (allowed window ?_)) fun _ => leaves
    rw [conflictShown,shown]
    exact found
  next => exact leaves

omit [Stable I] in
theorem doHandleSessionConflict_steady [Dispatches schedule I] :
    doHandleSessionConflict.Keeps schedule I :=
  keeps_of_keepsFrom fun _ => doHandleSessionConflict_from fun _ found =>
    dispatched_of_listed (List.mem_of_find?_eq_some found)

theorem dispatchPopups_steady {windows : List WindowInfo}
    (allowed : ∀ window ∈ windows, ∀ s effects, I s effects → I s (effects ++ [.dispatched window])) :
    (dispatchPopups windows).Keeps schedule I := by
  induction windows with
  | nil => exact keeps_pure _
  | cons window rest ih =>
    have others := ih fun other member => allowed other (by simp [member])
    refine keeps_bind (dispatch_steady (allowed window (by simp))) fun dispatched => ?_
    split
    · refine keeps_bind (keeps_ask _) fun now => keeps_bind (keeps_write fun _ => rfl) fun _ => ?_
      exact keeps_bind others fun _ => keeps_pure _
    · exact others

/-- The windows that DismissingPopups hands over: none where it leaves before its listing. -/
def popupsShown (answers : Answers) (observation : AgentObservation) (calls : Nat) : List WindowInfo :=
  if !answers.isRunning calls || observation.has2faDialog || observation.hasReloginDialog ||
      observation.hasSessionConflict then []
  else if observation.synced then answers.listed (calls + 1)
  else if ((answers.listed (calls + 1)).findSome? fun w => classifyBlockingDialog w.title).isSome then []
  else answers.listed (calls + 2)

theorem checkBlockingDialog_returned {here after : Local Session Effect} {blocking : Option State}
    (returned : checkBlockingDialog schedule here = (.ok blocking,after)) :
    blocking = (schedule.answers.listed here.calls).findSome? (fun w => classifyBlockingDialog w.title) ∧
      after = { here with calls := here.calls + 1 } := by
  unfold checkBlockingDialog at returned
  rw [bind_apply] at returned
  rcases outcome : listWindows schedule here with ⟨result,reached⟩
  rw [outcome] at returned
  cases result with
  | error stop => cases returned
  | ok listed =>
    obtain ⟨rfl,rfl⟩ := await_returned outcome
    unfold Answers.listed
    cases listed : schedule.answers.listWindows here.calls with
    | ok windows =>
      rw [listed] at returned
      cases returned
      exact ⟨rfl,rfl⟩
    | error e =>
      rw [listed] at returned
      cases returned
      exact ⟨rfl,rfl⟩

theorem doDismissPopups_from {here : Local Session Effect}
    (allowed : ∀ window ∈ popupsShown schedule.answers here.state.observation here.calls,
      ∀ s effects, I s effects → I s (effects ++ [.dispatched window])) :
    doDismissPopups.KeepsFrom schedule I here := by
  unfold doDismissPopups
  apply keepsFrom_ask
  split
  · exact (keeps_pure _).keepsFrom _
  next running =>
  apply keepsFrom_current
  split
  · exact (keeps_pure _).keepsFrom _
  next challenged =>
  split
  · exact (keeps_bind resetRegistry_steady fun _ => keeps_pure _).keepsFrom _
  next expired =>
  split
  · exact (keeps_bind resetRegistry_steady fun _ => keeps_pure _).keepsFrom _
  next contested =>
  simp only [Bool.not_eq_true,Bool.not_eq_false'] at running challenged expired contested
  unfold popupsShown at allowed
  simp only [running,challenged,expired,contested,Bool.not_true,Bool.or_false,Bool.false_eq_true,
    if_false] at allowed
  extract_lets waits dismisses
  have waited : ∀ found, (waits found).Keeps schedule I := by
    intro found
    refine keeps_bind keeps_current fun s => ?_
    extract_lets ends
    have ended : ∀ r, (ends r).Keeps schedule I := by
      intro r
      refine keeps_bind (elapsed_steady _) fun entered => ?_
      split
      · exact keeps_pure _
      · exact keeps_bind keeps_sleep fun _ => keeps_pure _
    split
    · refine keeps_bind (elapsed_steady _) fun quiet => ?_
      split
      · exact keeps_pure _
      · exact ended ()
    · exact ended ()
  have dismissed : ∀ (r : Unit) (reached : Local Session Effect),
      (∀ window ∈ schedule.answers.listed reached.calls, ∀ s effects, I s effects →
        I s (effects ++ [.dispatched window])) → (dismisses r).KeepsFrom schedule I reached := by
    intro r reached shown
    apply keepsFrom_await
    apply Keeps.keepsFrom
    unfold Answers.listed at shown
    cases listed : schedule.answers.listWindows reached.calls with
    | ok windows =>
      rw [listed] at shown
      exact keeps_bind (dispatchPopups_steady shown) waited
    | error e => exact keeps_bind (keeps_pure _) waited
  split
  next unsynced =>
    have unsynced : here.state.observation.synced = false := by simpa using unsynced
    simp only [unsynced,Bool.false_eq_true,if_false] at allowed
    refine keepsFrom_bind (checkBlockingDialog_steady.keepsFrom _) ?_
    intro blocking after returned
    obtain ⟨classified,rfl⟩ := checkBlockingDialog_returned returned
    rw [← classified] at allowed
    cases blocking with
    | none => exact dismissed () _ allowed
    | some next =>
      apply Keeps.keepsFrom
      dsimp only
      split
      · exact keeps_bind resetRegistry_steady fun _ => keeps_pure _
      · exact keeps_pure _
  next synced =>
    have synced : here.state.observation.synced = true := by simpa using synced
    rw [if_pos synced] at allowed
    exact dismissed () _ allowed

theorem doDismissPopups_steady [Dispatches schedule I] : doDismissPopups.Keeps schedule I := by
  apply keeps_of_keepsFrom
  intro here
  apply doDismissPopups_from
  intro window member
  unfold popupsShown at member
  split at member
  · cases member
  · split at member
    · exact dispatched_of_listed member
    · split at member
      · cases member
      · exact dispatched_of_listed member

omit [Stable I] in
theorem inspectApiServer_steady (disconnected : Bool) (windows : List WindowInfo) :
    (inspectApiServer disconnected windows).Keeps schedule I := by
  induction windows generalizing disconnected with
  | nil => exact keeps_pure _
  | cons window rest ih =>
    refine keeps_bind dumpComponents_steady fun dumped => ?_
    cases dumped with
    | error e => exact ih disconnected
    | ok components =>
      simp only
      split
      · exact keeps_pure _
      · split
        · exact keeps_pure _
        · exact ih _

theorem doWaitForApiReady_steady (frame : Frame) :
    (doWaitForApiReady frame).Keeps schedule I := by
  unfold doWaitForApiReady
  refine keeps_bind (keeps_ask _) fun running => ?_
  split
  · exact keeps_pure _
  refine keeps_bind keeps_current fun s => ?_
  split
  · exact keeps_pure _
  split
  · exact keeps_pure _
  split
  · exact keeps_pure _
  split
  · exact keeps_pure _
  refine keeps_bind checkBlockingDialog_steady fun blocking => ?_
  cases blocking with
  | some next => exact keeps_pure _
  | none =>
    refine keeps_bind listWindows_steady fun listed => ?_
    extract_lets judges
    have judged : ∀ found, (judges found).Keeps schedule I := by
      rintro ⟨ready,disconnected⟩
      unfold judges
      dsimp -zeta only
      split
      · exact keeps_pure _
      · extract_lets timeoutSecs
        refine keeps_bind keeps_current fun s => keeps_bind (elapsed_steady _) fun waited => ?_
        split
        · exact keeps_bind abortClientIdTask_steady fun _ => keeps_pure _
        · exact keeps_bind keeps_sleep fun _ => keeps_pure _
    split
    · exact keeps_bind (inspectApiServer_steady _ _) judged
    · exact keeps_bind (keeps_pure _) judged

theorem doConfigureApi_steady : doConfigureApi.Keeps schedule I := by
  unfold doConfigureApi
  refine keeps_bind dismissMenus_steady fun _ => ?_
  refine keeps_bind checkBlockingDialog_steady fun blocking => ?_
  cases blocking with
  | some next => exact keeps_bind (keeps_write fun _ => rfl) fun _ => keeps_pure _
  | none =>
    refine keeps_bind (keeps_ask _) fun running => ?_
    split
    · exact keeps_bind (keeps_write fun _ => rfl) fun _ => keeps_pure _
    · refine keeps_bind (keeps_write fun _ => rfl) fun _ => keeps_bind (keeps_routine rfl) fun _ => ?_
      refine keeps_bind (keeps_await _) fun applied => ?_
      cases applied with
      | ok report => exact keeps_bind (keeps_write fun _ => rfl) fun _ => keeps_pure _
      | error e =>
        refine keeps_bind dismissMenus_steady fun _ => keeps_bind keeps_current fun s => ?_
        split
        · refine keeps_bind (keeps_write fun _ => rfl) fun _ => ?_
          exact keeps_bind abortClientIdTask_steady fun _ => keeps_pure _
        · exact keeps_bind keeps_sleep fun _ => keeps_pure _

end Login

end Ibctl.Machine
