import Mathlib.Data.List.Nodup
import Ibctl.StateMachine.Blindness
import Ibctl.StateMachine.Episodes

/-! What the windows of a cache that is not synchronised decide. -/
namespace Ibctl.Machine
open Tasks Step Task Recovery

/-- Whatever the windows of an unsynchronised cache are, the task does not tell these from those. -/
def Indifferent {φ : Type} (t : Task Answers φ StateMachineError Session State)
    (w w' : List ObservedWindow) : Prop :=
  ∀ schedule (s : Session), s.observation.synced = false →
    (t.start schedule (s.seen w s.connectedWindowClass)).result =
      (t.start schedule (s.seen w' s.connectedWindowClass)).result

def listing (windows : List ObservedWindow) : AgentObservation := ⟨windows,⟨0⟩,0,false⟩

/-- Of tests made in order, the first that holds. -/
def firstTrue (tests : List Bool) : Nat := tests.idxOf true

namespace AgentObservation

variable (self : AgentObservation)

def twofaTests : List Bool := [self.hasReloginDialog,self.hasSessionConflict]

def popupTests : List Bool := [self.has2faDialog,self.hasReloginDialog,self.hasSessionConflict]

def readyTests : List Bool :=
  [self.has2faDialog,self.hasReloginDialog,self.hasSessionConflict,self.hasLoginForm]

def mainLoginButton : Bool := (self.mainGatewayWindow.map (fun m => m.hasLoginButton)).getD false

/-- Whether there is a main window, the dialog shown, and without one what asks for a probe. -/
def connectionTests : Bool × Nat × Bool × Bool :=
  (self.mainGatewayWindow.isSome,firstTrue self.twofaTests,
    !self.hasReloginDialog && !self.hasSessionConflict && self.mainLoginButton,
    !self.hasReloginDialog && !self.hasSessionConflict && cacheSuggestsProbe self)

end AgentObservation

section Chains

theorem firstTrue_cons {b b' : Bool} {tests tests' : List Bool} :
    firstTrue (b :: tests) = firstTrue (b' :: tests') ↔
      b = b' ∧ (b = false → firstTrue tests = firstTrue tests') := by
  unfold firstTrue
  cases b <;> cases b' <;> simp

variable {Ω φ ε σ α : Type} {R : σ → σ → Prop}

/-- Tasks that branch on tests that agree. -/
theorem alike_test {b b' : Bool} {t t' u u' : Task Ω φ ε σ α} (same : b = b') (shown : t.Alike R t')
    (rest : b = false → u.Alike R u') :
    Task.Alike R (if b = true then t else u) (if b' = true then t' else u') := by
  cases same
  cases b with
  | true => exact shown
  | false => exact rest rfl

end Chains

variable {w w' : List ObservedWindow} {α : Type}

theorem indifferent_of_blind {φ : Type} {t : Task Answers φ StateMachineError Session State}
    (blind : t.Blind (Twins w w')) : Indifferent t w w' :=
  fun schedule s _ => blind.start schedule (.seen s _ _ rfl)

theorem doWaitFor2fa_blind (same : firstTrue (listing w).twofaTests = firstTrue (listing w').twofaTests)
    (frame : Frame) : (doWaitFor2fa frame).Blind (Twins w w') := by
  obtain ⟨relogin,others⟩ := firstTrue_cons.mp same
  unfold doWaitFor2fa
  refine alike_bind waitForObservedTwofaRetry_blind fun waits => ?_
  split
  · exact alike_pure _
  refine alike_bind waitForRetryDeadline_blind fun waits => ?_
  split
  · exact alike_pure _
  refine alike_bind (blind_ask _) fun running => ?_
  split
  · exact alike_pure _
  refine alike_current ?_
  rintro _ _ ⟨s,c,c',-⟩
  refine alike_test relogin (alike_pure _) fun gone => ?_
  refine alike_test (firstTrue_cons.mp (others gone)).1 (alike_pure _) fun _ => ?_
  refine alike_bind checkBlockingDialog_blind fun blocking => ?_
  split
  · exact alike_pure _
  refine alike_bind (watchTwofa_blind frame) fun watched => ?_
  cases watched with
  | some next => exact alike_pure _
  | none =>
    refine blind_read (fun _ _ _ => rfl) fun s => alike_bind (elapsed_blind _) fun waited => ?_
    split
    · exact twofaTimeout_blind frame
    · exact alike_bind blind_sleep fun _ => alike_pure _

theorem doDismissPopups_blind
    (same : firstTrue (listing w).popupTests = firstTrue (listing w').popupTests) :
    doDismissPopups.Blind (Twins w w') := by
  obtain ⟨twofa,others⟩ := firstTrue_cons.mp same
  unfold doDismissPopups
  refine alike_bind (blind_ask _) fun running => ?_
  split
  · exact alike_pure _
  refine alike_current ?_
  rintro _ _ ⟨s,c,c',-⟩
  extract_lets waits dismisses
  have waited : ∀ found, (waits found).Blind (Twins w w') := by
    intro found
    refine blind_read (fun _ _ _ => rfl) fun s => ?_
    grind
  have dismissed : ∀ r, (dismisses r).Blind (Twins w w') := by
    intro r
    refine alike_bind listWindows_blind fun listed => ?_
    split
    · exact alike_bind (dispatchPopups_blind _) waited
    · exact alike_bind (alike_pure _) waited
  refine alike_test twofa (alike_pure _) fun gone => ?_
  obtain ⟨relogin,others⟩ := firstTrue_cons.mp (others gone)
  refine alike_test relogin (alike_bind resetRegistry_blind fun _ => alike_pure _) fun gone => ?_
  obtain ⟨conflict,-⟩ := firstTrue_cons.mp (others gone)
  refine alike_test conflict (alike_bind resetRegistry_blind fun _ => alike_pure _) fun _ => ?_
  refine alike_test rfl ?_ fun _ => dismissed ()
  refine alike_bind checkBlockingDialog_blind fun blocking => ?_
  cases blocking with
  | none => exact dismissed ()
  | some next => grind

theorem doWaitForApiReady_blind
    (same : firstTrue (listing w).readyTests = firstTrue (listing w').readyTests) (frame : Frame) :
    (doWaitForApiReady frame).Blind (Twins w w') := by
  obtain ⟨twofa,others⟩ := firstTrue_cons.mp same
  unfold doWaitForApiReady
  refine alike_bind (blind_ask _) fun running => ?_
  split
  · exact alike_pure _
  refine alike_current ?_
  rintro _ _ ⟨s,c,c',-⟩
  refine alike_test twofa (alike_pure _) fun gone => ?_
  obtain ⟨relogin,others⟩ := firstTrue_cons.mp (others gone)
  refine alike_test relogin (alike_pure _) fun gone => ?_
  obtain ⟨conflict,others⟩ := firstTrue_cons.mp (others gone)
  refine alike_test conflict (alike_pure _) fun gone => ?_
  refine alike_test (firstTrue_cons.mp (others gone)).1 (alike_pure _) fun _ => ?_
  refine alike_bind checkBlockingDialog_blind fun blocking => ?_
  cases blocking with
  | some next => exact alike_pure _
  | none =>
    refine alike_bind listWindows_blind fun listed => ?_
    extract_lets judges
    have judged : ∀ found, (judges found).Blind (Twins w w') := by
      rintro ⟨ready,disconnected⟩
      unfold judges
      dsimp -zeta only
      split
      · exact alike_pure _
      · extract_lets timeoutSecs
        refine blind_read (fun _ _ _ => rfl) fun s => alike_bind (elapsed_blind _) fun waited => ?_
        split
        · exact alike_bind abortClientIdTask_blind fun _ => alike_pure _
        · exact alike_bind blind_sleep fun _ => alike_pure _
    split
    · exact alike_bind (inspectApiServer_blind _ _) judged
    · exact alike_bind (alike_pure _) judged

section Connected

theorem blind_keeps {t : Step α} (blind : t.Blind (Twins w w)) (schedule : Schedule Answers) :
    t.Keeps schedule (fun s _ => s.observation.windows = w) := by
  apply keeps_of_keepsFrom
  intro here same
  have self : Twins w w here.state here.state := by
    have seen : here.state.seen w here.state.connectedWindowClass = here.state := by
      rw [← same]
      rfl
    rw [← seen]
    exact .seen here.state _ _ rfl
  have reached := (blind schedule here here self rfl).2.1
  generalize (t schedule here).2.state = after at reached
  cases reached with
  | seen s c c' noted => rfl

/-- A source without a debounce fires when it is observed. -/
theorem observeOrClear_none {schedule : Schedule Answers} {P : Session → List Effect → Prop}
    (present : Bool) (source : RevocationSource) (immediate : source.debounce = 0) :
    (observeOrClear present source).Triple schedule P
      (fun found _ _ => found = none → present = false) (fun _ _ => True) := by
  unfold observeOrClear
  cases present with
  | false => exact fun _ _ _ => rfl
  | true =>
    intro here _
    have fired : ∀ (tracker : RevocationTracker) now, (tracker.observe source now).1 = some source := by
      intro tracker now
      unfold RevocationTracker.observe
      split
      · simp [immediate]
      · simp [immediate]
    intro absent
    have absent : ((here.state.revocation.observe source (schedule.answers.now here.calls)).1.map
      RevocationSource.nextState) = none := absent
    rw [fired] at absent
    cases absent

theorem dialogs_none (schedule : Schedule Answers) (relogin conflict : Bool) :
    (do
      if let some next ← observeOrClear relogin .reloginDialog then return some next
      observeOrClear conflict .sessionConflict : Step (Option State)).Triple schedule
      (fun _ _ => True) (fun found _ _ => found = none → relogin = false ∧ conflict = false)
      (fun _ _ => True) := by
  refine triple_bind (observeOrClear_none _ _ rfl) fun found => ?_
  cases found with
  | some next => exact triple_pure fun _ _ _ absent => nomatch absent
  | none =>
    cases relogin with
    | true => exact fun here gone => nomatch gone rfl
    | false =>
      exact (observeOrClear_none _ _ rfl).mono (fun _ _ => id) (fun _ _ _ gone absent => ⟨rfl,gone absent⟩)
        fun _ _ => id

/-- A process that is still there is found without contradiction under no dialog. -/
theorem runningContradiction_none (frame : Frame) (schedule : Schedule Answers) :
    (runningContradiction frame).Triple schedule (fun s _ => s.observation.windows = w)
      (fun found _ _ => found = none →
        (listing w).hasReloginDialog = false ∧ (listing w).hasSessionConflict = false)
      (fun _ _ => True) := by
  have keeps : ∀ {α : Type} {t : Step α}, t.Blind (Twins w w) →
      t.Triple schedule (fun s _ => s.observation.windows = w)
        (fun _ s _ => s.observation.windows = w) (fun _ _ => True) :=
    fun blind => (blind_keeps blind schedule).mono (fun _ _ => id) (fun _ _ _ => id) fun _ _ _ => trivial
  have finds : ∀ next : State, (Pure.pure (some next) : Step (Option State)).Triple schedule
      (fun s _ => s.observation.windows = w)
      (fun found _ _ => found = none →
        (listing w).hasReloginDialog = false ∧ (listing w).hasSessionConflict = false)
      (fun _ _ => True) :=
    fun next => triple_pure fun _ _ _ absent => nomatch absent
  unfold runningContradiction
  refine triple_bind (keeps (observeOrClear_blind _ _)) fun lost => ?_
  cases lost with
  | some next => exact finds next
  | none =>
    refine triple_bind (triple_current (Q := fun _ s _ => s.observation.windows = w)
      fun _ _ => id) fun s => ?_
    extract_lets looks
    have looked : ∀ r, (looks r).Triple schedule (fun s _ => s.observation.windows = w)
        (fun found _ _ => found = none →
          (listing w).hasReloginDialog = false ∧ (listing w).hasSessionConflict = false)
        (fun _ _ => True) := by
      intro r
      refine triple_bind (keeps reviveSocat_blind) fun _ => ?_
      refine triple_bind (triple_current (Q := fun s _ _ => s.observation.windows = w)
        fun _ _ => id) fun s here same => ?_
      have relogin : s.observation.hasReloginDialog = (listing w).hasReloginDialog := by
        rw [← same]
        rfl
      have conflict : s.observation.hasSessionConflict = (listing w).hasSessionConflict := by
        rw [← same]
        rfl
      rw [relogin,conflict]
      exact dialogs_none schedule _ _ here trivial
    split
    · refine triple_bind (keeps (observe_blind _)) fun probed => ?_
      cases probed with
      | some next => exact triple_bind (keeps (blind_aside fun _ _ _ => rfl)) fun _ => finds next
      | none => exact looked ()
    · exact looked ()

theorem dialogs_alike {relogin relogin' conflict conflict' : Bool} (same : relogin = relogin')
    (others : relogin = false → conflict = conflict') :
    Task.Alike (Twins w w')
      (do
        if let some next ← observeOrClear relogin .reloginDialog then return some next
        observeOrClear conflict .sessionConflict : Step (Option State))
      (do
        if let some next ← observeOrClear relogin' .reloginDialog then return some next
        observeOrClear conflict' .sessionConflict) := by
  cases same
  refine alike_bind_after (P := fun _ => True) (observeOrClear_blind _ _) (fun _ _ _ => trivial)
    (fun _ => observeOrClear_none _ _ rfl) fun found gone => ?_
  cases found with
  | some next => exact alike_pure _
  | none =>
    rw [others (gone rfl)]
    exact observeOrClear_blind _ _

theorem runningContradiction_blind
    (same : firstTrue (listing w).twofaTests = firstTrue (listing w').twofaTests) (frame : Frame) :
    (runningContradiction frame).Blind (Twins w w') := by
  obtain ⟨relogin,others⟩ := firstTrue_cons.mp same
  unfold runningContradiction
  refine alike_bind (observeOrClear_blind _ _) fun lost => ?_
  cases lost with
  | some next => exact alike_pure _
  | none =>
    refine blind_read (fun _ _ _ => rfl) fun s => ?_
    extract_lets looks
    have looked : ∀ r, (looks r).Blind (Twins w w') := by
      intro r
      refine alike_bind reviveSocat_blind fun _ => alike_current ?_
      rintro _ _ ⟨s,c,c',-⟩
      exact dialogs_alike relogin fun gone => (firstTrue_cons.mp (others gone)).1
    split
    · refine alike_bind (observe_blind _) fun probed => ?_
      cases probed with
      | some next => exact alike_bind (blind_aside fun _ _ _ => rfl) fun _ => alike_pure _
      | none => exact looked ()
    · exact looked ()

theorem recordWindowClass_blind
    (main : (listing w).mainGatewayWindow.isSome = (listing w').mainGatewayWindow.isSome) :
    recordWindowClass.Blind (Twins w w') := by
  have notes : ∀ m m', Task.Alike (Twins w w')
      (update fun s => { s with connectedWindowClass := some m } : Step Unit)
      (update fun s => { s with connectedWindowClass := some m' }) := by
    refine fun m m' => alike_update ?_
    rintro _ _ ⟨s,c,c',-⟩
    exact .seen s (some m) (some m') rfl
  unfold recordWindowClass
  refine alike_current ?_
  rintro _ _ ⟨s,c,c',noted⟩
  have unnoted : c.isNone = c'.isNone := by
    rw [← Option.not_isSome,← Option.not_isSome,noted]
  refine alike_test unnoted ?_ fun _ => alike_pure _
  have shown : (s.seen w c).observation.mainGatewayWindow = (listing w).mainGatewayWindow := rfl
  have shown' : (s.seen w' c').observation.mainGatewayWindow = (listing w').mainGatewayWindow := rfl
  rw [shown,shown']
  cases found : (listing w).mainGatewayWindow with
  | some m =>
    rw [found] at main
    obtain ⟨m',found'⟩ := Option.isSome_iff_exists.mp main.symm
    rw [found']
    exact notes _ _
  | none =>
    rw [found] at main
    have absent : (listing w').mainGatewayWindow = none :=
      Option.not_isSome_iff_eq_none.mp (by simp [← main])
    rw [absent]
    refine alike_bind listWindows_blind fun listed => ?_
    cases listed with
    | error e => exact alike_pure _
    | ok windows =>
      dsimp only
      split
      · exact alike_pure _
      · exact notes _ _

def followedClass (s : Session) : Session :=
  match s.observation.mainGatewayWindow,s.connectedWindowClass with
  | some main,some expected =>
    if main.className ≠ expected ∧ main.hasLoginButton = false then
      { s with connectedWindowClass := some main.className }
    else s
  | _,_ => s

theorem followedClass_seen (s : Session) (w : List ObservedWindow) (c : Option String) :
    ∃ followed : Option String, followed.isSome = c.isSome ∧
      followedClass (s.seen w c) = s.seen w followed := by
  unfold followedClass
  split
  next main expected _ noted =>
    have known : c = some expected := noted
    split
    · exact ⟨some main.className,by rw [known]; rfl,rfl⟩
    · exact ⟨c,rfl,rfl⟩
  · exact ⟨c,rfl,rfl⟩

theorem followWindowClass_blind : followWindowClass.Blind (Twins w w') := by
  have follows : followWindowClass = update followedClass := rfl
  rw [follows]
  refine alike_update ?_
  rintro _ _ ⟨s,c,c',noted⟩
  obtain ⟨followed,kept,reached⟩ := followedClass_seen s w c
  obtain ⟨followed',kept',reached'⟩ := followedClass_seen s w' c'
  rw [reached,reached']
  exact .seen s followed followed' (kept.trans (noted.trans kept'.symm))

/-- A probe with what it knows beforehand: the login button, a contradiction that is pending, and
a second window of the Gateway's name. -/
def probeAfter (windows : Except AgentError (List WindowInfo)) (loginButton pending suggested : Bool)
    (since : Instant) : Step (Option State) := do
  followWindowClass
  let entered ← elapsed since
  let probeNeeded := pending || suggested || decide (entered.asSecs % 30 < 3)
  let (probeTwofa,components) ← match windows with
    | .error _ => pure (false,[])
    | .ok windows => do
      let components ← if probeNeeded then dumps (gatewayWindows windows) else pure []
      dispatchAll windows
      pure (probeNeeded && windows.any (fun w => isTwofaTitle w.title),components)
  if probeTwofa then return some .waitingFor2fa
  let loginForm := loginButton || components.any componentsHaveLoginForm
  if let some next ← observeOrClear loginForm .loginFormVisible then return next
  observeOrClear (components.any componentsIndicateDisconnected) .disconnectedLabelStable

theorem probedContradiction_eq : probedContradiction = (do
    let windows ← listWindows
    clear .errorDialog
    let s ← current
    probeAfter windows s.observation.mainLoginButton s.revocation.anyPending
      (cacheSuggestsProbe s.observation) s.stateEnteredAt) := rfl

theorem probeAfter_blind (windows : Except AgentError (List WindowInfo)) (loginButton pending suggested : Bool)
    (since : Instant) : (probeAfter windows loginButton pending suggested since).Blind (Twins w w') := by
  unfold probeAfter
  refine alike_bind followWindowClass_blind fun _ => alike_bind (elapsed_blind _) fun entered => ?_
  extract_lets probeNeeded judges
  have judged : ∀ probed, (judges probed).Blind (Twins w w') := by
    rintro ⟨probeTwofa,components⟩
    unfold judges
    dsimp -zeta only
    split
    · exact alike_pure _
    · refine alike_bind (observeOrClear_blind _ _) fun form => ?_
      cases form with
      | some next => exact alike_pure _
      | none => exact observeOrClear_blind _ _
  split
  · exact alike_bind (alike_pure _) judged
  · extract_lets probes
    have probed : ∀ components, (probes components).Blind (Twins w w') := by
      intro components
      refine alike_bind (dispatchAll_blind _) fun _ => ?_
      exact alike_bind (alike_pure _) judged
    split
    · exact alike_bind (dumps_blind _) probed
    · exact alike_bind (alike_pure _) probed

theorem probedContradiction_blind
    (button : (listing w).mainLoginButton = (listing w').mainLoginButton)
    (suggested : cacheSuggestsProbe (listing w) = cacheSuggestsProbe (listing w')) :
    probedContradiction.Blind (Twins w w') := by
  rw [probedContradiction_eq]
  refine alike_bind listWindows_blind fun listed => alike_bind (clear_blind _) fun _ => alike_current ?_
  rintro _ _ ⟨s,c,c',-⟩
  have looks : ∀ w c, (s.seen w c).observation.mainLoginButton = (listing w).mainLoginButton ∧
      cacheSuggestsProbe (s.seen w c).observation = cacheSuggestsProbe (listing w) := fun _ _ => ⟨rfl,rfl⟩
  rw [(looks w c).1,(looks w c).2,(looks w' c').1,(looks w' c').2,button,suggested]
  exact probeAfter_blind listed _ _ _ _

theorem findExit_blind
    (main : (listing w).mainGatewayWindow.isSome = (listing w').mainGatewayWindow.isSome) :
    findExit.Blind (Twins w w') := by
  unfold findExit
  refine alike_bind (recordWindowClass_blind main) fun _ => alike_bind reviveSocat_blind fun _ => ?_
  refine alike_bind (blind_aside fun _ _ _ => rfl) fun _ => alike_bind (blind_ask _) fun running => ?_
  split
  · exact alike_bind (blind_ask _) fun _ => alike_pure _
  · exact alike_pure _

theorem doConnected_blind (same : (listing w).connectionTests = (listing w').connectionTests)
    (frame : Frame) : (doConnected frame).Blind (Twins w w') := by
  obtain ⟨main,dialogs,button,suggested⟩ := by
    simpa only [AgentObservation.connectionTests,Prod.mk.injEq] using same
  obtain ⟨relogin,others⟩ := firstTrue_cons.mp dialogs
  have supervises : (superviseConnection frame).Blind (Twins w w') := by
    rw [superviseConnection_eq]
    refine alike_bind (findExit_blind main) fun exit => ?_
    unfold afterExit
    cases exit with
    | some hash =>
      refine alike_bind (blind_aside fun _ _ _ => rfl) fun _ => ?_
      exact alike_bind (observe_blind _) fun _ => alike_pure _
    | none =>
      have windows : ∀ s s', Twins w w' s s' → s.observation.windows = w := by
        rintro _ _ ⟨s,c,c',-⟩
        rfl
      refine alike_bind_after (P := fun s => s.observation.windows = w)
        (runningContradiction_blind dialogs frame) windows (runningContradiction_none frame)
        fun direct gone => ?_
      cases direct with
      | some next => exact alike_pure _
      | none =>
        obtain ⟨noRelogin,noConflict⟩ := gone rfl
        have noRelogin' := relogin.symm.trans noRelogin
        have noConflict' := (firstTrue_cons.mp (others noRelogin)).1.symm.trans noConflict
        rw [noRelogin,noConflict,noRelogin',noConflict'] at button suggested
        refine alike_bind (probedContradiction_blind button suggested) fun probed => ?_
        cases probed with
        | some next => exact alike_pure _
        | none =>
          refine alike_bind syncClientIds_blind fun _ => ?_
          exact alike_bind (resetTwofaTimeouts_blind frame) fun _ => alike_pure _
  unfold doConnected
  refine alike_bind (blind_mapEffects supervises) fun found => ?_
  cases found with
  | some next => exact alike_pure _
  | none =>
    refine alike_bind (markStable_blind frame) fun _ => ?_
    exact alike_bind blind_sleep fun _ => alike_pure _

end Connected

section Samples

/-- One sample for each verdict tells all that is to be told, if a run tells the samples apart. -/
theorem verdict_eq_of_samples {ω V γ : Type} {same : ω → ω → Prop} {verdict : ω → V}
    {outcome : ω → γ} (samples : List ω) (sound : ∀ w w', verdict w = verdict w' → same w w')
    (observed : ∀ w w', same w w' → outcome w = outcome w')
    (covered : ∀ w, verdict w ∈ samples.map verdict) (distinct : (samples.map outcome).Nodup)
    {w w' : ω} (held : same w w') : verdict w = verdict w' := by
  obtain ⟨sample,among,verdicts⟩ := List.mem_map.mp (covered w)
  obtain ⟨sample',among',verdicts'⟩ := List.mem_map.mp (covered w')
  have outcomes : outcome sample = outcome sample' :=
    (observed _ _ (sound _ _ verdicts)).trans
      ((observed _ _ held).trans (observed _ _ (sound _ _ verdicts'.symm)))
  have one : sample = sample' := List.inj_on_of_nodup_map distinct among among' outcomes
  rw [← verdicts,← verdicts',one]

/-- What a handler returns over these windows, a moment after its state was entered. -/
def sampled {φ : Type} (t : Task Answers φ StateMachineError Session State) (answers : Answers)
    (s : Session) (w : List ObservedWindow) : Option State :=
  (t.start ⟨answers,none⟩ (s.seen w s.connectedWindowClass)).result.toOption

theorem sampled_eq {φ : Type} {t : Task Answers φ StateMachineError Session State}
    (indifferent : Indifferent t w w') (answers : Answers) {s : Session}
    (unsynced : s.observation.synced = false) : sampled t answers s w = sampled t answers s w' :=
  congrArg Except.toOption (indifferent ⟨answers,none⟩ s unsynced)

theorem firstTrue_mem (tests : List Bool) : firstTrue tests ∈ List.range (tests.length + 1) :=
  List.mem_range.mpr (Nat.lt_succ_of_le List.idxOf_le_length)

def sampleSession : Session := paperStart.machine.session

def reloginDialog : ObservedWindow := ⟨7,"Re-login is required","ibgateway.bd",false⟩

def conflictDialog : ObservedWindow := ⟨8,"Existing session detected","ibgateway.be",false⟩

def twofaDialog : ObservedWindow := ⟨9,"Second Factor Authentication","ibgateway.bf",false⟩

def gateway (id : Nat) (hasLoginButton : Bool) : ObservedWindow :=
  ⟨id,"IB Gateway","ibgateway.az",hasLoginButton⟩

theorem doWaitFor2fa_indifferent : (∀ frame, Indifferent (doWaitFor2fa frame) w w') ↔
    firstTrue (listing w).twofaTests = firstTrue (listing w').twofaTests := by
  have sound : ∀ w w', firstTrue (listing w).twofaTests = firstTrue (listing w').twofaTests →
      ∀ frame, Indifferent (doWaitFor2fa frame) w w' :=
    fun _ _ same frame => indifferent_of_blind (doWaitFor2fa_blind same frame)
  refine ⟨?_,sound w w'⟩
  refine verdict_eq_of_samples [[reloginDialog],[conflictDialog],[]] sound
    (fun _ _ held => sampled_eq (held paperStart.machine.frame) (quietAnswers (sampleClocks 14400))
      (s := sampleSession) rfl) (fun w => ?_) (by decide +kernel)
  exact (by decide +kernel : List.range 3 =
    [[reloginDialog],[conflictDialog],[]].map fun w => firstTrue (listing w).twofaTests) ▸ firstTrue_mem _

theorem doDismissPopups_indifferent : Indifferent doDismissPopups w w' ↔
    firstTrue (listing w).popupTests = firstTrue (listing w').popupTests := by
  have sound : ∀ w w', firstTrue (listing w).popupTests = firstTrue (listing w').popupTests →
      Indifferent doDismissPopups w w' :=
    fun _ _ same => indifferent_of_blind (doDismissPopups_blind same)
  refine ⟨?_,sound w w'⟩
  refine verdict_eq_of_samples [[twofaDialog],[reloginDialog],[conflictDialog],[]] sound
    (fun _ _ held => sampled_eq held (quietAnswers (sampleClocks 14400)) (s := sampleSession) rfl)
    (fun w => ?_) (by decide +kernel)
  exact (by decide +kernel : List.range 4 = [[twofaDialog],[reloginDialog],[conflictDialog],[]].map
    fun w => firstTrue (listing w).popupTests) ▸ firstTrue_mem _

theorem doWaitForApiReady_indifferent : (∀ frame, Indifferent (doWaitForApiReady frame) w w') ↔
    firstTrue (listing w).readyTests = firstTrue (listing w').readyTests := by
  have sound : ∀ w w', firstTrue (listing w).readyTests = firstTrue (listing w').readyTests →
      ∀ frame, Indifferent (doWaitForApiReady frame) w w' :=
    fun _ _ same frame => indifferent_of_blind (doWaitForApiReady_blind same frame)
  refine ⟨?_,sound w w'⟩
  refine verdict_eq_of_samples
    [[twofaDialog],[reloginDialog],[conflictDialog],[gateway 1 true],[]] sound
    (fun _ _ held => sampled_eq (held paperStart.machine.frame) (quietAnswers (sampleClocks 14400))
      (s := sampleSession) rfl) (fun w => ?_) (by decide +kernel)
  exact (by decide +kernel : List.range 5 =
    [[twofaDialog],[reloginDialog],[conflictDialog],[gateway 1 true],[]].map
      fun w => firstTrue (listing w).readyTests) ▸ firstTrue_mem _

theorem mainLoginButton_suggests (o : AgentObservation) (shown : o.mainLoginButton = true) :
    cacheSuggestsProbe o = true := by
  unfold AgentObservation.mainLoginButton at shown
  simp [cacheSuggestsProbe,shown]

theorem main_of_cacheSuggestsProbe (o : AgentObservation) (suggested : cacheSuggestsProbe o = true) :
    o.mainGatewayWindow.isSome = true := by
  unfold cacheSuggestsProbe at suggested
  rcases Bool.or_eq_true_iff.mp suggested with button | second
  · cases found : o.mainGatewayWindow with
    | none => simp [found] at button
    | some main => rfl
  · obtain ⟨window,among,named⟩ := List.any_eq_true.mp second
    simp only [Bool.and_eq_true] at named
    refine List.find?_isSome.mpr ⟨window,among,?_⟩
    have wider : AgentObservation.isGatewayWindow window = true := by
      have titled := named.1.1
      simp only [isGatewayTitle,titleContains,List.any_cons,List.any_nil,Bool.or_false,
        Bool.or_eq_true] at titled
      simp only [AgentObservation.isGatewayWindow,titleContains,List.any_cons,Bool.or_eq_true]
      exact titled.elim .inl fun second => .inr (.inl second)
    rw [wider]
    exact named.1.2

/-- A login button and a second window are seen beside a main window alone. -/
def connectionVerdicts : List (Bool × Nat × Bool × Bool) :=
  [(false,0,false,false),(false,1,false,false),(false,2,false,false),(true,0,false,false),
    (true,1,false,false),(true,2,false,false),(true,2,false,true),(true,2,true,true)]

def connectionSamples : List (List ObservedWindow) :=
  [[reloginDialog],[conflictDialog],[],[gateway 1 false,reloginDialog],
    [gateway 1 false,conflictDialog],[gateway 1 false],[gateway 1 false,gateway 2 false],
    [gateway 1 true]]

theorem connectionSamples_verdicts :
    connectionSamples.map (fun w => (listing w).connectionTests) = connectionVerdicts := by
  decide +kernel

theorem connectionTests_mem (o : AgentObservation) : o.connectionTests ∈ connectionVerdicts := by
  have among : ∀ main relogin conflict button suggested : Bool, (button = true → suggested = true) →
      (suggested = true → main = true) →
      (main,firstTrue [relogin,conflict],!relogin && !conflict && button,
        !relogin && !conflict && suggested) ∈ connectionVerdicts := by
    decide
  exact among _ _ _ _ _ (mainLoginButton_suggests o) (main_of_cacheSuggestsProbe o)

/-- The answers over which the windows show in what a connected machine does next: a process
found gone at the second call, and a window of a second factor. -/
def revealing : List (Answers × Session) :=
  [({ quietAnswers (sampleClocks 14410) with isRunning := fun n => n ≠ 1 },sampleSession),
    (quietAnswers (sampleClocks 14410),
      { sampleSession with
        connectedWindowClass := some "ibgateway.az"
        revocation := ⟨[(.loginFormVisible,(sampleClocks 14400).mono,.loginFormVisible)]⟩ }),
    ({ quietAnswers (sampleClocks 14410) with
        listWindows := fun _ => .ok [⟨⟨9⟩,"Second Factor Authentication","ibgateway.bf",none⟩] },
      { sampleSession with connectedWindowClass := some "ibgateway.az" })]

theorem doConnected_indifferent : (∀ frame, Indifferent (doConnected frame) w w') ↔
    (listing w).connectionTests = (listing w').connectionTests := by
  have sound : ∀ w w', (listing w).connectionTests = (listing w').connectionTests →
      ∀ frame, Indifferent (doConnected frame) w w' :=
    fun _ _ same frame => indifferent_of_blind (doConnected_blind same frame)
  have observed : ∀ w w', (∀ frame, Indifferent (doConnected frame) w w') →
      revealing.map (fun given => sampled (doConnected paperStart.machine.frame) given.1 given.2 w) =
        revealing.map fun given => sampled (doConnected paperStart.machine.frame) given.1 given.2 w' := by
    intro w w' held
    refine List.map_congr_left fun given among => sampled_eq (held _) given.1 ?_
    have unsynced : ∀ given ∈ revealing, given.2.observation.synced = false := by decide +kernel
    exact unsynced given among
  refine ⟨?_,sound w w'⟩
  refine verdict_eq_of_samples connectionSamples sound observed (fun w => ?_) (by decide +kernel)
  rw [connectionSamples_verdicts]
  exact connectionTests_mem (listing w)

end Samples

end Ibctl.Machine
