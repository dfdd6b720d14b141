import Ibctl.StateMachine.Iteration

/-! What stands by while handlers run: the state WaitingForIB returns to, the retry deadline of
a rejected login and the bookkeeping of a wait for the operator. Each is written by the
handlers it belongs to; all others keep it, and launch and submit nothing. -/
namespace Ibctl.Machine
open Tasks Step Task

section Handlers

variable {I : Session → List Effect → Prop} [Stable I] {schedule : Schedule Answers}

theorem waitForWarmLogin_steady
    (forgets : ∀ s effects, I s effects → I { s with warmRestartPending := none } effects) :
    waitForWarmLogin.Keeps schedule I := by
  have dropped : ∀ entered : Session → Instant, (update fun s =>
      { s with warmRestartPending := none, stateEnteredAt := entered s } : Step Unit).Keeps schedule I := by
    intro entered
    apply keeps_update
    intro s effects kept
    exact Stable.write { s with warmRestartPending := none } _ effects rfl (forgets s effects kept)
  unfold waitForWarmLogin
  refine keeps_bind (keeps_ask _) fun running => ?_
  split
  · exact keeps_bind (keeps_update forgets) fun _ => keeps_pure _
  refine keeps_bind listWindows_steady fun listed => ?_
  extract_lets waits
  have waited : ∀ r, (waits r).Keeps schedule I := by
    intro r
    refine keeps_bind keeps_current fun s => keeps_bind (elapsed_steady _) fun entered => ?_
    split
    · refine keeps_bind (keeps_ask _) fun now => ?_
      exact keeps_bind (dropped fun _ => now) fun _ => keeps_pure _
    · exact keeps_bind keeps_sleep fun _ => keeps_pure _
  split
  · split
    · exact keeps_bind (keeps_update forgets) fun _ => keeps_pure _
    · exact waited ()
  · exact waited ()

theorem doWaitForLogin_steady (frame : Frame)
    (forgets : ∀ s effects, I s effects → I { s with warmRestartPending := none } effects) :
    (doWaitForLogin frame).Keeps schedule I := by
  unfold doWaitForLogin
  refine keeps_bind keeps_current fun s => ?_
  extract_lets timeoutSecs ends decides colds
  have ended : ∀ r, (ends r).Keeps schedule I :=
    fun r => keeps_bind keeps_sleep fun _ => keeps_pure _
  have decided : ∀ found, (decides found).Keeps schedule I := by
    intro found
    cases found with
    | some next => exact keeps_pure _
    | none =>
      refine keeps_bind keeps_current fun s => ?_
      split
      · refine keeps_bind (elapsed_steady _) fun waited => ?_
        split
        · exact keeps_pure _
        · exact ended ()
      · exact ended ()
  have cold : ∀ r, (colds r).Keeps schedule I := by
    intro r
    refine keeps_bind (keeps_ask _) fun running => ?_
    split
    · exact keeps_pure _
    · refine keeps_bind keeps_current fun s => ?_
      split
      · exact keeps_bind (keeps_pure _) decided
      · exact keeps_bind polledLoginState_steady decided
  split
  · refine keeps_bind (waitForWarmLogin_steady forgets) fun found => ?_
    cases found with
    | some next => exact keeps_pure _
    | none => exact cold ()
  · exact cold ()

end Handlers

section Connected

variable {S : Session → Prop} {p : Effect → Prop} {schedule : Schedule Answers}

theorem doConnected_from (frame : Frame) {here : Local Session ConnectedEffect}
    (supervises : (superviseConnection frame).KeepsFrom schedule (All S p) { here with effects := [] })
    (counts : ∀ s n, S s → S { s with consecutiveJvmRestarts := n })
    (marks : ∀ s b, S s → S { s with settingsGoodMarked := b }) :
    (doConnected frame).KeepsFrom schedule (All S (ConnectedEffect.Lifts p)) here := by
  unfold doConnected
  refine keepsFrom_bind (keepsFrom_mapEffects (fun _ holds => holds) supervises) ?_
  intro found after _
  apply Keeps.keepsFrom
  cases found with
  | some next => exact keeps_pure _
  | none =>
    refine keeps_bind (markStable_steady frame counts marks) fun _ => ?_
    exact keeps_bind keeps_sleep fun _ => keeps_pure _

theorem doConnected_steady (frame : Frame)
    (supervises : (superviseConnection frame).Keeps schedule (All S p))
    (counts : ∀ s n, S s → S { s with consecutiveJvmRestarts := n })
    (marks : ∀ s b, S s → S { s with settingsGoodMarked := b }) :
    (doConnected frame).Keeps schedule (All S (ConnectedEffect.Lifts p)) :=
  keeps_of_keepsFrom fun _ => doConnected_from frame (supervises.keepsFrom _) counts marks

end Connected

abbrev Standby := Option State × TwofaRetry × HitlEpisode

def Session.standby (s : Session) : Standby := (s.returnState,s.retry,s.hitl)

/-- What stands by satisfies one condition, and each of the effects another. -/
def Beside (K : Standby → Prop) (p : Effect → Prop) : Session → List Effect → Prop :=
  All (fun s => K s.standby) p

section Beside

variable {K : Standby → Prop} {p : Effect → Prop} {schedule : Schedule Answers}

theorem beside_append {effect : Effect} (holds : p effect) (s : Session) (effects : List Effect)
    (beside : Beside K p s effects) : Beside K p s (effects ++ [effect]) := by
  apply all_append beside.2
  refine ⟨beside.1,fun e member => ?_⟩
  rw [List.mem_singleton.mp member]
  exact holds

theorem beside_of_standby {s s' : Session} (same : s'.standby = s.standby) (effects : List Effect)
    (beside : Beside K p s effects) : Beside K p s' effects := by
  have kept : K s'.standby := by
    rw [same]
    exact beside.1
  exact ⟨kept,beside.2⟩

def SessionLedger.standby (l : SessionLedger) : Standby := (l.returnState,l.retry,l.hitl)

theorem stable_beside (routine : ∀ effect, effect.isRoutine = true → p effect) :
    Stable (Beside K p) where
  write _ _ effects same := beside_of_standby (congrArg SessionLedger.standby same) effects
  emit s effects effect ordinary := beside_append (routine effect ordinary) s effects

theorem retry_beside (retries : ∀ back retry retry' hitl, K (back,retry,hitl) → K (back,retry',hitl)) :
    StableRetry (Beside K p) where
  retries s s' effects same beside := by
    have others := congrArg SessionLedger.standby same
    obtain ⟨back,rest⟩ := Prod.mk.inj others
    obtain ⟨-,hitl⟩ := Prod.mk.inj rest
    have kept : K (s'.returnState,s'.retry,s'.hitl) := by
      rw [show s'.returnState = s.returnState from back,show s'.hitl = s.hitl from hitl]
      exact retries _ s.retry _ _ beside.1
    exact ⟨kept,beside.2⟩

theorem hitl_beside (waits : ∀ back retry hitl hitl', K (back,retry,hitl) → K (back,retry,hitl')) :
    StableHitl (Beside K p) where
  waits s s' effects same beside := by
    have others := congrArg SessionLedger.standby same
    obtain ⟨back,rest⟩ := Prod.mk.inj others
    obtain ⟨retry,-⟩ := Prod.mk.inj rest
    have kept : K (s'.returnState,s'.retry,s'.hitl) := by
      rw [show s'.returnState = s.returnState from back,show s'.retry = s.retry from retry]
      exact waits _ _ s.hitl _ beside.1
    exact ⟨kept,beside.2⟩

end Beside

namespace StateMachine

variable {K : Standby → Prop} {p : Effect → Prop} {schedule : Schedule Answers} {sm : StateMachine}

/-- What a handler may do beside its own business: none but those of WaitingForIB, of a login
and of the wait for the operator write to what stands by; none but a login submits, and only
three hand windows to the dialog handlers. -/
structure Permits (sm : StateMachine) (answers : Answers) (K : Standby → Prop) (p : Effect → Prop) :
    Prop where
  routine : ∀ effect, effect.isRoutine = true → p effect
  launches : sm.state = .launching → ∀ hash, p (.launched hash)
  resumes : sm.state = .waitingForIB → ∀ back retry hitl, K (back,retry,hitl) → K (none,retry,hitl)
  waits : sm.state = .waitingForHitl2fa →
    ∀ back retry hitl hitl', K (back,retry,hitl) → K (back,retry,hitl')
  retries : sm.state = .authenticating ∨ sm.state = .waitingFor2fa →
    ∀ back retry retry' hitl, K (back,retry,hitl) → K (back,retry',hitl)
  submits : sm.state = .authenticating ∨ sm.state = .waitingFor2fa →
    ∀ handler window, p (.dispatchedNamed handler window)
  dispatches : sm.state = .handlingSessionConflict ∨ sm.state = .dismissingPopups ∨
      sm.state = .connected →
    ∀ n windows, answers.listWindows n = .ok windows → ∀ window ∈ windows, p (.dispatched window)

/-- Where nothing is asked of the effects, the writers of what stands by are left. -/
theorem permits_of_writers {answers : Answers}
    (resumes : sm.state = .waitingForIB →
      ∀ back retry hitl, K (back,retry,hitl) → K (none,retry,hitl))
    (waits : sm.state = .waitingForHitl2fa →
      ∀ back retry hitl hitl', K (back,retry,hitl) → K (back,retry,hitl'))
    (retries : sm.state = .authenticating ∨ sm.state = .waitingFor2fa →
      ∀ back retry retry' hitl, K (back,retry,hitl) → K (back,retry',hitl)) :
    sm.Permits answers K fun _ => True where
  routine _ _ := trivial
  launches _ _ := trivial
  resumes := resumes
  waits := waits
  retries := retries
  submits _ _ _ := trivial
  dispatches _ _ _ _ _ _ := trivial

theorem transition_beside (permits : sm.Permits schedule.answers K p) :
    sm.transition.Keeps schedule (All (fun s => K s.standby) (ConnectedEffect.Lifts p)) := by
  have := stable_beside (K := K) permits.routine
  have gateway : ∀ {task : Step State}, task.Keeps schedule (Beside K p) →
      (mapEffects ConnectedEffect.gateway task).Keeps schedule
        (All (fun s => K s.standby) (ConnectedEffect.Lifts p)) :=
    fun keeps => triple_mapEffects (fun _ holds => holds) keeps
  have submits : sm.state = .authenticating ∨ sm.state = .waitingFor2fa → Submits (Beside K p) :=
    fun here => ⟨fun handler window => beside_append (permits.submits here handler window)⟩
  have dispatches : sm.state = .handlingSessionConflict ∨ sm.state = .dismissingPopups ∨
      sm.state = .connected → Dispatches schedule (Beside K p) :=
    fun here => ⟨fun n windows listed window member =>
      beside_append (permits.dispatches here n windows listed window member)⟩
  unfold transition
  split
  next => exact gateway doWaitingForLaunch_steady
  next => exact gateway (doInit_steady _)
  next state =>
    apply gateway
    unfold doLaunch
    refine keeps_bind keeps_current fun s => keeps_bind (keeps_ask _) fun result => ?_
    refine keeps_bind (keeps_orFail _ _) fun _ => keeps_bind ?_ fun _ => keeps_pure _
    exact keeps_emit (beside_append (permits.launches state _))
  next => exact gateway doWaitForAgent_steady
  next => exact gateway (doWaitForLogin_steady _ fun s effects beside => beside_of_standby rfl effects beside)
  next state =>
    have := retry_beside (p := p) (permits.retries (.inl state))
    have := submits (.inl state)
    exact gateway doAuthenticate_steady
  next state =>
    have := retry_beside (p := p) (permits.retries (.inr state))
    have := submits (.inr state)
    exact gateway (doWaitFor2fa_steady _)
  next state =>
    have := dispatches (.inl state)
    exact gateway doHandleSessionConflict_steady
  next state =>
    have := dispatches (.inr (.inl state))
    exact gateway doDismissPopups_steady
  next => exact gateway (doWaitForApiReady_steady _)
  next => exact gateway doConfigureApi_steady
  next state =>
    have := dispatches (.inr (.inr state))
    apply doConnected_steady
    · exact superviseConnection_keeps (I := Beside K p) _
        (fun s _ effects beside => beside_of_standby rfl effects beside)
        fun s _ effects beside => beside_of_standby rfl effects beside
    · exact fun s n kept => kept
    · exact fun s b kept => kept
  next =>
    exact gateway (doReconnectingSession_keeps
      (fun s effects beside => beside_of_standby rfl effects beside) _)
  next =>
    exact gateway (doRestart_keeps _ fun s n effects beside => beside_of_standby rfl effects beside)
  next state =>
    have : StableReturn (Beside K p) :=
      ⟨fun s effects beside => ⟨permits.resumes state s.returnState _ _ beside.1,beside.2⟩⟩
    exact gateway (doWaitingForIb_steady _)
  next state =>
    have := hitl_beside (p := p) (permits.waits state)
    exact gateway (doWaitingForHitl2fa_steady _)
  next => exact keeps_pure _
  next => exact keeps_pure _

end StateMachine

end Ibctl.Machine
