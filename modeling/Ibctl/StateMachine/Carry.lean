import Ibctl.StateMachine.Exits

/-! What an iteration carries over besides its handler: the prelude, the agent's events and
the interrupts leave what outlasts a state alone, but for the contradiction that an event
reports to a connected machine; the entry into the next state clears and counts. -/
namespace Ibctl.Machine
open Tasks Task Recovery

/-- What outlasts a state, with the entry into the present one. -/
def Session.carried (s : Session) : Lasting × Instant := (s.lasting,s.stateEnteredAt)

/-- The part of it that no event touches. -/
def Session.remembered (s : Session) : Option String × Nat × Nat × Instant :=
  (s.warmRestartPending,s.consecutiveJvmRestarts,s.reloginAttempts,s.stateEnteredAt)

/-- What the loop itself leaves alone between two handlers. -/
def Session.untold (s : Session) : Session :=
  { s with returnState := none, clientIdTask := false, socatRunning := false }

theorem carried_of_untold {s s' : Session} (same : s.untold = s'.untold) : s.carried = s'.carried := by
  have carried : s.untold.carried = s'.untold.carried := congrArg Session.carried same
  exact carried

theorem remembered_of_carried {s s' : Session} (same : s.carried = s'.carried) :
    s.remembered = s'.remembered :=
  congrArg (fun c : Lasting × Instant =>
    (c.1.warmRestartPending,c.1.consecutiveJvmRestarts,c.1.reloginAttempts,c.2)) same

theorem revocation_of_carried {s s' : Session} (same : s.carried = s'.carried) :
    s.revocation = s'.revocation :=
  congrArg (fun c : Lasting × Instant => c.1.revocation) same

theorem remembered_parts {s s' : Session} (same : s.remembered = s'.remembered) :
    s.warmRestartPending = s'.warmRestartPending ∧
      s.consecutiveJvmRestarts = s'.consecutiveJvmRestarts ∧
      s.reloginAttempts = s'.reloginAttempts ∧ s.stateEnteredAt = s'.stateEnteredAt := by
  simpa only [Session.remembered,Prod.mk.injEq] using same

theorem lasting_of_parts {s s' : Session} (remembered : s.remembered = s'.remembered)
    (revocation : s.revocation = s'.revocation) : s.lasting = s'.lasting := by
  obtain ⟨pending,restarts,attempts,-⟩ := remembered_parts remembered
  exact Lasting.ext revocation pending restarts attempts

/-- What the entry into a state makes of the lasting fields. -/
def Lasting.entering (source next : State) (l : Lasting) : Lasting where
  revocation := if source = .connected ∧ next ≠ .connected then .new else l.revocation
  warmRestartPending :=
    if next ∈ [.shutdown,.waitingForLaunch] then none else l.warmRestartPending
  consecutiveJvmRestarts := l.consecutiveJvmRestarts
  reloginAttempts :=
    if next = .connected ∧ source ≠ .connected then 0
    else if next = .reconnectingSession then l.reloginAttempts + 1
    else l.reloginAttempts

namespace StateMachine

variable {codec : MarkerCodec} {sm : StateMachine} {turn : Turn}

section Prelude

theorem recordTransition_session (source target : State) (at_ : Clocks) :
    (sm.recordTransition source target at_).session = sm.session := by
  unfold recordTransition
  split <;> rfl

theorem gates_session (sm : StateMachine) (now : Clocks) : (sm.gates now).session = sm.session := by
  have launched : sm.launchGate.session = sm.session := by
    unfold launchGate
    split <;> rfl
  unfold gates blockedGate
  split
  · rw [moveTo,recordTransition_session]
    exact launched
  · exact launched

theorem fireDwell_session (fires : Option Clocks) :
    (sm.fireDwell fires).session = sm.session := by
  unfold fireDwell
  split
  · split <;> rfl
  · rfl

theorem checks_untold (turn : Turn) : (sm.checks turn).session.untold = sm.session.untold := by
  have timed : ((sm.fireDwell turn.dwellFires).checkIbStatusTtl turn.now).session = sm.session := by
    refine Eq.trans ?_ (fireDwell_session turn.dwellFires)
    unfold checkIbStatusTtl
    split
    · rfl
    · split <;> rfl
  unfold checks
  rw [← timed]
  generalize (sm.fireDwell turn.dwellFires).checkIbStatusTtl turn.now = checked
  unfold checkIbSystemAvailability moveTo
  split
  · rfl
  · split
    · rfl
    · split
      · rfl
      · rw [recordTransition_session]
        rfl

theorem drainDwell_session (io : Nat → SaveIo) (n : Nat) (messages : List Clocks)
    (sm : StateMachine) : (drainDwell codec io n messages sm).session = sm.session := by
  induction messages generalizing n sm with
  | nil => rfl
  | cons dwell rest ih =>
    simp only [drainDwell]
    split
    · exact ih (n + 1) sm
    · split
      · exact ih (n + 1) _
      · exact ih (n + 1) _

theorem takeDwellSuccesses_session (turn : Turn) :
    (sm.takeDwellSuccesses codec turn).session = sm.session := by
  unfold takeDwellSuccesses
  split
  · exact drainDwell_session _ _ _ _
  · exact drainDwell_session _ _ _ _

theorem afterApply_untold (applied : AppliedAction) (turn : Turn) :
    (sm.afterApply applied turn).1.session.untold = sm.session.untold := by
  cases applied with
  | firedGiveUpAlert =>
    simp only [afterApply,giveUpHalt]
    split
    · rfl
    · rfl
    · rfl
    · rw [moveTo,recordTransition_session]
      rfl
  | resumedToAggressive =>
    simp only [afterApply]
    split
    · rw [moveTo,recordTransition_session]
    · rfl
  | _ => rfl

theorem tickRecovery_untold {ready : StateMachine} {effects : List LoopEffect}
    (ticked : sm.tickRecovery codec turn = some (ready,effects)) :
    ready.session.untold = sm.session.untold := by
  have drained := congrArg Session.untold (@takeDwellSuccesses_session codec sm turn)
  unfold tickRecovery at ticked
  simp only at ticked
  split at ticked
  · unfold driveRecovery at ticked
    split at ticked
    · cases ticked
    · simp only at ticked
      split at ticked
      · cases ticked
        exact drained
      next applied result =>
        cases ticked
        exact (afterApply_untold applied turn).trans drained
  · cases ticked
    exact drained

theorem prelude_untold {ready : StateMachine} {effects : List LoopEffect}
    (preluded : sm.prelude codec turn = some (ready,effects)) :
    ready.session.untold = sm.session.untold :=
  (tickRecovery_untold preluded).trans (checks_untold turn)

theorem prelude_carried {ready : StateMachine} {effects : List LoopEffect}
    (preluded : sm.prelude codec turn = some (ready,effects)) :
    ready.session.carried = sm.session.carried :=
  carried_of_untold (prelude_untold preluded)

end Prelude

section Interrupts

theorem handleAgentEvent_carried (event : AgentEvent) (at_ : Clocks) :
    (sm.handleAgentEvent event at_).1.session.remembered = sm.session.remembered ∧
      (sm.state ≠ .connected →
        (sm.handleAgentEvent event at_).1.session.revocation = sm.session.revocation) := by
  cases event with
  | errorDialog title message buttons =>
    simp only [handleAgentEvent,noteTwofaFailure]
    split
    · split <;> exact ⟨rfl,fun _ => rfl⟩
    · exact ⟨rfl,fun _ => rfl⟩
  | connectionStatusChanged fromStatus status =>
    simp only [handleAgentEvent,noteConnectionStatus]
    split
    · exact ⟨rfl,fun _ => rfl⟩
    next here =>
      have away : sm.state ≠ .connected → ∀ {P : Prop}, P := fun apart => absurd apart here
      split
      · exact ⟨rfl,fun apart => away apart⟩
      · split
        · exact ⟨rfl,fun apart => away apart⟩
        · exact ⟨rfl,fun _ => rfl⟩
  | _ => exact ⟨rfl,fun _ => rfl⟩

theorem handleAgentEvents_carried (at_ : Clocks) (events : List AgentEvent) (sm : StateMachine) :
    (handleAgentEvents at_ events sm).1.session.remembered = sm.session.remembered ∧
      (sm.state ≠ .connected →
        (handleAgentEvents at_ events sm).1.session.revocation = sm.session.revocation) := by
  induction events generalizing sm with
  | nil => exact ⟨rfl,fun _ => rfl⟩
  | cons event rest ih =>
    obtain ⟨first,revoked⟩ := @handleAgentEvent_carried sm event at_
    obtain ⟨later,revokedLater⟩ := ih (sm.handleAgentEvent event at_).1
    have state := state_of_standing (handleAgentEvent_standing sm event at_)
    exact ⟨later.trans first,fun apart => (revokedLater (state ▸ apart)).trans (revoked apart)⟩

theorem handleCommand_untold (command : Command) (turn : Turn) :
    (sm.handleCommand command turn).session.untold = sm.session.untold := by
  cases command with
  | pauseAt name =>
    simp only [handleCommand]
    split
    · rfl
    · split <;> rfl
  | setState name =>
    simp only [handleCommand]
    split
    · rfl
    · rw [moveTo,recordTransition_session]
  | hitlResume =>
    simp only [handleCommand]
    split
    · rw [moveTo,recordTransition_session]
    · rfl
  | resumeReconnect token =>
    simp only [handleCommand]
    split <;> rfl
  | _ => rfl

theorem handleInterrupt_untold {interrupt : Interrupt} (turn : Turn)
    (other : ∀ event, interrupt ≠ .agentEvent event) :
    (sm.handleInterrupt interrupt turn).1.session.untold = sm.session.untold := by
  cases interrupt with
  | signal signal => cases signal <;> rfl
  | command command =>
    cases command with
    | stop =>
      simp only [handleInterrupt,dispatchCommand]
      split
      · rfl
      · rw [moveTo,recordTransition_session]
        rfl
    | start =>
      simp only [handleInterrupt,dispatchCommand]
      split
      · rw [moveTo,recordTransition_session]
      · rfl
    | exit => rfl
    | restart => rfl
    | _ => exact handleCommand_untold _ turn
  | coldRestart signal =>
    cases signal with
    | fire =>
      simp only [handleInterrupt,handleColdRestart]
      split <;> rfl
    | skipped reason => rfl
  | agentEvent event => exact absurd rfl (other event)

theorem handleInterrupt_carried (interrupt : Interrupt) (turn : Turn) :
    (sm.handleInterrupt interrupt turn).1.session.remembered = sm.session.remembered ∧
      (sm.state ≠ .connected →
        (sm.handleInterrupt interrupt turn).1.session.revocation = sm.session.revocation) := by
  have both : (∀ event, interrupt ≠ .agentEvent event) →
      (sm.handleInterrupt interrupt turn).1.session.remembered = sm.session.remembered ∧
        (sm.state ≠ .connected →
          (sm.handleInterrupt interrupt turn).1.session.revocation = sm.session.revocation) := by
    intro other
    have carried := carried_of_untold (@handleInterrupt_untold sm interrupt turn other)
    exact ⟨remembered_of_carried carried,fun _ => revocation_of_carried carried⟩
  cases interrupt with
  | agentEvent event => exact handleAgentEvent_carried event turn.later
  | _ => exact both fun _ => nofun

end Interrupts

/-! No event and no interrupt touches what WaitingForIB returns to, the bookkeeping of a wait
for the operator, the note of an answered challenge, and the dwell timer. -/
section Back

def aside (sm : StateMachine) : Bool × Option State × HitlEpisode :=
  (sm.coldRestartEquivalentPending,sm.session.returnState,sm.session.hitl)

def dwell (sm : StateMachine) : Option DwellTimer × List Clocks := (sm.dwellGuard,sm.dwellQueue)

def reserve (sm : StateMachine) :
    (Bool × Option State × HitlEpisode) × Option DwellTimer × List Clocks := (sm.aside,sm.dwell)

theorem aside_of_reserve {other : StateMachine} (same : sm.reserve = other.reserve) :
    sm.aside = other.aside := congrArg Prod.fst same

theorem dwell_of_reserve {other : StateMachine} (same : sm.reserve = other.reserve) :
    sm.dwell = other.dwell := congrArg Prod.snd same

theorem returnState_of_aside {other : StateMachine} (same : sm.aside = other.aside) :
    sm.session.returnState = other.session.returnState := congrArg (fun aside => aside.2.1) same

theorem hitl_of_aside {other : StateMachine} (same : sm.aside = other.aside) :
    sm.session.hitl = other.session.hitl := congrArg (fun aside => aside.2.2) same

theorem pending_of_aside {other : StateMachine} (same : sm.aside = other.aside) :
    sm.coldRestartEquivalentPending = other.coldRestartEquivalentPending := congrArg Prod.fst same

theorem recordTransition_reserve (source target : State) (at_ : Clocks) :
    (sm.recordTransition source target at_).reserve = sm.reserve := by
  unfold recordTransition
  split <;> rfl

theorem moveTo_reserve (target : State) (at_ : Clocks) : (sm.moveTo target at_).reserve = sm.reserve :=
  recordTransition_reserve _ _ _

theorem gates_reserve (sm : StateMachine) (now : Clocks) : (sm.gates now).reserve = sm.reserve := by
  have launched : sm.launchGate.reserve = sm.reserve := by
    unfold launchGate
    split <;> rfl
  unfold gates blockedGate
  split
  · exact (moveTo_reserve _ _).trans launched
  · exact launched

theorem handleAgentEvent_reserve (event : AgentEvent) (at_ : Clocks) :
    (sm.handleAgentEvent event at_).1.reserve = sm.reserve := by
  cases event with
  | errorDialog title message buttons =>
    simp only [handleAgentEvent,noteTwofaFailure]
    split
    · split <;> rfl
    · rfl
  | connectionStatusChanged fromStatus status =>
    simp only [handleAgentEvent,noteConnectionStatus]
    split
    · rfl
    · split
      · rfl
      · split <;> rfl
  | _ => rfl

theorem handleAgentEvents_reserve (at_ : Clocks) (events : List AgentEvent) (sm : StateMachine) :
    (handleAgentEvents at_ events sm).1.reserve = sm.reserve := by
  induction events generalizing sm with
  | nil => rfl
  | cons event rest ih => exact (ih _).trans (handleAgentEvent_reserve event at_)

theorem handleCommand_reserve (command : Command) (turn : Turn) :
    (sm.handleCommand command turn).reserve = sm.reserve := by
  cases command with
  | pauseAt name =>
    simp only [handleCommand]
    split
    · rfl
    · split <;> rfl
  | setState name =>
    simp only [handleCommand]
    split
    · rfl
    · exact moveTo_reserve _ _
  | hitlResume =>
    simp only [handleCommand]
    split
    · exact moveTo_reserve _ _
    · rfl
  | resumeReconnect token =>
    simp only [handleCommand]
    split <;> rfl
  | _ => rfl

theorem handleInterrupt_reserve (interrupt : Interrupt) (turn : Turn) :
    (sm.handleInterrupt interrupt turn).1.reserve = sm.reserve := by
  cases interrupt with
  | signal signal => cases signal <;> rfl
  | command command =>
    cases command with
    | stop =>
      simp only [handleInterrupt,dispatchCommand]
      split
      · rfl
      · exact moveTo_reserve _ _
    | start =>
      simp only [handleInterrupt,dispatchCommand]
      split
      · exact moveTo_reserve _ _
      · rfl
    | exit => rfl
    | restart => rfl
    | _ => exact handleCommand_reserve _ turn
  | coldRestart signal =>
    cases signal with
    | fire =>
      simp only [handleInterrupt,handleColdRestart]
      split <;> rfl
    | skipped reason => rfl
  | agentEvent event => exact handleAgentEvent_reserve event turn.later

theorem moveTo_aside (target : State) (at_ : Clocks) : (sm.moveTo target at_).aside = sm.aside :=
  aside_of_reserve (moveTo_reserve target at_)

theorem handleInterrupt_aside (interrupt : Interrupt) (turn : Turn) :
    (sm.handleInterrupt interrupt turn).1.aside = sm.aside :=
  aside_of_reserve (handleInterrupt_reserve interrupt turn)

theorem handleAgentEvents_aside (at_ : Clocks) (events : List AgentEvent) (sm : StateMachine) :
    (handleAgentEvents at_ events sm).1.aside = sm.aside :=
  aside_of_reserve (handleAgentEvents_reserve at_ events sm)

end Back

section Transition

theorem freshFor_carried (next : State) (at_ : Clocks) (s : Session) :
    (freshFor next at_ s).carried =
      ({ s.lasting with
          warmRestartPending :=
            if next ∈ [.shutdown,.waitingForLaunch] then none else s.warmRestartPending
          reloginAttempts :=
            if next = .reconnectingSession then s.reloginAttempts + 1 else s.reloginAttempts },
        s.stateEnteredAt) := by
  unfold freshFor
  extract_lets selected forgotten entered
  have first : selected.carried = s.carried := by
    unfold selected
    split <;> rfl
  have second : forgotten.carried =
      ({ s.lasting with
          warmRestartPending :=
            if next ∈ [.shutdown,.waitingForLaunch] then none else s.warmRestartPending },
        s.stateEnteredAt) := by
    unfold forgotten
    split
    · exact congrArg (fun c : Lasting × Instant => ({ c.1 with warmRestartPending := none },c.2)) first
    · exact first
  have third : entered.carried =
      ({ forgotten.lasting with
          reloginAttempts :=
            if next = .reconnectingSession then forgotten.reloginAttempts + 1
            else forgotten.reloginAttempts },
        forgotten.stateEnteredAt) := by
    unfold entered
    cases next <;> rfl
  have last : (if next ∈ [State.dismissingPopups,.waitingFor2fa,.waitingForApiReady,.configuringApi,
      .connected] then { entered with observation := entered.observation.clearLoginButtons } else entered).carried =
        entered.carried := by
    split <;> rfl
  rw [last,third]
  exact congrArg (fun c : Lasting × Instant =>
    ({ c.1 with
        reloginAttempts :=
          if next = State.reconnectingSession then c.1.reloginAttempts + 1
          else c.1.reloginAttempts },c.2))
    second

theorem crossConnected_carried (next : State) (at_ : Clocks) :
    (sm.crossConnected next at_).1.session.carried =
      ({ sm.session.lasting with
          revocation :=
            if sm.state = .connected ∧ next ≠ .connected then .new else sm.session.lasting.revocation
          reloginAttempts :=
            if next = .connected ∧ sm.state ≠ .connected then 0
            else sm.session.lasting.reloginAttempts },
        sm.session.stateEnteredAt) := by
  unfold crossConnected
  split
  next enters => simp [enterConnected,startApiPortProbe,Session.carried,Session.lasting,enters]
  next stays =>
    split
    next leaves =>
      simp [leaveConnected,Session.carried,Session.lasting,leaves,RevocationTracker.clearAll,
        RevocationTracker.new]
    · split <;> rfl

theorem leaveHitl_carried (next : State) :
    (sm.leaveHitl next).session.carried = sm.session.carried := by
  unfold leaveHitl
  split <;> rfl

theorem noteTwofaAnswered_session (next : State) :
    (sm.noteTwofaAnswered next).session = sm.session := by
  unfold noteTwofaAnswered
  simp only
  split <;> rfl

theorem checkCeiling_session (next : State) : (sm.checkCeiling next).session = sm.session := by
  unfold checkCeiling
  split <;> rfl

/-- The machine about to cross into the next state: the pause and the history are served, the
instant of the entry and an answered challenge noted. -/
def readied (sm : StateMachine) (next : State) (at_ : Clocks) : StateMachine :=
  ({ (sm.checkCeiling next).recordTransition sm.state next at_ with
      session :=
        { ((sm.checkCeiling next).recordTransition sm.state next at_).session with
          stateEnteredAt := at_.mono, consecutiveAgentFailures := 0 } } : StateMachine).noteTwofaAnswered
    next

def crossed (sm : StateMachine) (next : State) (at_ : Clocks) : StateMachine :=
  ((sm.readied next at_).crossConnected next at_).1.leaveHitl next

theorem prepare_eq (next : State) (at_ : Clocks) :
    sm.prepare next at_ =
      ({ sm.crossed next at_ with
          session := freshFor next at_ (sm.crossed next at_).session
          coldRestartEquivalentPending :=
            if next = .launching then false else (sm.crossed next at_).coldRestartEquivalentPending },
        ((sm.readied next at_).crossConnected next at_).2) := rfl

theorem readied_standing (sm : StateMachine) (next : State) (at_ : Clocks) :
    (sm.readied next at_).standing = sm.standing :=
  (noteTwofaAnswered_standing _ next).trans
    ((recordTransition_standing _ sm.state next at_).trans (checkCeiling_standing sm next))

theorem readied_session (sm : StateMachine) (next : State) (at_ : Clocks) :
    (sm.readied next at_).session =
      { sm.session with stateEnteredAt := at_.mono, consecutiveAgentFailures := 0 } := by
  have recorded := congrArg
    (fun s : Session => { s with stateEnteredAt := at_.mono, consecutiveAgentFailures := 0 })
    ((recordTransition_session sm.state next at_).trans (@checkCeiling_session sm next))
  unfold readied
  rw [noteTwofaAnswered_session]
  exact recorded

/-- The entry into a state clears and counts, and notes its instant. -/
theorem applyTransition_carried (next : State) (turn : Turn) :
    (sm.applyTransition next turn).1.session.carried =
      (sm.session.lasting.entering sm.state next,turn.later.mono) := by
  have prepared : (sm.prepare next turn.later).1.session.carried =
      (sm.session.lasting.entering sm.state next,turn.later.mono) := by
    have session : (sm.readied next turn.later).session.carried = (sm.session.lasting,turn.later.mono) := by
      rw [readied_session]
      rfl
    have crossed := (leaveHitl_carried next).trans
      (@crossConnected_carried (sm.readied next turn.later) next turn.later)
    rw [state_of_standing (readied_standing sm next turn.later)] at crossed
    change (sm.crossed next turn.later).session.carried = _ at crossed
    rw [prepare_eq]
    refine (freshFor_carried next turn.later _).trans ?_
    generalize (sm.crossed next turn.later).session = left at crossed ⊢
    obtain ⟨lasting,entered⟩ := Prod.mk.inj crossed
    obtain ⟨began,here⟩ := Prod.mk.inj session
    rw [began] at lasting
    obtain ⟨revocation,pending,restarts,attempts⟩ := Lasting.ext_iff.mp lasting
    refine Prod.ext (Lasting.ext revocation ?_ restarts ?_) (entered.trans here)
    · change left.warmRestartPending = _ at pending
      simp only [Lasting.entering,pending]
    · change left.reloginAttempts = _ at attempts
      simp only [Lasting.entering,attempts]
      cases next <;> simp
  exact applyTransition_of_prepared (C := fun left => left.session.carried =
      (sm.session.lasting.entering sm.state next,turn.later.mono))
    (fun _ _ => id) (fun _ => id) prepared

end Transition

section Handlers

variable {schedule : Schedule Answers}

theorem gateway_keeps {J : Lasting → Prop} {task : Step State}
    (keeps : task.Keeps schedule (Steady J)) {s : Session} (before : J s.lasting) :
    J ((mapEffects ConnectedEffect.gateway task).start schedule s).state.lasting ∧
      ∀ effect ∈ ((mapEffects ConnectedEffect.gateway task).start schedule s).effects,
        effect.isLaunch = false := by
  have kept := keeps.start s ⟨before,by simp⟩
  rw [start_mapEffects]
  refine ⟨kept.1,fun effect member => ?_⟩
  obtain ⟨named,among,rfl⟩ := List.mem_map.mp member
  exact kept.2 named among

/-- The launch keeps the session, and starts the Gateway with the hash that is pending. -/
theorem doLaunch_start (s : Session) :
    doLaunch.start schedule s =
      match schedule.answers.launch 0 with
      | .ok () => ⟨.ok .waitingForAgent,s,[.launched s.warmRestartPending]⟩
      | .error reason => ⟨.error (.failed (.supervisor reason)),s,[]⟩ := by
  have unfolded : doLaunch schedule ⟨s,0,[]⟩ =
      match schedule.answers.launch 0 with
      | .ok () => (.ok .waitingForAgent,⟨s,1,[.launched s.warmRestartPending]⟩)
      | .error reason => (.error (.failed (.supervisor reason)),⟨s,1,[]⟩) := by
    unfold doLaunch
    simp only [bind_apply,current,ask]
    cases schedule.answers.launch 0 <;> rfl
  unfold Task.start
  rw [unfolded]
  cases schedule.answers.launch 0 <;> rfl

/-- A handler keeps what its own business with the lasting fields keeps, and starts the
Gateway in Launching only. -/
theorem transition_keeps {J : Lasting → Prop} (before : J sm.session.lasting)
    (away : sm.state ≠ .connected)
    (forgets : sm.state = .waitingForLogin → ∀ l, J l → J { l with warmRestartPending := none })
    (resets : sm.state = .reconnectingSession → ∀ l, J l → J { l with reloginAttempts := 0 })
    (counts : sm.state = .restarting → ∀ l n, J l → J { l with consecutiveJvmRestarts := n }) :
    J (sm.transition.start schedule sm.session).state.lasting ∧
      (sm.state ≠ .launching → ∀ effect ∈ (sm.transition.start schedule sm.session).effects,
        effect.isLaunch = false) := by
  have quiet : ∀ {task : Step State}, task.Keeps schedule (Steady J) →
      J ((mapEffects ConnectedEffect.gateway task).start schedule sm.session).state.lasting ∧
        (sm.state ≠ .launching → ∀ effect ∈
          ((mapEffects ConnectedEffect.gateway task).start schedule sm.session).effects,
            effect.isLaunch = false) :=
    fun keeps => ⟨(gateway_keeps keeps before).1,fun _ => (gateway_keeps keeps before).2⟩
  unfold transition
  split
  next => exact quiet doWaitingForLaunch_steady
  next => exact quiet (doInit_steady _)
  next state =>
    refine ⟨?_,fun apart => absurd state apart⟩
    rw [start_mapEffects,doLaunch_start]
    cases schedule.answers.launch 0 <;> exact before
  next => exact quiet doWaitForAgent_steady
  next state =>
    refine quiet ((doWaitForLogin_forgets sm.frame (forgets state)).mono (fun _ _ kept => kept) ?_
      fun _ _ kept => kept)
    exact fun _ _ _ left => left.1
  next => exact quiet doAuthenticate_steady
  next => exact quiet (doWaitFor2fa_steady _)
  next => exact quiet doHandleSessionConflict_steady
  next => exact quiet doDismissPopups_steady
  next => exact quiet (doWaitForApiReady_steady _)
  next => exact quiet doConfigureApi_steady
  next state => exact absurd state away
  next state =>
    have resetting : ∀ s effects, Steady J s effects → Steady J { s with reloginAttempts := 0 } effects :=
      fun s _ steady => ⟨resets state s.lasting steady.1,steady.2⟩
    exact quiet (doReconnectingSession_keeps resetting _)
  next state =>
    have counting : ∀ s n effects, Steady J s effects →
        Steady J { s with consecutiveJvmRestarts := n } effects :=
      fun s n _ steady => ⟨counts state s.lasting n steady.1,steady.2⟩
    exact quiet (doRestart_keeps _ counting)
  next => exact quiet (doWaitingForIb_steady _)
  next => exact quiet (doWaitingForHitl2fa_steady _)
  next => exact ⟨before,fun _ effect member => absurd member List.not_mem_nil⟩
  next => exact ⟨before,fun _ effect member => absurd member List.not_mem_nil⟩

/-- The select keeps what the handler it may poll keeps. -/
theorem select_keeps {J : Lasting → Prop} (before : J sm.session.lasting)
    (away : sm.state ≠ .connected)
    (forgets : sm.state = .waitingForLogin → ∀ l, J l → J { l with warmRestartPending := none })
    (resets : sm.state = .reconnectingSession → ∀ l, J l → J { l with reloginAttempts := 0 })
    (counts : sm.state = .restarting → ∀ l n, J l → J { l with consecutiveJvmRestarts := n }) :
    J (sm.select turn).2.1.session.lasting := by
  have kept := fun schedule => (@transition_keeps sm schedule J before away forgets resets counts).1
  unfold select runHandler
  split
  · simp only
    split <;> exact kept _
  · split <;> exact before

end Handlers

section Settling

/-- The events that arrived meanwhile and the outcome are all that follows the select. -/
theorem afterPrelude_machine (sm : StateMachine) (turn : Turn) :
    ∃ drained : StateMachine, (sm.afterPrelude turn).process = (drained.settle (sm.select turn).1 turn).process ∧
      drained.standing = sm.standing ∧
      drained.session.remembered = (sm.select turn).2.1.session.remembered ∧
      drained.session.returnState = (sm.select turn).2.1.session.returnState ∧
      (sm.state ≠ .connected →
        drained.session.lasting = (sm.select turn).2.1.session.lasting) := by
  have selected := select_standing sm turn
  have fired := fireDwell_standing (sm.select turn).2.1 turn.dwellFiresLater
  have session := @fireDwell_session (sm.select turn).2.1 turn.dwellFiresLater
  have drained := handleAgentEvents_carried turn.later (turn.pendingEvents sm.state)
    ((sm.select turn).2.1.fireDwell turn.dwellFiresLater)
  have stands := handleAgentEvents_standing
    ((sm.select turn).2.1.fireDwell turn.dwellFiresLater) turn.later (turn.pendingEvents sm.state)
  have back := (returnState_of_aside (handleAgentEvents_aside turn.later
    (turn.pendingEvents sm.state) ((sm.select turn).2.1.fireDwell turn.dwellFiresLater))).trans
      (congrArg Session.returnState session)
  rw [state_of_standing (fired.trans selected),session] at drained
  exact ⟨_,rfl,stands.trans (fired.trans selected),drained.1,back,
    fun away => lasting_of_parts drained.1 (drained.2 away)⟩

theorem settle_interrupted (interrupt : Interrupt) :
    (sm.settle (.interrupted interrupt) turn).process.machine.state =
        (sm.handleInterrupt interrupt turn).1.state ∧
      (sm.settle (.interrupted interrupt) turn).process.machine.session.carried =
        (sm.handleInterrupt interrupt turn).1.session.carried := by
  simp only [settle]
  split
  · exact ⟨rfl,rfl⟩
  · exact ⟨rfl,rfl⟩

theorem settle_interrupted_lasting (interrupt : Interrupt) (away : sm.state ≠ .connected) :
    (sm.settle (.interrupted interrupt) turn).process.machine.session.lasting =
      sm.session.lasting := by
  obtain ⟨remembered,revocation⟩ := @handleInterrupt_carried sm interrupt turn
  exact (congrArg Prod.fst (@settle_interrupted sm turn interrupt).2).trans
    (lasting_of_parts remembered (revocation away))

theorem settle_transitioned (next : State) :
    (sm.settle (.transitioned (.ok next)) turn).process.machine =
      if next ≠ sm.state then (sm.applyTransition next turn).1 else sm := by
  simp only [settle]
  split
  · rfl
  · rfl

end Settling

end StateMachine

/-- An iteration that leaves the machine where its handler ran leaves it with what the handler
made of the lasting fields. -/
theorem Process.step_stays {p : Process} {codec : MarkerCodec} {t : Turn} {ready : StateMachine}
    {effects : List LoopEffect} (running : p.status = .running)
    (preluded : p.machine.prelude codec t = some (ready,effects)) (away : ready.state ≠ .connected)
    (stays : (p.step codec t).machine.state = ready.state) :
    (p.step codec t).machine.session.lasting = (ready.select t).2.1.session.lasting := by
  obtain ⟨drained,settled,standing,-,-,lasting⟩ := StateMachine.afterPrelude_machine ready t
  have there := StateMachine.state_of_standing standing
  rw [step,turn_of_prelude running preluded] at stays ⊢
  simp only [settled] at stays ⊢
  rw [← lasting away]
  generalize (ready.select t).1 = outcome at stays ⊢
  cases outcome with
  | interrupted interrupt =>
    exact StateMachine.settle_interrupted_lasting interrupt (there ▸ away)
  | transitioned result =>
    cases result with
    | error error => rfl
    | ok next =>
      rw [StateMachine.settle_transitioned] at stays ⊢
      split
      next moves =>
        rw [if_pos moves,(StateMachine.applyTransition_moves next t).1] at stays
        have entered := congrArg Prod.fst (@StateMachine.applyTransition_carried drained next t)
        refine entered.trans ?_
        -- Of the states entered only an error ends elsewhere, and it clears nothing.
        cases next with
        | error message => simp [Lasting.entering,there,away]
        | _ => exact absurd (stays.trans there.symm) moves
      · rfl

end Ibctl.Machine
