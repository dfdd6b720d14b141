import Ibctl.StateMachine.Loop

/-! What the parts of an iteration can do to the state, the coordinator and the clock of the
connection. Each part is inverted once here; the results about runs are read off these
lemmas. -/
namespace Ibctl.Machine
open Tasks Recovery

def Interrupt.Moves (source target : State) : Interrupt → Prop
  | .signal .terminate => target = .shutdown
  | .signal .interrupt => target = .shutdown
  | .command .stop => target = .waitingForLaunch
  | .command .exit => target = .shutdown
  | .command .start => source = .waitingForLaunch ∧ target = .init
  | .command .restart => target = .restarting
  | .command (.setState name) => State.fromName name = some target
  | .command .hitlResume => source = .waitingForHitl2fa ∧ target = .restarting
  | .coldRestart .fire => StateMachine.coldRestartDormant source = false ∧ target = .restarting
  | _ => False

theorem Turn.interrupt_of_selectable (turn : Turn) {state : State} {interrupt : Interrupt}
    (selectable : turn.selectable state = some interrupt) : turn.interrupt = some interrupt := by
  unfold Turn.selectable at selectable
  split at selectable
  · split at selectable
    · cases selectable
    · cases selectable
      assumption
  · exact selectable

namespace StateMachine

section Frames

variable (sm : StateMachine)

/-- The coordinator, the configuration and the clock of the connection. -/
def core : RecoveryCoordinator × Config × Option Instant :=
  (sm.recovery,sm.config,sm.connectedContinuouslySince)

/-- What neither the history, the session nor the agent's events touch. -/
def standing : State × Option ResumeToken × RecoveryCoordinator × Config × Option Instant :=
  (sm.state,sm.pendingResumeToken,sm.core)

@[simp] theorem recordTransition_standing (source target : State) (at_ : Clocks) :
    (sm.recordTransition source target at_).standing = sm.standing := by
  unfold recordTransition
  split <;> rfl

@[simp] theorem moveTo_state (target : State) (at_ : Clocks) :
    (sm.moveTo target at_).state = target :=
  congrArg (fun standing => standing.1) (recordTransition_standing _ sm.state target at_)

@[simp] theorem moveTo_core (target : State) (at_ : Clocks) :
    (sm.moveTo target at_).core = sm.core :=
  congrArg (fun standing => standing.2.2) (recordTransition_standing _ sm.state target at_)

@[simp] theorem fireDwell_standing (fires : Option Clocks) :
    (sm.fireDwell fires).standing = sm.standing := by
  unfold fireDwell
  split
  · split <;> rfl
  · rfl

@[simp] theorem handleAgentEvent_standing (event : AgentEvent) (at_ : Clocks) :
    (sm.handleAgentEvent event at_).1.standing = sm.standing := by
  cases event with
  | errorDialog title message buttons =>
    simp only [handleAgentEvent,noteTwofaFailure]
    split
    · split <;> rfl
    · rfl
  | connectionStatusChanged fromStatus toStatus =>
    simp only [handleAgentEvent,noteConnectionStatus]
    split
    · rfl
    · split
      · rfl
      · split <;> rfl
  | _ => rfl

@[simp] theorem handleAgentEvents_standing (at_ : Clocks) (events : List AgentEvent) :
    (handleAgentEvents at_ events sm).1.standing = sm.standing := by
  induction events generalizing sm with
  | nil => rfl
  | cons event rest ih =>
    simp only [handleAgentEvents]
    rw [ih]
    exact handleAgentEvent_standing sm event at_

theorem checkIbStatusTtl_standing (now : Clocks) :
    (sm.checkIbStatusTtl now).standing = sm.standing := by
  unfold checkIbStatusTtl
  split
  · rfl
  · split <;> rfl

theorem select_standing (turn : Turn) : (sm.select turn).2.1.standing = sm.standing := by
  unfold select
  split
  · simp only
    split <;> rfl
  · split <;> rfl

end Frames

variable {codec : MarkerCodec} {sm : StateMachine} {turn : Turn}

theorem state_of_standing {other : StateMachine} (same : sm.standing = other.standing) :
    sm.state = other.state := congrArg (fun standing => standing.1) same

theorem core_of_standing {other : StateMachine} (same : sm.standing = other.standing) :
    sm.core = other.core := congrArg (fun standing => standing.2.2) same

theorem recovery_of_core {other : StateMachine} (same : sm.core = other.core) :
    sm.recovery = other.recovery := congrArg Prod.fst same

theorem config_of_core {other : StateMachine} (same : sm.core = other.core) :
    sm.config = other.config := congrArg (fun core => core.2.1) same

theorem clock_of_core {other : StateMachine} (same : sm.core = other.core) :
    sm.connectedContinuouslySince = other.connectedContinuouslySince :=
  congrArg (fun core => core.2.2) same

theorem gates_moves (now : Clocks) :
    (sm.gates now).core = sm.core ∧
      ((sm.gates now).state = sm.state ∨ (sm.gates now).state = .waitingForLaunch) := by
  have launched : sm.launchGate.core = sm.core ∧
      (sm.launchGate.state = sm.state ∨ sm.launchGate.state = .waitingForLaunch) := by
    unfold launchGate
    split
    · exact ⟨rfl,.inr rfl⟩
    · exact ⟨rfl,.inl rfl⟩
  unfold gates blockedGate
  split
  · exact ⟨(moveTo_core _ _ _).trans launched.1,.inr (moveTo_state _ _ _)⟩
  · exact launched

section Prelude

theorem checks_moves (turn : Turn) :
    (sm.checks turn).core = sm.core ∧
      ((sm.checks turn).standing = sm.standing ∨
        (sm.state ∉ [.waitingForIB,.shutdown,.waitingForLaunch] ∧
          (sm.checks turn).state = .waitingForIB)) := by
  have before := (checkIbStatusTtl_standing (sm.fireDwell turn.dwellFires) turn.now).trans
    (fireDwell_standing sm turn.dwellFires)
  unfold checks checkIbSystemAvailability
  split
  · exact ⟨core_of_standing before,.inl before⟩
  · split
    · exact ⟨core_of_standing before,.inl before⟩
    next active =>
      split
      · exact ⟨core_of_standing before,.inl before⟩
      · rw [state_of_standing before] at active
        rw [moveTo_core,moveTo_state]
        exact ⟨core_of_standing before,.inr ⟨active,rfl⟩⟩

theorem drainDwell_rest (io : Nat → SaveIo) (n : Nat) (messages : List Clocks)
    (sm : StateMachine) :
    (drainDwell codec io n messages sm).state = sm.state ∧
      (drainDwell codec io n messages sm).connectedContinuouslySince =
        sm.connectedContinuouslySince ∧
      (drainDwell codec io n messages sm).config = sm.config := by
  induction messages generalizing n sm with
  | nil => exact ⟨rfl,rfl,rfl⟩
  | cons dwell rest ih =>
    simp only [drainDwell]
    split
    · exact ih (n + 1) sm
    · split
      · exact ih (n + 1) _
      · exact ih (n + 1) _

theorem drainDwell_dormant (io : Nat → SaveIo) (n : Nat) (messages : List Clocks)
    (dormant : sm.state ≠ .connected) :
    (drainDwell codec io n messages sm).standing = sm.standing := by
  induction messages generalizing n with
  | nil => rfl
  | cons dwell rest ih =>
    simp only [drainDwell,dormant,ne_eq,not_false_eq_true,if_true]
    exact ih (n + 1)

theorem takeDwellSuccesses_rest (turn : Turn) :
    (sm.takeDwellSuccesses codec turn).state = sm.state ∧
      (sm.takeDwellSuccesses codec turn).connectedContinuouslySince =
        sm.connectedContinuouslySince ∧
      (sm.takeDwellSuccesses codec turn).config = sm.config := by
  unfold takeDwellSuccesses
  split
  · exact drainDwell_rest _ _ _ _
  · exact drainDwell_rest _ _ _ _

theorem takeDwellSuccesses_dormant (turn : Turn) (dormant : sm.state ≠ .connected) :
    (sm.takeDwellSuccesses codec turn).standing = sm.standing := by
  simp only [takeDwellSuccesses,dormant,ne_eq,not_false_eq_true,if_true]
  exact drainDwell_dormant _ _ _ dormant

/-- What the machine does about an applied action leaves the core alone and moves it, if at
all, into the park or out of it. -/
theorem afterApply_moves (applied : AppliedAction) (turn : Turn) :
    (sm.afterApply applied turn).1.core = sm.core ∧
      ((sm.afterApply applied turn).1.state = sm.state ∨
        (sm.afterApply applied turn).1.state = .waitingForLaunch ∨
        (sm.state = .waitingForLaunch ∧ (sm.afterApply applied turn).1.state = .init)) := by
  cases applied with
  | firedGiveUpAlert =>
    simp only [afterApply,giveUpHalt]
    split
    · exact ⟨rfl,.inl rfl⟩
    · exact ⟨rfl,.inl rfl⟩
    · exact ⟨rfl,.inl rfl⟩
    · exact ⟨moveTo_core _ _ _,.inr (.inl (moveTo_state _ _ _))⟩
  | resumedToAggressive =>
    simp only [afterApply]
    split
    next parked => exact ⟨moveTo_core _ _ _,.inr (.inr ⟨parked,moveTo_state _ _ _⟩)⟩
    · exact ⟨rfl,.inl rfl⟩
  | _ => exact ⟨rfl,.inl rfl⟩

/-- The tick keeps the connection's clock and moves the machine into the park only. -/
theorem tickRecovery_moves {ready : StateMachine} {effects : List LoopEffect}
    (ticked : sm.tickRecovery codec turn = some (ready,effects)) :
    ready.connectedContinuouslySince = sm.connectedContinuouslySince ∧
      (ready.state = sm.state ∨ ready.state = .waitingForLaunch) := by
  obtain ⟨state,clock,-⟩ := @takeDwellSuccesses_rest codec sm turn
  unfold tickRecovery at ticked
  simp only at ticked
  split at ticked
  next active =>
    unfold driveRecovery at ticked
    split at ticked
    · cases ticked
    · simp only at ticked
      split at ticked
      · cases ticked
        exact ⟨clock,.inl state⟩
      next applied result =>
        cases ticked
        obtain ⟨core,same | parks | ⟨parked,-⟩⟩ := @afterApply_moves
          { sm.takeDwellSuccesses codec turn with
            pendingResumeToken := none
            recovery := _
            files := _ } applied turn
        · exact ⟨(clock_of_core core).trans clock,.inl (same.trans state)⟩
        · exact ⟨(clock_of_core core).trans clock,.inr parks⟩
        · rw [show (sm.takeDwellSuccesses codec turn).state = .waitingForLaunch from parked] at active
          exact absurd active (by decide)
  · cases ticked
    exact ⟨clock,.inl state⟩

/-- The prelude keeps the connection's clock and never moves the machine into Connected. -/
theorem prelude_moves {ready : StateMachine} {effects : List LoopEffect}
    (preluded : sm.prelude codec turn = some (ready,effects)) :
    ready.connectedContinuouslySince = sm.connectedContinuouslySince ∧
      (ready.state = sm.state ∨ ready.state = .waitingForIB ∨ ready.state = .waitingForLaunch) := by
  obtain ⟨core,checked⟩ := @checks_moves sm turn
  obtain ⟨clock,ticked⟩ := tickRecovery_moves preluded
  refine ⟨clock.trans (clock_of_core core),?_⟩
  rcases ticked with same | parks
  · rcases checked with kept | ⟨-,waits⟩
    · exact .inl (same.trans (state_of_standing kept))
    · exact .inr (.inl (same.trans waits))
  · exact .inr (.inr parks)

/-- Elsewhere than in the park or the wait for IB the machine was before its prelude already. -/
theorem state_of_prelude {ready : StateMachine} {effects : List LoopEffect}
    (preluded : sm.prelude codec turn = some (ready,effects)) (waits : ready.state ≠ .waitingForIB)
    (parks : ready.state ≠ .waitingForLaunch) : sm.state = ready.state := by
  rcases (prelude_moves preluded).2 with same | there | there
  · exact same.symm
  · exact absurd there waits
  · exact absurd there parks

theorem prelude_config {ready : StateMachine} {effects : List LoopEffect}
    (preluded : sm.prelude codec turn = some (ready,effects)) : ready.config = sm.config := by
  have checked := config_of_core (@checks_moves sm turn).1
  have drained := (@takeDwellSuccesses_rest codec (sm.checks turn) turn).2.2.trans checked
  unfold prelude tickRecovery at preluded
  simp only at preluded
  split at preluded
  · unfold driveRecovery at preluded
    split at preluded
    · cases preluded
    · simp only at preluded
      split at preluded
      · cases preluded
        exact drained
      next applied result =>
        cases preluded
        exact (config_of_core (@afterApply_moves _ applied turn).1).trans drained
  · cases preluded
    exact drained

end Prelude

section AfterPrelude

theorem handleCommand_moves (command : Command) (turn : Turn) :
    (sm.handleCommand command turn).core = sm.core ∧
      ((sm.handleCommand command turn).state = sm.state ∨
        (Interrupt.command command).Moves sm.state (sm.handleCommand command turn).state) := by
  cases command with
  | pauseAt name =>
    simp only [handleCommand]
    split
    · exact ⟨rfl,.inl rfl⟩
    · split <;> exact ⟨rfl,.inl rfl⟩
  | setState name =>
    simp only [handleCommand]
    split
    · exact ⟨rfl,.inl rfl⟩
    next target named =>
      rw [moveTo_state]
      exact ⟨moveTo_core _ _ _,.inr named⟩
  | hitlResume =>
    simp only [handleCommand]
    split
    next waits =>
      rw [moveTo_state]
      exact ⟨moveTo_core _ _ _,.inr ⟨waits,rfl⟩⟩
    · exact ⟨rfl,.inl rfl⟩
  | resumeReconnect token =>
    simp only [handleCommand]
    split <;> exact ⟨rfl,.inl rfl⟩
  | _ => exact ⟨rfl,.inl rfl⟩

theorem handleInterrupt_moves (interrupt : Interrupt) (turn : Turn) :
    (sm.handleInterrupt interrupt turn).1.core = sm.core ∧
      ((sm.handleInterrupt interrupt turn).1.state = sm.state ∨
        interrupt.Moves sm.state (sm.handleInterrupt interrupt turn).1.state) := by
  cases interrupt with
  | signal signal =>
    cases signal with
    | terminate => exact ⟨rfl,.inr rfl⟩
    | interrupt => exact ⟨rfl,.inr rfl⟩
    | recoveryGaveUp mode entered => exact ⟨rfl,.inl rfl⟩
  | command command =>
    cases command with
    | stop =>
      simp only [handleInterrupt,dispatchCommand]
      split
      · exact ⟨rfl,.inl rfl⟩
      · exact ⟨moveTo_core _ _ _,.inr (moveTo_state _ _ _)⟩
    | start =>
      simp only [handleInterrupt,dispatchCommand]
      split
      next parked => exact ⟨moveTo_core _ _ _,.inr ⟨parked,moveTo_state _ _ _⟩⟩
      · exact ⟨rfl,.inl rfl⟩
    | exit => exact ⟨rfl,.inr rfl⟩
    | restart => exact ⟨rfl,.inr rfl⟩
    | _ => exact handleCommand_moves _ turn
  | coldRestart signal =>
    cases signal with
    | fire =>
      simp only [handleInterrupt,handleColdRestart]
      split
      · exact ⟨rfl,.inl rfl⟩
      next active => exact ⟨rfl,.inr ⟨by simpa using active,rfl⟩⟩
    | skipped reason => exact ⟨rfl,.inl rfl⟩
  | agentEvent event =>
    have same := handleAgentEvent_standing sm event turn.later
    exact ⟨core_of_standing same,.inl (state_of_standing same)⟩

variable (sm) in
@[simp] theorem checkCeiling_standing (next : State) :
    (sm.checkCeiling next).standing = sm.standing := by
  unfold checkCeiling
  split <;> rfl

variable (sm) in
@[simp] theorem noteTwofaAnswered_standing (next : State) :
    (sm.noteTwofaAnswered next).standing = sm.standing := by
  unfold noteTwofaAnswered
  simp only
  split <;> rfl

variable (sm) in
@[simp] theorem leaveHitl_standing (next : State) :
    (sm.leaveHitl next).standing = sm.standing := by
  unfold leaveHitl
  split <;> rfl

theorem crossConnected_core (next : State) (at_ : Clocks) :
    (sm.crossConnected next at_).1.recovery = sm.recovery ∧
      (sm.crossConnected next at_).1.config = sm.config ∧
      (next = .connected → sm.state ≠ .connected →
        (sm.crossConnected next at_).1.connectedContinuouslySince = some at_.mono) := by
  unfold crossConnected
  split
  · exact ⟨rfl,rfl,fun _ _ => rfl⟩
  next stays =>
    refine ⟨?_,?_,fun enters apart => absurd ⟨enters,apart⟩ stays⟩
    · split
      · rfl
      · split <;> rfl
    · split
      · rfl
      · split <;> rfl

/-- After its preparation a transition only places the machine, and ends what a shutdown ends. -/
theorem applyTransition_of_prepared {C : StateMachine → Prop} {next : State} {turn : Turn}
    (placed : ∀ (sm : StateMachine) (state : State), C sm → C { sm with state := state })
    (ended : ∀ sm : StateMachine, C sm → C sm.abortClientIdTask.stopSocat)
    (prepared : C (sm.prepare next turn.later).1) : C (sm.applyTransition next turn).1 := by
  unfold applyTransition
  generalize sm.prepare next turn.later = left at prepared ⊢
  cases next with
  | shutdown => exact placed _ _ (ended _ prepared)
  | _ => exact placed _ _ prepared

theorem applyTransition_moves (next : State) (turn : Turn) :
    (sm.applyTransition next turn).1.state = settled next ∧
      (sm.applyTransition next turn).1.recovery = sm.recovery ∧
      (sm.applyTransition next turn).1.config = sm.config ∧
      (next = .connected → sm.state ≠ .connected →
        (sm.applyTransition next turn).1.connectedContinuouslySince = some turn.later.mono) := by
  -- The bookkeeping before the crossing leaves the standing fields alone, and so does the rest.
  have prepared : (sm.prepare next turn.later).1.recovery = sm.recovery ∧
      (sm.prepare next turn.later).1.config = sm.config ∧
      (next = .connected → sm.state ≠ .connected →
        (sm.prepare next turn.later).1.connectedContinuouslySince = some turn.later.mono) := by
    unfold prepare
    simp only
    generalize noted : noteTwofaAnswered _ next = before
    have same : before.standing = sm.standing := by
      rw [← noted,noteTwofaAnswered_standing]
      exact (recordTransition_standing _ sm.state next turn.later).trans
        (checkCeiling_standing sm next)
    obtain ⟨recovery,config,clock⟩ := @crossConnected_core before next turn.later
    have left := core_of_standing
      (leaveHitl_standing (before.crossConnected next turn.later).1 next)
    have core := core_of_standing same
    refine ⟨?_,?_,fun enters apart => ?_⟩
    · exact (recovery_of_core left).trans (recovery.trans (recovery_of_core core))
    · exact (config_of_core left).trans (config.trans (config_of_core core))
    · exact (clock_of_core left).trans (clock enters (state_of_standing same ▸ apart))
  refine ⟨by cases next <;> rfl,?_⟩
  exact applyTransition_of_prepared (C := fun left => left.recovery = sm.recovery ∧
      left.config = sm.config ∧ (next = .connected → sm.state ≠ .connected →
        left.connectedContinuouslySince = some turn.later.mono))
    (fun _ _ => id) (fun _ => id) prepared

/-- What the part of an iteration after the prelude can do: it keeps the coordinator, and the
machine was moved by a dispatched interrupt, if by anything, or by a transition. -/
def Moved (before after : StateMachine) (dispatched : Interrupt → Prop) (at_ : Instant) : Prop :=
  after.recovery = before.recovery ∧ after.config = before.config ∧
    ((after.connectedContinuouslySince = before.connectedContinuouslySince ∧
        (after.state = before.state ∨
          ∃ interrupt, dispatched interrupt ∧ interrupt.Moves before.state after.state)) ∨
      ∃ next, next ≠ before.state ∧ after.state = settled next ∧
        (next = .connected → after.connectedContinuouslySince = some at_))

theorem settle_moves (outcome : SelectOutcome) (turn : Turn) :
    Moved sm (sm.settle outcome turn).process.machine
      (fun interrupt => outcome = .interrupted interrupt) turn.later.mono := by
  cases outcome with
  | interrupted interrupt =>
    obtain ⟨core,moved⟩ := @handleInterrupt_moves sm interrupt turn
    have kept : Moved sm (sm.handleInterrupt interrupt turn).1
        (fun other => SelectOutcome.interrupted interrupt = .interrupted other) turn.later.mono :=
      ⟨recovery_of_core core,config_of_core core,
        .inl ⟨clock_of_core core,moved.imp id fun moves => ⟨interrupt,rfl,moves⟩⟩⟩
    simp only [settle]
    split
    · exact kept
    · exact kept
  | transitioned result =>
    cases result with
    | error error => exact ⟨rfl,rfl,.inl ⟨rfl,.inl rfl⟩⟩
    | ok next =>
      obtain ⟨state,recovery,config,clock⟩ := @applyTransition_moves sm next turn
      simp only [settle]
      split
      next moves =>
        refine ⟨recovery,config,.inr ⟨next,moves,state,fun enters => clock enters ?_⟩⟩
        rw [← enters]
        exact moves.symm
      · exact ⟨rfl,rfl,.inl ⟨rfl,.inl rfl⟩⟩

theorem select_interrupt {interrupt : Interrupt}
    (taken : (sm.select turn).1 = .interrupted interrupt) : turn.interrupt = some interrupt := by
  refine @Turn.interrupt_of_selectable turn sm.state interrupt ?_
  unfold select at taken
  split at taken
  · simp only at taken
    split at taken
    · cases taken
    · cases taken
    · cases taken
      assumption
    · cases taken
  · split at taken
    · cases taken
      assumption
    · cases taken

theorem afterPrelude_moves (sm : StateMachine) (turn : Turn) :
    Moved sm (sm.afterPrelude turn).process.machine
      (fun interrupt => turn.interrupt = some interrupt) turn.later.mono := by
  unfold afterPrelude
  simp only
  generalize events : handleAgentEvents turn.later _ _ = drained
  have same : drained.1.standing = sm.standing := by
    rw [← events,handleAgentEvents_standing,fireDwell_standing]
    exact select_standing sm turn
  have core := core_of_standing same
  obtain ⟨recovery,config,moved⟩ := @settle_moves drained.1 (sm.select turn).1 turn
  rw [state_of_standing same,clock_of_core core] at moved
  refine ⟨recovery.trans (recovery_of_core core),config.trans (config_of_core core),?_⟩
  rcases moved with ⟨clock,stays | ⟨interrupt,taken,moves⟩⟩ | transition
  · exact .inl ⟨clock,.inl stays⟩
  · exact .inl ⟨clock,.inr ⟨interrupt,select_interrupt taken,moves⟩⟩
  · exact .inr transition

end AfterPrelude

end StateMachine

namespace Process

variable {codec : MarkerCodec} {p : Process} {t : Turn}

theorem turn_of_prelude {ready : StateMachine} {effects : List LoopEffect}
    (running : p.status = .running) (preluded : p.machine.prelude codec t = some (ready,effects)) :
    p.turn codec t =
      ⟨(ready.afterPrelude t).process,effects ++ (ready.afterPrelude t).effects⟩ := by
  simp only [turn,running,StateMachine.iterate,preluded]

/-- A turn without a prelude does nothing but end a process whose decision panics. -/
theorem turn_of_stopped (stopped : ∀ ready effects, p.status = .running →
      p.machine.prelude codec t ≠ some (ready,effects)) :
    (p.turn codec t).process.machine = p.machine ∧ (p.turn codec t).effects = [] := by
  unfold turn
  split
  next running =>
    unfold StateMachine.iterate
    split
    · exact ⟨rfl,rfl⟩
    next ready effects preluded => exact absurd preluded (stopped ready effects running)
  · exact ⟨rfl,rfl⟩

theorem step_config : (p.step codec t).machine.config = p.machine.config := by
  by_cases stopped : ∀ ready effects, p.status = .running →
      p.machine.prelude codec t ≠ some (ready,effects)
  · rw [step,(turn_of_stopped stopped).1]
  · simp only [not_forall,not_not] at stopped
    obtain ⟨ready,effects,running,preluded⟩ := stopped
    rw [step,turn_of_prelude running preluded]
    exact (StateMachine.afterPrelude_moves ready t).2.1.trans (StateMachine.prelude_config preluded)

end Process

end Ibctl.Machine
