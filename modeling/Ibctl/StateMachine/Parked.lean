import Ibctl.StateMachine.Moves

/-! The park: what an iteration can do to a machine in WaitingForLaunch. The prelude leaves
it alone, its handler only sleeps, and of the interrupts a handful of commands and signals
move it on; the coordinator is not consulted at all. -/
namespace Ibctl.Machine
open Tasks Recovery

namespace StateMachine

variable {codec : MarkerCodec} {sm : StateMachine}

/-- The tick of a state it takes for dormant consults nobody. -/
theorem tickRecovery_dormant (turn : Turn) (dormant : sm.state.activeRecovery = false) :
    ∃ ticked, sm.tickRecovery codec turn = some (ticked,[]) ∧ ticked.standing = sm.standing := by
  have unconnected : sm.state ≠ .connected := by
    intro connected
    rw [connected] at dormant
    exact absurd dormant (by decide)
  have drained := @takeDwellSuccesses_dormant codec _ turn unconnected
  refine ⟨_,?_,drained⟩
  simp [tickRecovery,state_of_standing drained,dormant]

theorem checks_parked (turn : Turn) (parked : sm.state = .waitingForLaunch) :
    (sm.checks turn).standing = sm.standing := by
  obtain ⟨-,kept | ⟨active,-⟩⟩ := @checks_moves sm turn
  · exact kept
  · rw [parked] at active
    exact absurd active (by decide)

theorem prelude_parked (turn : Turn) (parked : sm.state = .waitingForLaunch) :
    ∃ ready, sm.prelude codec turn = some (ready,[]) ∧ ready.standing = sm.standing := by
  have checked := checks_parked turn parked
  have dormant : (sm.checks turn).state.activeRecovery = false := by
    rw [state_of_standing checked,parked]; decide
  obtain ⟨ready,ticked,same⟩ := @tickRecovery_dormant codec _ turn dormant
  exact ⟨ready,ticked,same.trans checked⟩

/-- The handler of the park only sleeps; it is dropped only for an interrupt. -/
theorem select_parked (turn : Turn) (parked : sm.state = .waitingForLaunch) :
    ∃ outcome effects, sm.select turn = (outcome,sm,effects) ∧
      (outcome = .transitioned (.ok .waitingForLaunch) ∨
        ∃ interrupt, turn.interrupt = some interrupt ∧ outcome = .interrupted interrupt) := by
  have handler : ∀ schedule, sm.transition.start schedule sm.session =
      ⟨if schedule.dropAt = some 0 then .error .dropped else .ok .waitingForLaunch,sm.session,[]⟩ := by
    intro schedule
    unfold transition
    rw [parked,Task.start_mapEffects]
    simp only [doWaitingForLaunch,Task.start_sleep,List.map_nil]
  unfold select
  split
  next polled =>
    simp only [runHandler,handler]
    cases selectable : turn.selectable sm.state with
    | none => exact ⟨_,_,rfl,.inl (by simp)⟩
    | some interrupt =>
      by_cases first : turn.schedule.dropAt = some 0
      · exact ⟨_,[],by simp [first],.inr ⟨interrupt,turn.interrupt_of_selectable selectable,rfl⟩⟩
      · exact ⟨_,[],by simp [first],.inl rfl⟩
  next unpolled =>
    cases selectable : turn.selectable sm.state with
    | none => exact ⟨_,_,rfl,.inl (by rw [parked])⟩
    | some interrupt => exact ⟨_,_,rfl,.inr ⟨interrupt,turn.interrupt_of_selectable selectable,rfl⟩⟩

end StateMachine

/-- The commands that move a parked machine on without asking the coordinator. -/
def Interrupt.leavesPark : Interrupt → Prop
  | .command .start => True
  | .command .restart => True
  | .command (.setState _) => True
  | _ => False

/-- No command of the turn takes the machine out of the park. -/
def Turn.KeepsPark (turn : Turn) : Prop :=
  ∀ interrupt, turn.interrupt = some interrupt → ¬ interrupt.leavesPark

theorem Interrupt.parks {interrupt : Interrupt} {target : State}
    (moves : interrupt.Moves .waitingForLaunch target) (stays : ¬ interrupt.leavesPark) :
    target = .waitingForLaunch ∨ target = .shutdown := by
  cases interrupt with
  | signal signal =>
    cases signal with
    | recoveryGaveUp mode entered => exact absurd moves id
    | _ => exact .inr moves
  | command command =>
    cases command with
    | stop => exact .inl moves
    | exit => exact .inr moves
    | start => exact absurd trivial stays
    | restart => exact absurd trivial stays
    | setState name => exact absurd trivial stays
    | hitlResume => exact absurd moves.1 (by decide)
    | _ => exact absurd moves id
  | coldRestart signal =>
    cases signal with
    | fire => exact absurd moves.1 (by decide)
    | skipped reason => exact absurd moves id
  | agentEvent event => exact absurd moves id

namespace StateMachine

variable {codec : MarkerCodec} {sm : StateMachine}

theorem settle_parked {outcome : SelectOutcome} (turn : Turn)
    (parked : sm.state = .waitingForLaunch) (keeps : turn.KeepsPark)
    (selected : outcome = .transitioned (.ok .waitingForLaunch) ∨
      ∃ interrupt, turn.interrupt = some interrupt ∧ outcome = .interrupted interrupt) :
    (sm.settle outcome turn).process.machine.recovery = sm.recovery ∧
    (((sm.settle outcome turn).process.machine.state = .waitingForLaunch ∧
        (sm.settle outcome turn).process.status = .running) ∨
      ((sm.settle outcome turn).process.machine.state = .shutdown ∧
        (sm.settle outcome turn).process.status = .stopped)) := by
  rcases selected with rfl | ⟨interrupt,taken,rfl⟩
  · simp [settle,parked]
  · obtain ⟨core,moved⟩ := @handleInterrupt_moves sm interrupt turn
    have recovery := recovery_of_core core
    have state : (sm.handleInterrupt interrupt turn).1.state = .waitingForLaunch ∨
        (sm.handleInterrupt interrupt turn).1.state = .shutdown := by
      rw [parked] at moved
      exact moved.elim .inl fun moves => @Interrupt.parks interrupt _ moves (keeps _ taken)
    simp only [settle]
    rcases state with state | state
    · simp [state,recovery]
    · simp [state,recovery,doShutdown,stopSocat]

end StateMachine

namespace Process

variable {codec : MarkerCodec}

/-- The process is parked, or has ended from there; the coordinator stands as given. -/
def Parked (coord : RecoveryCoordinator) (p : Process) : Prop :=
  p.machine.recovery = coord ∧
    ((p.machine.state = .waitingForLaunch ∧ p.status = .running) ∨
      (p.machine.state = .shutdown ∧ p.status = .stopped))

theorem step_parked {coord : RecoveryCoordinator} {p : Process} {t : Turn}
    (parked : p.Parked coord) (keeps : t.KeepsPark) : (p.step codec t).Parked coord := by
  obtain ⟨recovery,⟨state,status⟩ | ⟨state,status⟩⟩ := parked
  · obtain ⟨ready,preluded,same⟩ := @StateMachine.prelude_parked codec _ t state
    have readyState := (StateMachine.state_of_standing same).trans state
    obtain ⟨outcome,effects,selected,chosen⟩ := StateMachine.select_parked t readyState
    have drained := (StateMachine.handleAgentEvents_standing (ready.fireDwell t.dwellFiresLater)
      t.later (t.pendingEvents ready.state)).trans
        (StateMachine.fireDwell_standing ready t.dwellFiresLater)
    have settled := StateMachine.settle_parked t
      ((StateMachine.state_of_standing drained).trans readyState) keeps chosen
    have recovered := (StateMachine.recovery_of_core
      (StateMachine.core_of_standing (drained.trans same))).trans recovery
    simp only [step,turn,status,StateMachine.iterate,preluded,StateMachine.afterPrelude,selected]
    exact ⟨settled.1.trans recovered,settled.2⟩
  · simp only [step,turn,status]
    exact ⟨recovery,.inr ⟨state,status⟩⟩

theorem handlerRun_parked {coord : RecoveryCoordinator} {p : Process} {t : Turn}
    (parked : p.Parked coord) {state : State} (runs : p.handlerRun codec t = some state) :
    state = .waitingForLaunch := by
  obtain ⟨-,⟨parkedState,status⟩ | ⟨-,status⟩⟩ := parked
  · obtain ⟨ready,preluded,same⟩ := @StateMachine.prelude_parked codec _ t parkedState
    simp only [handlerRun,status,preluded] at runs
    split at runs
    · cases runs
      exact (StateMachine.state_of_standing same).trans parkedState
    · cases runs
  · simp [handlerRun,status] at runs

end Process

def quietAnswers (at_ : Clocks) : Answers where
  now _ := at_.mono
  wall _ := at_.wall
  twsPathExists _ := true
  isRunning _ := true
  launch _ := .ok ()
  findAutorestartPath _ := none
  health _ := .ok true
  listWindows _ := .ok []
  dumpComponents _ := .ok .null
  selectListItem _ := .ok false
  dispatch _ := none
  dispatchNamed _ := none
  applyApiConfig _ := .ok ⟨0,0⟩
  socatAlive _ := true
  spawnSocat _ := true
  clientIds _ := none

def turnAt (now : Clocks) (interrupt : Option Interrupt) : Turn where
  now := now
  later := now
  dwellFires := none
  dwellFiresLater := none
  dwellIo _ := .ok
  applyIo := .ok
  isRunning := true
  spawnSocat := true
  schedule := ⟨quietAnswers now,none⟩
  interrupt := interrupt
  events := []

def paperConfig : Config where
  autoLaunch := true
  twsPath := "/home/ibgateway/Jts"
  tradingMode := .paper
  kickActiveSession := true
  twofa :=
    { device := ""
      hasSecret := false
      timeoutSeconds := 180
      reloginAfterTimeout := false
      timeoutAction := .restart
      backoff := ⟨.restartForever,3,.disabled,[],.anyReach,300,false⟩ }
  timing := ⟨5,60,3,.restart,0,60⟩
  env _ := none

end Ibctl.Machine
