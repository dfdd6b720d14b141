import Ibctl.StateMachine.Carry
import Ibctl.StateMachine.Dwell
import Ibctl.StateMachine.Successors

/-! One iteration of a running machine, inverted once. After its prelude the machine is
interrupted, fails, stays where it is or enters the state its handler returned; each case says
what becomes of what outlasts a state and of the state that WaitingForIB will return to. -/
namespace Ibctl.Machine
open Tasks Task Recovery

namespace StateMachine

variable {codec : MarkerCodec} {sm : StateMachine} {turn : Turn}

section Select

/-- The schedule the handler is polled with: nothing but an interrupt drops it. -/
def handlerSchedule (sm : StateMachine) (turn : Turn) : Schedule Answers :=
  if (turn.selectable sm.state).isNone then { turn.schedule with dropAt := none } else turn.schedule

theorem handlerSchedule_answers (sm : StateMachine) (turn : Turn) :
    (sm.handlerSchedule turn).answers = turn.schedule.answers := by
  unfold handlerSchedule
  split <;> rfl

theorem select_session (polled : sm.polls turn = true) :
    (sm.select turn).2.1.session = (sm.runHandler turn).state := by
  unfold select
  rw [if_pos polled]
  simp only
  split <;> rfl

theorem select_returned (polled : sm.polls turn = true) {next : State}
    (returned : (sm.runHandler turn).result = .ok next) :
    (sm.select turn).1 = .transitioned (.ok next) := by
  unfold select
  simp only [if_pos polled,returned]

theorem select_dropped (polled : sm.polls turn = true)
    (dropped : (sm.runHandler turn).result = .error .dropped)
    (drops : (sm.handlerSchedule turn).dropAt ≠ none) :
    ∃ interrupt, (sm.select turn).1 = .interrupted interrupt := by
  cases taken : turn.selectable sm.state with
  | none => simp [handlerSchedule,taken] at drops
  | some interrupt =>
    refine ⟨interrupt,?_⟩
    unfold select
    simp only [if_pos polled,dropped,taken]

theorem select_unpolled (unpolled : sm.polls turn = false) :
    (sm.select turn).2.1.session = sm.session := by
  unfold select
  rw [if_neg (by simp [unpolled])]
  split <;> rfl

/-- What the select transitions to is what the handler returned, or the present state. -/
theorem select_leads {next : State} (returned : (sm.select turn).1 = .transitioned (.ok next)) :
    next = sm.state ∨ sm.state.LeadsTo next ∨
      (sm.state = .waitingForIB ∧ sm.session.returnState = some next) := by
  unfold select at returned
  split at returned
  · simp only at returned
    split at returned
    next next' ok =>
      cases returned
      exact .inr (transition_leads ok)
    · cases returned
    · cases returned
    · cases returned
      exact .inl rfl
  · split at returned
    · cases returned
    · cases returned
      exact .inl rfl

/-- A transition to another state is returned by the handler. -/
theorem runHandler_of_moves {next : State} (returned : (sm.select turn).1 = .transitioned (.ok next))
    (apart : next ≠ sm.state) :
    sm.polls turn = true ∧ (sm.runHandler turn).result = .ok next := by
  unfold select at returned
  split at returned
  next polled =>
    refine ⟨polled,?_⟩
    simp only at returned
    split at returned
    next next' ok =>
      cases returned
      exact ok
    · cases returned
    · cases returned
    · cases returned
      exact absurd rfl apart
  · split at returned
    · cases returned
    · cases returned
      exact absurd rfl apart

/-- A launch is the doing of Launching alone: it uses the hash that is pending and the machine
goes on to wait for the agent. -/
theorem select_launched {hash : Option String}
    (launched : .handler (.gateway (.launched hash)) ∈ (sm.select turn).2.2) :
    sm.state = .launching ∧ hash = sm.session.warmRestartPending ∧
      (sm.select turn).1 = .transitioned (.ok .waitingForAgent) ∧
      (sm.select turn).2.1.session = sm.session := by
  obtain ⟨polled,member⟩ := select_handled launched
  obtain ⟨effect,among,same⟩ := List.mem_map.mp member
  cases same
  have ran : sm.runHandler turn = sm.transition.start (sm.handlerSchedule turn) sm.session := rfl
  have here : sm.state = .launching := by
    by_contra away
    have quiet : (ConnectedEffect.gateway (.launched hash)).isLaunch = false := by
      rw [ran] at among
      by_cases connected : sm.state = .connected
      · have connects : sm.transition = doConnected sm.frame := by
          rw [transition,connected]
        rw [connects] at among
        exact doConnected_quiet _ _ _ among
      · exact (@transition_keeps sm (sm.handlerSchedule turn) (fun _ => True) trivial connected
          (fun _ _ _ => trivial) (fun _ _ _ => trivial) fun _ _ _ _ => trivial).2 away _ among
    cases quiet
  have launches : sm.transition = mapEffects .gateway doLaunch := by
    rw [transition,here]
  rw [launches,start_mapEffects,doLaunch_start] at ran
  cases answer : (sm.handlerSchedule turn).answers.launch 0 with
  | error reason =>
    rw [answer] at ran
    rw [ran] at among
    exact absurd among List.not_mem_nil
  | ok started =>
    rw [answer] at ran
    rw [ran] at among
    simp only [List.map_cons,List.map_nil,List.mem_singleton] at among
    cases among
    exact ⟨here,rfl,select_returned polled (by rw [ran]),by rw [select_session polled,ran]⟩

end Select

/-- The state the machine is in, or that it waits for IB to return to. -/
def place (sm : StateMachine) : State :=
  match sm.state with
  | .waitingForIB => sm.session.returnState.getD .init
  | state => state

theorem place_of_state (away : sm.state ≠ .waitingForIB) : sm.place = sm.state := by
  unfold place
  split
  next here => exact absurd here away
  · rfl

theorem place_of_waiting (here : sm.state = .waitingForIB) :
    sm.place = sm.session.returnState.getD .init := by
  rw [place,here]

/-- A machine that waits for IB goes on waiting, or back to its place. -/
theorem select_waiting (here : sm.state = .waitingForIB) :
    ((sm.select turn).2.1.session.returnState = sm.session.returnState ∧
        ∀ next, (sm.select turn).1 = .transitioned (.ok next) → next = .waitingForIB) ∨
      (sm.select turn).1 = .transitioned (.ok sm.place) := by
  have waits : sm.transition = mapEffects .gateway (doWaitingForIb sm.frame) := by
    rw [transition,here]
  have ran : sm.runHandler turn = sm.transition.start (sm.handlerSchedule turn) sm.session := rfl
  rw [waits,start_mapEffects] at ran
  cases polled : sm.polls turn with
  | false =>
    refine .inl ⟨by rw [select_unpolled polled],fun next returned => ?_⟩
    by_contra apart
    have polls := (runHandler_of_moves returned (here ▸ apart)).1
    rw [polled] at polls
    cases polls
  | true =>
    have waited := @doWaitingForIb_run (sm.handlerSchedule turn) sm.frame ⟨sm.session,0,[]⟩
    unfold Task.start at ran
    split at waited
    · refine .inr (select_returned polled ?_)
      rw [ran,waited,place_of_waiting here]
    · obtain ⟨kept,returns⟩ := waited
      refine .inl ⟨?_,fun next returned => ?_⟩
      · rw [select_session polled,ran]
        exact congrArg Session.returnState kept
      · by_contra apart
        have result := (runHandler_of_moves returned (here ▸ apart)).2
        rw [ran] at result
        exact apart (returns next result)

/-- The prelude sends the machine away to wait for IB, or into the park for good. -/
theorem prelude_place {ready : StateMachine} {effects : List LoopEffect}
    (preluded : sm.prelude codec turn = some (ready,effects)) :
    ready.place = sm.place ∨ ready.state = .waitingForLaunch := by
  have checked : (sm.checks turn).place = sm.place := by
    have timed : ((sm.fireDwell turn.dwellFires).checkIbStatusTtl turn.now).place = sm.place := by
      have fired : (sm.fireDwell turn.dwellFires).place = sm.place := by
        unfold fireDwell
        split
        · split <;> rfl
        · rfl
      unfold checkIbStatusTtl
      split
      · exact fired
      · split <;> exact fired
    unfold checks
    rw [← timed]
    generalize (sm.fireDwell turn.dwellFires).checkIbStatusTtl turn.now = timed
    unfold checkIbSystemAvailability
    split
    · rfl
    · split
      · rfl
      next active =>
        split
        · rfl
        · have away : timed.state ≠ .waitingForIB := by
            intro waits
            simp [waits] at active
          rw [place_of_state away]
          exact (place_of_waiting (moveTo_state _ _ _)).trans
            (congrArg (fun s : Session => s.returnState.getD .init)
              (recordTransition_session _ _ _))
  have drained : ((sm.checks turn).takeDwellSuccesses codec turn).place = sm.place := by
    refine Eq.trans ?_ checked
    unfold place
    rw [(@takeDwellSuccesses_rest codec (sm.checks turn) turn).1,takeDwellSuccesses_session]
  unfold prelude tickRecovery at preluded
  simp only at preluded
  split at preluded
  next active =>
    unfold driveRecovery at preluded
    split at preluded
    · cases preluded
    · simp only at preluded
      split at preluded
      · cases preluded
        exact .inl drained
      next applied result =>
        cases preluded
        cases applied with
        | firedGiveUpAlert =>
          simp only [afterApply,giveUpHalt]
          split
          · exact .inl drained
          · exact .inl drained
          · exact .inl drained
          · exact .inr (moveTo_state _ _ _)
        | resumedToAggressive =>
          simp only [afterApply]
          split
          next parked =>
            rw [show ((sm.checks turn).takeDwellSuccesses codec turn).state = .waitingForLaunch
              from parked] at active
            exact absurd active (by decide)
          · exact .inl drained
        | _ => exact .inl drained
  · cases preluded
    exact .inl drained

end StateMachine

/-- What an iteration makes of a machine that has passed its prelude. -/
inductive Iterated (ready : StateMachine) (t : Turn) (after : Process) : Prop where
  | interrupted (interrupt : Interrupt) (taken : (ready.select t).1 = .interrupted interrupt)
      (moves : after.machine.state = ready.state ∨
        interrupt.Moves ready.state after.machine.state)
      (remembered : after.machine.session.remembered = (ready.select t).2.1.session.remembered)
      (back : after.machine.session.returnState = (ready.select t).2.1.session.returnState)
      (status : after.status = if after.machine.state = .shutdown then .stopped else .running)
  | failed (error : StateMachineError) (ended : after.status = .failed error)
  | stayed (returned : (ready.select t).1 = .transitioned (.ok ready.state))
      (state : after.machine.state = ready.state)
      (remembered : after.machine.session.remembered = (ready.select t).2.1.session.remembered)
      (back : after.machine.session.returnState = (ready.select t).2.1.session.returnState)
  | moved (next : State) (returned : (ready.select t).1 = .transitioned (.ok next))
      (apart : next ≠ ready.state) (state : after.machine.state = StateMachine.settled next)
      (pending : after.machine.session.warmRestartPending =
        if next ∈ [.shutdown,.waitingForLaunch] then none
        else (ready.select t).2.1.session.warmRestartPending)
      (restarts : after.machine.session.consecutiveJvmRestarts =
        (ready.select t).2.1.session.consecutiveJvmRestarts)
      (entered : after.machine.session.stateEnteredAt = t.later.mono)

theorem Process.iterated {codec : MarkerCodec} {p : Process} {t : Turn} {ready : StateMachine}
    {effects : List LoopEffect} (running : p.status = .running)
    (preluded : p.machine.prelude codec t = some (ready,effects)) :
    Iterated ready t (p.step codec t) := by
  obtain ⟨drained,settled,standing,remembered,back,-⟩ := StateMachine.afterPrelude_machine ready t
  have there := StateMachine.state_of_standing standing
  have stepped : p.step codec t = (drained.settle (ready.select t).1 t).process := by
    rw [step,turn_of_prelude running preluded]
    exact settled
  rw [stepped]
  cases outcome : (ready.select t).1 with
  | interrupted interrupt =>
    obtain ⟨state,carried⟩ := @StateMachine.settle_interrupted drained t interrupt
    have moves := (@StateMachine.handleInterrupt_moves drained interrupt t).2
    have kept := (@StateMachine.handleInterrupt_carried drained interrupt t).1
    rw [there,← state] at moves
    refine .interrupted interrupt outcome moves ?_ ?_ ?_
    · exact ((remembered_of_carried carried).trans kept).trans remembered
    · refine Eq.trans ?_ ((StateMachine.returnState_of_aside
        (@StateMachine.handleInterrupt_aside drained interrupt t)).trans back)
      simp only [StateMachine.settle]
      split <;> rfl
    · rw [state]
      simp only [StateMachine.settle]
      split <;> rfl
  | transitioned result =>
    cases result with
    | error error => exact .failed error rfl
    | ok next =>
      have machine := @StateMachine.settle_transitioned drained t next
      by_cases same : next = ready.state
      · rw [if_neg (not_not.mpr (same.trans there.symm))] at machine
        subst same
        refine .stayed outcome ?_ ?_ ?_
        · rw [machine,there]
        · rw [machine,remembered]
        · rw [machine,back]
      · rw [if_pos (there ▸ same)] at machine
        obtain ⟨lasting,entered⟩ := Prod.mk.inj
          (@StateMachine.applyTransition_carried drained next t)
        obtain ⟨-,pending,restarts,-⟩ := Lasting.ext_iff.mp lasting
        have parts := remembered_parts remembered
        refine .moved next outcome same ?_ ?_ ?_ ?_
        · rw [machine]
          exact (StateMachine.applyTransition_moves next t).1
        · rw [machine,← parts.1]
          exact pending
        · rw [machine,← parts.2.1]
          exact restarts
        · rw [machine]
          exact entered

/-- A process that goes on running was running and has passed its prelude. -/
theorem Process.running_of_step {codec : MarkerCodec} {p : Process} {t : Turn}
    (runs : (p.step codec t).status = .running) :
    ∃ ready effects, p.status = .running ∧ p.machine.prelude codec t = some (ready,effects) := by
  unfold step turn at runs
  split at runs
  next running =>
    unfold StateMachine.iterate at runs
    split at runs
    · cases runs
    next ready effects preluded => exact ⟨ready,effects,running,preluded⟩
  next idle => exact absurd runs (by simpa using idle)

/-- A hash that is pending after the iteration was pending after its handler. -/
theorem Iterated.pending {ready : StateMachine} {t : Turn} {after : Process}
    (iterated : Iterated ready t after) (runs : after.status = .running) {hash : String}
    (pending : after.machine.session.warmRestartPending = some hash) :
    (ready.select t).2.1.session.warmRestartPending = some hash := by
  have remember : ∀ s : Session, after.machine.session.remembered = s.remembered →
      s.warmRestartPending = some hash := by
    intro s same
    rw [← pending]
    exact (congrArg Prod.fst same).symm
  cases iterated with
  | interrupted interrupt taken moves remembered => exact remember _ remembered
  | failed error ended =>
    rw [runs] at ended
    cases ended
  | stayed returned state remembered => exact remember _ remembered
  | moved next returned apart state kept =>
    rw [pending] at kept
    split at kept
    · cases kept
    · exact kept.symm

/-- Where the state stays, so does the place. -/
theorem StateMachine.place_stays {ready : StateMachine} {t : Turn} {after : StateMachine}
    (state : after.state = ready.state)
    (back : after.session.returnState = (ready.select t).2.1.session.returnState)
    (stays : ∀ next, (ready.select t).1 = .transitioned (.ok next) → next = ready.state)
    (apart : ready.place ≠ .waitingForIB) : after.place = ready.place := by
  by_cases waits : ready.state = .waitingForIB
  · rcases select_waiting waits with ⟨kept,-⟩ | returns
    · rw [place_of_waiting (state.trans waits),back,kept,← place_of_waiting waits]
    · exact absurd ((stays _ returns).trans waits) apart
  · rw [place_of_state (state ▸ waits),place_of_state waits,state]

end Ibctl.Machine
