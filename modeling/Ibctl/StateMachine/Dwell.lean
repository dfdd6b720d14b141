import Ibctl.StateMachine.Moves

/-! The connected handler marks the settings good after a dwell. What it measures is the
time since the entry into Connected, which the entry sets and no exit needs to clear as long
as nobody sets the state by hand: every way back goes through the entry again. -/
namespace Ibctl.Machine
open Tasks Recovery

section Handlers

/-- The mark comes after the dwell the frame asks for, measured on one of the answers. -/
def MarkedAfterDwell (frame : Frame) (answers : Answers) : ConnectedEffect → Prop
  | .gateway _ => True
  | .settingsGood checkedAt _ =>
    (∃ n, checkedAt = answers.now n) ∧
      ∃ since, frame.connectedContinuouslySince = some since ∧
        .fromSecs frame.config.timing.minSuccessDwellSecs ≤ checkedAt.durationSince since

variable (frame : Frame) (schedule : Schedule Answers)

theorem markStable_marks :
    (markStable frame).Ensures schedule (MarkedAfterDwell frame schedule.answers)
      (fun _ => True) := by
  unfold markStable
  cases connected : frame.connectedContinuouslySince with
  | none => exact Task.ensures_pure trivial
  | some since =>
    have asked : (Task.ask Answers.now : Task Answers ConnectedEffect StateMachineError Session
        Instant).Ensures schedule (MarkedAfterDwell frame schedule.answers)
          (fun now => ∃ n, now = schedule.answers.now n) := Task.ensures_ask fun n => ⟨n,rfl⟩
    refine Task.ensures_bind asked fun now answered => ?_
    split
    next dwelled =>
      refine Task.ensures_bind Task.ensures_update fun _ _ => ?_
      refine Task.ensures_bind Task.ensures_current fun s _ => ?_
      split
      · refine Task.ensures_bind (R := fun _ => True) (Task.ensures_ask fun _ => trivial)
          fun written _ => ?_
        refine Task.ensures_bind (Task.ensures_emit ?_) fun _ _ => Task.ensures_update
        exact ⟨answered,since,connected,dwelled⟩
      · exact Task.ensures_pure trivial
    next => exact Task.ensures_pure trivial

theorem doConnected_marks :
    (doConnected frame).Ensures schedule (MarkedAfterDwell frame schedule.answers)
      (fun _ => True) := by
  unfold doConnected
  refine Task.ensures_bind (Task.ensures_mapEffects fun _ => trivial) fun next _ => ?_
  split
  · exact Task.ensures_pure trivial
  · refine Task.ensures_bind (markStable_marks frame schedule) fun _ _ => ?_
    exact Task.ensures_bind Task.ensures_sleep fun _ _ => Task.ensures_pure trivial

end Handlers

/-- An effect of the loop that is no effect of its handlers. -/
def Quiet (effects : List LoopEffect) : Prop := ∀ effect, LoopEffect.handler effect ∉ effects

theorem Quiet.append {first second : List LoopEffect} (quiet : Quiet first)
    (quiet' : Quiet second) : Quiet (first ++ second) := by
  intro effect member
  rcases List.mem_append.mp member with member | member
  · exact quiet effect member
  · exact quiet' effect member

theorem quiet_nil : Quiet [] := fun _ => List.not_mem_nil

/-- What the loop does of its own accord: nothing of a handler, and no marker. -/
def LoopEffect.isPlain : LoopEffect → Bool
  | .handler _ => false
  | .coldRestartEquivalentMarker => false
  | _ => true

def Plain (effects : List LoopEffect) : Prop := ∀ effect ∈ effects, effect.isPlain = true

theorem Plain.append {first second : List LoopEffect} (plain : Plain first)
    (plain' : Plain second) : Plain (first ++ second) := by
  intro effect member
  rcases List.mem_append.mp member with member | member
  · exact plain effect member
  · exact plain' effect member

theorem plain_nil : Plain [] := fun _ member => absurd member List.not_mem_nil

theorem plain_killed (isRunning : Bool) : Plain (if isRunning then [.killedJvm] else []) := by
  cases isRunning <;> simp [Plain,LoopEffect.isPlain]

theorem Plain.quiet {effects : List LoopEffect} (plain : Plain effects) : Quiet effects :=
  fun effect member => absurd (plain (.handler effect) member) (by simp [LoopEffect.isPlain])

namespace StateMachine

variable {codec : MarkerCodec} {sm : StateMachine} {turn : Turn}

/-- Of the handlers, that of Connected alone marks the settings good. -/
def HandlerMarks (sm : StateMachine) (answers : Answers) : ConnectedEffect → Prop
  | .gateway _ => True
  | .settingsGood checkedAt writtenAt =>
    sm.state = .connected ∧ MarkedAfterDwell sm.frame answers (.settingsGood checkedAt writtenAt)

theorem transition_marks (sm : StateMachine) (schedule : Schedule Answers) :
    sm.transition.Ensures schedule (sm.HandlerMarks schedule.answers) (fun _ => True) := by
  cases state : sm.state with
  | connected =>
    unfold transition
    rw [state]
    refine (doConnected_marks sm.frame schedule).mono fun effect marked => ?_
    cases effect with
    | gateway _ => trivial
    | settingsGood checkedAt writtenAt => exact ⟨state,marked⟩
  | shutdown =>
    unfold transition
    rw [state]
    exact Task.ensures_pure trivial
  | error message =>
    unfold transition
    rw [state]
    exact Task.ensures_pure trivial
  | _ =>
    unfold transition
    rw [state]
    exact Task.ensures_mapEffects fun _ => trivial

/-- What the select does to the world is what its handler did. -/
theorem select_handled {effect : LoopEffect} (did : effect ∈ (sm.select turn).2.2) :
    sm.polls turn = true ∧ effect ∈ (sm.runHandler turn).effects.map LoopEffect.handler := by
  unfold select at did
  split at did
  next polled =>
    refine ⟨polled,?_⟩
    simp only at did
    split at did <;> exact did
  · split at did <;> exact absurd did List.not_mem_nil

theorem select_marks {checkedAt : Instant} {writtenAt : Zoned}
    (marks : .handler (.settingsGood checkedAt writtenAt) ∈ (sm.select turn).2.2) :
    sm.HandlerMarks turn.schedule.answers (.settingsGood checkedAt writtenAt) := by
  obtain ⟨effect,member,same⟩ := List.mem_map.mp (select_handled marks).2
  cases same
  unfold runHandler at member
  simp only at member
  split at member
  · exact (transition_marks sm { turn.schedule with dropAt := none }).start sm.session _ member
  · exact (transition_marks sm turn.schedule).start sm.session _ member

theorem handleAgentEvent_plain (event : AgentEvent) (at_ : Clocks) :
    Plain (sm.handleAgentEvent event at_).2 := by
  cases event with
  | errorDialog title message buttons =>
    simp only [handleAgentEvent,noteTwofaFailure]
    split
    · simp [Plain,LoopEffect.isPlain]
    · exact plain_nil
  | _ => exact plain_nil

theorem handleAgentEvents_plain (at_ : Clocks) (events : List AgentEvent) (sm : StateMachine) :
    Plain (handleAgentEvents at_ events sm).2 := by
  induction events generalizing sm with
  | nil => exact plain_nil
  | cons event rest ih => exact (handleAgentEvent_plain event at_).append (ih _)

theorem handleInterrupt_plain (interrupt : Interrupt) (turn : Turn) :
    Plain (sm.handleInterrupt interrupt turn).2 := by
  cases interrupt with
  | signal signal => cases signal <;> exact plain_nil
  | command command =>
    cases command with
    | stop =>
      simp only [handleInterrupt,dispatchCommand]
      split
      · exact plain_nil
      · exact (plain_killed turn.isRunning).append (by simp [Plain,LoopEffect.isPlain])
    | start =>
      simp only [handleInterrupt,dispatchCommand]
      split <;> exact plain_nil
    | _ => exact plain_nil
  | coldRestart signal => exact plain_nil
  | agentEvent event => exact handleAgentEvent_plain event turn.later

theorem applyTransition_quiet (next : State) (turn : Turn) :
    Quiet (sm.applyTransition next turn).2 := by
  have crossed : ∀ sm : StateMachine, Quiet (sm.crossConnected next turn.later).2 := by
    intro sm
    unfold crossConnected enterConnected
    intro effect
    split
    · simp only
      split <;> simp
    · split
      · simp
      · split <;> simp
  unfold applyTransition prepare
  simp only
  split
  · exact (crossed _).append (plain_killed turn.isRunning).quiet
  · exact crossed _

theorem settle_quiet (outcome : SelectOutcome) (turn : Turn) :
    Quiet (sm.settle outcome turn).effects := by
  cases outcome with
  | interrupted interrupt =>
    simp only [settle]
    split
    · exact ((handleInterrupt_plain interrupt turn).append (plain_killed turn.isRunning)).quiet
    · exact (handleInterrupt_plain interrupt turn).quiet
  | transitioned result =>
    cases result with
    | error error => exact quiet_nil
    | ok next =>
      simp only [settle]
      split
      · exact applyTransition_quiet next turn
      · exact quiet_nil

theorem tickRecovery_plain {ready : StateMachine} {effects : List LoopEffect}
    (ticked : sm.tickRecovery codec turn = some (ready,effects)) : Plain effects := by
  unfold tickRecovery at ticked
  simp only at ticked
  split at ticked
  · unfold driveRecovery at ticked
    split at ticked
    · cases ticked
    · simp only at ticked
      split at ticked
      · cases ticked
        exact plain_nil
      next applied result =>
        cases ticked
        refine Plain.append (by simp [Plain,LoopEffect.isPlain]) ?_
        cases applied with
        | firedGiveUpAlert =>
          simp only [afterApply,giveUpHalt]
          split
          · exact plain_nil
          · exact plain_nil
          · exact plain_nil
          · exact (plain_killed turn.isRunning).append (by simp [Plain,LoopEffect.isPlain])
        | resumedToAggressive =>
          simp only [afterApply]
          split <;> exact plain_nil
        | _ => exact plain_nil
  · cases ticked
    exact plain_nil

end StateMachine

/-- What a handler does in a turn is done by the select. -/
theorem Process.turn_handled {codec : MarkerCodec} {p : Process} {t : Turn}
    {effect : ConnectedEffect} (did : .handler effect ∈ (p.turn codec t).effects) :
    ∃ ready effects, p.status = .running ∧ p.machine.prelude codec t = some (ready,effects) ∧
      .handler effect ∈ (ready.select t).2.2 := by
  by_cases stopped : ∀ ready effects, p.status = .running →
      p.machine.prelude codec t ≠ some (ready,effects)
  · rw [(Process.turn_of_stopped stopped).2] at did
    exact absurd did List.not_mem_nil
  · simp only [not_forall,not_not] at stopped
    obtain ⟨ready,effects,running,preluded⟩ := stopped
    rw [Process.turn_of_prelude running preluded] at did
    refine ⟨ready,effects,running,preluded,?_⟩
    rcases List.mem_append.mp did with early | late
    · exact absurd early ((StateMachine.tickRecovery_plain preluded).quiet _)
    · unfold StateMachine.afterPrelude at late
      simp only at late
      rcases List.mem_append.mp late with late | settled
      · rcases List.mem_append.mp late with selected | drained
        · exact selected
        · exact absurd drained ((StateMachine.handleAgentEvents_plain _ _ _).quiet _)
      · exact absurd settled (StateMachine.settle_quiet _ t _)

theorem Process.turn_marks {codec : MarkerCodec} {p : Process} {t : Turn} {checkedAt : Instant}
    {writtenAt : Zoned}
    (marks : .handler (.settingsGood checkedAt writtenAt) ∈ (p.turn codec t).effects) :
    ∃ ready effects, p.status = .running ∧ p.machine.prelude codec t = some (ready,effects) ∧
      ready.HandlerMarks t.schedule.answers (.settingsGood checkedAt writtenAt) := by
  obtain ⟨ready,effects,running,preluded,selected⟩ := Process.turn_handled marks
  exact ⟨ready,effects,running,preluded,StateMachine.select_marks selected⟩

def Interrupt.setsConnected : Interrupt → Prop
  | .command (.setState name) => State.fromName name = some .connected
  | _ => False

/-- Nobody sets the state to Connected by hand. -/
def Turn.KeepsEntry (turn : Turn) : Prop :=
  ∀ interrupt, turn.interrupt = some interrupt → ¬ interrupt.setsConnected

theorem Interrupt.connected_of_moves {interrupt : Interrupt} {source : State}
    (moves : interrupt.Moves source .connected) : interrupt.setsConnected := by
  cases interrupt with
  | signal signal =>
    cases signal with
    | recoveryGaveUp mode entered => exact absurd moves id
    | _ => simp [Moves] at moves
  | command command =>
    cases command with
    | setState name => exact moves
    | start => exact absurd moves.2 (by decide)
    | hitlResume => exact absurd moves.2 (by decide)
    | stop => simp [Moves] at moves
    | exit => simp [Moves] at moves
    | restart => simp [Moves] at moves
    | _ => exact absurd moves id
  | coldRestart signal =>
    cases signal with
    | fire => exact absurd moves.2 (by decide)
    | skipped reason => exact absurd moves id
  | agentEvent event => exact absurd moves id

namespace StateMachine

variable {codec : MarkerCodec} {sm : StateMachine} {turn : Turn}

/-- If the machine is connected now, it was before, and the connection's clock has run on. -/
def Continues (before after : StateMachine) : Prop :=
  after.state = .connected → before.state = .connected ∧
    after.connectedContinuouslySince = before.connectedContinuouslySince

/-- The machine comes from another state and starts the connection's clock. -/
def Enters (before after : StateMachine) (at_ : Instant) : Prop :=
  before.state ≠ .connected ∧ after.connectedContinuouslySince = some at_

theorem prelude_continues {ready : StateMachine} {effects : List LoopEffect}
    (preluded : sm.prelude codec turn = some (ready,effects)) : Continues sm ready := by
  intro connected
  obtain ⟨clock,same | waits | parks⟩ := prelude_moves preluded
  · exact ⟨same.symm.trans connected,clock⟩
  · rw [connected] at waits
    cases waits
  · rw [connected] at parks
    cases parks

theorem settled_connected {next : State} (connected : settled next = .connected) :
    next = .connected := by
  cases next with
  | error message => cases connected
  | _ => exact connected

/-- A machine that is connected after an iteration was connected when its handler ran and
has kept its clock, or enters and starts it. -/
theorem afterPrelude_connected (entry : turn.KeepsEntry)
    (connected : (sm.afterPrelude turn).process.machine.state = .connected) :
    (sm.state = .connected ∧ (sm.afterPrelude turn).process.machine.connectedContinuouslySince =
        sm.connectedContinuouslySince) ∨
      Enters sm (sm.afterPrelude turn).process.machine turn.later.mono := by
  obtain ⟨-,-,⟨clock,same | ⟨interrupt,taken,moves⟩⟩ | ⟨next,apart,ends,clock⟩⟩ :=
    afterPrelude_moves sm turn
  · exact .inl ⟨same.symm.trans connected,clock⟩
  · rw [connected] at moves
    exact absurd (Interrupt.connected_of_moves moves) (entry interrupt taken)
  · obtain rfl := settled_connected (ends.symm.trans connected)
    exact .inr ⟨apart.symm,clock rfl⟩

end StateMachine

end Ibctl.Machine
