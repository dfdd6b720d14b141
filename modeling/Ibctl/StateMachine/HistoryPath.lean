import Ibctl.Lib.Ring
import Ibctl.StateMachine.Ceiling

/-! The history as a path: each entry begins where the one before it ends, and the last ends in
the present state. Some of what sets the state is recorded in the history and some is not, and
a transition is recorded under the state that was asked for. -/
namespace Ibctl.Machine
open Tasks Recovery

structure PathTo (entries : List Transition) (state : State) : Prop where
  short : entries.length ≤ 100
  chained : entries.IsChain (fun first second => first.toState = second.fromState)
  ends : ∀ last, entries.getLast? = some last → last.toState = state.display

theorem PathTo.nil (state : State) : PathTo [] state :=
  ⟨by decide,List.IsChain.nil,fun _ ends => by cases ends⟩

theorem PathTo.push {entries : List Transition} {source : State} (path : PathTo entries source)
    (timestamp : Int) (target : State) :
    PathTo (Ring.push 100 entries ⟨timestamp,source.display,target.display⟩) target where
  short := Ring.push_length_le (by decide) path.short _
  chained := Ring.push_isChain 100 path.chained path.ends
  ends := by
    intro last ends
    rw [Ring.push_getLast?] at ends
    cases ends
    rfl

/-- A path that ends in one state ends in another of a different name only when it is empty. -/
theorem PathTo.moved_iff {entries : List Transition} {source : State} (path : PathTo entries source)
    {target : State} (apart : target.display ≠ source.display) :
    PathTo entries target ↔ entries = [] := by
  constructor
  · intro moved
    by_contra nonempty
    have ends := List.getLast?_eq_some_getLast nonempty
    exact apart ((moved.ends _ ends).symm.trans (path.ends _ ends))
  · rintro rfl
    exact .nil target

theorem State.display_shutdown {state : State} (same : State.shutdown.display = state.display) :
    State.shutdown = state := by
  cases state with
  | error message => simpa [display] using congrArg (fun s => s.toList.head?) same
  | _ => first | rfl | exact absurd same (by decide)

theorem State.display_restarting {state : State} (same : State.restarting.display = state.display) :
    State.restarting = state := by
  cases state with
  | error message => simpa [display] using congrArg (fun s => s.toList.head?) same
  | _ => first | rfl | exact absurd same (by decide)

/-- What sets the state without recording it. -/
def Interrupt.Assigns (source target : State) : Interrupt → Prop
  | .signal .terminate => target = .shutdown
  | .signal .interrupt => target = .shutdown
  | .command .exit => target = .shutdown
  | .command .restart => target = .restarting
  | .coldRestart .fire => StateMachine.coldRestartDormant source = false ∧ target = .restarting
  | _ => False

theorem Interrupt.Assigns.display {interrupt : Interrupt} {source target state : State}
    (assigns : interrupt.Assigns source target) (same : target.display = state.display) :
    target = state := by
  have either : target = .shutdown ∨ target = .restarting := by
    unfold Interrupt.Assigns at assigns
    split at assigns
    · exact .inl assigns
    · exact .inl assigns
    · exact .inl assigns
    · exact .inr assigns
    · exact .inr assigns.2
    · exact assigns.elim
  rcases either with rfl | rfl
  · exact State.display_shutdown same
  · exact State.display_restarting same

theorem Interrupt.Assigns.unique {interrupt : Interrupt} {source first second : State}
    (one : interrupt.Assigns source first) (other : interrupt.Assigns source second) :
    first = second := by
  unfold Interrupt.Assigns at one
  split at one
  · exact one.trans other.symm
  · exact one.trans other.symm
  · exact one.trans other.symm
  · exact one.trans other.symm
  · exact one.2.trans other.2.symm
  · exact one.elim

namespace StateMachine

variable {codec : MarkerCodec} {sm : StateMachine} {turn : Turn}

def HistoryIsPath (sm : StateMachine) : Prop := PathTo sm.transitionHistory sm.state

def trail (sm : StateMachine) : List Transition × State := (sm.transitionHistory,sm.state)

theorem HistoryIsPath.of_trail {other : StateMachine} (path : sm.HistoryIsPath)
    (same : other.trail = sm.trail) : other.HistoryIsPath := by
  obtain ⟨entries,state⟩ := Prod.mk.inj same
  unfold HistoryIsPath
  rwa [entries,state]

theorem recordTransition_path {source : State} (path : PathTo sm.transitionHistory source)
    (target : State) (at_ : Clocks) :
    PathTo (sm.recordTransition source target at_).transitionHistory target := by
  unfold recordTransition
  split
  next same => rwa [← same]
  · exact path.push (asSecond at_.wall.timestamp) target

theorem moveTo_path (path : sm.HistoryIsPath) (target : State) (at_ : Clocks) :
    (sm.moveTo target at_).HistoryIsPath := by
  unfold HistoryIsPath
  rw [moveTo_state]
  exact @recordTransition_path { sm with state := target } sm.state path target at_

section Frames

theorem fireDwell_trail (fires : Option Clocks) : (sm.fireDwell fires).trail = sm.trail := by
  unfold fireDwell
  split
  · split <;> rfl
  · rfl

theorem handleAgentEvent_trail (event : AgentEvent) (at_ : Clocks) :
    (sm.handleAgentEvent event at_).1.trail = sm.trail := by
  cases event with
  | errorDialog title message buttons =>
    simp only [handleAgentEvent,noteTwofaFailure]
    split
    · split <;> rfl
    · rfl
  | connectionStatusChanged fromStatus toStatus =>
    simp only [handleAgentEvent,noteConnectionStatus]
    split
    · rfl
    · split
      · rfl
      · split <;> rfl
  | _ => rfl

theorem handleAgentEvents_trail (at_ : Clocks) (events : List AgentEvent) :
    (handleAgentEvents at_ events sm).1.trail = sm.trail := by
  induction events generalizing sm with
  | nil => rfl
  | cons event rest ih =>
    simp only [handleAgentEvents]
    rw [ih]
    exact handleAgentEvent_trail event at_

theorem select_trail : (sm.select turn).2.1.trail = sm.trail := by
  unfold select
  split
  · simp only
    split <;> rfl
  · split <;> rfl

theorem afterSelect_trail : (sm.afterSelect turn).trail = sm.trail :=
  (handleAgentEvents_trail _ _).trans ((fireDwell_trail _).trans select_trail)

theorem drainDwell_trail (io : Nat → SaveIo) (n : Nat) (messages : List Clocks) :
    (drainDwell codec io n messages sm).trail = sm.trail := by
  induction messages generalizing n sm with
  | nil => rfl
  | cons dwell rest ih =>
    simp only [drainDwell]
    split
    · exact ih (n + 1)
    · split
      · exact ih (n + 1)
      · exact ih (n + 1)

theorem takeDwellSuccesses_trail : (sm.takeDwellSuccesses codec turn).trail = sm.trail := by
  unfold takeDwellSuccesses
  split
  · exact drainDwell_trail _ _ _
  · exact drainDwell_trail _ _ _

end Frames

section Prelude

theorem gates_path (path : sm.HistoryIsPath) (empty : sm.transitionHistory = []) (now : Clocks) :
    (sm.gates now).HistoryIsPath := by
  have launched : sm.launchGate.HistoryIsPath := by
    unfold launchGate
    split
    · exact empty ▸ PathTo.nil .waitingForLaunch
    · exact path
  unfold gates blockedGate
  split
  · exact moveTo_path launched _ _
  · exact launched

theorem checks_path (path : sm.HistoryIsPath) : (sm.checks turn).HistoryIsPath := by
  have timed : ((sm.fireDwell turn.dwellFires).checkIbStatusTtl turn.now).HistoryIsPath := by
    refine path.of_trail (Eq.trans ?_ (fireDwell_trail turn.dwellFires))
    unfold checkIbStatusTtl
    split
    · rfl
    · split <;> rfl
  unfold checks checkIbSystemAvailability
  split
  · exact timed
  · split
    · exact timed
    · split
      · exact timed
      · refine moveTo_path ?_ _ _
        exact timed.of_trail rfl

theorem afterApply_path (path : sm.HistoryIsPath) (applied : AppliedAction) :
    (sm.afterApply applied turn).1.HistoryIsPath := by
  cases applied with
  | firedGiveUpAlert =>
    simp only [afterApply,giveUpHalt]
    split
    · exact path.of_trail rfl
    · exact path.of_trail rfl
    · exact path.of_trail rfl
    · refine moveTo_path ?_ _ _
      exact path.of_trail rfl
  | resumedToAggressive =>
    simp only [afterApply]
    split
    · exact moveTo_path path _ _
    · exact path
  | _ => exact path

/-- Everything a prelude does to the state is recorded. -/
theorem prelude_path {ready : StateMachine} {effects : List LoopEffect} (path : sm.HistoryIsPath)
    (preluded : sm.prelude codec turn = some (ready,effects)) : ready.HistoryIsPath := by
  have drained := (@checks_path sm turn path).of_trail
    (@takeDwellSuccesses_trail codec (sm.checks turn) turn)
  unfold prelude tickRecovery at preluded
  simp only at preluded
  split at preluded
  · unfold driveRecovery at preluded
    split at preluded
    · cases preluded
    · simp only at preluded
      split at preluded
      · cases preluded
        exact drained.of_trail rfl
      next applied result =>
        cases preluded
        refine afterApply_path ?_ applied
        exact drained.of_trail rfl
  · cases preluded
    exact drained

end Prelude

section Transition

theorem noteTwofaAnswered_history (next : State) :
    (sm.noteTwofaAnswered next).transitionHistory = sm.transitionHistory := by
  unfold noteTwofaAnswered
  simp only
  split <;> rfl

theorem crossConnected_history (next : State) (at_ : Clocks) :
    (sm.crossConnected next at_).1.transitionHistory = sm.transitionHistory := by
  unfold crossConnected
  split
  · rfl
  · split
    · rfl
    · split <;> rfl

theorem leaveHitl_history (next : State) :
    (sm.leaveHitl next).transitionHistory = sm.transitionHistory := by
  unfold leaveHitl
  split <;> rfl

theorem applyTransition_history (next : State) (turn : Turn) :
    (sm.applyTransition next turn).1.transitionHistory =
      ((sm.checkCeiling next).recordTransition sm.state next turn.later).transitionHistory := by
  have prepared : (sm.prepare next turn.later).1.transitionHistory =
      ((sm.checkCeiling next).recordTransition sm.state next turn.later).transitionHistory := by
    rw [prepare_eq]
    unfold crossed
    rw [leaveHitl_history,crossConnected_history]
    unfold readied
    rw [noteTwofaAnswered_history]
  exact applyTransition_of_prepared (C := fun left => left.transitionHistory =
      ((sm.checkCeiling next).recordTransition sm.state next turn.later).transitionHistory)
    (fun _ _ => id) (fun _ => id) prepared

theorem recordTransition_ne_nil {source target : State} (apart : source ≠ target) (at_ : Clocks) :
    (sm.recordTransition source target at_).transitionHistory ≠ [] := by
  unfold recordTransition
  rw [if_neg apart]
  exact Ring.push_ne_nil 100 sm.transitionHistory _

/-- A transition is recorded under the state that was asked for, so an error, from which the
machine goes on to a restart, ends the path. -/
theorem applyTransition_path_iff (path : sm.HistoryIsPath) {next : State} (apart : next ≠ sm.state)
    (turn : Turn) :
    (sm.applyTransition next turn).1.HistoryIsPath ↔ ∀ message, next ≠ .error message := by
  have checked : PathTo (sm.checkCeiling next).transitionHistory sm.state := by
    unfold checkCeiling
    split <;> exact path
  have recorded := recordTransition_path checked next turn.later
  have nonempty := @recordTransition_ne_nil (sm.checkCeiling next) _ _ apart.symm turn.later
  unfold HistoryIsPath
  rw [(@applyTransition_moves sm next turn).1,applyTransition_history]
  cases next with
  | error message =>
    refine iff_of_false (fun restarts => nonempty ?_) (fun spared => spared message rfl)
    refine (recorded.moved_iff ?_).mp restarts
    intro same
    cases State.display_restarting same
  | _ => exact iff_of_true recorded (fun message same => by cases same)

end Transition

section Interrupts

/-- What an interrupt does to the state is recorded, but for what assigns it. -/
theorem handleInterrupt_path (path : sm.HistoryIsPath) (interrupt : Interrupt) (turn : Turn) :
    (∃ target, interrupt.Assigns sm.state target ∧
        (sm.handleInterrupt interrupt turn).1.trail = (sm.transitionHistory,target)) ∨
      ((∀ target, ¬ interrupt.Assigns sm.state target) ∧
        (sm.handleInterrupt interrupt turn).1.HistoryIsPath) := by
  cases interrupt with
  | signal signal =>
    cases signal with
    | terminate => exact .inl ⟨.shutdown,rfl,rfl⟩
    | interrupt => exact .inl ⟨.shutdown,rfl,rfl⟩
    | recoveryGaveUp mode entered => exact .inr ⟨fun _ => id,path⟩
  | command command =>
    cases command with
    | exit => exact .inl ⟨.shutdown,rfl,rfl⟩
    | restart => exact .inl ⟨.restarting,rfl,rfl⟩
    | stop =>
      refine .inr ⟨fun _ => id,?_⟩
      simp only [handleInterrupt,dispatchCommand]
      split
      · exact path
      · refine moveTo_path ?_ _ _
        exact path.of_trail rfl
    | start =>
      refine .inr ⟨fun _ => id,?_⟩
      simp only [handleInterrupt,dispatchCommand]
      split
      · exact moveTo_path path _ _
      · exact path
    | setState name =>
      refine .inr ⟨fun _ => id,?_⟩
      simp only [handleInterrupt,dispatchCommand,handleCommand]
      split
      · exact path
      · exact moveTo_path path _ _
    | hitlResume =>
      refine .inr ⟨fun _ => id,?_⟩
      simp only [handleInterrupt,dispatchCommand,handleCommand]
      split
      · exact moveTo_path path _ _
      · exact path
    | pauseAt name =>
      refine .inr ⟨fun _ => id,?_⟩
      simp only [handleInterrupt,dispatchCommand,handleCommand]
      split
      · exact path
      · split <;> exact path.of_trail rfl
    | resumeReconnect token =>
      refine .inr ⟨fun _ => id,?_⟩
      simp only [handleInterrupt,dispatchCommand,handleCommand]
      split
      · exact path.of_trail rfl
      · exact path
    | _ => exact .inr ⟨fun _ => id,path.of_trail rfl⟩
  | coldRestart signal =>
    cases signal with
    | fire =>
      simp only [handleInterrupt,handleColdRestart,Interrupt.Assigns]
      split
      next dormant => exact .inr ⟨fun target assigns => by simp [dormant] at assigns,path.of_trail rfl⟩
      next awake => exact .inl ⟨.restarting,⟨eq_false_of_ne_true awake,rfl⟩,rfl⟩
    | skipped reason => exact .inr ⟨fun _ => id,path.of_trail rfl⟩
  | agentEvent event =>
    exact .inr ⟨fun _ => id,path.of_trail (handleAgentEvent_trail event turn.later)⟩

end Interrupts

end StateMachine

namespace Process

variable {codec : MarkerCodec} {p : Process} {t : Turn}

/-- After a history has begun, an interrupt sets another state without recording it. -/
def AssignsUnrecorded (codec : MarkerCodec) (p : Process) (t : Turn) : Prop :=
  ∃ ready effects interrupt target, p.status = .running ∧
    p.machine.prelude codec t = some (ready,effects) ∧
    (ready.select t).1 = .interrupted interrupt ∧ interrupt.Assigns ready.state target ∧
    target ≠ ready.state ∧ ready.transitionHistory ≠ []

/-- What parts the history from the state: an error result, or an assignment that is not recorded. -/
def LeavesPath (codec : MarkerCodec) (p : Process) (t : Turn) : Prop :=
  p.Errs codec t ∨ p.AssignsUnrecorded codec t

theorem leavesPath_iff {ready : StateMachine} {effects : List LoopEffect}
    (running : p.status = .running) (preluded : p.machine.prelude codec t = some (ready,effects)) :
    p.LeavesPath codec t ↔
      (∃ message, (ready.select t).1 = .transitioned (.ok (.error message)) ∧
        .error message ≠ ready.state) ∨
      ∃ interrupt target, (ready.select t).1 = .interrupted interrupt ∧
        interrupt.Assigns ready.state target ∧ target ≠ ready.state ∧ ready.transitionHistory ≠ [] := by
  refine or_congr ⟨?_,?_⟩ ⟨?_,?_⟩
  · rintro ⟨message,source,⟨other,more,-,same,selected,rfl⟩,apart⟩
    cases preluded.symm.trans same
    exact ⟨message,selected,apart⟩
  · rintro ⟨message,selected,apart⟩
    exact ⟨message,ready.state,⟨ready,effects,running,preluded,selected,rfl⟩,apart⟩
  · rintro ⟨other,more,interrupt,target,-,same,taken,assigns,apart,begun⟩
    cases preluded.symm.trans same
    exact ⟨interrupt,target,taken,assigns,apart,begun⟩
  · rintro ⟨interrupt,target,taken,assigns,apart,begun⟩
    exact ⟨ready,effects,interrupt,target,running,preluded,taken,assigns,apart,begun⟩

/-- An interrupt keeps the path unless it assigns another state to a machine with a history. -/
theorem interrupted_path_iff {ready : StateMachine} (path : ready.HistoryIsPath) {interrupt : Interrupt}
    {after : StateMachine}
    (same : after.trail = ((ready.afterSelect t).handleInterrupt interrupt t).1.trail) :
    after.HistoryIsPath ↔ ¬ ∃ target, interrupt.Assigns ready.state target ∧
      target ≠ ready.state ∧ ready.transitionHistory ≠ [] := by
  have selected := @StateMachine.afterSelect_trail ready t
  obtain ⟨entries,state⟩ := Prod.mk.inj selected
  have handled := StateMachine.handleInterrupt_path (path.of_trail selected) interrupt t
  rw [state,entries] at handled
  rcases handled with ⟨target,assigns,trail⟩ | ⟨nothing,kept⟩
  · obtain ⟨history,there⟩ := Prod.mk.inj (same.trans trail)
    have only : (∃ target, interrupt.Assigns ready.state target ∧ target ≠ ready.state ∧
        ready.transitionHistory ≠ []) ↔ target ≠ ready.state ∧ ready.transitionHistory ≠ [] := by
      constructor
      · rintro ⟨other,also,apart⟩
        exact also.unique assigns ▸ apart
      · exact fun apart => ⟨target,assigns,apart⟩
    rw [only]
    unfold StateMachine.HistoryIsPath
    rw [history,there]
    by_cases stays : target = ready.state
    · rw [stays]
      exact iff_of_true path (fun moved => moved.1 rfl)
    · rw [path.moved_iff fun equal => stays (assigns.display equal)]
      simp [stays]
  · refine iff_of_true (kept.of_trail same) ?_
    rintro ⟨target,assigns,-⟩
    exact nothing target assigns

theorem step_path_iff (path : p.machine.HistoryIsPath) :
    (p.step codec t).machine.HistoryIsPath ↔ ¬ p.LeavesPath codec t := by
  by_cases passes : ∃ ready effects, p.status = .running ∧
      p.machine.prelude codec t = some (ready,effects)
  · obtain ⟨ready,effects,running,preluded⟩ := passes
    have begun := StateMachine.prelude_path path preluded
    have stepped := stepped running preluded
    have selected := begun.of_trail (@StateMachine.afterSelect_trail ready t)
    rw [leavesPath_iff running preluded]
    generalize p.step codec t = q at stepped ⊢
    cases stepped with
    | handled interrupt taken apart =>
      rw [interrupted_path_iff begun rfl]
      simp [taken]
    | ended interrupt taken ends =>
      have iff_ := @interrupted_path_iff t ready begun interrupt
        ((ready.afterSelect t).handleInterrupt interrupt t).1.stopSocat rfl
      rw [iff_]
      simp [taken]
    | failed error taken => simp [taken,selected]
    | stayed taken status =>
      refine iff_of_true selected ?_
      rintro (⟨message,returned,apart⟩ | ⟨interrupt,target,interrupted,-⟩)
      · rw [taken] at returned
        exact apart (by simpa using returned.symm)
      · rw [taken] at interrupted
        cases interrupted
    | moved next apart taken status =>
      have there := StateMachine.afterSelect_state ready t
      rw [StateMachine.applyTransition_path_iff selected (there.symm ▸ apart),taken]
      constructor
      · rintro spared (⟨message,returned,-⟩ | ⟨interrupt,target,interrupted,-⟩)
        · cases returned
          exact spared message rfl
        · cases interrupted
      · rintro keeps message rfl
        exact keeps (.inl ⟨message,rfl,apart⟩)
  · have stops : ∀ ready effects, p.status = .running →
        p.machine.prelude codec t ≠ some (ready,effects) :=
      fun ready effects running preluded => passes ⟨ready,effects,running,preluded⟩
    rw [show (p.step codec t).machine = p.machine from (turn_of_stopped stops).1]
    refine iff_of_true path ?_
    rintro (⟨message,source,⟨ready,effects,running,preluded,-⟩,-⟩ |
      ⟨ready,effects,interrupt,target,running,preluded,-⟩)
    · exact stops ready effects running preluded
    · exact stops ready effects running preluded

end Process

/-- From the start, the history of every state reached is a path of at most a hundred entries to
that state exactly when no handler results in an error and nothing sets another state without
recording it once the history has begun. -/
theorem history_path_iff (codec : MarkerCodec) (config : Config) (recoveryConfig : RecoveryConfig)
    (files : Files.Directory) (settingsDir : String) (now : Clocks) (turns : List Turn) :
    let start := Process.start codec config recoveryConfig files settingsDir now
    start.machine.HistoryIsPath ∧
      (Runs.Along (Process.step codec) (fun p t => (p.step codec t).machine.HistoryIsPath) start
          turns ↔
        Runs.Along (Process.step codec) (fun p t => ¬ p.LeavesPath codec t) start turns) := by
  intro start
  have began : start.machine.HistoryIsPath :=
    @StateMachine.gates_path (StateMachine.new codec config recoveryConfig files settingsDir now)
      (PathTo.nil State.init) rfl now
  exact ⟨began,Runs.along_iff (P := fun p => p.machine.HistoryIsPath)
    (fun p t path => Process.step_path_iff path) (fun p t _ kept => kept) began⟩

/-- A launch is under way when RESTART comes: the history ends in Launching. -/
theorem history_parted :
    let p := booted.step sampleCodec (turnAt (sampleClocks 61) none)
    let q := p.step sampleCodec (turnAt (sampleClocks 62) (some (.command .restart)))
    (q.machine.state = .restarting ∧
      q.machine.transitionHistory.getLast?.map Transition.toState = some "Launching") ∧
      ¬ q.machine.HistoryIsPath := by
  intro p q
  have reached : q.machine.state = .restarting ∧
      q.machine.transitionHistory.getLast?.map Transition.toState = some "Launching" := by
    decide +kernel
  refine ⟨reached,fun path => ?_⟩
  obtain ⟨last,ends,named⟩ := Option.map_eq_some_iff.mp reached.2
  have same := path.ends last ends
  rw [reached.1,named] at same
  exact absurd same (by decide)

end Ibctl.Machine
