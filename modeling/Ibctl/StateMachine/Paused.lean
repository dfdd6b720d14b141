import Ibctl.StateMachine.GiveUp
import Ibctl.StateMachine.Stepping

/-! A paused machine. The pause is looked at only where the handler would be polled; the checks
at the top of an iteration run all the same, and two of them assign the state: the check of the
IB system and the tick that gives up. -/
namespace Ibctl.Machine
open Tasks Recovery

namespace StateMachine

variable {codec : MarkerCodec} {sm : StateMachine} {turn : Turn}

section Frames

@[simp] theorem recordTransition_pause (source target : State) (at_ : Clocks) :
    (sm.recordTransition source target at_).pause = sm.pause := by
  unfold recordTransition
  split <;> rfl

@[simp] theorem moveTo_pause (target : State) (at_ : Clocks) :
    (sm.moveTo target at_).pause = sm.pause :=
  @recordTransition_pause { sm with state := target } sm.state target at_

@[simp] theorem fireDwell_pause (fires : Option Clocks) :
    (sm.fireDwell fires).pause = sm.pause := by
  unfold fireDwell
  split
  · split <;> rfl
  · rfl

theorem handleAgentEvent_pause (event : AgentEvent) (at_ : Clocks) :
    (sm.handleAgentEvent event at_).1.pause = sm.pause := by
  cases event with
  | errorDialog title message buttons =>
    simp only [handleAgentEvent,noteTwofaFailure]
    split
    · split <;> rfl
    · rfl
  | connectionStatusChanged fromStatus toStatus =>
    simp only [handleAgentEvent,noteConnectionStatus]
    split
    · rfl
    · split
      · rfl
      · split <;> rfl
  | _ => rfl

theorem handleAgentEvents_pause (at_ : Clocks) (events : List AgentEvent) :
    (handleAgentEvents at_ events sm).1.pause = sm.pause := by
  induction events generalizing sm with
  | nil => rfl
  | cons event rest ih =>
    simp only [handleAgentEvents]
    rw [ih]
    exact handleAgentEvent_pause event at_

theorem checks_pause : (sm.checks turn).pause = sm.pause := by
  have timed : ((sm.fireDwell turn.dwellFires).checkIbStatusTtl turn.now).pause = sm.pause := by
    refine Eq.trans ?_ (fireDwell_pause turn.dwellFires)
    unfold checkIbStatusTtl
    split
    · rfl
    · split <;> rfl
  unfold checks checkIbSystemAvailability
  split
  · exact timed
  · split
    · exact timed
    · split
      · exact timed
      · exact (moveTo_pause _ _).trans timed

theorem drainDwell_pause (io : Nat → SaveIo) (n : Nat) (messages : List Clocks) :
    (drainDwell codec io n messages sm).pause = sm.pause := by
  induction messages generalizing n sm with
  | nil => rfl
  | cons dwell rest ih =>
    simp only [drainDwell]
    split
    · exact ih (n + 1)
    · split
      · exact ih (n + 1)
      · exact ih (n + 1)

theorem takeDwellSuccesses_pause : (sm.takeDwellSuccesses codec turn).pause = sm.pause := by
  unfold takeDwellSuccesses
  split
  · exact drainDwell_pause _ _ _
  · exact drainDwell_pause _ _ _

theorem afterApply_pause (applied : AppliedAction) :
    (sm.afterApply applied turn).1.pause = sm.pause := by
  cases applied with
  | firedGiveUpAlert =>
    simp only [afterApply,giveUpHalt]
    split
    · rfl
    · rfl
    · rfl
    · exact moveTo_pause _ _
  | resumedToAggressive =>
    simp only [afterApply]
    split
    · exact moveTo_pause _ _
    · rfl
  | _ => rfl

theorem prelude_pause {ready : StateMachine} {effects : List LoopEffect}
    (preluded : sm.prelude codec turn = some (ready,effects)) : ready.pause = sm.pause := by
  have drained := (@takeDwellSuccesses_pause codec (sm.checks turn) turn).trans checks_pause
  unfold prelude tickRecovery at preluded
  simp only at preluded
  split at preluded
  · unfold driveRecovery at preluded
    split at preluded
    · cases preluded
    · simp only at preluded
      split at preluded
      · cases preluded
        exact drained
      next applied result =>
        cases preluded
        exact (afterApply_pause applied).trans drained
  · cases preluded
    exact drained

theorem select_pause : (sm.select turn).2.1.pause = sm.pause := by
  unfold select
  split
  · simp only
    split <;> rfl
  · split <;> rfl

theorem afterSelect_pause : (sm.afterSelect turn).pause = sm.pause :=
  (handleAgentEvents_pause _ _).trans ((fireDwell_pause _).trans select_pause)

end Frames

/-- Nothing is polled while the machine is paused. -/
theorem polls_of_paused (paused : sm.pause.paused = true) : sm.polls turn = false := by
  simp [polls,paused]

/-- A paused select takes an interrupt, or the half second passes. -/
theorem select_paused (paused : sm.pause.paused = true) :
    (sm.select turn).2.2 = [] ∧
      ((sm.select turn).1 = .transitioned (.ok sm.state) ∨
        ∃ interrupt, turn.interrupt = some interrupt ∧
          (sm.select turn).1 = .interrupted interrupt) := by
  unfold select
  rw [if_neg (by simp [polls_of_paused paused])]
  cases selectable : turn.selectable sm.state with
  | none => exact ⟨rfl,.inl rfl⟩
  | some interrupt =>
    exact ⟨rfl,.inr ⟨interrupt,turn.interrupt_of_selectable selectable,rfl⟩⟩

end StateMachine

end Ibctl.Machine

namespace Ibctl.Recovery.RecoveryCoordinator

variable {codec : MarkerCodec} (coord : RecoveryCoordinator)

/-- The tick gives up: no fingerprint streak is ever counted, so a bound of none is always
reached; otherwise the backoff has lasted its time. -/
def DueToGiveUp (now : Clocks) : Prop :=
  coord.config.disabled = false ∧ coord.config.autonomous = false ∧ coord.phase ≠ .givenUp ∧
    (coord.config.fingerprintStreakForcingHitl = 0 ∨
      (coord.phase = .backoffEvery15Min ∧
        coord.config.backoffPhaseMaxSecs ≤ coord.phaseElapsedSecs now))

instance (now : Clocks) : Decidable (coord.DueToGiveUp now) :=
  inferInstanceAs (Decidable (_ ∧ _))

variable {coord}

theorem compute_givesUp_iff {now : Clocks} {token : Option ResumeToken} :
    (coord.compute now false token 0 = some .fireGiveUpAlert ∨
      coord.compute now false token 0 = some .forceHitlEarly) ↔ coord.DueToGiveUp now := by
  unfold compute DueToGiveUp
  rw [computeNextAction_fire_iff,computeNextAction_force_iff]
  constructor
  · rintro (⟨enabled,-,phase,attended,-,exhausted⟩ | ⟨enabled,-,phase,attended,streak⟩)
    · refine ⟨enabled,attended,?_,.inr ⟨phase,exhausted⟩⟩
      rw [show coord.phase = .backoffEvery15Min from phase]
      decide
    · exact ⟨enabled,attended,phase,.inl (by simpa using streak)⟩
  · rintro ⟨enabled,attended,phase,due⟩
    by_cases bound : coord.config.fingerprintStreakForcingHitl = 0
    · exact .inr ⟨enabled,rfl,phase,attended,by simp [bound]⟩
    · obtain ⟨backoff,exhausted⟩ := due.resolve_left bound
      exact .inl ⟨enabled,rfl,backoff,attended,Nat.pos_of_ne_zero bound,exhausted⟩

theorem persistThen_ok_iff {α : Type} {files : Files.Directory} {io : SaveIo} {value answered : α}
    {sent : List RecoveryGaveUp} :
    (coord.persistThen codec files io value sent).result = .ok answered ↔
      io = .ok ∧ value = answered := by
  by_cases written : io = .ok
  · rw [written,(persistThen_written codec coord files value sent).1]
    simp
  · obtain ⟨error,failed⟩ := (persistThen_failed codec coord files written value sent).1
    simp [failed,written]

/-- An action is answered with a halt when it gives up and its marker is written. -/
theorem apply_halts_iff {files : Files.Directory} {action : NextAction} {now : Clocks}
    {token : Option ResumeToken} {io : SaveIo}
    (phase : action = .fireGiveUpAlert ∨ action = .forceHitlEarly → coord.phase ≠ .givenUp) :
    (coord.apply codec files action now token io).result = .ok .firedGiveUpAlert ↔
      (action = .fireGiveUpAlert ∨ action = .forceHitlEarly) ∧ io = .ok := by
  have halts : coord.phase ≠ .givenUp →
      ((coord.giveUp codec files now io).result = .ok .firedGiveUpAlert ↔ io = .ok) := by
    intro open_
    rw [giveUp,if_neg fun sent => open_ sent.1,persistThen_ok_iff]
    simp
  cases action with
  | fireGiveUpAlert => simpa [apply] using halts (phase (.inl rfl))
  | forceHitlEarly => simpa [apply] using halts (phase (.inr rfl))
  | resumeAutomatically => simp [apply,persistThen_ok_iff]
  | escalateToBackoff => simp [apply,persistThen_ok_iff]
  | resumeToAggressive =>
    cases token with
    | none => simp [apply]
    | some token =>
      by_cases replay : coord.resumedByTokenHash = some (hashToken token)
      · simp [apply,replay]
      · simp [apply,replay,persistThen_ok_iff]
  | sleep duration => simp [apply]
  | deferToColdRestart => simp [apply]

end Ibctl.Recovery.RecoveryCoordinator

namespace Ibctl.Machine
open Tasks Recovery

/-- The JVM is killed, by the loop or by a handler. -/
def LoopEffect.Kills : LoopEffect → Prop
  | .killedJvm => True
  | .handler effect => effect = .gateway .killedJvm
  | _ => False

instance (effect : LoopEffect) : Decidable effect.Kills := by
  cases effect <;> unfold LoopEffect.Kills <;> infer_instance

namespace StateMachine

variable {codec : MarkerCodec} {sm : StateMachine} {turn : Turn}

/-- A part of the prelude that ends leaves the state and the JVM alone. -/
def Leaves (sm : StateMachine) (ended : Option (StateMachine × List LoopEffect)) : Prop :=
  ∀ ready effects, ended = some (ready,effects) →
    ready.state = sm.state ∧ ∀ effect ∈ effects, ¬ effect.Kills

theorem leaves_some {ready : StateMachine} {effects : List LoopEffect} :
    sm.Leaves (some (ready,effects)) ↔
      ready.state = sm.state ∧ ∀ effect ∈ effects, ¬ effect.Kills := by
  simp [Leaves]

/-- What the coordinator sends kills nobody. -/
theorem sent_harmless (sent : List RecoveryGaveUp) (effects : List LoopEffect) :
    (∀ effect ∈ sent.map .gaveUp ++ effects, ¬ effect.Kills) ↔
      ∀ effect ∈ effects, ¬ effect.Kills := by
  simp only [List.forall_mem_append,List.forall_mem_map]
  exact and_iff_right fun _ _ => id

theorem state_of_active {state : State} (active : sm.state.activeRecovery = true)
    (dormant : state.activeRecovery = false) : state ≠ sm.state := by
  intro same
  rw [same,active] at dormant
  cases dormant

theorem giveUpHalt_state (active : sm.state.activeRecovery = true) :
    (sm.giveUpHalt turn).1.state = .waitingForLaunch := by
  have halted : ∀ state, state.activeRecovery = false → sm.state ≠ state :=
    fun state dormant same => state_of_active active dormant same.symm
  unfold giveUpHalt
  split
  next parked => exact absurd parked (halted _ (by decide))
  next ended => exact absurd ended (halted _ (by decide))
  next message errs => exact absurd errs (halted _ (by simp [State.activeRecovery]))
  · exact moveTo_state _ _ _

/-- Of the applied actions only the alert of a give-up takes an active machine elsewhere. -/
theorem afterApply_leaves_iff (active : sm.state.activeRecovery = true) (applied : AppliedAction) :
    sm.Leaves (some (sm.afterApply applied turn)) ↔ applied ≠ .firedGiveUpAlert := by
  cases applied with
  | firedGiveUpAlert =>
    refine iff_of_false (fun leaves => ?_) (by simp)
    have same := (leaves (sm.giveUpHalt turn).1 (sm.giveUpHalt turn).2 rfl).1
    rw [giveUpHalt_state active] at same
    exact state_of_active active (by decide) same
  | resumedToAggressive =>
    have apart : sm.state ≠ .waitingForLaunch := (state_of_active active (by decide)).symm
    simp [Leaves,afterApply,apart]
  | _ => simp [Leaves,afterApply]

theorem driveRecovery_leaves_iff (active : sm.state.activeRecovery = true) :
    sm.Leaves (sm.driveRecovery codec turn) ↔
      ¬ (sm.recovery.DueToGiveUp turn.now ∧ turn.applyIo = .ok) := by
  have due := @RecoveryCoordinator.compute_givesUp_iff sm.recovery turn.now sm.pendingResumeToken
  unfold driveRecovery tickAction
  cases decided : sm.recovery.compute turn.now false sm.pendingResumeToken 0 with
  | none =>
    rw [decided] at due
    have quiet : ¬ sm.recovery.DueToGiveUp turn.now := fun gives => by simpa using due.mpr gives
    simp [Leaves,quiet]
  | some action =>
    rw [decided] at due
    simp only [Option.some.injEq] at due
    have halts : (sm.recovery.apply codec sm.files action turn.now sm.pendingResumeToken
        turn.applyIo).result = .ok .firedGiveUpAlert ↔
        sm.recovery.DueToGiveUp turn.now ∧ turn.applyIo = .ok := by
      rw [RecoveryCoordinator.apply_halts_iff fun gives => (due.mp gives).2.2.1,due]
    rw [← halts]
    simp only
    cases answered : (sm.recovery.apply codec sm.files action turn.now sm.pendingResumeToken
        turn.applyIo).result with
    | error error => simp [Leaves]
    | ok applied =>
      have after := @afterApply_leaves_iff
        { sm with
          pendingResumeToken := none
          recovery := (sm.recovery.apply codec sm.files action turn.now sm.pendingResumeToken
            turn.applyIo).coord
          files := (sm.recovery.apply codec sm.files action turn.now sm.pendingResumeToken
            turn.applyIo).files } turn active applied
      rw [Except.ok.injEq,leaves_some,sent_harmless]
      exact leaves_some.symm.trans after

/-- What a dwell report does to the coordinator depends on the state, on the coordinator and on
the disk. -/
theorem drainDwell_recovery_congr (io : Nat → SaveIo) (n : Nat) (messages : List Clocks)
    {sm other : StateMachine} (state : sm.state = other.state)
    (recovery : sm.recovery = other.recovery) (files : sm.files = other.files) :
    (drainDwell codec io n messages sm).recovery =
      (drainDwell codec io n messages other).recovery := by
  induction messages generalizing n sm other with
  | nil => exact recovery
  | cons dwell rest ih =>
    simp only [drainDwell]
    rw [← state,← recovery,← files]
    split
    · exact ih (n + 1) state recovery files
    · split
      · exact ih (n + 1) rfl rfl rfl
      · exact ih (n + 1) rfl rfl rfl

/-- What the tick consults of the machine. -/
def consulted (sm : StateMachine) : State × RecoveryCoordinator × Files.Directory × List Clocks :=
  (sm.state,sm.recovery,sm.files,sm.dwellQueue)

theorem takeDwellSuccesses_recovery_congr {other : StateMachine}
    (same : sm.consulted = other.consulted) :
    (sm.takeDwellSuccesses codec turn).recovery =
      (other.takeDwellSuccesses codec turn).recovery := by
  simp only [consulted,Prod.mk.injEq] at same
  obtain ⟨state,recovery,files,queue⟩ := same
  unfold takeDwellSuccesses
  simp only
  rw [← state]
  split
  · rw [← queue]
    exact drainDwell_recovery_congr _ _ _ rfl recovery files
  · rw [← queue]
    exact drainDwell_recovery_congr _ _ _ state recovery files

/-- The check of the IB system moves the machine into the wait for it, or keeps all that the
tick consults. -/
theorem checks_cases (sm : StateMachine) (turn : Turn) :
    sm.leavesForIb turn.now ∧ (sm.checks turn).state = .waitingForIB ∨
      ¬ sm.leavesForIb turn.now ∧
        (sm.checks turn).consulted = (sm.fireDwell turn.dwellFires).consulted := by
  have timed : ((sm.fireDwell turn.dwellFires).checkIbStatusTtl turn.now).consulted =
      (sm.fireDwell turn.dwellFires).consulted := by
    unfold checkIbStatusTtl
    split
    · rfl
    · split <;> rfl
  have standing := (checkIbStatusTtl_standing (sm.fireDwell turn.dwellFires) turn.now).trans
    (fireDwell_standing sm turn.dwellFires)
  have there := state_of_standing standing
  have config := config_of_core (core_of_standing standing)
  unfold checks leavesForIb ibReachable
  rw [← @fireDwell_ibStatus sm turn.dwellFires turn.now]
  generalize (sm.fireDwell turn.dwellFires).checkIbStatusTtl turn.now = checked at *
  rw [← there,← config]
  unfold checkIbSystemAvailability
  split
  next reachable => exact .inr ⟨fun leaves => leaves.1 reachable,timed⟩
  next unavailable =>
    split
    next aside => exact .inr ⟨fun leaves => leaves.2.1 aside,timed⟩
    next elsewhere =>
      split
      next spared => exact .inr ⟨fun leaves => leaves.2.2 spared,timed⟩
      next kicked => exact .inl ⟨⟨unavailable,elsewhere,kicked⟩,moveTo_state _ _ _⟩

theorem tickRecovery_leaves_iff :
    sm.Leaves (sm.tickRecovery codec turn) ↔
      ¬ (sm.state.activeRecovery = true ∧
        (sm.takeDwellSuccesses codec turn).recovery.DueToGiveUp turn.now ∧ turn.applyIo = .ok) := by
  have state := (@takeDwellSuccesses_rest codec sm turn).1
  unfold tickRecovery
  simp only
  rw [state]
  split
  next active =>
    have driven := @driveRecovery_leaves_iff codec (sm.takeDwellSuccesses codec turn) turn
      (by rwa [state])
    unfold Leaves at driven ⊢
    rw [state] at driven
    rw [driven]
    simp [active]
  next dormant => simp [Leaves,state,dormant]

instance (now : Clocks) : Decidable (sm.leavesForIb now) :=
  inferInstanceAs (Decidable (_ ∧ _ ∧ ¬ _))

/-- The machine is not taken away at the top of its iteration: the IB system is there, or the
present state does not depend on it, and the coordinator is not about to give up, or not on
an active state, or cannot write its marker. The dwell reports that wait count before it. -/
def Undisturbed (codec : MarkerCodec) (sm : StateMachine) (turn : Turn) : Prop :=
  ¬ sm.leavesForIb turn.now ∧
    ¬ (sm.state.activeRecovery = true ∧
      ((sm.fireDwell turn.dwellFires).takeDwellSuccesses codec turn).recovery.DueToGiveUp turn.now ∧
      turn.applyIo = .ok)

theorem prelude_leaves_iff :
    sm.Leaves (sm.prelude codec turn) ↔ sm.Undisturbed codec turn := by
  unfold prelude Undisturbed
  obtain ⟨leaves,waits⟩ | ⟨stays,checked⟩ := checks_cases sm turn
  · refine iff_of_false (fun kept => ?_) (fun undisturbed => undisturbed.1 leaves)
    obtain ⟨ticked,there,same⟩ := @tickRecovery_dormant codec (sm.checks turn) turn
      (by rw [waits]; decide)
    have home := (kept ticked [] there).1
    rw [state_of_standing same,waits] at home
    exact leaves.2.1 (by simp [← home])
  · have state := (congrArg Prod.fst checked).trans
      (state_of_standing (fireDwell_standing sm turn.dwellFires))
    have ticked := @tickRecovery_leaves_iff codec (sm.checks turn) turn
    rw [takeDwellSuccesses_recovery_congr checked] at ticked
    unfold Leaves at ticked ⊢
    rw [show (sm.checks turn).state = sm.state from state] at ticked
    rw [ticked]
    simp [stays]

end StateMachine

/-- What arrives while nobody asks for anything: agent events, and the word of the coordinator
that it gave up. -/
def Interrupt.Quiet : Interrupt → Prop
  | .agentEvent _ => True
  | .signal (.recoveryGaveUp ..) => True
  | _ => False

/-- No command, OS signal or cold restart arrives with the turn. -/
def Turn.Quiet (turn : Turn) : Prop :=
  ∀ interrupt, turn.interrupt = some interrupt → interrupt.Quiet

namespace StateMachine

variable {codec : MarkerCodec} {sm : StateMachine} {turn : Turn}

theorem handleAgentEvent_harmless (event : AgentEvent) (at_ : Clocks) :
    ∀ effect ∈ (sm.handleAgentEvent event at_).2, ¬ effect.Kills := by
  cases event with
  | errorDialog title message buttons =>
    simp only [handleAgentEvent,noteTwofaFailure]
    split
    · intro effect member
      simp only [List.mem_cons,List.not_mem_nil,or_false] at member
      rcases member with rfl | rfl
      · exact id
      · exact id
    · simp
  | _ => simp [handleAgentEvent]

theorem handleAgentEvents_harmless (at_ : Clocks) (events : List AgentEvent) :
    ∀ effect ∈ (handleAgentEvents at_ events sm).2, ¬ effect.Kills := by
  induction events generalizing sm with
  | nil => simp [handleAgentEvents]
  | cons event rest ih =>
    simp only [handleAgentEvents,List.forall_mem_append]
    exact ⟨handleAgentEvent_harmless event at_,ih⟩

theorem handleInterrupt_quiet {interrupt : Interrupt} (quiet : interrupt.Quiet) :
    (sm.handleInterrupt interrupt turn).1.state = sm.state ∧
      (sm.handleInterrupt interrupt turn).1.pause = sm.pause ∧
      ∀ effect ∈ (sm.handleInterrupt interrupt turn).2, ¬ effect.Kills := by
  cases interrupt with
  | signal signal =>
    cases signal with
    | recoveryGaveUp mode entered => exact ⟨rfl,rfl,by simp [handleInterrupt]⟩
    | _ => exact absurd quiet id
  | command command => exact absurd quiet id
  | coldRestart signal => exact absurd quiet id
  | agentEvent event =>
    exact ⟨state_of_standing (handleAgentEvent_standing sm event turn.later),
      handleAgentEvent_pause event turn.later,handleAgentEvent_harmless event turn.later⟩

/-- After the prelude a paused machine that nobody asks anything of stands still. -/
theorem afterPrelude_paused (paused : sm.pause.paused = true) (quiet : turn.Quiet)
    (alive : sm.state ≠ .shutdown) :
    (sm.afterPrelude turn).process.machine.state = sm.state ∧
      (sm.afterPrelude turn).process.machine.pause = sm.pause ∧
      ∀ effect ∈ (sm.afterPrelude turn).effects, ¬ effect.Kills := by
  obtain ⟨silent,selected⟩ := @select_paused sm turn paused
  have there := afterSelect_state sm turn
  have kept := @afterSelect_pause sm turn
  have settled :
      ((sm.afterSelect turn).settle (sm.select turn).1 turn).process.machine.state = sm.state ∧
      ((sm.afterSelect turn).settle (sm.select turn).1 turn).process.machine.pause = sm.pause ∧
      ∀ effect ∈ ((sm.afterSelect turn).settle (sm.select turn).1 turn).effects,
        ¬ effect.Kills := by
    rcases selected with stays | ⟨interrupt,taken,interrupted⟩
    · rw [stays]
      simp [settle,there,kept]
    · rw [interrupted]
      obtain ⟨state,pause,harmless⟩ :=
        @handleInterrupt_quiet (sm.afterSelect turn) turn interrupt (quiet interrupt taken)
      have open_ : ((sm.afterSelect turn).handleInterrupt interrupt turn).1.state ≠ .shutdown := by
        rwa [state,there]
      simp only [settle]
      rw [if_neg open_]
      exact ⟨state.trans there,pause.trans kept,harmless⟩
  refine ⟨settled.1,settled.2.1,?_⟩
  unfold afterPrelude
  simp only
  rw [silent,List.nil_append]
  exact List.forall_mem_append.mpr ⟨handleAgentEvents_harmless _ _,settled.2.2⟩

end StateMachine

namespace Process

variable {codec : MarkerCodec} {p : Process} {t : Turn}

/-- The iteration leaves the machine in its state and kills no JVM. -/
def Frozen (codec : MarkerCodec) (p : Process) (t : Turn) : Prop :=
  (p.step codec t).machine.state = p.machine.state ∧
    ∀ effect ∈ (p.turn codec t).effects, ¬ effect.Kills

def Undisturbed (codec : MarkerCodec) (p : Process) (t : Turn) : Prop :=
  p.status = .running → p.machine.Undisturbed codec t

/-- A process whose machine is shut down has ended. -/
def Alive (p : Process) : Prop := p.status = .running → p.machine.state ≠ .shutdown

theorem start_alive (codec : MarkerCodec) (config : Config) (recoveryConfig : RecoveryConfig)
    (files : Files.Directory) (settingsDir : String) (now : Clocks) :
    (start codec config recoveryConfig files settingsDir now).Alive := by
  intro _
  obtain ⟨-,same | parked⟩ := @StateMachine.gates_moves
    (StateMachine.new codec config recoveryConfig files settingsDir now) now
  · rw [start,same]
    exact fun there => absurd there (by simp [StateMachine.new])
  · rw [start,parked]
    decide

theorem settle_alive (sm : StateMachine) (outcome : SelectOutcome) (turn : Turn) :
    (sm.settle outcome turn).process.Alive := by
  cases outcome with
  | interrupted interrupt =>
    simp only [StateMachine.settle]
    split
    · exact fun runs => absurd runs (by simp)
    next apart => exact fun _ => apart
  | transitioned result =>
    cases result with
    | error error => exact fun runs => absurd runs (by simp [StateMachine.settle])
    | ok next =>
      intro runs ended
      simp only [StateMachine.settle] at runs ended
      rw [if_pos ended] at runs
      cases runs

theorem step_alive (p : Process) (t : Turn) : (p.step codec t).Alive := by
  obtain ⟨-,stopped⟩ | ⟨ready,effects,running,preluded,-⟩ := @step_cases codec p t
  · exact fun runs => absurd runs stopped
  · rw [step,turn_of_prelude running preluded]
    exact settle_alive _ _ t

/-- What stays of a paused process while nobody asks anything of it. -/
theorem step_paused (paused : p.machine.pause.paused = true) (alive : p.Alive) (quiet : t.Quiet) :
    (p.step codec t).machine.pause = p.machine.pause ∧
      (p.Frozen codec t ↔ p.Undisturbed codec t) := by
  unfold Frozen Undisturbed
  by_cases stopped : ∀ ready effects, p.status = .running →
      p.machine.prelude codec t ≠ some (ready,effects)
  · obtain ⟨same,silent⟩ := turn_of_stopped stopped
    rw [step,same,silent]
    refine ⟨rfl,iff_of_true ⟨rfl,by simp⟩ fun running => ?_⟩
    rw [← StateMachine.prelude_leaves_iff]
    exact fun ready effects preluded => absurd preluded (stopped ready effects running)
  · simp only [not_forall,not_not] at stopped
    obtain ⟨ready,effects,running,preluded⟩ := stopped
    have held := StateMachine.prelude_pause preluded
    have open_ : ready.state ≠ .shutdown := by
      rcases (StateMachine.prelude_moves preluded).2 with same | waits | parks
      · rw [same]
        exact alive running
      · rw [waits]; decide
      · rw [parks]; decide
    obtain ⟨state,pause,harmless⟩ :=
      StateMachine.afterPrelude_paused (by rwa [held]) quiet open_
    rw [step,turn_of_prelude running preluded]
    refine ⟨pause.trans held,?_⟩
    simp only [running,forall_const]
    rw [← StateMachine.prelude_leaves_iff,preluded,StateMachine.leaves_some,state,
      List.forall_mem_append]
    simp only [and_iff_left harmless]

end Process

/-- In every process that was reached and is paused, while no command, OS signal or cold restart
arrives, the state stands and no JVM is killed exactly as long as neither the IB system nor a
give-up takes the machine away at the top of an iteration. -/
theorem pause_freezes_iff (codec : MarkerCodec) (config : Config) (recoveryConfig : RecoveryConfig)
    (files : Files.Directory) (settingsDir : String) (now : Clocks) (past turns : List Turn)
    (paused : (Runs.run (Process.step codec)
      (Process.start codec config recoveryConfig files settingsDir now) past).machine.pause.paused
        = true)
    (quiet : ∀ t ∈ turns, t.Quiet) :
    let p := Runs.run (Process.step codec)
      (Process.start codec config recoveryConfig files settingsDir now) past
    Runs.Along (Process.step codec) (Process.Frozen codec) p turns ↔
      Runs.Along (Process.step codec) (Process.Undisturbed codec) p turns := by
  intro p
  have alive : p.Alive := by
    rcases List.eq_nil_or_concat past with rfl | ⟨before,last,rfl⟩
    · exact Process.start_alive codec config recoveryConfig files settingsDir now
    · unfold p
      rw [List.concat_eq_append,Runs.run_concat]
      exact Process.step_alive _ last
  refine Runs.Along.congr (G := fun _ t => t.Quiet)
    (P := fun q => q.machine.pause.paused = true ∧ q.Alive) ?_ ?_ ⟨paused,alive⟩
    (Runs.along_of_forall p turns fun t member _ => quiet t member)
  · rintro q t ⟨holds,lives⟩ silent
    rw [(@Process.step_paused codec q t holds lives silent).1]
    exact ⟨holds,Process.step_alive q t⟩
  · rintro q t ⟨holds,lives⟩ silent
    exact (Process.step_paused holds lives silent).2

/-- A paper site in backoff, paused a minute after its boot. -/
def pausedBackoff : Process :=
  Process.start sampleCodec paperConfig .default
    (Files.write Files.empty (markerName "paper") (sampleCodec.toVecPretty backoffSample))
    "/home/ibgateway/Jts" (sampleClocks 60)

def pauses : Turn := turnAt (sampleClocks 120) (some (.command .pause))

/-- Three hours later the paused site is parked and its JVM killed. -/
theorem paused_site_gives_up :
    let p := Runs.run (Process.step sampleCodec) pausedBackoff [pauses]
    let t := turnAt (sampleClocks 10860) none
    (p.machine.pause.paused = true ∧ p.machine.state = .init ∧ t.interrupt = none ∧
      (p.step sampleCodec t).machine.state = .waitingForLaunch ∧
      .killedJvm ∈ (p.turn sampleCodec t).effects) ∧
      ¬ Runs.Along (Process.step sampleCodec) (Process.Frozen sampleCodec) p [t] := by
  intro p t
  have moved : p.machine.pause.paused = true ∧ p.machine.state = .init ∧ t.interrupt = none ∧
      (p.step sampleCodec t).machine.state = .waitingForLaunch ∧
      .killedJvm ∈ (p.turn sampleCodec t).effects := by decide +kernel
  refine ⟨moved,fun frozen => ?_⟩
  have same := frozen.1.1
  rw [moved.2.1,moved.2.2.2.1] at same
  cases same

theorem pause_freezes_minute :
    Runs.Along (Process.step sampleCodec) (Process.Frozen sampleCodec)
      (Runs.run (Process.step sampleCodec) pausedBackoff [pauses])
      [turnAt (sampleClocks 180) none,turnAt (sampleClocks 181) (some (.agentEvent .overflow))] := by
  refine (pause_freezes_iff sampleCodec paperConfig .default _ "/home/ibgateway/Jts"
    (sampleClocks 60) [pauses] _ (by decide +kernel) ?_).mpr ?_
  · intro t member interrupt taken
    simp only [List.mem_cons,List.not_mem_nil,or_false] at member
    rcases member with rfl | rfl
    · cases taken
    · cases taken
      trivial
  · refine ⟨fun _ => ⟨?_,?_⟩,fun _ => ⟨?_,?_⟩,trivial⟩
    all_goals decide +kernel

end Ibctl.Machine
