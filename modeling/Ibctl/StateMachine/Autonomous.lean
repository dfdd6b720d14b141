import Ibctl.Recovery.Reading
import Ibctl.StateMachine.Dormancy
import Ibctl.StateMachine.GiveUp
import Ibctl.StateMachine.Stepping

/-! A coordinator that was configured never to give up. Its tick resumes a give-up by itself,
but no tick consults it in the park, where the refusal at boot has put the machine. -/
namespace Ibctl.Recovery

variable {codec : MarkerCodec} {self : RecoveryCoordinator}

structure RecoveryConfig.Autonomous (config : RecoveryConfig) : Prop where
  autonomous : config.autonomous = true
  enabled : config.disabled = false

namespace RecoveryCoordinator

/-- Nothing holds the machine back. -/
structure Awake (coord : RecoveryCoordinator) : Prop where
  phase : coord.phase ≠ .givenUp
  unblocked : coord.blockedAwaitingResume = false

theorem compute_givenUp (autonomous : self.config.Autonomous) (given : self.phase = .givenUp)
    (now : Clocks) (cold : Bool) (token : Option ResumeToken) (streak : Nat) :
    self.compute now cold token streak = some .resumeAutomatically :=
  (computeNextAction_resumeAutomatically_iff _ _).mpr
    ⟨autonomous.enabled,autonomous.autonomous,given⟩

/-- Whatever an autonomous coordinator decides for leaves it awake. -/
theorem apply_awake {files : Files.Directory} {now : Clocks} {cold : Bool}
    {token : Option ResumeToken} {streak : Nat} {io : SaveIo} {action : NextAction}
    (autonomous : self.config.Autonomous) (unblocked : self.blockedAwaitingResume = false)
    (computed : self.compute now cold token streak = some action) :
    (self.apply codec files action now token io).coord.Awake ∧
      (self.apply codec files action now token io).coord.config = self.config := by
  have ungiven : action ≠ .resumeAutomatically → self.phase ≠ .givenUp := by
    intro other given
    rw [compute_givenUp autonomous given] at computed
    exact other (Option.some.inj computed).symm
  have manual : ∀ {P : Prop}, self.config.autonomous = false → P := by
    intro P other
    rw [autonomous.autonomous] at other
    cases other
  cases action with
  | sleep d => exact ⟨⟨ungiven (by simp),unblocked⟩,rfl⟩
  | deferToColdRestart => exact ⟨⟨ungiven (by simp),unblocked⟩,rfl⟩
  | escalateToBackoff =>
    simp only [apply,persistThen_coord]
    exact ⟨⟨by simp,unblocked⟩,rfl⟩
  | resumeAutomatically =>
    simp only [apply,persistThen_coord]
    exact ⟨⟨by simp,rfl⟩,rfl⟩
  | fireGiveUpAlert =>
    obtain ⟨-,-,-,other,-⟩ := (computeNextAction_fire_iff _ _).mp computed
    exact manual other
  | forceHitlEarly =>
    obtain ⟨-,-,-,other,-⟩ := (computeNextAction_force_iff _ _).mp computed
    exact manual other
  | resumeToAggressive =>
    obtain ⟨-,-,-,other,-⟩ := (computeNextAction_resume_iff _ _).mp computed
    exact manual other

theorem recordSuccess_awake {files : Files.Directory} {recorded : Clocks} {io : SaveIo}
    (awake : self.Awake) : (self.recordSuccess codec files recorded io).coord.Awake ∧
      (self.recordSuccess codec files recorded io).coord.config = self.config := by
  rw [recordSuccess_coord]
  cases phase : self.phase with
  | givenUp => exact absurd phase awake.phase
  | aggressive => exact ⟨⟨by simp,awake.unblocked⟩,rfl⟩
  | backoffEvery15Min => exact ⟨⟨by simp,awake.unblocked⟩,rfl⟩

end RecoveryCoordinator

theorem load_unrefused (dir : SettingsDir) (mode text : String) :
    load codec dir mode true ≠ .refusedGivenUpAutoReset text := by
  rw [load_forced]
  split
  · rintro ⟨⟩
  · split
    · rintro ⟨⟩
    · rintro ⟨⟩

end Ibctl.Recovery

namespace Ibctl.Machine
open Recovery

section Boot

variable (codec : MarkerCodec)

/-- The disk says that the mode was given up, but its main marker does not. -/
def InferredGiveUp (files : Files.Directory) (mode : String) : Prop :=
  GivenUpEvidence codec files mode ∧ ¬ CleanGiveUp codec files mode

variable {codec}

theorem boot_blocked_inferred (files : Files.Directory) (settingsDir mode : String)
    (config : RecoveryConfig) (env : Option String) (now : Clocks) :
    (RecoveryCoordinator.boot codec files settingsDir mode config env now).1.blockedAwaitingResume
        = true ↔
      readForceResetEnv env = false ∧ InferredGiveUp codec files mode := by
  cases forced : readForceResetEnv env with
  | true =>
    simp only [Bool.true_eq_false,false_and,iff_false,RecoveryCoordinator.boot,forced]
    split
    · simp
    · simp
    next text refused => exact absurd refused (load_unrefused _ _ text)
  | false =>
    by_cases evidence : GivenUpEvidence codec files mode
    · rw [boot_blocked_iff settingsDir config now forced evidence]
      exact ⟨fun unclean => ⟨rfl,evidence,unclean⟩,fun inferred => inferred.2.2⟩
    · refine iff_of_false (fun blocked => evidence ?_) fun inferred => evidence inferred.2.1
      simp only [RecoveryCoordinator.boot,forced] at blocked
      cases present : loadableMarker codec files mode with
      | none =>
        rcases load_of_not_loadable ⟨settingsDir,files⟩ present with ⟨side | peek,-⟩ | ⟨-,-,text,defaulted⟩
        · exact .inr (.inl side)
        · exact .inr (.inr ⟨present,peek⟩)
        · simp [defaulted] at blocked
      | some state =>
        rcases load_of_loadable ⟨settingsDir,files⟩ present with ⟨-,side,-⟩ | ⟨-,loaded⟩
        · exact .inr (.inl side)
        · simp [loaded] at blocked

end Boot

namespace StateMachine

variable {codec : MarkerCodec} {sm : StateMachine} {turn : Turn}

theorem drainDwell_awake (io : Nat → SaveIo) (n : Nat) (messages : List Clocks) (sm : StateMachine)
    (awake : sm.recovery.Awake) :
    (drainDwell codec io n messages sm).recovery.Awake ∧
      (drainDwell codec io n messages sm).recovery.config = sm.recovery.config := by
  induction messages generalizing n sm with
  | nil => exact ⟨awake,rfl⟩
  | cons dwell rest ih =>
    simp only [drainDwell]
    split
    · exact ih (n + 1) sm awake
    · split
      · exact ih (n + 1) _ awake
      · obtain ⟨recorded,config⟩ := @RecoveryCoordinator.recordSuccess_awake codec sm.recovery sm.files dwell (io n)
          awake
        obtain ⟨last,same⟩ := ih (n + 1) { sm with
          recovery := (sm.recovery.recordSuccess codec sm.files dwell (io n)).coord
          files := (sm.recovery.recordSuccess codec sm.files dwell (io n)).files } recorded
        exact ⟨last,same.trans config⟩

theorem afterApply_recovery (applied : AppliedAction) (turn : Turn) :
    (sm.afterApply applied turn).1.recovery = sm.recovery :=
  recovery_of_core (afterApply_moves applied turn).1

/-- A tick that decides leaves an autonomous coordinator awake. -/
theorem driveRecovery_awake {ready : StateMachine} {effects : List LoopEffect}
    (autonomous : sm.recovery.config.Autonomous)
    (unblocked : sm.recovery.blockedAwaitingResume = false)
    (driven : sm.driveRecovery codec turn = some (ready,effects)) :
    ready.recovery.Awake ∧ ready.recovery.config = sm.recovery.config := by
  unfold driveRecovery at driven
  split at driven
  · cases driven
  next action decided =>
    have applied := @RecoveryCoordinator.apply_awake codec sm.recovery sm.files _ _ _ _ turn.applyIo action
      autonomous unblocked decided
    simp only at driven
    split at driven
    · cases driven
      exact applied
    next action' result =>
      cases driven
      rw [afterApply_recovery]
      exact applied

theorem prelude_awake {ready : StateMachine} {effects : List LoopEffect}
    (autonomous : sm.recovery.config.Autonomous) (awake : sm.recovery.Awake)
    (preluded : sm.prelude codec turn = some (ready,effects)) :
    ready.recovery.Awake ∧ ready.recovery.config = sm.recovery.config := by
  have checked := recovery_of_core (@checks_moves sm turn).1
  have drained : ((sm.checks turn).takeDwellSuccesses codec turn).recovery.Awake ∧
      ((sm.checks turn).takeDwellSuccesses codec turn).recovery.config = sm.recovery.config := by
    rw [← checked] at awake ⊢
    unfold takeDwellSuccesses
    split
    · exact drainDwell_awake _ _ _ _ awake
    · exact drainDwell_awake _ _ _ _ awake
  unfold prelude tickRecovery at preluded
  simp only at preluded
  split at preluded
  · obtain ⟨last,config⟩ := driveRecovery_awake (by rw [drained.2]; exact autonomous)
      drained.1.unblocked preluded
    exact ⟨last,config.trans drained.2⟩
  · cases preluded
    exact drained

theorem Stepped.recovery {q : Process} (stepped : sm.Stepped turn q) :
    q.machine.recovery = sm.recovery := by
  have after := recovery_of_core (core_of_standing (afterSelect_standing sm turn))
  cases stepped with
  | handled interrupt taken apart =>
    exact (recovery_of_core (@handleInterrupt_moves _ interrupt turn).1).trans after
  | ended interrupt taken ends =>
    exact (recovery_of_core (@handleInterrupt_moves _ interrupt turn).1).trans after
  | failed error taken => exact after
  | stayed taken status => exact after
  | moved next apart taken status => exact (applyTransition_moves next turn).2.1.trans after

end StateMachine

/-- No command and no signal comes in. -/
def Turn.Unattended (t : Turn) : Prop :=
  ∀ interrupt, t.interrupt = some interrupt →
    (∃ event, interrupt = .agentEvent event) ∨ ∃ signal, interrupt = .coldRestart signal

namespace Process

variable (codec : MarkerCodec)

/-- The tick of this iteration consults the coordinator, and it decides to resume by itself. -/
def ResumesAutomatically (p : Process) (t : Turn) : Prop :=
  let drained := (p.machine.checks t).takeDwellSuccesses codec t
  p.status = .running ∧ drained.state.activeRecovery = true ∧
    drained.tickAction t = some .resumeAutomatically

/-- The recovery holds the machine back: it was given up, or waits to be resumed. -/
def HeldBack (p : Process) : Prop :=
  p.status = .running ∧
    (p.machine.recovery.phase = .givenUp ∨ p.machine.recovery.blockedAwaitingResume = true)

/-- Left alone, some tick resumes, and the machine is neither held back nor parked after it. -/
def ResumesUnattended (p : Process) : Prop :=
  ∀ turns : Nat → Turn, (∀ n, (turns n).Unattended) →
    ∃ n, let q := Runs.run (Process.step codec) p ((List.range n).map turns)
      q.ResumesAutomatically codec (turns n) ∧ (q.step codec (turns n)).machine.recovery.Awake ∧
        (q.step codec (turns n)).machine.state ≠ .waitingForLaunch

variable {codec} {p : Process} {t : Turn}

theorem step_awake (autonomous : p.machine.recovery.config.Autonomous)
    (awake : p.machine.recovery.Awake) :
    (p.step codec t).machine.recovery.config.Autonomous ∧
      (p.step codec t).machine.recovery.Awake := by
  obtain ⟨same,-⟩ | ⟨ready,effects,-,preluded,stepped⟩ := @Process.step_cases codec p t
  · rw [same]
    exact ⟨autonomous,awake⟩
  · obtain ⟨last,config⟩ := StateMachine.prelude_awake autonomous awake preluded
    rw [stepped.recovery,config]
    exact ⟨autonomous,last⟩

/-- In the park no tick consults the coordinator. -/
theorem parked_unresumed {coord : RecoveryCoordinator} (parked : p.Parked coord) :
    ¬ p.ResumesAutomatically codec t := by
  rintro ⟨running,active,-⟩
  obtain ⟨-,⟨state,-⟩ | ⟨-,stopped⟩⟩ := parked
  · have checked := (StateMachine.state_of_standing (StateMachine.checks_parked t state)).trans state
    rw [(@StateMachine.takeDwellSuccesses_rest codec (p.machine.checks t) t).1,checked] at active
    cases active
  · rw [running] at stopped
    cases stopped

theorem parked_unattended {coord : RecoveryCoordinator} (parked : p.Parked coord) :
    ¬ p.ResumesUnattended codec := by
  intro resumes
  let idle : Nat → Turn := fun _ => turnAt ⟨⟨0,"UTC"⟩,⟨0⟩⟩ none
  obtain ⟨n,resumed,-⟩ := resumes idle fun _ interrupt taken => by cases taken
  have stays : Runs.Along (Process.step codec) (fun _ t => t.KeepsPark) p
      ((List.range n).map idle) := by
    apply Runs.along_of_forall
    intro t member _ interrupt taken
    obtain ⟨m,_,same⟩ := List.mem_map.mp member
    rw [← same] at taken
    cases taken
  exact parked_unresumed
    (stays.invariant (fun _ _ kept stays => step_parked kept stays) parked) resumed

end Process

section Start

variable {codec : MarkerCodec} {config : Config} {recoveryConfig : RecoveryConfig}
  {files : Files.Directory} {settingsDir : String} {now : Clocks}

theorem start_launched (launches : config.autoLaunch = true)
    (unblocked : (StateMachine.new codec config recoveryConfig files settingsDir
      now).recovery.blockedAwaitingResume = false) :
    Process.start codec config recoveryConfig files settingsDir now =
      ⟨StateMachine.new codec config recoveryConfig files settingsDir now,.running⟩ := by
  have launched : (StateMachine.new codec config recoveryConfig files settingsDir now).launchGate =
      StateMachine.new codec config recoveryConfig files settingsDir now :=
    if_neg fun dormant => absurd (launches.symm.trans dormant.1) (by decide)
  unfold Process.start StateMachine.gates
  rw [launched,StateMachine.blockedGate,if_neg (by simp [unblocked])]

theorem new_drained (t : Turn) :
    ((StateMachine.new codec config recoveryConfig files settingsDir now).checks
        t).takeDwellSuccesses codec t =
      StateMachine.new codec config recoveryConfig files settingsDir now := rfl

/-- An unattended iteration in Init leaves the park alone. -/
theorem StateMachine.Stepped.unparked {sm : StateMachine} {t : Turn} {q : Process}
    (stepped : sm.Stepped t q) (here : sm.state = .init) (unattended : t.Unattended) :
    q.machine.state ≠ .waitingForLaunch := by
  have there := (StateMachine.afterSelect_state sm t).trans here
  cases stepped with
  | handled interrupt taken apart =>
    obtain ⟨-,same | moves⟩ := @StateMachine.handleInterrupt_moves (sm.afterSelect t) interrupt t
    · rw [same,there]
      decide
    · rcases unattended interrupt (StateMachine.select_interrupt taken) with ⟨event,rfl⟩ | ⟨signal,rfl⟩
      · exact absurd moves id
      · cases signal with
        | fire =>
          rw [moves.2]
          decide
        | skipped reason => exact absurd moves id
  | ended interrupt taken ends =>
    intro parked
    exact absurd (ends.symm.trans parked) (by decide)
  | failed error taken => rw [there]; decide
  | stayed taken status => rw [there]; decide
  | moved next apart taken status =>
    rw [(StateMachine.applyTransition_moves next t).1]
    obtain same | leads | ⟨waits,-⟩ := StateMachine.select_leads taken
    · exact absurd same apart
    · rw [here] at leads
      cases next with
      | error message => rintro ⟨⟩
      | _ => simp_all [State.LeadsTo,State.successors,State.isError,StateMachine.settled]
    · rw [here] at waits
      cases waits

/-- What a resume that is written or not answers, if it answers. -/
theorem resumeAutomatically_result {self : RecoveryCoordinator} {token : Option ResumeToken}
    {io : SaveIo} {applied : AppliedAction}
    (result : (self.apply codec files .resumeAutomatically now token io).result = .ok applied) :
    applied = .resumedToAggressive := by
  simp only [RecoveryCoordinator.apply,RecoveryCoordinator.persistThen] at result
  split at result
  · exact (Except.ok.inj result).symm
  · cases result

/-- A give-up that was loaded is resumed by the first tick. -/
theorem start_resumes (autonomous : recoveryConfig.Autonomous) (launches : config.autoLaunch = true)
    (unblocked : (StateMachine.new codec config recoveryConfig files settingsDir
      now).recovery.blockedAwaitingResume = false)
    (given : (StateMachine.new codec config recoveryConfig files settingsDir
      now).recovery.phase = .givenUp) (t : Turn) :
    let p := Process.start codec config recoveryConfig files settingsDir now
    p.ResumesAutomatically codec t ∧
      ((p.step codec t).machine.recovery.config.Autonomous ∧
        (p.step codec t).machine.recovery.Awake) ∧
      (t.Unattended → (p.step codec t).machine.state ≠ .waitingForLaunch) := by
  intro p
  have begins : p = ⟨StateMachine.new codec config recoveryConfig files settingsDir now,.running⟩ :=
    start_launched launches unblocked
  generalize fresh : StateMachine.new codec config recoveryConfig files settingsDir now = sm at *
  have drained : (sm.checks t).takeDwellSuccesses codec t = sm := by
    rw [← fresh]
    exact new_drained t
  have here : sm.state = .init := by
    rw [← fresh]
    rfl
  have configured : sm.recovery.config = recoveryConfig := by
    rw [← fresh]
    exact boot_config codec recoveryConfig files settingsDir now _ _
  have decided : sm.tickAction t = some .resumeAutomatically :=
    RecoveryCoordinator.compute_givenUp (configured ▸ autonomous) given t.now false _ 0
  have driven : sm.prelude codec t = sm.driveRecovery codec t := by
    unfold StateMachine.prelude StateMachine.tickRecovery
    simp only [drained,here]
    rfl
  obtain ⟨ready,effects,preluded,stays⟩ : ∃ ready effects,
      sm.driveRecovery codec t = some (ready,effects) ∧ ready.state = .init := by
    unfold StateMachine.driveRecovery
    simp only [decided]
    split
    · exact ⟨_,_,rfl,here⟩
    next applied result =>
      cases resumeAutomatically_result result
      refine ⟨_,_,rfl,?_⟩
      simp [StateMachine.afterApply,here]
  have awake := StateMachine.driveRecovery_awake (configured ▸ autonomous) unblocked preluded
  have stepped := Process.stepped (p := ⟨sm,.running⟩) rfl (driven.trans preluded)
  rw [begins]
  refine ⟨⟨rfl,?_,?_⟩,?_,stepped.unparked stays⟩
  · rw [drained,here]
    rfl
  · rw [drained]
    exact decided
  · rw [stepped.recovery,awake.2,configured]
    exact ⟨autonomous,awake.1⟩

end Start

/-- An autonomous coordinator never holds a machine back that would launch by itself, in any
run without a STOP, exactly where no give-up had to be inferred at boot. -/
theorem autonomous_resumes_iff (codec : MarkerCodec) (config : Config) (recoveryConfig : RecoveryConfig)
    (files : Files.Directory) (settingsDir : String) (now : Clocks)
    (autonomous : recoveryConfig.Autonomous) (launches : config.autoLaunch = true) :
    (∀ turns : List Turn, (∀ t ∈ turns, t.interrupt ≠ some (.command .stop)) →
        let p := Runs.run (Process.step codec)
          (Process.start codec config recoveryConfig files settingsDir now) turns
        p.HeldBack → p.ResumesUnattended codec) ↔
      (readForceResetEnv (config.env "IBCTL_RECOVERY_FORCE_RESET") = true ∨
        ¬ InferredGiveUp codec files (StateMachine.modeTag config.tradingMode)) := by
  have refused := @boot_blocked_inferred codec files settingsDir
    (StateMachine.modeTag config.tradingMode) recoveryConfig
    (config.env "IBCTL_RECOVERY_FORCE_RESET") now
  constructor
  · intro resumes
    by_contra inferred
    rw [not_or,not_not,Bool.not_eq_true] at inferred
    have blocked := refused.mpr inferred
    have parked : (Process.start codec config recoveryConfig files settingsDir now).machine.state =
        .waitingForLaunch :=
      (StateMachine.gates_state _ rfl now).mpr (.inr blocked)
    have held : (Process.start codec config recoveryConfig files settingsDir now).HeldBack := by
      refine ⟨rfl,.inr ?_⟩
      rw [start_recovery]
      exact blocked
    exact Process.parked_unattended ⟨rfl,.inl ⟨parked,rfl⟩⟩ (resumes [] (by simp) held)
  · intro clear turns _ p held
    have unblocked : (StateMachine.new codec config recoveryConfig files settingsDir
        now).recovery.blockedAwaitingResume = false := by
      rw [← Bool.not_eq_true]
      intro blocked
      obtain ⟨unforced,inferred⟩ := refused.mp blocked
      rw [unforced] at clear
      exact (clear.resolve_left (by decide)) inferred
    have resumed := @start_resumes codec config recoveryConfig files settingsDir now autonomous launches
      unblocked
    have booted : (Process.start codec config recoveryConfig files settingsDir now).machine.recovery =
        (StateMachine.new codec config recoveryConfig files settingsDir now).recovery :=
      start_recovery codec config recoveryConfig files settingsDir now
    cases turns with
    | nil =>
      have given := held.2
      simp only [p,Runs.run_nil,booted,unblocked,Bool.false_eq_true,or_false] at given
      intro others unattended
      obtain ⟨resumes,⟨-,awake⟩,unparked⟩ := resumed given (others 0)
      exact ⟨0,resumes,awake,unparked (unattended 0)⟩
    | cons first rest =>
      have awakened : ((Process.start codec config recoveryConfig files settingsDir now).step codec
            first).machine.recovery.config.Autonomous ∧
          ((Process.start codec config recoveryConfig files settingsDir now).step codec
            first).machine.recovery.Awake := by
        by_cases given : (StateMachine.new codec config recoveryConfig files settingsDir
            now).recovery.phase = .givenUp
        · exact (resumed given first).2.1
        · apply Process.step_awake
          · rw [booted]
            exact (boot_config codec recoveryConfig files settingsDir now _ _).symm ▸ autonomous
          · rw [booted]
            exact ⟨given,unblocked⟩
      have always : Runs.Along (Process.step codec) (fun _ _ => True)
          ((Process.start codec config recoveryConfig files settingsDir now).step codec first) rest :=
        Runs.along_of_forall _ _ fun _ _ _ => trivial
      have reached := always.invariant
        (P := fun q => q.machine.recovery.config.Autonomous ∧ q.machine.recovery.Awake)
        (fun _ _ kept _ => Process.step_awake kept.1 kept.2) awakened
      obtain given | blocked := held.2
      · exact absurd given reached.2.phase
      · exact absurd (reached.2.unblocked.symm.trans blocked) (by decide)

def autonomousConfig : RecoveryConfig := { RecoveryConfig.default with autonomous := true }

/-- Of the give-up only the sidecar is left. -/
def sidecarDisk : Files.Directory := Files.write Files.empty (sidecarName "paper") "given_up"

/-- The autonomous site is parked at boot, and no tick ever resumes it. -/
theorem autonomous_parked :
    ¬ ∀ turns : List Turn, (∀ t ∈ turns, t.interrupt ≠ some (.command .stop)) →
      let p := Runs.run (Process.step sampleCodec)
        (Process.start sampleCodec paperConfig autonomousConfig sidecarDisk "/home/ibgateway/Jts"
          (sampleClocks 14400)) turns
      p.HeldBack → p.ResumesUnattended sampleCodec := by
  intro resumes
  let p := Process.start sampleCodec paperConfig autonomousConfig sidecarDisk "/home/ibgateway/Jts"
    (sampleClocks 14400)
  obtain ⟨blocked,parked⟩ : p.machine.recovery.blockedAwaitingResume = true ∧
      p.machine.state = .waitingForLaunch := by
    decide +kernel
  exact Process.parked_unattended ⟨rfl,.inl ⟨parked,rfl⟩⟩ (resumes [] (by simp) ⟨rfl,.inr blocked⟩)

/-- A main marker that says so itself is resumed from. -/
theorem autonomous_resumes_iff_marker :
    let p := Process.start sampleCodec paperConfig autonomousConfig givenUpDisk "/home/ibgateway/Jts"
      (sampleClocks 14400)
    p.HeldBack ∧ p.ResumesUnattended sampleCodec := by
  intro p
  have held : p.HeldBack := ⟨rfl,.inl (by decide +kernel)⟩
  refine ⟨held,(autonomous_resumes_iff sampleCodec paperConfig autonomousConfig givenUpDisk _ _
    ⟨rfl,rfl⟩ rfl).mpr (.inr ?_) [] (by simp) held⟩
  rintro ⟨-,unclean⟩
  have loads : loadableMarker sampleCodec givenUpDisk "paper" = some givenUpSample := by
    decide +kernel
  exact unclean ⟨givenUpSample,loads,rfl⟩

end Ibctl.Machine
