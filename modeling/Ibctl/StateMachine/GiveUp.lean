import Ibctl.StateMachine.Parked

/-! The give-up and the ways out of it: what a restart of the process makes of the evidence
on the disk, what the park keeps at run time, and where the operator's resume ends. -/
namespace Ibctl.Machine
open Recovery

section Boot

variable (codec : MarkerCodec)

/-- The main marker loads as it is and says that the mode was given up. -/
def CleanGiveUp (files : Files.Directory) (mode : String) : Prop :=
  ∃ state, loadableMarker codec files mode = some state ∧ state.phase = .givenUp

/-- The disk says in one of its three ways that the mode was given up. -/
def GivenUpEvidence (files : Files.Directory) (mode : String) : Prop :=
  CleanGiveUp codec files mode ∨ sidecarSaysGivenUp files mode = true ∨
    (loadableMarker codec files mode = none ∧ peekSaysGivenUp codec files mode = true)

variable {codec} {files : Files.Directory} {mode : String} {env : Option String}
  (settingsDir : String) (config : RecoveryConfig) (now : Clocks)

theorem boot_blocked_of_refused {text : String}
    (refused : load codec ⟨settingsDir,files⟩ mode (readForceResetEnv env) =
      .refusedGivenUpAutoReset text) :
    (RecoveryCoordinator.boot codec files settingsDir mode config env now).1.blockedAwaitingResume
      = true := by
  simp only [RecoveryCoordinator.boot,refused]

theorem boot_unblocked_of_loaded {state : RecoveryPersistedState}
    (loaded : load codec ⟨settingsDir,files⟩ mode (readForceResetEnv env) = .loaded state) :
    (RecoveryCoordinator.boot codec files settingsDir mode config env now).1.blockedAwaitingResume
      = false := by
  simp only [RecoveryCoordinator.boot,loaded]

/-- Only a give-up that has to be inferred blocks the coordinator. -/
theorem boot_blocked_iff (unforced : readForceResetEnv env = false)
    (evidence : GivenUpEvidence codec files mode) :
    (RecoveryCoordinator.boot codec files settingsDir mode config env now).1.blockedAwaitingResume
      = true ↔ ¬ CleanGiveUp codec files mode := by
  cases present : loadableMarker codec files mode with
  | none =>
    have unclean : ¬ CleanGiveUp codec files mode := by
      rintro ⟨state,found,-⟩
      rw [present] at found
      cases found
    rcases load_of_not_loadable ⟨settingsDir,files⟩ present with ⟨-,text,refused⟩ | ⟨side,peek,-⟩
    · rw [← unforced] at refused
      exact iff_of_true (boot_blocked_of_refused settingsDir config now refused) unclean
    · rcases evidence with clean | sidecar | ⟨-,peeked⟩
      · exact absurd clean unclean
      · exact absurd (side.symm.trans sidecar) (by decide)
      · exact absurd (peek.symm.trans peeked) (by decide)
  | some state =>
    have clean_iff : CleanGiveUp codec files mode ↔ state.phase = .givenUp := by
      constructor
      · rintro ⟨found,same,phase⟩
        rw [present] at same
        cases same
        exact phase
      · exact fun phase => ⟨state,present,phase⟩
    rw [clean_iff]
    rcases load_of_loadable ⟨settingsDir,files⟩ present with ⟨other,-,text,refused⟩ | ⟨silent,loaded⟩
    · rw [← unforced] at refused
      exact iff_of_true (boot_blocked_of_refused settingsDir config now refused) other
    · rw [← unforced] at loaded
      rw [boot_unblocked_of_loaded settingsDir config now loaded]
      refine iff_of_false (by decide) (fun other => ?_)
      rcases silent with phase | side
      · exact other phase
      · rcases evidence with clean | sidecar | ⟨missing,-⟩
        · exact other (clean_iff.mp clean)
        · exact absurd (side.symm.trans sidecar) (by decide)
        · rw [present] at missing
          cases missing

theorem StateMachine.gates_state (sm : StateMachine) (fresh : sm.state = .init) (now : Clocks) :
    (sm.gates now).state = .waitingForLaunch ↔
      sm.config.autoLaunch = false ∨ sm.recovery.blockedAwaitingResume = true := by
  unfold gates launchGate blockedGate
  cases launches : sm.config.autoLaunch <;> cases blocked : sm.recovery.blockedAwaitingResume <;>
    simp [fresh,blocked]

/-- The process is parked, and no handler that launches the Gateway runs until somebody
takes it out of the park. -/
def StaysGivenUp (codec : MarkerCodec) (p : Process) : Prop :=
  p.machine.state = .waitingForLaunch ∧
  ∀ turns, Runs.Along (Process.step codec) (fun _ t => t.KeepsPark) p turns →
    Runs.Along (Process.step codec)
      (fun q t => q.handlerRun codec t ≠ some .init ∧ q.handlerRun codec t ≠ some .launching)
      p turns

theorem staysGivenUp_of_parked {coord : RecoveryCoordinator} {p : Process}
    (parked : p.Parked coord) (state : p.machine.state = .waitingForLaunch) :
    StaysGivenUp codec p := by
  refine ⟨state,fun turns keeps => ?_⟩
  refine keeps.strengthen (fun _ _ kept stays => Process.step_parked kept stays) ?_ parked
  intro q t kept _
  have sleeps : ∀ state, q.handlerRun codec t = some state → state = .waitingForLaunch :=
    fun state runs => Process.handlerRun_parked kept runs
  constructor
  · intro runs
    exact absurd (sleeps _ runs) (by decide)
  · intro runs
    exact absurd (sleeps _ runs) (by decide)

end Boot

/-- A restart of the process keeps a give-up that the disk gives evidence of, and keeps it
through every run that nobody takes out of the park, exactly when the give-up is not a
marker that loads cleanly at a site that launches by itself. -/
theorem giveup_survives_restart_iff (codec : MarkerCodec) (config : Config)
    (recoveryConfig : RecoveryConfig) (files : Files.Directory) (settingsDir : String)
    (now : Clocks)
    (unforced : readForceResetEnv (config.env "IBCTL_RECOVERY_FORCE_RESET") = false)
    (evidence : GivenUpEvidence codec files (StateMachine.modeTag config.tradingMode)) :
    StaysGivenUp codec (Process.start codec config recoveryConfig files settingsDir now) ↔
      ¬ (CleanGiveUp codec files (StateMachine.modeTag config.tradingMode) ∧
        config.autoLaunch = true) := by
  have blocked := boot_blocked_iff settingsDir recoveryConfig now unforced evidence
  have gates := StateMachine.gates_state
    (StateMachine.new codec config recoveryConfig files settingsDir now) rfl now
  have parks : (Process.start codec config recoveryConfig files settingsDir now).machine.state
        = .waitingForLaunch ↔
      ¬ (CleanGiveUp codec files (StateMachine.modeTag config.tradingMode) ∧
        config.autoLaunch = true) := by
    refine gates.trans ?_
    rw [not_and_or,← blocked,Bool.not_eq_true,or_comm]
    exact Iff.rfl
  rw [← parks]
  constructor
  · exact fun stays => stays.1
  · exact fun state => staysGivenUp_of_parked ⟨rfl,.inl ⟨state,rfl⟩⟩ state

def givenUpDisk : Files.Directory :=
  Files.write Files.empty (markerName "paper") (sampleCodec.toVecPretty givenUpSample)

/-- The site boots into Init in spite of it, and its first iteration starts the launch. -/
theorem giveup_lost_by_restart :
    GivenUpEvidence sampleCodec givenUpDisk (StateMachine.modeTag paperConfig.tradingMode) ∧
    let p := Process.start sampleCodec paperConfig .default givenUpDisk "/home/ibgateway/Jts"
      (sampleClocks 14400)
    (p.machine.recovery.phase = .givenUp ∧ p.machine.state = .init ∧
      p.handlerRun sampleCodec (turnAt (sampleClocks 14400) none) = some .init) ∧
      ¬ StaysGivenUp sampleCodec p := by
  have loads : loadableMarker sampleCodec givenUpDisk "paper" = some givenUpSample := by
    decide +kernel
  refine ⟨.inl ⟨givenUpSample,loads,rfl⟩,?_⟩
  intro p
  have boots : p.machine.recovery.phase = .givenUp ∧ p.machine.state = .init ∧
      p.handlerRun sampleCodec (turnAt (sampleClocks 14400) none) = some .init := by decide +kernel
  refine ⟨boots,fun stays => ?_⟩
  have parked := stays.1
  rw [boots.2.1] at parked
  cases parked

theorem giveup_survives_restart_iff_sidecar :
    StaysGivenUp sampleCodec (Process.start sampleCodec paperConfig .default
      (Files.write Files.empty (sidecarName "paper") "given_up") "/home/ibgateway/Jts"
      (sampleClocks 14400)) := by
  refine (giveup_survives_restart_iff sampleCodec paperConfig .default _ _ _ rfl
    (.inr (.inl (by decide +kernel)))).mpr ?_
  rintro ⟨⟨state,found,-⟩,-⟩
  have missing : loadableMarker sampleCodec
      (Files.write Files.empty (sidecarName "paper") "given_up") "paper" = none := by decide +kernel
  exact absurd (missing.symm.trans found) (by simp)

section RunTime

variable (codec : MarkerCodec)

/-- A parked give-up stays parked, or ends with the process, along every run without a
command that leaves the park; the only handler that runs is the one that sleeps. -/
theorem giveup_sticky {p : Process} {turns : List Turn} (running : p.status = .running)
    (parked : p.machine.state = .waitingForLaunch) (given : p.machine.recovery.phase = .givenUp)
    (keeps : Runs.Along (Process.step codec) (fun _ t => t.KeepsPark) p turns) :
    let q := Runs.run (Process.step codec) p turns
    q.machine.recovery.phase = .givenUp ∧
      (q.machine.state = .waitingForLaunch ∨ q.machine.state = .shutdown) ∧
      ∀ t state, q.handlerRun codec t = some state → state = .waitingForLaunch := by
  have start : p.Parked p.machine.recovery := ⟨rfl,.inl ⟨parked,running⟩⟩
  have reached := keeps.invariant (fun _ _ kept stays => Process.step_parked kept stays) start
  refine ⟨?_,?_,fun t state runs => Process.handlerRun_parked reached runs⟩
  · rw [reached.1]
    exact given
  · exact reached.2.imp (fun here => here.1) (fun here => here.1)

/-- The resume took effect. -/
def StateMachine.ResumeApplied (sm : StateMachine) : Prop :=
  sm.recovery.phase = .aggressive ∧ sm.recovery.blockedAwaitingResume = false ∧ sm.state = .init

/-- A resume that is accepted in the park is held there: no tick applies it, neither the
next one nor one of a later run that does not leave the park. -/
theorem resume_never_applied (sm : StateMachine) (token : String) (turn : Turn)
    (parked : sm.state = .waitingForLaunch) (resumable : sm.resumable = true) :
    let accepted := sm.handleCommand (.resumeReconnect token) turn
    accepted.pendingResumeToken.isSome = true ∧
    (∀ next : Turn, ∃ ready, accepted.prelude codec next = some (ready,[]) ∧
      ready.pendingResumeToken = accepted.pendingResumeToken ∧
      ready.recovery = sm.recovery ∧ ready.state = .waitingForLaunch ∧ ¬ ready.ResumeApplied) ∧
    ∀ turns, Runs.Along (Process.step codec) (fun _ t => t.KeepsPark) ⟨accepted,.running⟩ turns →
      (Runs.run (Process.step codec) ⟨accepted,.running⟩ turns).machine.recovery = sm.recovery := by
  have handled : (sm.handleCommand (.resumeReconnect token) turn).state = .waitingForLaunch ∧
      (sm.handleCommand (.resumeReconnect token) turn).recovery = sm.recovery := by
    obtain ⟨core,same | moves⟩ :=
      @StateMachine.handleCommand_moves sm (.resumeReconnect token) turn
    · exact ⟨same.trans parked,StateMachine.recovery_of_core core⟩
    · exact absurd moves id
  have pending : (sm.handleCommand (.resumeReconnect token) turn).pendingResumeToken =
      some ⟨sm.recoveryModeTag,turn.later.wall.timestamp,token⟩ := by
    simp only [StateMachine.handleCommand,resumable,if_true]
  refine ⟨by rw [pending]; rfl,fun next => ?_,fun turns keeps => ?_⟩
  · obtain ⟨ready,preluded,same⟩ := @StateMachine.prelude_parked codec _ next handled.1
    have state := (StateMachine.state_of_standing same).trans handled.1
    have recovery := (StateMachine.recovery_of_core (StateMachine.core_of_standing same)).trans
      handled.2
    have held := congrArg (fun standing => standing.2.1) same
    refine ⟨ready,preluded,held,recovery,state,?_⟩
    rintro ⟨-,-,left⟩
    rw [state] at left
    cases left
  · exact (keeps.invariant (fun _ _ kept stays => Process.step_parked kept stays)
      ⟨handled.2,.inl ⟨handled.1,rfl⟩⟩).1

end RunTime

/-- A paper site that boots three hours after it entered backoff: the first tick gives up. -/
def halted : Process :=
  Process.step sampleCodec
    (Process.start sampleCodec paperConfig .default
      (Files.write Files.empty (markerName "paper") (sampleCodec.toVecPretty backoffSample))
      "/home/ibgateway/Jts" (sampleClocks 10800))
    (turnAt (sampleClocks 10800) none)

def command (command : Command) : Turn := turnAt (sampleClocks 10860) (some (.command command))

theorem halted_parked :
    halted.status = .running ∧ halted.machine.state = .waitingForLaunch ∧
      halted.machine.recovery.phase = .givenUp := by decide +kernel

theorem giveup_left_by_command :
    (halted.step sampleCodec (command .start)).machine.state = .init ∧
    (halted.step sampleCodec (command .start)).machine.recovery.phase = .givenUp ∧
    (halted.step sampleCodec (command .restart)).machine.state = .restarting ∧
    (halted.step sampleCodec (command .restart)).machine.recovery.phase = .givenUp := by
  decide +kernel

theorem giveup_sticky_idle :
    let q := Runs.run (Process.step sampleCodec) halted
      [command .stop,command .pause,turnAt (sampleClocks 10860) (some (.coldRestart .fire))]
    q.machine.recovery.phase = .givenUp ∧
      (q.machine.state = .waitingForLaunch ∨ q.machine.state = .shutdown) ∧
      ∀ t state, q.handlerRun sampleCodec t = some state → state = .waitingForLaunch := by
  refine giveup_sticky sampleCodec halted_parked.1 halted_parked.2.1 halted_parked.2.2
    (Runs.along_of_forall _ _ ?_)
  intro turn member _ interrupt taken leaves
  simp only [List.mem_cons,List.not_mem_nil,or_false] at member
  rcases member with rfl | rfl | rfl
  all_goals
    cases taken
    exact leaves

/-- The token of the accepted resume is still there after the next tick. -/
theorem resume_lost :
    let resumed := halted.step sampleCodec (command (.resumeReconnect "tap-1"))
    let after := resumed.step sampleCodec (turnAt (sampleClocks 10920) none)
    (resumed.machine.pendingResumeToken.isSome = true ∧
      after.machine.pendingResumeToken = resumed.machine.pendingResumeToken ∧
      after.machine.state = .waitingForLaunch ∧ after.machine.recovery.phase = .givenUp) ∧
    ¬ after.machine.ResumeApplied := by
  intro resumed after
  have held : resumed.machine.pendingResumeToken.isSome = true ∧
      after.machine.pendingResumeToken = resumed.machine.pendingResumeToken ∧
      after.machine.state = .waitingForLaunch ∧ after.machine.recovery.phase = .givenUp := by
    decide +kernel
  refine ⟨held,?_⟩
  rintro ⟨-,-,left⟩
  rw [held.2.2.1] at left
  cases left

theorem resume_never_applied_tap :
    (halted.machine.handleCommand (.resumeReconnect "tap-1")
      (command .pause)).pendingResumeToken.isSome = true ∧
    ∃ ready, (halted.machine.handleCommand (.resumeReconnect "tap-1")
      (command .pause)).prelude sampleCodec (turnAt (sampleClocks 10920) none) = some (ready,[]) ∧
        ¬ ready.ResumeApplied := by
  obtain ⟨pending,held,-⟩ := resume_never_applied sampleCodec halted.machine "tap-1"
    (command .pause) halted_parked.2.1 (by decide +kernel)
  obtain ⟨ready,preluded,-,-,-,unapplied⟩ := held (turnAt (sampleClocks 10920) none)
  exact ⟨pending,ready,preluded,unapplied⟩

end Ibctl.Machine
