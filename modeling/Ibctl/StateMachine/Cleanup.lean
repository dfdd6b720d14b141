import Ibctl.StateMachine.Carry
import Ibctl.StateMachine.Parked

/-! Leaving Connected. The clean-up stands in the entry into the next state; a command, a
signal, the kick of an unavailable system or the halt of a give-up assigns the state itself
and passes it by. -/
namespace Ibctl.Machine
open Tasks Task Recovery

/-- Nothing of a connection is left. -/
structure StateMachine.Clean (sm : StateMachine) : Prop where
  connectedSince : sm.connectedSince = none
  connectedContinuouslySince : sm.connectedContinuouslySince = none
  connectedWindowClass : sm.session.connectedWindowClass = none
  revocation : sm.session.revocation.anyPending = false
  connectionEventDisconnected : sm.connectionEventDisconnected = false
  settingsGoodMarked : sm.session.settingsGoodMarked = false
  apiPortProbe : sm.apiPortProbeTask = false
  clientIdTask : sm.session.clientIdTask = false
  socat : sm.session.socatRunning = false

/-- The fields of the session that belong to a connection. -/
def Session.connection (s : Session) : Option String × RevocationTracker × Bool × Bool × Bool :=
  (s.connectedWindowClass,s.revocation,s.settingsGoodMarked,s.clientIdTask,s.socatRunning)

def Interrupt.leavesConnected (interrupt : Interrupt) : Prop :=
  ∃ target, target ≠ .connected ∧ interrupt.Moves .connected target

namespace Process

variable (codec : MarkerCodec)

/-- A connected machine is neither taken out of Connected by the prelude, for want of the IB
system or by a give-up, nor by an interrupt that the select takes. -/
def LeavesByTransition (p : Process) (t : Turn) : Prop :=
  p.status = .running → p.machine.state = .connected →
    ∀ ready effects, p.machine.prelude codec t = some (ready,effects) →
      ready.state = .connected ∧
        ∀ interrupt, (ready.select t).1 = .interrupted interrupt → ¬ interrupt.leavesConnected

def LeavesClean (p : Process) (t : Turn) : Prop :=
  p.machine.state = .connected → (p.step codec t).machine.state ≠ .connected →
    (p.step codec t).machine.Clean

/-- No contradiction of an earlier connection is pending when the next one begins. -/
def EntersFresh (p : Process) (t : Turn) : Prop :=
  p.machine.state ≠ .connected → (p.step codec t).machine.state = .connected →
    (p.step codec t).machine.session.revocation.anyPending = false

end Process

namespace StateMachine

variable {codec : MarkerCodec} {sm : StateMachine} {turn : Turn}

theorem freshFor_connection (next : State) (at_ : Clocks) (s : Session) :
    (freshFor next at_ s).connection = s.connection := by
  unfold freshFor
  extract_lets selected forgotten entered
  have first : selected.connection = s.connection := by
    unfold selected
    split <;> rfl
  have second : forgotten.connection = selected.connection := by
    unfold forgotten
    split <;> rfl
  have third : entered.connection = forgotten.connection := by
    unfold entered
    cases next <;> rfl
  rw [← first,← second,← third]
  split <;> rfl

theorem clean_of_connection {cleaned other : StateMachine} (clean : cleaned.Clean)
    (session : other.session.connection = cleaned.session.connection)
    (since : other.connectedSince = cleaned.connectedSince)
    (continuously : other.connectedContinuouslySince = cleaned.connectedContinuouslySince)
    (event : other.connectionEventDisconnected = cleaned.connectionEventDisconnected)
    (probe : other.apiPortProbeTask = cleaned.apiPortProbeTask) : other.Clean := by
  obtain ⟨window,revocation,marked,task,socat⟩ :
      other.session.connectedWindowClass = cleaned.session.connectedWindowClass ∧
      other.session.revocation = cleaned.session.revocation ∧
      other.session.settingsGoodMarked = cleaned.session.settingsGoodMarked ∧
      other.session.clientIdTask = cleaned.session.clientIdTask ∧
      other.session.socatRunning = cleaned.session.socatRunning := by
    simpa only [Session.connection,Prod.mk.injEq] using session
  exact ⟨since.trans clean.connectedSince,continuously.trans clean.connectedContinuouslySince,
    window.trans clean.connectedWindowClass,revocation ▸ clean.revocation,
    event.trans clean.connectionEventDisconnected,marked.trans clean.settingsGoodMarked,
    probe.trans clean.apiPortProbe,task.trans clean.clientIdTask,socat.trans clean.socat⟩

theorem leaveConnected_clean : sm.leaveConnected.Clean :=
  ⟨rfl,rfl,rfl,rfl,rfl,rfl,rfl,rfl,rfl⟩

/-- The one clean-up site does clean up. -/
theorem applyTransition_clean {next : State} (here : sm.state = .connected)
    (leaves : next ≠ .connected) : (sm.applyTransition next turn).1.Clean := by
  have prepared : (sm.prepare next turn.later).1.Clean := by
    have state := (state_of_standing (readied_standing sm next turn.later)).trans here
    have crosses : ((sm.readied next turn.later).crossConnected next turn.later).1 =
        (sm.readied next turn.later).leaveConnected := by
      simp [crossConnected,state,leaves]
    have stays : sm.crossed next turn.later = (sm.readied next turn.later).leaveConnected := by
      have apart : (sm.readied next turn.later).leaveConnected.state ≠ .waitingForHitl2fa := by
        change (sm.readied next turn.later).state ≠ _
        rw [state]
        decide
      unfold crossed
      rw [crosses]
      simp [leaveHitl,apart]
    rw [prepare_eq,stays]
    exact clean_of_connection leaveConnected_clean (freshFor_connection next turn.later _) rfl rfl rfl rfl
  apply applyTransition_of_prepared (C := StateMachine.Clean)
  · exact fun _ _ clean => clean_of_connection clean rfl rfl rfl rfl rfl
  · intro left clean
    exact ⟨clean.connectedSince,clean.connectedContinuouslySince,clean.connectedWindowClass,
      clean.revocation,clean.connectionEventDisconnected,clean.settingsGoodMarked,
      clean.apiPortProbe,rfl,rfl⟩
  · exact prepared

theorem settle_leavesClean {outcome : SelectOutcome} (here : sm.state = .connected)
    (kept : ∀ interrupt, outcome = .interrupted interrupt → ¬ interrupt.leavesConnected)
    (leaves : (sm.settle outcome turn).process.machine.state ≠ .connected) :
    (sm.settle outcome turn).process.machine.Clean := by
  cases outcome with
  | interrupted interrupt =>
    rw [(settle_interrupted interrupt).1] at leaves
    obtain ⟨-,same | moves⟩ := @handleInterrupt_moves sm interrupt turn
    · exact absurd (same.trans here) leaves
    · rw [here] at moves
      exact absurd ⟨_,leaves,moves⟩ (kept interrupt rfl)
  | transitioned result =>
    cases result with
    | error error => exact absurd here leaves
    | ok next =>
      rw [settle_transitioned] at leaves ⊢
      split
      next apart =>
        rw [here] at apart
        exact applyTransition_clean here apart
      next same =>
        rw [if_neg same] at leaves
        exact absurd here leaves

/-- Outside Connected nothing is recorded against a connection. -/
theorem settle_revocation {outcome : SelectOutcome} (away : sm.state ≠ .connected) :
    (sm.settle outcome turn).process.machine.session.revocation = sm.session.revocation := by
  cases outcome with
  | interrupted interrupt =>
    have carried := (@settle_interrupted sm turn interrupt).2
    exact (revocation_of_carried carried).trans ((handleInterrupt_carried interrupt turn).2 away)
  | transitioned result =>
    cases result with
    | error error => rfl
    | ok next =>
      rw [settle_transitioned]
      split
      · have entered := congrArg (fun c : Lasting × Instant => c.1.revocation)
          (@applyTransition_carried sm next turn)
        simpa [Session.carried,Session.lasting,Lasting.entering,away] using entered
      · rfl

theorem afterPrelude_revocation (away : sm.state ≠ .connected) :
    (sm.afterPrelude turn).process.machine.session.revocation = sm.session.revocation := by
  obtain ⟨drained,settled,standing,-,-,lasting⟩ := afterPrelude_machine sm turn
  rw [settled,settle_revocation (by rw [state_of_standing standing]; exact away)]
  refine (congrArg Lasting.revocation (lasting away)).trans ?_
  exact select_keeps (J := fun l => l.revocation = sm.session.revocation) rfl away
    (fun _ _ kept => kept) (fun _ _ kept => kept) fun _ _ _ kept => kept

end StateMachine

namespace Process

variable {codec : MarkerCodec} {p : Process} {t : Turn}

theorem step_leavesClean (transitions : p.LeavesByTransition codec t) : p.LeavesClean codec t := by
  intro here leaves
  by_cases stopped : ∀ ready effects, p.status = .running →
      p.machine.prelude codec t ≠ some (ready,effects)
  · rw [step,(turn_of_stopped stopped).1] at leaves
    exact absurd here leaves
  · simp only [not_forall,not_not] at stopped
    obtain ⟨ready,effects,running,preluded⟩ := stopped
    obtain ⟨connected,kept⟩ := transitions running here ready effects preluded
    rw [step,turn_of_prelude running preluded] at leaves ⊢
    obtain ⟨drained,settled,standing,-⟩ := StateMachine.afterPrelude_machine ready t
    simp only [settled] at leaves ⊢
    exact StateMachine.settle_leavesClean ((StateMachine.state_of_standing standing).trans connected)
      kept leaves

theorem step_revocation (away : p.machine.state ≠ .connected) :
    (p.step codec t).machine.session.revocation = p.machine.session.revocation := by
  by_cases stopped : ∀ ready effects, p.status = .running →
      p.machine.prelude codec t ≠ some (ready,effects)
  · rw [step,(turn_of_stopped stopped).1]
  · simp only [not_forall,not_not] at stopped
    obtain ⟨ready,effects,running,preluded⟩ := stopped
    rw [step,turn_of_prelude running preluded]
    have apart : ready.state ≠ .connected := by
      rcases (StateMachine.prelude_moves preluded).2 with same | waits | parks
      · exact same.trans_ne away
      · rw [waits]
        decide
      · rw [parks]
        decide
    exact (StateMachine.afterPrelude_revocation apart).trans
      (revocation_of_carried (StateMachine.prelude_carried preluded))

/-- Nothing speaks against a connection that is not there. -/
def Unrevoked (p : Process) : Prop :=
  p.machine.state ≠ .connected → p.machine.session.revocation.anyPending = false

theorem step_unrevoked (unrevoked : p.Unrevoked) (transitions : p.LeavesByTransition codec t) :
    (p.step codec t).Unrevoked := by
  intro apart
  by_cases here : p.machine.state = .connected
  · exact (step_leavesClean transitions here apart).revocation
  · rw [step_revocation here]
    exact unrevoked here

end Process

/-- In every run whose machine leaves Connected by transitions only, every step that leaves it
cleans up, and no contradiction outlives its connection into the next one. -/
theorem connected_left_clean (codec : MarkerCodec) (config : Config)
    (recoveryConfig : RecoveryConfig) (files : Files.Directory) (settingsDir : String)
    (now : Clocks) (turns : List Turn)
    (transitions : Runs.Along (Process.step codec) (Process.LeavesByTransition codec)
      (Process.start codec config recoveryConfig files settingsDir now) turns) :
    Runs.Along (Process.step codec)
      (fun p t => p.LeavesClean codec t ∧ p.EntersFresh codec t)
      (Process.start codec config recoveryConfig files settingsDir now) turns := by
  have enters : ∀ (p : Process) (t : Turn), p.Unrevoked → p.EntersFresh codec t := by
    intro p t unrevoked away _
    rw [Process.step_revocation away]
    exact unrevoked away
  have fresh : (Process.start codec config recoveryConfig files settingsDir now).Unrevoked := by
    intro _
    have gated := StateMachine.gates_session
      (StateMachine.new codec config recoveryConfig files settingsDir now) now
    change (StateMachine.gates _ now).session.revocation.anyPending = false
    rw [gated]
    rfl
  exact transitions.strengthen
    (fun _ _ unrevoked leaves => Process.step_unrevoked unrevoked leaves)
    (fun p t unrevoked leaves => ⟨Process.step_leavesClean leaves,enters p t unrevoked⟩) fresh

/-- A site that has configured the API, is connected for a minute and is then told to restart. -/
def connectedRestarted : List Turn :=
  [turnAt (sampleClocks 14401) (some (.command (.setState "ConfiguringApi"))),
    turnAt (sampleClocks 14402) none,turnAt (sampleClocks 14470) none,
    turnAt (sampleClocks 14471) (some (.command .restart))]

def paperStart : Process :=
  Process.start sampleCodec paperConfig .default Files.empty "/home/ibgateway/Jts" (sampleClocks 14400)

/-- The clocks of the connection run on and socat is still there after it. -/
theorem connected_left_unclean :
    ¬ Runs.Along (Process.step sampleCodec)
      (fun p t => p.LeavesClean sampleCodec t ∧ p.EntersFresh sampleCodec t) paperStart
      connectedRestarted := by
  intro along
  have last := ((Runs.along_append _ _ (connectedRestarted.take 3) (connectedRestarted.drop 3)).mp
    along).2.1.1
  have clean := last (by decide +kernel) (by decide +kernel)
  have running : (Process.step sampleCodec (Runs.run (Process.step sampleCodec) paperStart
      (connectedRestarted.take 3))
      (turnAt (sampleClocks 14471) (some (.command .restart)))).machine.session.socatRunning = true := by
    decide +kernel
  exact absurd (running.symm.trans clean.socat) (by decide)

/-- The same connection ends with the exit of the Gateway. -/
def connectedExited : List Turn :=
  connectedRestarted.take 3 ++
    [{ turnAt (sampleClocks 14471) none with
        schedule := ⟨{ quietAnswers (sampleClocks 14471) with isRunning := fun _ => false },none⟩ }]

theorem Process.leavesByTransition_of_quiet {codec : MarkerCodec} {p : Process} {t : Turn}
    (quiet : t.interrupt = none)
    (stays : (p.machine.prelude codec t).map (fun ready => ready.1.state) = some .connected) :
    p.LeavesByTransition codec t := by
  intro _ _ ready effects preluded
  rw [preluded] at stays
  refine ⟨Option.some.inj stays,fun interrupt taken => ?_⟩
  have none := StateMachine.select_interrupt taken
  rw [quiet] at none
  cases none

theorem connected_left_clean_exit :
    (Runs.run (Process.step sampleCodec) paperStart connectedExited).machine.state = .restarting ∧
      Runs.Along (Process.step sampleCodec)
        (fun p t => p.LeavesClean sampleCodec t ∧ p.EntersFresh sampleCodec t) paperStart
        connectedExited := by
  refine ⟨by decide +kernel,connected_left_clean sampleCodec paperConfig .default Files.empty
    "/home/ibgateway/Jts" (sampleClocks 14400) connectedExited ⟨?_,?_,?_,?_,trivial⟩⟩
  · exact fun _ here => absurd here (by decide +kernel)
  · exact fun _ here => absurd here (by decide +kernel)
  · exact Process.leavesByTransition_of_quiet rfl (by decide +kernel)
  · exact Process.leavesByTransition_of_quiet rfl (by decide +kernel)

end Ibctl.Machine
