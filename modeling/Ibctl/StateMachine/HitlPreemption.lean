import Ibctl.StateMachine.HitlEpisodes

/-! A cold restart during a wait for the operator. The loop holds the receiver while the
handler runs, so the signal reaches the loop's own interrupt, to which the wait is dormant,
and never the preemption in the handler. -/
namespace Ibctl.Machine
open Tasks Recovery

namespace StateMachine

variable {sm : StateMachine} {turn : Turn}

/-- Of the signals that reach the loop, none moves a machine that waits for the operator. -/
theorem Stepped.coldRestart_stays {after : Process} {signal : ColdRestartSignal}
    (stepped : Stepped sm turn after) (here : sm.state = .waitingForHitl2fa)
    (delivered : (sm.select turn).1 = .interrupted (.coldRestart signal)) :
    after.machine.state = .waitingForHitl2fa := by
  have there := (afterSelect_state sm turn).trans here
  have stays : ((sm.afterSelect turn).handleInterrupt (.coldRestart signal) turn).1.state =
      .waitingForHitl2fa := by
    cases signal with
    | fire =>
      have dormant : coldRestartDormant (sm.afterSelect turn).state = true := by
        rw [there]
        rfl
      simp only [handleInterrupt,handleColdRestart,dormant,if_true]
      exact there
    | skipped reason => exact there
  cases stepped with
  | handled interrupt taken apart =>
    cases delivered.symm.trans taken
    exact stays
  | ended interrupt taken ends =>
    cases delivered.symm.trans taken
    exact absurd (stays.symm.trans ends) (by decide)
  | failed error taken => cases delivered.symm.trans taken
  | stayed taken status => cases delivered.symm.trans taken
  | moved next apart taken status => cases delivered.symm.trans taken

end StateMachine

namespace Process

variable (codec : MarkerCodec)

/-- The signal arrives while the machine waits for the operator. -/
def DuringHitl (p : Process) (t : Turn) (signal : ColdRestartSignal) : Prop :=
  p.status = .running ∧ ∃ ready effects, p.machine.prelude codec t = some (ready,effects) ∧
    ready.state = .waitingForHitl2fa ∧ (ready.select t).1 = .interrupted (.coldRestart signal)

/-- A fire preempts the wait exactly where the configuration has it so; a skip never does. -/
def PreemptsAsConfigured (p : Process) (t : Turn) : Prop :=
  (p.DuringHitl codec t .fire →
    if p.machine.config.twofa.backoff.coldRestartPreemptsHitl then
      (p.step codec t).machine.state = .restarting ∧
        (p.step codec t).machine.lastColdRestartSkip ≠ some ⟨t.later.wall,.dormantSite⟩
    else (p.step codec t).machine.state = .waitingForHitl2fa) ∧
  ∀ reason, p.DuringHitl codec t (.skipped reason) →
    (p.step codec t).machine.state = .waitingForHitl2fa

/-- No fire arrives during a wait that it is configured to preempt. -/
def NothingToPreempt (p : Process) (t : Turn) : Prop :=
  p.DuringHitl codec t .fire → p.machine.config.twofa.backoff.coldRestartPreemptsHitl = false

variable {codec} {p : Process} {t : Turn} {signal : ColdRestartSignal}

theorem DuringHitl.stays (during : p.DuringHitl codec t signal) :
    (p.step codec t).machine.state = .waitingForHitl2fa := by
  obtain ⟨running,ready,effects,preluded,here,delivered⟩ := during
  exact (stepped running preluded).coldRestart_stays here delivered

theorem preemptsAsConfigured_iff : p.PreemptsAsConfigured codec t ↔ p.NothingToPreempt codec t := by
  constructor
  · intro preempts during
    cases configured : p.machine.config.twofa.backoff.coldRestartPreemptsHitl with
    | false => rfl
    | true =>
      have moved := preempts.1 during
      rw [if_pos configured] at moved
      exact absurd (during.stays.symm.trans moved.1) (by decide)
  · intro nothing
    refine ⟨fun during => ?_,fun _ during => during.stays⟩
    rw [if_neg (by simp [nothing during])]
    exact during.stays

end Process

/-- Along every run, cold restarts preempt the waits for the operator as configured if and only
if none arrives during a wait that it is configured to preempt. -/
theorem cold_restart_preempts_iff (codec : MarkerCodec) (config : Config)
    (recoveryConfig : RecoveryConfig) (files : Files.Directory) (settingsDir : String)
    (now : Clocks) (turns : List Turn) :
    Runs.Along (Process.step codec) (Process.PreemptsAsConfigured codec)
        (.start codec config recoveryConfig files settingsDir now) turns ↔
      Runs.Along (Process.step codec) (Process.NothingToPreempt codec)
        (.start codec config recoveryConfig files settingsDir now) turns :=
  Runs.along_congr (fun _ _ => Process.preemptsAsConfigured_iff) _ _

/-- The scheduled restart comes while the operator is waited for. -/
def hitlColdRestart : List Turn :=
  [turnAt (sampleClocks 14401) (some (.command (.setState "WaitingForHitl2fa"))),
    turnAt (sampleClocks 14402) none,
    turnAt (sampleClocks 14403) (some (.coldRestart .fire))]

theorem hitl_not_preempted :
    ¬ Runs.Along (Process.step sampleCodec) (Process.PreemptsAsConfigured sampleCodec)
      hitlStart.process hitlColdRestart := by
  intro along
  have last := ((Runs.along_append _ _ (hitlColdRestart.take 2) (hitlColdRestart.drop 2)).mp
    along).2.1
  have seen : ((Runs.run (Process.step sampleCodec) hitlStart.process
      (hitlColdRestart.take 2)).machine.prelude sampleCodec
        (turnAt (sampleClocks 14403) (some (.coldRestart .fire)))).map
          (fun ready => (ready.1.state,
            (ready.1.select (turnAt (sampleClocks 14403) (some (.coldRestart .fire)))).1)) =
      some (.waitingForHitl2fa,.interrupted (.coldRestart .fire)) := by decide +kernel
  obtain ⟨⟨ready,effects⟩,preluded,same⟩ := Option.map_eq_some_iff.mp seen
  obtain ⟨state,delivered⟩ := Prod.mk.inj same
  have moved := last.1 ⟨by decide +kernel,ready,effects,preluded,state,delivered⟩
  rw [if_pos (by decide +kernel)] at moved
  exact absurd moved.1 (by decide +kernel)

end Ibctl.Machine
