import Ibctl.StateMachine.EquivalentMarker
import Ibctl.StateMachine.TwofaTimeouts

/-! How many timeouts of the second factor are answered by a restart. The count of the machine is
that of the timeouts since its last reset, as far as its bits go, so the limit decides from the
number of the timeout; a limit of nothing, which the documentation calls off, is reached by the
first of them. -/
namespace Ibctl.Machine
open Recovery

/-- A process, the timeouts since the count was last reset, and the instant at which Connected was
last reached. -/
structure TimeoutWatch where
  process : Process
  timeouts : Nat
  since : Option Instant

namespace TimeoutWatch

variable (codec : MarkerCodec)

/-- The count is reset by reaching Connected, or by a connection that is found standing for long
enough since it was reached, as the policy says. -/
def step (w : TimeoutWatch) (t : Turn) : TimeoutWatch :=
  let after := w.process.step codec t
  match w.process.status,w.process.machine.prelude codec t with
  | .running,some (ready,_) =>
    let reached := ready.state ≠ .connected ∧ after.machine.state = .connected
    ⟨after,
      if ready.TimesOut t then w.timeouts + 1
      else if reached ∧ ready.config.twofa.backoff.counterReset = .anyReach ∨
        ready.StandsStable t w.since then 0
      else w.timeouts,
      if reached then some t.later.mono else w.since⟩
  | _,_ => ⟨after,w.timeouts,w.since⟩

def timesOut (w : TimeoutWatch) (t : Turn) : Bool :=
  match w.process.status,w.process.machine.prelude codec t with
  | .running,some (ready,_) => decide (ready.TimesOut t)
  | _,_ => false

/-- A timeout before the limit leads to a restart, the one that reaches it and every later one to
the wait for the operator; with a limit of nothing none leads there. -/
def Escalates (limit : Nat) (w : TimeoutWatch) (t : Turn) : Prop :=
  w.timesOut codec t = true →
    let timeout := w.timeouts + 1
    let after := (w.process.step codec t).machine.state
    if limit = 0 then after ≠ .waitingForHitl2fa
    else (timeout < limit → after = .restarting) ∧ (limit ≤ timeout → after = .waitingForHitl2fa)

instance (limit : Nat) (w : TimeoutWatch) (t : Turn) : Decidable (w.Escalates codec limit t) := by
  unfold Escalates
  infer_instance

structure Counts (config : Config) (w : TimeoutWatch) : Prop where
  config : w.process.machine.config = config
  counted : w.process.machine.session.consecutive2faTimeouts = min w.timeouts (2 ^ 32 - 1)
  clock : w.process.machine.state = .connected →
    w.process.machine.connectedContinuouslySince = w.since

variable {codec} {config : Config} {w : TimeoutWatch} {t : Turn}

theorem prelude_timeouts {sm ready : StateMachine} {effects : List LoopEffect}
    (preluded : sm.prelude codec t = some (ready,effects)) :
    ready.session.consecutive2faTimeouts = sm.session.consecutive2faTimeouts :=
  StateMachine.timeouts_of_untold (StateMachine.prelude_untold preluded)

/-- Where a timeout leads, by its number. -/
theorem Counts.leads (counts : w.Counts config) (escalates : config.Escalates)
    {ready : StateMachine} {effects : List LoopEffect} (running : w.process.status = .running)
    (preluded : w.process.machine.prelude codec t = some (ready,effects)) (ends : ready.TimesOut t) :
    (w.process.step codec t).machine.state =
      config.twofa.backoff.escalated (min (w.timeouts + 1) (2 ^ 32 - 1)) := by
  have configured := (StateMachine.prelude_config preluded).trans counts.config
  have leads := ends.leads (configured.symm ▸ escalates)
  have counted : saturatingSucc 32 ready.session.consecutive2faTimeouts =
      min (w.timeouts + 1) (2 ^ 32 - 1) := by
    rw [prelude_timeouts preluded,counts.counted,saturatingSucc]
    omega
  rw [configured,counted] at leads
  have stays : StateMachine.settled (config.twofa.backoff.escalated (min (w.timeouts + 1) (2 ^ 32 - 1))) =
      config.twofa.backoff.escalated (min (w.timeouts + 1) (2 ^ 32 - 1)) := by
    unfold TwoFaBackoff.escalated
    split <;> rfl
  have apart : config.twofa.backoff.escalated (min (w.timeouts + 1) (2 ^ 32 - 1)) ≠ ready.state := by
    rw [ends.1]
    unfold TwoFaBackoff.escalated
    split <;> nofun
  rw [← stays]
  generalize config.twofa.backoff.escalated _ = next at leads apart ⊢
  have stepped := Process.stepped running preluded
  generalize w.process.step codec t = after at stepped ⊢
  cases stepped with
  | handled interrupt taken _ => cases leads.symm.trans taken
  | ended interrupt taken _ => cases leads.symm.trans taken
  | failed error taken => cases leads.symm.trans taken
  | stayed taken status =>
    cases leads.symm.trans taken
    exact absurd rfl apart
  | moved other _ taken status =>
    cases leads.symm.trans taken
    exact (StateMachine.applyTransition_moves _ t).1

theorem timesOut_iff : w.timesOut codec t = true ↔ ∃ ready effects, w.process.status = .running ∧
    w.process.machine.prelude codec t = some (ready,effects) ∧ ready.TimesOut t := by
  unfold timesOut
  split
  next ready effects running preluded =>
    simp [running,preluded]
  next stopped =>
    refine iff_of_false nofun ?_
    rintro ⟨ready,effects,running,preluded,-⟩
    exact stopped ready effects running preluded

theorem Counts.escalates_iff (counts : w.Counts config) (escalates : config.Escalates)
    (word : config.twofa.backoff.maxImmediateAttempts < 2 ^ 32) (t : Turn) :
    w.Escalates codec config.twofa.backoff.maxImmediateAttempts t ↔
      (config.twofa.backoff.maxImmediateAttempts = 0 → w.timesOut codec t = false) := by
  by_cases ends : w.timesOut codec t = true
  · obtain ⟨ready,effects,running,preluded,out⟩ := timesOut_iff.mp ends
    have leads := counts.leads escalates running preluded out
    unfold Escalates TwoFaBackoff.escalated at *
    simp only [ends,leads,true_implies,reduceCtorEq,imp_false]
    by_cases none_ : config.twofa.backoff.maxImmediateAttempts = 0
    · simp [none_]
    · rw [if_neg none_]
      refine iff_of_true ⟨fun early => ?_,fun reached => ?_⟩ none_
      · rw [if_neg (by omega)]
      · rw [if_pos (by omega)]
  · exact iff_of_true (fun out => absurd out ends) fun _ => by simpa using ends

/-- While the machine is connected, its own clock tells since when. -/
theorem Counts.stands_iff (counts : w.Counts config) {ready : StateMachine} {effects : List LoopEffect}
    (preluded : w.process.machine.prelude codec t = some (ready,effects)) :
    ready.StandsStable t ready.connectedContinuouslySince ↔ ready.StandsStable t w.since := by
  refine and_congr_right fun here => ?_
  obtain ⟨before,clock⟩ := StateMachine.prelude_continues preluded here
  rw [clock,counts.clock before]

theorem Counts.step (counts : w.Counts config) (escalates : config.Escalates)
    (entry : t.KeepsEntry) : (w.step codec t).Counts config := by
  unfold TimeoutWatch.step
  split
  next ready effects running preluded =>
    have configured := (StateMachine.prelude_config preluded).trans counts.config
    have kept := (Process.stepped running preluded).timeouts entry
    have selected := StateMachine.select_timeouts (configured.symm ▸ escalates) t
    rw [prelude_timeouts preluded,counts.counted] at selected
    simp only [counts.stands_iff preluded] at selected
    have timedOut : ready.TimesOut t → (w.process.step codec t).machine.state ≠ .connected := by
      intro ends
      rw [counts.leads escalates running preluded ends]
      unfold TwoFaBackoff.escalated
      split <;> nofun
    refine ⟨Process.step_config.trans counts.config,?_,fun connected => ?_⟩
    · dsimp only
      rw [kept,selected,saturatingSucc]
      by_cases ends : ready.TimesOut t
      · rw [if_neg fun reached => timedOut ends reached.2.1,if_pos ends,if_pos ends]
        omega
      · rw [if_neg ends,if_neg ends]
        split_ifs <;> grind
    · have after := @StateMachine.afterPrelude_connected ready _ entry
      rw [Process.step,Process.turn_of_prelude running preluded] at connected ⊢
      dsimp only
      rcases after connected with ⟨here,same⟩ | ⟨away,starts⟩
      · rw [if_neg fun reached => reached.1 here]
        obtain ⟨before,clock⟩ := StateMachine.prelude_continues preluded here
        exact same.trans (clock.trans (counts.clock before))
      · rw [if_pos ⟨away,connected⟩]
        exact starts
  next stopped =>
    have same : (w.process.step codec t).machine = w.process.machine :=
      (Process.turn_of_stopped fun ready effects running preluded =>
        stopped ready effects running preluded).1
    exact ⟨same ▸ counts.config,same ▸ counts.counted,same ▸ counts.clock⟩

end TimeoutWatch

/-- In a run in which nobody sets Connected by hand, the timeouts are answered by number exactly
where there is a limit, or no timeout at all. -/
theorem timeouts_escalate_iff (codec : MarkerCodec) (config : Config) (recoveryConfig : RecoveryConfig)
    (files : Files.Directory) (settingsDir : String) (now : Clocks) (turns : List Turn)
    (escalates : config.Escalates) (word : config.twofa.backoff.maxImmediateAttempts < 2 ^ 32)
    (entries : ∀ t ∈ turns, t.KeepsEntry) :
    let start : TimeoutWatch :=
      ⟨.start codec config recoveryConfig files settingsDir now,0,none⟩
    Runs.Along (TimeoutWatch.step codec)
        (TimeoutWatch.Escalates codec config.twofa.backoff.maxImmediateAttempts) start turns ↔
      Runs.Along (TimeoutWatch.step codec)
        (fun w t => config.twofa.backoff.maxImmediateAttempts = 0 → w.timesOut codec t = false)
        start turns := by
  intro start
  have kept : Runs.Along (TimeoutWatch.step codec) (fun _ t => t.KeepsEntry) start turns :=
    Runs.along_of_forall _ _ fun t member _ => entries t member
  refine kept.congr (P := TimeoutWatch.Counts config)
    (fun w t counts entry => counts.step escalates entry)
    (fun w t counts _ => counts.escalates_iff escalates word t) ?_
  obtain ⟨core,moved⟩ := @StateMachine.gates_moves
    (StateMachine.new codec config recoveryConfig files settingsDir now) now
  have session := StateMachine.gates_session
    (StateMachine.new codec config recoveryConfig files settingsDir now) now
  refine ⟨StateMachine.config_of_core core,?_,fun connected => ?_⟩
  · exact congrArg Session.consecutive2faTimeouts session
  · rcases moved with same | parked
    · cases same.symm.trans connected
    · cases parked.symm.trans connected

def limitedConfig (limit : Nat) : Config :=
  { paperConfig with
    twofa :=
      { paperConfig.twofa with backoff := ⟨.restartThenHitl,limit,.periodic,[60],.anyReach,300,false⟩ } }

def limitedStart (limit : Nat) : TimeoutWatch :=
  ⟨.start sampleCodec (limitedConfig limit) .default Files.empty "/home/ibgateway/Jts"
    (sampleClocks 14400),0,none⟩

/-- A challenge that nobody answers. -/
def unansweredChallenge : List Turn :=
  challenged ++ [dialogTurn (sampleClocks 14600) "Second Factor Authentication"]

/-- With a limit of nothing the first timeout is handed to the operator. -/
theorem timeout_unlimited :
    (Runs.run (TimeoutWatch.step sampleCodec) (limitedStart 0) unansweredChallenge).process.machine.state =
        .waitingForHitl2fa ∧
      ¬ Runs.Along (TimeoutWatch.step sampleCodec) (TimeoutWatch.Escalates sampleCodec 0) (limitedStart 0)
        unansweredChallenge := by
  decide +kernel

/-- With a limit of three it is answered by a restart. -/
theorem timeouts_escalate_limited :
    (Runs.run (TimeoutWatch.step sampleCodec) (limitedStart 3) unansweredChallenge).process.machine.state =
        .restarting ∧
      Runs.Along (TimeoutWatch.step sampleCodec) (TimeoutWatch.Escalates sampleCodec 3) (limitedStart 3)
        unansweredChallenge := by
  have uninterrupted : unansweredChallenge.all (fun t => t.interrupt.isNone) = true := by decide +kernel
  have entries : ∀ t ∈ unansweredChallenge, t.KeepsEntry := by
    intro t among interrupt taken
    have none_ := List.all_eq_true.mp uninterrupted t among
    rw [taken] at none_
    cases none_
  refine ⟨by decide +kernel,(timeouts_escalate_iff sampleCodec (limitedConfig 3) .default Files.empty
    "/home/ibgateway/Jts" (sampleClocks 14400) unansweredChallenge ⟨rfl,.inr (by decide)⟩ (by decide)
    entries).mpr ?_⟩
  exact Runs.along_of_forall _ _ fun t _ w => nofun

end Ibctl.Machine
