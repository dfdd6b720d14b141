import Ibctl.Lib.Runs
import Ibctl.Recovery.Coordinator

/-! When the Aggressive phase escalates. The timer is meant to run from the later of the
phase entry and the last success, but a success that is recorded stays recorded until the
phase changes, and the decision only asks whether there is one. -/
namespace Ibctl.Recovery

namespace RecoveryCoordinator

/-- The seconds have passed on both clocks since the later of the phase entry and the last
recorded success. The monotonic reading of a success is lost in a reload. -/
def QuietFor (self : RecoveryCoordinator) (now : Clocks) (secs : Nat) : Prop :=
  secs ≤ self.phaseElapsedSecs now ∧
  (∀ success, self.lastFullSuccessAt = some success → secs ≤ wallSecsSince now.wall success) ∧
  (∀ success, self.lastFullSuccessMono = some success →
    secs ≤ (now.mono.durationSince success).asSecs)

end RecoveryCoordinator

namespace Running

/-- The tick is one the escalation is promised for. -/
def EscalationDue (r : Running) (input : TickInput) : Prop :=
  r.coord.config.disabled = false ∧ r.coord.phase = .aggressive ∧
    input.coldRestartPending = false ∧
    r.coord.QuietFor input.now r.coord.config.aggressivePhaseMaxSecs

/-- No success is on record for the phase, or the failure streak decides by itself. -/
def SuccessForgotten (r : Running) (input : TickInput) : Prop :=
  (input.failureFingerprintStreak < r.coord.config.fingerprintStreakForcingHitl ∧
      r.coord.lastFullSuccessAt = none) ∨
    (r.coord.config.fingerprintStreakForcingHitl ≤ input.failureFingerprintStreak ∧
      r.coord.config.autonomous = true)

def Escalates (r : Running) : Event → Prop
  | .tick input => r.EscalationDue input → r.nextAction input = some .escalateToBackoff
  | _ => True

def ForgottenWhenDue (r : Running) : Event → Prop
  | .tick input => r.EscalationDue input → r.SuccessForgotten input
  | _ => True

theorem escalates_iff (r : Running) (input : TickInput) :
    r.Escalates (.tick input) ↔ r.ForgottenWhenDue (.tick input) := by
  refine forall_congr' fun due => ?_
  obtain ⟨enabled,phase,cold,elapsed,-⟩ := due
  unfold nextAction RecoveryCoordinator.compute SuccessForgotten
  rw [computeNextAction_escalate_iff]
  simp [enabled,phase,cold,elapsed,or_comm]

/-- A success on record keeps an enabled coordinator in Aggressive through every tick
below the failure streak, whatever the clocks say. -/
def Stuck (r : Running) : Prop :=
  r.coord.config.disabled = false ∧ r.coord.phase = .aggressive ∧
    r.coord.lastFullSuccessAt.isSome = true

def BelowStreak (r : Running) : Event → Prop
  | .tick input => input.failureFingerprintStreak < r.coord.config.fingerprintStreakForcingHitl
  | .success .. => True
  | .reload .. => False

theorem nextAction_of_stuck {r : Running} {input : TickInput} (stuck : r.Stuck)
    (below : r.BelowStreak (.tick input)) :
    r.nextAction input = some (.sleep 0) ∨ r.nextAction input = some .deferToColdRestart := by
  obtain ⟨enabled,phase,success⟩ := stuck
  have low : input.failureFingerprintStreak < r.coord.config.fingerprintStreakForcingHitl := below
  cases cold : input.coldRestartPending with
  | true => exact .inr (by simp [nextAction,RecoveryCoordinator.compute,computeNextAction,
      enabled,phase,cold])
  | false => exact .inl (by simp [nextAction,RecoveryCoordinator.compute,computeNextAction,
      enabled,phase,cold,success,not_le.mpr low])

variable {codec : MarkerCodec}

theorem step_stuck {r : Running} {event : Event} (stuck : r.Stuck) (below : r.BelowStreak event) :
    (r.step codec event).Stuck := by
  cases event with
  | tick input =>
    rcases nextAction_of_stuck stuck below with decided | decided <;>
      simpa [tick,decided,RecoveryCoordinator.apply] using stuck
  | success recorded io =>
    obtain ⟨enabled,phase,-⟩ := stuck
    rw [step_success]
    unfold Stuck
    rw [RecoveryCoordinator.recordSuccess_coord,phase]
    exact ⟨enabled,rfl,rfl⟩
  | reload forceResetEnv now => exact absurd below id

end Running

/-- A tick escalates when it is due exactly when no success is on record; so does every
tick of a run whose ticks all meet that condition. Once a success is on record, no tick of
the phase escalates again. -/
theorem escalation_iff_success_forgotten (codec : MarkerCodec) :
    (∀ (r : Running) input, r.Escalates (.tick input) ↔ r.ForgottenWhenDue (.tick input)) ∧
    (∀ (start : Running) events,
      Runs.Along (Running.step codec) Running.ForgottenWhenDue start events →
      Runs.Along (Running.step codec) Running.Escalates start events) ∧
    (∀ (start : Running) events, start.Stuck →
      Runs.Along (Running.step codec) Running.BelowStreak start events →
      (Runs.run (Running.step codec) start events).Stuck) := by
  refine ⟨Running.escalates_iff,?_,?_⟩
  · intro start events along
    refine along.strengthen (P := fun _ => True) (fun _ _ _ _ => trivial) ?_ trivial
    intro r event _ forgotten
    cases event with
    | tick input => exact (Running.escalates_iff r input).mpr forgotten
    | success recorded io => trivial
    | reload forceResetEnv now => trivial
  · intro start events stuck along
    exact along.invariant (fun _ _ stuck below => Running.step_stuck stuck below) stuck

def connectedOnce : Running :=
  Running.step sampleCodec
    ⟨(RecoveryCoordinator.boot sampleCodec Files.empty "/home/ibgateway/Jts" "paper" .default none
      (sampleClocks 0)).1,Files.empty⟩
    (.success (sampleClocks 60) .ok)

def dayLater : TickInput := ⟨sampleClocks 86460,false,none,0,.ok⟩

/-- A day of failures after one success: the escalation is long due and the tick sleeps. -/
theorem escalation_missed_after_success :
    connectedOnce.EscalationDue dayLater ∧
    connectedOnce.nextAction dayLater = some (.sleep 0) ∧
    ¬ connectedOnce.Escalates (.tick dayLater) := by
  have due : connectedOnce.EscalationDue dayLater := by
    refine ⟨rfl,rfl,rfl,by decide +kernel,?_,?_⟩
    · intro success recorded
      cases recorded
      decide +kernel
    · intro success recorded
      cases recorded
      decide +kernel
  have slept : connectedOnce.nextAction dayLater = some (.sleep 0) := by decide +kernel
  refine ⟨due,slept,fun escalates => ?_⟩
  have := escalates due
  rw [slept] at this
  cases this

theorem escalation_iff_success_forgotten_never_connected :
    Runs.Along (Running.step sampleCodec) Running.Escalates
      ⟨(RecoveryCoordinator.boot sampleCodec Files.empty "/home/ibgateway/Jts" "paper" .default none
        (sampleClocks 0)).1,Files.empty⟩ [.tick dayLater] :=
  (escalation_iff_success_forgotten sampleCodec).2.1 _ _ ⟨fun _ => .inl ⟨by decide,rfl⟩,trivial⟩

end Ibctl.Recovery
