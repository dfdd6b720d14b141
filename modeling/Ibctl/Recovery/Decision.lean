import Ibctl.Time

/-! The pure decision of the reconnection coordinator: three phases, the thresholds
and the one function that says what a tick does. Division by a zero backoff interval
panics in the source, so the decision is an `Option`. -/
namespace Ibctl.Recovery

inductive RecoveryPhase where
  | aggressive
  | backoffEvery15Min
  | givenUp
deriving DecidableEq, Repr

def RecoveryPhase.asStr : RecoveryPhase → String
  | .aggressive => "aggressive"
  | .backoffEvery15Min => "backoff_every_15min"
  | .givenUp => "given_up"

structure RecoveryConfig where
  autonomous : Bool
  aggressivePhaseMaxSecs : Nat
  backoffPhaseMaxSecs : Nat
  backoffIntervalSecs : Nat
  minSuccessDwellSecs : Nat
  fingerprintStreakForcingHitl : Nat
  disabled : Bool
deriving DecidableEq, Repr

def RecoveryConfig.default : RecoveryConfig where
  autonomous := false
  aggressivePhaseMaxSecs := 3600
  backoffPhaseMaxSecs := 10800
  backoffIntervalSecs := 900
  minSuccessDwellSecs := 60
  fingerprintStreakForcingHitl := 8
  disabled := false

structure ResumeToken where
  mode : String
  mintedAt : Int
  nonceMaterial : String
deriving DecidableEq, Repr

structure RecoverySnapshot where
  phase : RecoveryPhase
  phaseElapsedSecs : Nat
  hadSuccessThisPhase : Bool
  resumeToken : Option ResumeToken
  coldRestartPending : Bool
  failureFingerprintStreak : Nat
deriving DecidableEq, Repr

inductive NextAction where
  | sleep (d : Duration)
  | escalateToBackoff
  | fireGiveUpAlert
  | resumeToAggressive
  | resumeAutomatically
  | deferToColdRestart
  | forceHitlEarly
deriving DecidableEq, Repr

def computeNextAction (snap : RecoverySnapshot) (cfg : RecoveryConfig) : Option NextAction :=
  if cfg.disabled then some (.sleep 0)
  else if cfg.autonomous && snap.phase = .givenUp then some .resumeAutomatically
  else if snap.coldRestartPending then some .deferToColdRestart
  else if snap.resumeToken.isSome && snap.phase = .givenUp then some .resumeToAggressive
  else if snap.phase ≠ .givenUp ∧
      snap.failureFingerprintStreak ≥ cfg.fingerprintStreakForcingHitl then
    if cfg.autonomous then
      if snap.phase = .aggressive then some .escalateToBackoff
      else some (.sleep (.fromSecs cfg.backoffIntervalSecs))
    else some .forceHitlEarly
  else
    match snap.phase with
    | .aggressive =>
      if snap.hadSuccessThisPhase then some (.sleep 0)
      else if snap.phaseElapsedSecs ≥ cfg.aggressivePhaseMaxSecs then some .escalateToBackoff
      else some (.sleep 0)
    | .backoffEvery15Min =>
      if !cfg.autonomous && snap.phaseElapsedSecs ≥ cfg.backoffPhaseMaxSecs then
        some .fireGiveUpAlert
      else if cfg.backoffIntervalSecs = 0 then none
      else
        let remainder := snap.phaseElapsedSecs % cfg.backoffIntervalSecs
        some (.sleep (.fromSecs (cfg.backoffIntervalSecs - remainder)))
    | .givenUp => some (.sleep (.fromSecs 3600))

variable (snap : RecoverySnapshot) (cfg : RecoveryConfig)

/-- The tick escalates out of Aggressive in two ways only: the failure streak of an
autonomous coordinator, or the phase timer when the phase has seen no success. -/
theorem computeNextAction_escalate_iff :
    computeNextAction snap cfg = some .escalateToBackoff ↔
      cfg.disabled = false ∧ snap.coldRestartPending = false ∧ snap.phase = .aggressive ∧
        ((cfg.fingerprintStreakForcingHitl ≤ snap.failureFingerprintStreak ∧
            cfg.autonomous = true) ∨
          (snap.failureFingerprintStreak < cfg.fingerprintStreakForcingHitl ∧
            snap.hadSuccessThisPhase = false ∧
            cfg.aggressivePhaseMaxSecs ≤ snap.phaseElapsedSecs)) := by
  unfold computeNextAction
  cases phase : snap.phase <;> grind

theorem computeNextAction_fire_iff :
    computeNextAction snap cfg = some .fireGiveUpAlert ↔
      cfg.disabled = false ∧ snap.coldRestartPending = false ∧
        snap.phase = .backoffEvery15Min ∧ cfg.autonomous = false ∧
        snap.failureFingerprintStreak < cfg.fingerprintStreakForcingHitl ∧
        cfg.backoffPhaseMaxSecs ≤ snap.phaseElapsedSecs := by
  unfold computeNextAction
  cases phase : snap.phase <;> grind

theorem computeNextAction_force_iff :
    computeNextAction snap cfg = some .forceHitlEarly ↔
      cfg.disabled = false ∧ snap.coldRestartPending = false ∧ snap.phase ≠ .givenUp ∧
        cfg.autonomous = false ∧
        cfg.fingerprintStreakForcingHitl ≤ snap.failureFingerprintStreak := by
  unfold computeNextAction
  cases phase : snap.phase <;> grind

theorem computeNextAction_resume_iff :
    computeNextAction snap cfg = some .resumeToAggressive ↔
      cfg.disabled = false ∧ snap.coldRestartPending = false ∧ snap.phase = .givenUp ∧
        cfg.autonomous = false ∧ snap.resumeToken.isSome = true := by
  unfold computeNextAction
  cases phase : snap.phase <;> grind

theorem computeNextAction_resumeAutomatically_iff :
    computeNextAction snap cfg = some .resumeAutomatically ↔
      cfg.disabled = false ∧ cfg.autonomous = true ∧ snap.phase = .givenUp := by
  unfold computeNextAction
  cases phase : snap.phase <;> grind

end Ibctl.Recovery
