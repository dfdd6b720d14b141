import Ibctl.Lib.Text
import Ibctl.Recovery.Decision

/-! Where the thresholds of the coordinator come from: the table `[timing.recovery]` of the TOML
file and, over it, the environment. Neither layer checks the numbers it is given. -/
namespace Ibctl.Recovery

inductive TomlValue where
  | integer (n : Int)
  | boolean (b : Bool)
  | string (s : String)
  | other
deriving DecidableEq, Repr

namespace TomlValue

def bool? : TomlValue → Option Bool
  | boolean b => some b
  | _ => none

def text? : TomlValue → Option String
  | string s => some s
  | _ => none

/-- Integers of TOML are signed; serde takes those that fit the field. -/
def unsigned? (bits : Nat) : TomlValue → Option Nat
  | integer n => if 0 ≤ n ∧ n < 2 ^ min bits 63 then some n.toNat else none
  | _ => none

end TomlValue

/-- A table of the file; TOML itself refuses one key twice. -/
abbrev TomlTable := List (String × TomlValue)

/-- A field with a serde default. -/
def TomlTable.field {α : Type} (table : TomlTable) (key : String) (read : TomlValue → Option α)
    (default : α) : Option α :=
  match table.lookup key with
  | none => some default
  | some value => read value

structure RecoveryTimingConfig where
  enabled : Bool
  autonomous : Bool
  aggressivePhaseMaxSecs : Nat
  backoffPhaseMaxSecs : Nat
  backoffIntervalSecs : Nat
  minSuccessDwellSecs : Nat
  fingerprintStreakForcingHitl : Nat
  giveupNtfyKind : String
  giveupCallbackValidHours : Nat
  giveupAlertResendIntervalHours : Nat
deriving DecidableEq, Repr

namespace RecoveryTimingConfig

def default : RecoveryTimingConfig where
  enabled := true
  autonomous := false
  aggressivePhaseMaxSecs := 3600
  backoffPhaseMaxSecs := 10800
  backoffIntervalSecs := 900
  minSuccessDwellSecs := 60
  fingerprintStreakForcingHitl := 8
  giveupNtfyKind := "reconnect_gave_up"
  giveupCallbackValidHours := 12
  giveupAlertResendIntervalHours := 6

def fields : List String :=
  ["enabled","autonomous","aggressive_phase_max_secs","backoff_phase_max_secs",
    "backoff_interval_secs","min_success_dwell_secs","fingerprint_streak_forcing_hitl",
    "giveup_ntfy_kind","giveup_callback_valid_hours","giveup_alert_resend_interval_hours"]

/-- What serde makes of the table; an unknown field or a value of the wrong kind is refused. -/
def fromToml (table : TomlTable) : Option RecoveryTimingConfig :=
  if table.all (fun entry => entry.1 ∈ fields) then do
    let enabled ← table.field "enabled" (·.bool?) default.enabled
    let autonomous ← table.field "autonomous" (·.bool?) default.autonomous
    let aggressive ← table.field "aggressive_phase_max_secs" (·.unsigned? 64)
      default.aggressivePhaseMaxSecs
    let backoff ← table.field "backoff_phase_max_secs" (·.unsigned? 64)
      default.backoffPhaseMaxSecs
    let interval ← table.field "backoff_interval_secs" (·.unsigned? 64)
      default.backoffIntervalSecs
    let dwell ← table.field "min_success_dwell_secs" (·.unsigned? 64) default.minSuccessDwellSecs
    let streak ← table.field "fingerprint_streak_forcing_hitl" (·.unsigned? 32)
      default.fingerprintStreakForcingHitl
    let kind ← table.field "giveup_ntfy_kind" (·.text?) default.giveupNtfyKind
    let valid ← table.field "giveup_callback_valid_hours" (·.unsigned? 32)
      default.giveupCallbackValidHours
    let resend ← table.field "giveup_alert_resend_interval_hours" (·.unsigned? 32)
      default.giveupAlertResendIntervalHours
    return ⟨enabled,autonomous,aggressive,backoff,interval,dwell,streak,kind,valid,resend⟩
  else none

section Runtime

variable (env : String → Option String)

def envBool (key : String) : Option Bool :=
  (env key).map (fun v => Text.toAsciiLowercase v ∈ ["1","true","yes","on"])

/-- `env_u64` and `env_u32`: an override that is blank or no number leaves the value. -/
def envUnsigned (bits : Nat) (key : String) (current : Nat) : Nat :=
  match env key with
  | some v =>
    if Text.trim v = "" then current else (Text.parseUnsigned bits v.toList).getD current
  | none => current

/-- The two hours of the give-up alert are left out; no decision reads them. -/
def toRuntime (self : RecoveryTimingConfig) : RecoveryConfig where
  autonomous := (envBool env "IBCTL_RECOVERY_AUTONOMOUS").getD self.autonomous
  aggressivePhaseMaxSecs :=
    envUnsigned env 64 "IBCTL_RECOVERY_AGGRESSIVE_MAX_SECS" self.aggressivePhaseMaxSecs
  backoffPhaseMaxSecs :=
    envUnsigned env 64 "IBCTL_RECOVERY_BACKOFF_MAX_SECS" self.backoffPhaseMaxSecs
  backoffIntervalSecs :=
    envUnsigned env 64 "IBCTL_RECOVERY_BACKOFF_INTERVAL_SECS" self.backoffIntervalSecs
  minSuccessDwellSecs :=
    envUnsigned env 64 "IBCTL_RECOVERY_MIN_SUCCESS_DWELL_SECS" self.minSuccessDwellSecs
  fingerprintStreakForcingHitl :=
    envUnsigned env 32 "IBCTL_RECOVERY_FINGERPRINT_STREAK" self.fingerprintStreakForcingHitl
  disabled := (envBool env "IBCTL_RECOVERY_DISABLED").getD !self.enabled

theorem fromToml_nil : fromToml [] = some default := rfl

/-- Without overrides the file decides, and its defaults are those of the decision. -/
theorem toRuntime_default : default.toRuntime (fun _ => none) = .default := rfl

end Runtime

end RecoveryTimingConfig

variable (snap : RecoverySnapshot) (cfg : RecoveryConfig)

/-- The decision panics only where it divides by the interval. -/
theorem computeNextAction_eq_none_iff :
    computeNextAction snap cfg = none ↔
      cfg.disabled = false ∧ snap.coldRestartPending = false ∧ snap.phase = .backoffEvery15Min ∧
        snap.failureFingerprintStreak < cfg.fingerprintStreakForcingHitl ∧
        (cfg.autonomous = true ∨ snap.phaseElapsedSecs < cfg.backoffPhaseMaxSecs) ∧
        cfg.backoffIntervalSecs = 0 := by
  unfold computeNextAction
  cases phase : snap.phase <;> grind

theorem Duration.fromSecs_pos {secs : Nat} (positive : 0 < secs) : 0 < Duration.fromSecs secs :=
  Nat.mul_pos positive (by norm_num)

/-- In backoff the decision sleeps for what remains of the interval, or for a whole one. -/
theorem computeNextAction_backoff_sleep {d : Duration} (enabled : cfg.disabled = false)
    (phase : snap.phase = .backoffEvery15Min)
    (sleeps : computeNextAction snap cfg = some (.sleep d)) :
    d = .fromSecs cfg.backoffIntervalSecs ∨
      d = .fromSecs (cfg.backoffIntervalSecs - snap.phaseElapsedSecs % cfg.backoffIntervalSecs) := by
  unfold computeNextAction at sleeps
  grind

/-- While the coordinator is disabled every decision is a sleep of no length. Otherwise, with an
interval that is not zero, a decision is made and a sleep in backoff lasts, but for no longer than
the interval. -/
theorem recovery_sleep_bounded (timing : RecoveryTimingConfig) (env : String → Option String)
    (snap : RecoverySnapshot) :
    ((timing.toRuntime env).disabled = true →
      computeNextAction snap (timing.toRuntime env) = some (.sleep 0)) ∧
    ((timing.toRuntime env).disabled = false → (timing.toRuntime env).backoffIntervalSecs ≠ 0 →
      computeNextAction snap (timing.toRuntime env) ≠ none ∧
      (snap.phase = .backoffEvery15Min → ∀ d,
        computeNextAction snap (timing.toRuntime env) = some (.sleep d) →
          0 < d ∧ d ≤ .fromSecs (timing.toRuntime env).backoffIntervalSecs)) := by
  generalize timing.toRuntime env = cfg
  refine ⟨fun disabled => by simp [computeNextAction,disabled],fun enabled interval => ⟨?_,?_⟩⟩
  · intro panics
    exact interval ((computeNextAction_eq_none_iff snap cfg).mp panics).2.2.2.2.2
  · intro phase d sleeps
    have positive : 0 < cfg.backoffIntervalSecs := Nat.pos_of_ne_zero interval
    have below := Nat.mod_lt snap.phaseElapsedSecs positive
    rcases computeNextAction_backoff_sleep snap cfg enabled phase sleeps with rfl | rfl
    · exact ⟨Duration.fromSecs_pos positive,le_refl _⟩
    · exact ⟨Duration.fromSecs_pos (by omega),Nat.mul_le_mul_right _ (Nat.sub_le _ _)⟩

/-- A coordinator that runs, 60 seconds into a backoff with the default interval, and one that is
switched off. -/
theorem recovery_sleep_bounded_default :
    (computeNextAction ⟨.backoffEvery15Min,60,false,none,false,0⟩
        (RecoveryTimingConfig.default.toRuntime fun _ => none) ≠ none ∧
      0 < Duration.fromSecs 840 ∧ Duration.fromSecs 840 ≤ .fromSecs 900) ∧
    computeNextAction ⟨.backoffEvery15Min,60,false,none,false,0⟩
      (RecoveryTimingConfig.default.toRuntime fun name =>
        if name = "IBCTL_RECOVERY_DISABLED" then some "Yes" else none) = some (.sleep 0) := by
  have runs := (recovery_sleep_bounded .default (fun _ => none)
    ⟨.backoffEvery15Min,60,false,none,false,0⟩).2 rfl (by decide)
  exact ⟨⟨runs.1,runs.2 rfl (.fromSecs 840) (by decide)⟩,
    (recovery_sleep_bounded .default _ ⟨.backoffEvery15Min,60,false,none,false,0⟩).1 (by decide)⟩

/-- The kill switch sleeps for no time at all, in backoff as anywhere. -/
theorem recovery_sleep_empty :
    ¬ ∀ (table : TomlTable) (timing : RecoveryTimingConfig) (env : String → Option String)
      (snap : RecoverySnapshot), RecoveryTimingConfig.fromToml table = some timing →
        computeNextAction snap (timing.toRuntime env) ≠ none ∧
        (snap.phase = .backoffEvery15Min → ∀ d,
          computeNextAction snap (timing.toRuntime env) = some (.sleep d) →
            0 < d ∧ d ≤ .fromSecs (timing.toRuntime env).backoffIntervalSecs) := by
  intro claimed
  have sleeps := (claimed [("enabled",.boolean false)] { RecoveryTimingConfig.default with enabled := false }
    (fun _ => none) ⟨.backoffEvery15Min,60,false,none,false,0⟩ rfl).2 rfl 0 rfl
  exact absurd sleeps.1 (lt_irrefl 0)

end Ibctl.Recovery
