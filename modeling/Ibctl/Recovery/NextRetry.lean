import Ibctl.Recovery.Coordinator

/-! The `next_retry_at` of the STATUS query beside the decision of the coordinator. The query goes
by the wall clock alone and publishes a boundary of the phase, whatever the tick decides. -/
namespace Ibctl.Recovery

/-- The last second that a timestamp can show, at the end of the year 9999. -/
def lastSecond : Int := 253402207200

/-- `checked_add` of whole seconds, which are an `i64`. -/
def Zoned.checkedAddSecs (z : Zoned) (secs : Nat) : Option Zoned :=
  if secs < 2 ^ 63 ∧ asSecond (z.timestamp + secs * 10 ^ 9) ≤ lastSecond then
    some { z with timestamp := z.timestamp + secs * 10 ^ 9 }
  else none

namespace RecoveryCoordinator

variable (self : RecoveryCoordinator)

/-- The product saturates; a zero interval has no boundary. -/
def nextRetryAt (nowWall : Zoned) : Option Zoned :=
  if self.phase = .backoffEvery15Min then
    let phaseElapsedSecs := wallSecsSince nowWall self.phaseEnteredAtWall
    let interval := self.config.backoffIntervalSecs
    if interval = 0 then none
    else
      let boundariesPassed := phaseElapsedSecs / interval
      let offsetSecs := min (interval * (boundariesPassed + 1)) (2 ^ 64 - 1)
      Zoned.checkedAddSecs self.phaseEnteredAtWall offsetSecs
  else none

/-- The seconds from the phase's entry to its next boundary by the wall clock. -/
def boundarySecs (nowWall : Zoned) : Nat :=
  let interval := self.config.backoffIntervalSecs
  interval * (wallSecsSince nowWall self.phaseEnteredAtWall / interval + 1)

/-- The boundary lies as far ahead as the decision sleeps, counted in seconds of the wall clock. -/
def Agrees (nowWall : Zoned) (d : Duration) : Prop :=
  asSecond self.phaseEnteredAtWall.timestamp + self.boundarySecs nowWall =
    asSecond nowWall.timestamp + d.asSecs ∧ d = .fromSecs d.asSecs

variable {self}

theorem nextRetryAt_eq (backoff : self.phase = .backoffEvery15Min)
    (positive : 0 < self.config.backoffIntervalSecs) (nowWall : Zoned) :
    self.nextRetryAt nowWall = Zoned.checkedAddSecs self.phaseEnteredAtWall (self.boundarySecs nowWall) := by
  unfold nextRetryAt boundarySecs
  rw [if_pos backoff]
  dsimp only
  rw [if_neg (Nat.ne_of_gt positive)]
  by_cases small : self.config.backoffIntervalSecs *
      (wallSecsSince nowWall self.phaseEnteredAtWall / self.config.backoffIntervalSecs + 1) ≤ 2 ^ 64 - 1
  · rw [Nat.min_eq_left small]
  · have large : ∀ secs : Nat, 2 ^ 64 - 1 ≤ secs →
        Zoned.checkedAddSecs self.phaseEnteredAtWall secs = none := by
      intro secs wide
      unfold Zoned.checkedAddSecs
      exact if_neg fun both => absurd both.1 (by omega)
    rw [Nat.min_eq_right (by omega),large _ (Nat.le_refl _),large _ (by omega)]

/-- Behind each reading of the wall clock comes a boundary, and no later than an interval. -/
theorem boundarySecs_bounds (positive : 0 < self.config.backoffIntervalSecs) (nowWall : Zoned) :
    wallSecsSince nowWall self.phaseEnteredAtWall < self.boundarySecs nowWall ∧
      self.boundarySecs nowWall = wallSecsSince nowWall self.phaseEnteredAtWall +
        (self.config.backoffIntervalSecs -
          wallSecsSince nowWall self.phaseEnteredAtWall % self.config.backoffIntervalSecs) := by
  unfold boundarySecs
  dsimp only
  generalize wallSecsSince nowWall self.phaseEnteredAtWall = elapsed
  generalize self.config.backoffIntervalSecs = interval at positive
  have parts := Nat.div_add_mod elapsed interval
  have rest := Nat.mod_lt elapsed positive
  rw [Nat.mul_add,Nat.mul_one]
  omega

/-- How long a tick in the backoff phase sleeps. -/
theorem compute_sleep {now : Clocks} {coldRestartPending : Bool} {resumeToken : Option ResumeToken}
    {streak : Nat} {d : Duration} (backoff : self.phase = .backoffEvery15Min)
    (enabled : self.config.disabled = false) (positive : 0 < self.config.backoffIntervalSecs)
    (sleeps : self.compute now coldRestartPending resumeToken streak = some (.sleep d)) :
    d = .fromSecs (self.config.backoffIntervalSecs -
      if streak < self.config.fingerprintStreakForcingHitl then
        self.phaseElapsedSecs now % self.config.backoffIntervalSecs else 0) := by
  unfold compute computeNextAction at sleeps
  simp only [enabled,backoff,Bool.false_eq_true,if_false,reduceCtorEq,decide_false,Bool.and_false,
    ne_eq,not_false_eq_true,true_and] at sleeps
  split at sleeps
  · cases sleeps
  split at sleeps
  next streaked =>
    rw [if_neg (Nat.not_lt.mpr streaked)]
    split at sleeps
    · cases sleeps
      rfl
    · cases sleeps
  next calm =>
    rw [if_pos (Nat.not_le.mp calm)]
    split at sleeps
    · cases sleeps
    · rw [if_neg (Nat.ne_of_gt positive)] at sleeps
      cases sleeps
      rfl

/-- STATUS publishes the next boundary whatever the tick decides, and the boundary is where its
sleep ends just when the wall clock is not behind the phase's entry and has the remainder that the
decision goes by. -/
theorem next_retry_at_boundary (self : RecoveryCoordinator) (now : Clocks)
    (backoff : self.phase = .backoffEvery15Min) (enabled : self.config.disabled = false)
    (positive : 0 < self.config.backoffIntervalSecs) :
    self.nextRetryAt now.wall =
        Zoned.checkedAddSecs self.phaseEnteredAtWall (self.boundarySecs now.wall) ∧
      wallSecsSince now.wall self.phaseEnteredAtWall < self.boundarySecs now.wall ∧
      ∀ coldRestartPending resumeToken streak d,
        self.compute now coldRestartPending resumeToken streak = some (.sleep d) →
          (self.Agrees now.wall d ↔
            asSecond self.phaseEnteredAtWall.timestamp ≤ asSecond now.wall.timestamp ∧
              wallSecsSince now.wall self.phaseEnteredAtWall % self.config.backoffIntervalSecs =
                if streak < self.config.fingerprintStreakForcingHitl then
                  self.phaseElapsedSecs now % self.config.backoffIntervalSecs else 0) := by
  have bounds := boundarySecs_bounds positive now.wall
  refine ⟨nextRetryAt_eq backoff positive now.wall,bounds.1,?_⟩
  intro coldRestartPending resumeToken streak d sleeps
  have slept := compute_sleep backoff enabled positive sleeps
  unfold Agrees
  rw [bounds.2]
  generalize remainder : (if streak < self.config.fingerprintStreakForcingHitl then
    self.phaseElapsedSecs now % self.config.backoffIntervalSecs else 0) = r at slept ⊢
  have r_lt : r < self.config.backoffIntervalSecs := by
    rw [← remainder]
    split
    · exact Nat.mod_lt _ positive
    · exact positive
  have wall_lt := Nat.mod_lt (wallSecsSince now.wall self.phaseEnteredAtWall) positive
  have secs : d.asSecs = self.config.backoffIntervalSecs - r := by
    rw [slept]
    exact Nat.mul_div_cancel _ (by decide)
  rw [secs,and_iff_left slept]
  have whole : wallSecsSince now.wall self.phaseEnteredAtWall =
      (asSecond now.wall.timestamp - asSecond self.phaseEnteredAtWall.timestamp).toNat := rfl
  have start : wallSecsSince now.wall self.phaseEnteredAtWall = 0 →
      wallSecsSince now.wall self.phaseEnteredAtWall % self.config.backoffIntervalSecs = 0 := by
    intro zero
    rw [zero,Nat.zero_mod]
  clear bounds
  generalize wallSecsSince now.wall self.phaseEnteredAtWall % self.config.backoffIntervalSecs = q
    at wall_lt start ⊢
  generalize wallSecsSince now.wall self.phaseEnteredAtWall = elapsed at whole start ⊢
  omega

/-- A coordinator that has been in the backoff phase since this reading. -/
def backingOff (entered : Clocks) : RecoveryCoordinator where
  mode := "paper"
  settingsDir := "/home/ibgateway/Jts"
  config := .default
  phase := .backoffEvery15Min
  phaseEnteredAtWall := entered.wall
  phaseEnteredAtMono := entered.mono
  lastFullSuccessAt := none
  lastFullSuccessMono := none
  giveupAlertSentAt := none
  resumedByTokenHash := none
  blockedAwaitingResume := false
  giveupSignalTx := false

/-- Readings of the two clocks, in seconds. -/
def clocksAt (wallSecs monoSecs : Int) : Clocks := ⟨⟨wallSecs * 10 ^ 9,"UTC"⟩,⟨monoSecs * 10 ^ 9⟩⟩

/-- The wall clock jumps ten minutes ahead, and the boundary that is published is not where the
sleep ends; when the phase is over, one is published all the same. -/
theorem boundary_misleads :
    let coord := backingOff (clocksAt 1700000000 1000)
    (coord.compute (clocksAt 1700001000 1400) false none 0 = some (.sleep (.fromSecs 500)) ∧
        coord.nextRetryAt (clocksAt 1700001000 1400).wall = some (clocksAt 1700001800 0).wall) ∧
      (coord.compute (clocksAt 1700010800 11800) false none 0 = some .fireGiveUpAlert ∧
        coord.nextRetryAt (clocksAt 1700010800 11800).wall = some (clocksAt 1700011700 0).wall) := by
  decide +kernel

/-- After an hour of both clocks the boundary is a whole interval ahead, as the sleep is. -/
theorem boundary_after_an_hour :
    let coord := backingOff (clocksAt 1700000000 1000)
    coord.Agrees (clocksAt 1700003600 4600).wall (.fromSecs 900) :=
  ((next_retry_at_boundary (backingOff (clocksAt 1700000000 1000)) (clocksAt 1700003600 4600) rfl rfl
    (by decide)).2.2 false none 0 (.fromSecs 900) (by decide +kernel)).mpr ⟨by decide +kernel,by decide +kernel⟩

end RecoveryCoordinator

end Ibctl.Recovery
