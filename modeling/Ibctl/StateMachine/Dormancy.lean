import Ibctl.StateMachine.Parked

/-! The age of a phase. The coordinator subtracts the clock reading of the phase entry, so
its timer runs while the tick is skipped as well. A meter beside the process counts what
the machine spends in states the tick is run in and in states it is skipped in. -/
namespace Ibctl.Machine
open Recovery

variable {codec : MarkerCodec}

section Coordinator

variable {self : RecoveryCoordinator} {files : Files.Directory} {now : Clocks} {io : SaveIo}

/-- The seconds after which the timer of the present phase decides, where it decides. -/
def timerLimit (self : RecoveryCoordinator) : Option Nat :=
  if self.config.disabled ∨ self.config.fingerprintStreakForcingHitl = 0 then none
  else
    match self.phase with
    | .aggressive =>
      if self.lastFullSuccessAt.isSome then none else some self.config.aggressivePhaseMaxSecs
    | .backoffEvery15Min =>
      if self.config.autonomous then none else some self.config.backoffPhaseMaxSecs
    | .givenUp => none

/-- The failure streak, which no tick counts yet, does not escalate by itself. -/
def StreakCounts (config : RecoveryConfig) : Prop :=
  config.autonomous = true → 0 < config.fingerprintStreakForcingHitl

theorem timerLimit_cases {limit : Nat} (decides : timerLimit self = some limit) :
    (self.phase = .aggressive ∧ limit = self.config.aggressivePhaseMaxSecs) ∨
      (self.phase = .backoffEvery15Min ∧ limit = self.config.backoffPhaseMaxSecs) := by
  unfold timerLimit at decides
  split at decides
  · cases decides
  · cases phase : self.phase with
    | aggressive =>
      simp only [phase] at decides
      split at decides
      · cases decides
      · cases decides
        exact .inl ⟨rfl,rfl⟩
    | backoffEvery15Min =>
      simp only [phase] at decides
      split at decides
      · cases decides
      · cases decides
        exact .inr ⟨rfl,rfl⟩
    | givenUp =>
      simp only [phase] at decides
      cases decides

variable (now) in
theorem compute_escalate_iff (counts : StreakCounts self.config) (token : Option ResumeToken) :
    self.compute now false token 0 = some .escalateToBackoff ↔
      self.phase = .aggressive ∧
        ∃ limit, timerLimit self = some limit ∧ limit ≤ self.phaseElapsedSecs now := by
  unfold RecoveryCoordinator.compute timerLimit
  rw [computeNextAction_escalate_iff]
  unfold StreakCounts at counts
  constructor
  · rintro ⟨enabled,-,phase,⟨streak,autonomous⟩ | ⟨streak,success,elapsed⟩⟩
    · exact absurd streak (Nat.not_le_of_gt (counts autonomous))
    · have positive : self.config.fingerprintStreakForcingHitl ≠ 0 := Nat.ne_of_gt streak
      have unrecorded : self.lastFullSuccessAt.isSome = false := success
      have phase : self.phase = .aggressive := phase
      refine ⟨phase,self.config.aggressivePhaseMaxSecs,?_,elapsed⟩
      simp [enabled,positive,phase,unrecorded]
  · rintro ⟨phase,limit,decides,elapsed⟩
    split at decides
    · cases decides
    next active =>
      simp only [phase] at decides
      split at decides
      · cases decides
      next success =>
        cases decides
        simp only [not_or,Bool.not_eq_true] at active success
        exact ⟨active.1,rfl,phase,.inr ⟨Nat.pos_of_ne_zero active.2,success,elapsed⟩⟩

variable (self now) in
theorem compute_fire_iff (token : Option ResumeToken) :
    self.compute now false token 0 = some .fireGiveUpAlert ↔
      self.phase = .backoffEvery15Min ∧
        ∃ limit, timerLimit self = some limit ∧ limit ≤ self.phaseElapsedSecs now := by
  unfold RecoveryCoordinator.compute timerLimit
  rw [computeNextAction_fire_iff]
  constructor
  · rintro ⟨enabled,-,phase,manual,streak,elapsed⟩
    have positive : self.config.fingerprintStreakForcingHitl ≠ 0 := Nat.ne_of_gt streak
    have phase : self.phase = .backoffEvery15Min := phase
    refine ⟨phase,self.config.backoffPhaseMaxSecs,?_,elapsed⟩
    simp [enabled,positive,phase,manual]
  · rintro ⟨phase,limit,decides,elapsed⟩
    split at decides
    · cases decides
    next active =>
      simp only [phase] at decides
      split at decides
      · cases decides
      next manual =>
        cases decides
        simp only [not_or,Bool.not_eq_true] at active manual
        exact ⟨active.1,rfl,phase,manual,Nat.pos_of_ne_zero active.2,elapsed⟩

/-- The coordinator entered a phase at the instant. -/
def Entered (before after : RecoveryCoordinator) (at_ : Instant) : Prop :=
  after.phase ≠ before.phase ∧ after.phaseEnteredAtMono = at_ ∧ after.config = before.config

variable (codec files io) in
theorem apply_enters {action : NextAction} {cold : Bool} {token : Option ResumeToken}
    {streak : Nat} (computed : self.compute now cold token streak = some action) :
    (self.apply codec files action now token io).coord = self ∨
      Entered self (self.apply codec files action now token io).coord now.mono := by
  unfold RecoveryCoordinator.compute at computed
  have gives : ∀ phase : self.phase ≠ .givenUp,
      (self.giveUp codec files now io).coord = self ∨
        Entered self (self.giveUp codec files now io).coord now.mono := by
    intro phase
    simp only [RecoveryCoordinator.giveUp,phase,false_and,if_false,
      RecoveryCoordinator.persistThen_coord]
    exact .inr ⟨phase.symm,rfl,rfl⟩
  cases action with
  | sleep d => exact .inl rfl
  | deferToColdRestart => exact .inl rfl
  | escalateToBackoff =>
    obtain ⟨-,-,phase,-⟩ := (computeNextAction_escalate_iff _ _).mp computed
    have phase : self.phase = .aggressive := phase
    simp only [RecoveryCoordinator.apply,RecoveryCoordinator.persistThen_coord]
    exact .inr ⟨by simp [phase],rfl,rfl⟩
  | fireGiveUpAlert =>
    obtain ⟨-,-,phase,-⟩ := (computeNextAction_fire_iff _ _).mp computed
    have phase : self.phase = .backoffEvery15Min := phase
    exact gives (by simp [phase])
  | forceHitlEarly =>
    obtain ⟨-,-,phase,-⟩ := (computeNextAction_force_iff _ _).mp computed
    exact gives phase
  | resumeAutomatically =>
    obtain ⟨-,-,phase⟩ := (computeNextAction_resumeAutomatically_iff _ _).mp computed
    have phase : self.phase = .givenUp := phase
    simp only [RecoveryCoordinator.apply,RecoveryCoordinator.persistThen_coord]
    exact .inr ⟨by simp [phase],rfl,rfl⟩
  | resumeToAggressive =>
    obtain ⟨-,-,phase,-⟩ := (computeNextAction_resume_iff _ _).mp computed
    have ended : self.phase = .givenUp := phase
    cases token with
    | none => exact .inl rfl
    | some token =>
      simp only [RecoveryCoordinator.apply]
      split
      · exact .inl rfl
      · simp only [RecoveryCoordinator.persistThen_coord]
        exact .inr ⟨by simp [ended],rfl,rfl⟩

/-- A success is on record for the Aggressive phase, whose timer it stops for good. -/
def SuccessOnRecord (self : RecoveryCoordinator) : Prop :=
  self.phase = .aggressive ∧ self.lastFullSuccessAt.isSome = true

theorem timerLimit_of_success (success : SuccessOnRecord self) : timerLimit self = none := by
  obtain ⟨phase,recorded⟩ := success
  simp [timerLimit,phase,recorded]

variable (codec self files io) in
theorem recordSuccess_outcome (recorded : Clocks) :
    ((self.recordSuccess codec files recorded io).coord = self ∨
        SuccessOnRecord (self.recordSuccess codec files recorded io).coord) ∧
      (self.recordSuccess codec files recorded io).coord.config = self.config := by
  rw [RecoveryCoordinator.recordSuccess_coord]
  cases phase : self.phase with
  | givenUp => exact ⟨.inl rfl,rfl⟩
  | aggressive => exact ⟨.inr ⟨rfl,rfl⟩,rfl⟩
  | backoffEvery15Min => exact ⟨.inr ⟨rfl,rfl⟩,rfl⟩

end Coordinator

namespace StateMachine

theorem drainDwell_outcome (io : Nat → SaveIo) (n : Nat) (messages : List Clocks)
    (sm : StateMachine) :
    ((drainDwell codec io n messages sm).recovery = sm.recovery ∨
        SuccessOnRecord (drainDwell codec io n messages sm).recovery) ∧
      (drainDwell codec io n messages sm).recovery.config = sm.recovery.config := by
  induction messages generalizing n sm with
  | nil => exact ⟨.inl rfl,rfl⟩
  | cons dwell rest ih =>
    simp only [drainDwell]
    split
    · exact ih (n + 1) sm
    · split
      · exact ih (n + 1) _
      · obtain ⟨recorded,kept⟩ := recordSuccess_outcome codec sm.recovery sm.files (io n) dwell
        obtain ⟨later,same⟩ := ih (n + 1)
          { sm with
            recovery := (sm.recovery.recordSuccess codec sm.files dwell (io n)).coord
            files := (sm.recovery.recordSuccess codec sm.files dwell (io n)).files }
        refine ⟨?_,same.trans kept⟩
        rcases later with unchanged | success
        · rw [unchanged]
          exact recorded
        · exact .inr success

variable {sm : StateMachine} {turn : Turn}

theorem takeDwellSuccesses_outcome (turn : Turn) :
    ((sm.takeDwellSuccesses codec turn).recovery = sm.recovery ∨
        SuccessOnRecord (sm.takeDwellSuccesses codec turn).recovery) ∧
      (sm.takeDwellSuccesses codec turn).recovery.config = sm.recovery.config := by
  unfold takeDwellSuccesses
  split
  · exact drainDwell_outcome turn.dwellIo 0 sm.dwellQueue { sm with dwellGuard := none }
  · exact drainDwell_outcome turn.dwellIo 0 sm.dwellQueue sm

theorem tickRecovery_outcome {ready : StateMachine} {effects : List LoopEffect}
    (ticked : sm.tickRecovery codec turn = some (ready,effects)) :
    ready.recovery = (sm.takeDwellSuccesses codec turn).recovery ∨
      Entered (sm.takeDwellSuccesses codec turn).recovery ready.recovery turn.now.mono := by
  unfold tickRecovery at ticked
  simp only at ticked
  generalize sm.takeDwellSuccesses codec turn = drained at ticked ⊢
  split at ticked
  · unfold driveRecovery tickAction at ticked
    cases computed : drained.recovery.compute turn.now false drained.pendingResumeToken 0 with
    | none => simp [computed] at ticked
    | some action =>
      have entered := apply_enters codec drained.files turn.applyIo computed
      simp only [computed] at ticked
      split at ticked
      · cases ticked
        exact entered
      next applied result =>
        cases ticked
        rw [recovery_of_core (afterApply_moves applied turn).1]
        exact entered
  · cases ticked
    exact .inl rfl

end StateMachine

/-- The time since the phase was entered, split by what the tick did meanwhile. -/
structure Meter where
  last : Instant
  active : Duration
  dormant : Duration
deriving DecidableEq, Repr

namespace Meter

def charge (meter : Meter) (state : State) (at_ : Instant) : Meter :=
  if state.activeRecovery then
    { meter with last := at_, active := meter.active + at_.durationSince meter.last }
  else { meter with last := at_, dormant := meter.dormant + at_.durationSince meter.last }

def enter (meter : Meter) (before after : RecoveryPhase) : Meter :=
  if after = before then meter else ⟨meter.last,0,0⟩

/-- The meter has counted all the time since the phase entry the coordinator remembers,
unless a success on record has stopped the timer of the phase. -/
def Accounts (meter : Meter) (coord : RecoveryCoordinator) : Prop :=
  SuccessOnRecord coord ∨
    coord.phaseEnteredAtMono.nanos + (meter.active + meter.dormant : Nat) = meter.last.nanos

variable {meter : Meter} {coord : RecoveryCoordinator}

@[simp] theorem charge_last (state : State) (at_ : Instant) :
    (meter.charge state at_).last = at_ := by
  unfold charge
  split <;> rfl

theorem Accounts.charge (accounts : meter.Accounts coord) (state : State) {at_ : Instant}
    (forward : meter.last.nanos ≤ at_.nanos) : (meter.charge state at_).Accounts coord := by
  rcases accounts with success | counted
  · exact .inl success
  · have passed := Instant.durationSince_cast forward
    right
    unfold Meter.charge
    split
    · simp only
      omega
    · simp only
      omega

theorem Accounts.enter {after : RecoveryCoordinator} (accounts : meter.Accounts coord)
    (outcome : after = coord ∨ Entered coord after meter.last) :
    (meter.enter coord.phase after.phase).Accounts after := by
  rcases outcome with rfl | ⟨another,anchored,-⟩
  · simpa [Meter.enter] using accounts
  · right
    simp [Meter.enter,another,anchored]

theorem Accounts.drained {after : RecoveryCoordinator} (accounts : meter.Accounts coord)
    (outcome : after = coord ∨ SuccessOnRecord after) :
    (meter.enter coord.phase after.phase).Accounts after := by
  rcases outcome with rfl | success
  · simpa [Meter.enter] using accounts
  · exact .inl success

end Meter

structure Metered where
  process : Process
  meter : Meter

namespace Metered

variable (codec)

/-- The machine when the tick has taken the dwell messages, and the meter by then. -/
def atDecision (m : Metered) (t : Turn) : StateMachine × Meter :=
  let drained := (m.process.machine.checks t).takeDwellSuccesses codec t
  (drained,(m.meter.charge m.process.machine.state t.now.mono).enter
    m.process.machine.recovery.phase drained.recovery.phase)

/-- The time before the tick is spent in the state the last iteration left, the time after
it in the state whose handler runs. -/
def step (m : Metered) (t : Turn) : Metered :=
  match m.process.status,m.process.machine.prelude codec t with
  | .running,some (ready,_) =>
    let (drained,meter) := m.atDecision codec t
    ⟨m.process.step codec t,
      (meter.enter drained.recovery.phase ready.recovery.phase).charge ready.state t.later.mono⟩
  | _,_ => ⟨m.process.step codec t,m.meter⟩

/-- The monotonic clock does not go back. -/
def Forward (m : Metered) (t : Turn) : Prop :=
  m.meter.last.nanos ≤ t.now.mono.nanos ∧ t.now.mono.nanos ≤ t.later.mono.nanos

def Ticks (m : Metered) (t : Turn) : Prop :=
  m.process.status = .running ∧ (m.atDecision codec t).1.state.activeRecovery = true

/-- A tick that escalates or gives up has the active time of the phase for it. -/
def JudgedByActiveTime (m : Metered) (t : Turn) : Prop :=
  m.Ticks codec t →
    let (drained,meter) := m.atDecision codec t
    (drained.tickAction t = some .escalateToBackoff →
      drained.recovery.config.aggressivePhaseMaxSecs ≤ meter.active.asSecs) ∧
    (drained.tickAction t = some .fireGiveUpAlert →
      drained.recovery.config.backoffPhaseMaxSecs ≤ meter.active.asSecs)

/-- Where the timer of the phase is due, it would be due without the dormant time as well. -/
def DormancyHarmless (m : Metered) (t : Turn) : Prop :=
  m.Ticks codec t →
    let (drained,meter) := m.atDecision codec t
    ∀ limit, timerLimit drained.recovery = some limit →
      limit ≤ drained.recovery.phaseElapsedSecs t.now →
        .fromSecs limit + meter.dormant ≤
          t.now.mono.durationSince drained.recovery.phaseEnteredAtMono

def Sound (config : RecoveryConfig) (m : Metered) : Prop :=
  m.meter.Accounts m.process.machine.recovery ∧ m.process.machine.recovery.config = config

variable {codec} {config : RecoveryConfig} {m : Metered} {t : Turn}

theorem atDecision_sound (sound : m.Sound config) (forward : m.Forward t) :
    (m.atDecision codec t).2.Accounts (m.atDecision codec t).1.recovery ∧
      (m.atDecision codec t).1.recovery.config = config ∧
      (m.atDecision codec t).2.last = t.now.mono := by
  obtain ⟨accounts,standing⟩ := sound
  have charged := accounts.charge m.process.machine.state forward.1
  obtain ⟨drained,kept⟩ := @StateMachine.takeDwellSuccesses_outcome codec
    (m.process.machine.checks t) t
  rw [StateMachine.recovery_of_core (StateMachine.checks_moves t).1] at drained kept
  refine ⟨charged.drained drained,kept.trans standing,?_⟩
  simp only [atDecision,Meter.enter]
  split <;> simp

theorem step_sound (sound : m.Sound config) (forward : m.Forward t) :
    (m.step codec t).Sound config := by
  obtain ⟨accounts,kept,last⟩ := @atDecision_sound codec _ _ _ sound forward
  unfold step
  split
  next ready effects running preluded =>
    have outcome := StateMachine.tickRecovery_outcome preluded
    have same : (m.process.step codec t).machine.recovery = ready.recovery := by
      rw [Process.step,Process.turn_of_prelude running preluded]
      exact (StateMachine.afterPrelude_moves ready t).1
    have entered := accounts.enter (by rw [last]; exact outcome)
    refine ⟨?_,?_⟩
    · simp only [same]
      refine entered.charge ready.state ?_
      have now : ((m.atDecision codec t).2.enter (m.atDecision codec t).1.recovery.phase
          ready.recovery.phase).last = t.now.mono := by
        unfold Meter.enter
        split <;> exact last
      rw [now]
      exact forward.2
    · simp only [same]
      rcases outcome with unchanged | ⟨-,-,config⟩
      · rw [unchanged]
        exact kept
      · exact config.trans kept
  next stopped =>
    have same : (m.process.step codec t).machine.recovery = m.process.machine.recovery := by
      rw [Process.step,(Process.turn_of_stopped stopped).1]
    exact ⟨same ▸ sound.1,same ▸ sound.2⟩

theorem judged_iff_harmless (sound : m.Sound config) (forward : m.Forward t)
    (counts : StreakCounts config) :
    m.JudgedByActiveTime codec t ↔ m.DormancyHarmless codec t := by
  obtain ⟨accounts,kept,last⟩ := @atDecision_sound codec _ _ _ sound forward
  refine forall_congr' fun _ => ?_
  generalize m.atDecision codec t = decision at accounts kept last ⊢
  obtain ⟨drained,meter⟩ := decision
  simp only at accounts kept last ⊢
  -- The time since the entry is the active time and the dormant time together.
  have enough : ∀ limit, timerLimit drained.recovery = some limit →
      (limit ≤ meter.active.asSecs ↔ .fromSecs limit + meter.dormant ≤
        t.now.mono.durationSince drained.recovery.phaseEnteredAtMono) := by
    intro limit decides
    rcases accounts with success | counted
    · rw [timerLimit_of_success success] at decides
      cases decides
    · rw [last] at counted
      have past : drained.recovery.phaseEnteredAtMono.nanos ≤ t.now.mono.nanos := by omega
      have aged := Instant.durationSince_cast past
      have sum : t.now.mono.durationSince drained.recovery.phaseEnteredAtMono =
          meter.active + meter.dormant := Int.ofNat_inj.mp (by omega)
      rw [← Duration.fromSecs_le_iff,sum]
      exact (Nat.add_le_add_iff_right).symm
  have escalates := compute_escalate_iff t.now (kept ▸ counts) drained.pendingResumeToken
  have fires := compute_fire_iff drained.recovery t.now drained.pendingResumeToken
  unfold StateMachine.tickAction
  rw [escalates,fires]
  constructor
  · rintro ⟨escalated,fired⟩ limit decides due
    rw [← enough limit decides]
    rcases timerLimit_cases decides with ⟨phase,same⟩ | ⟨phase,same⟩
    · rw [same]
      exact escalated ⟨phase,limit,decides,due⟩
    · rw [same]
      exact fired ⟨phase,limit,decides,due⟩
  · intro harmless
    constructor
    · rintro ⟨phase,limit,decides,due⟩
      rcases timerLimit_cases decides with ⟨-,same⟩ | ⟨other,-⟩
      · rw [← same,enough limit decides]
        exact harmless limit decides due
      · rw [phase] at other
        cases other
    · rintro ⟨phase,limit,decides,due⟩
      rcases timerLimit_cases decides with ⟨other,-⟩ | ⟨-,same⟩
      · rw [phase] at other
        cases other
      · rw [← same,enough limit decides]
        exact harmless limit decides due

theorem harmless_of_no_dormancy (none : (m.atDecision codec t).2.dormant = 0) :
    m.DormancyHarmless codec t := by
  intro _
  generalize m.atDecision codec t = decision at none ⊢
  obtain ⟨drained,meter⟩ := decision
  simp only at none ⊢
  intro limit decides due
  have aged := due.trans (Nat.min_le_right _ _)
  rw [Instant.asSecs_checkedDurationSince,← Duration.fromSecs_le_iff] at aged
  rw [none,add_zero]
  exact aged

end Metered

section Start

variable (codec) (config : Config) (recoveryConfig : RecoveryConfig) (files : Files.Directory)
  (settingsDir : String) (now : Clocks)

theorem bootAnchor_past (now : Clocks) (entered : Zoned) :
    (RecoveryCoordinator.bootAnchor now entered).nanos ≤ now.mono.nanos := by
  unfold RecoveryCoordinator.bootAnchor Instant.checkedSub
  split
  · simp
  · simp

theorem start_recovery :
    (Process.start codec config recoveryConfig files settingsDir now).machine.recovery =
      (RecoveryCoordinator.boot codec files settingsDir (StateMachine.modeTag config.tradingMode)
        recoveryConfig (config.env "IBCTL_RECOVERY_FORCE_RESET") now).1 :=
  StateMachine.recovery_of_core (StateMachine.gates_moves now).1

theorem boot_entered_past (mode : String) (env : Option String) :
    (RecoveryCoordinator.boot codec files settingsDir mode recoveryConfig env
      now).1.phaseEnteredAtMono.nanos ≤ now.mono.nanos := by
  unfold RecoveryCoordinator.boot
  simp only
  split
  · exact bootAnchor_past now _
  · exact le_refl _
  · exact le_refl _

theorem boot_config (mode : String) (env : Option String) :
    (RecoveryCoordinator.boot codec files settingsDir mode recoveryConfig env now).1.config =
      recoveryConfig := by
  unfold RecoveryCoordinator.boot
  simp only
  split <;> rfl

theorem start_sound (active dormant : Duration)
    (age : active + dormant = now.mono.durationSince (Process.start codec config recoveryConfig
      files settingsDir now).machine.recovery.phaseEnteredAtMono) :
    Metered.Sound recoveryConfig
      ⟨Process.start codec config recoveryConfig files settingsDir now,⟨now.mono,active,dormant⟩⟩ := by
  rw [start_recovery] at age
  unfold Metered.Sound
  simp only [start_recovery]
  refine ⟨.inr ?_,boot_config ..⟩
  have counted := Instant.durationSince_cast (boot_entered_past codec recoveryConfig files
    settingsDir now (StateMachine.modeTag config.tradingMode)
    (config.env "IBCTL_RECOVERY_FORCE_RESET"))
  rw [← age] at counted
  simp only
  omega

end Start

def waiting : Metered :=
  ⟨Process.start sampleCodec { paperConfig with autoLaunch := false } .default Files.empty
    "/home/ibgateway/Jts" (sampleClocks 0),⟨(sampleClocks 0).mono,0,0⟩⟩

def startAfter (secs : Nat) : Turn :=
  { turnAt (sampleClocks 0) (some (.command .start)) with later := sampleClocks secs }

theorem waiting_sound : waiting.Sound .default := by
  refine start_sound sampleCodec { paperConfig with autoLaunch := false } .default Files.empty
    "/home/ibgateway/Jts" (sampleClocks 0) 0 0 ?_
  decide +kernel

end Ibctl.Machine
