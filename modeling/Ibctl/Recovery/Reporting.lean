import Ibctl.Lib.Runs
import Ibctl.Recovery.Coordinator

/-! What `apply` reports against what it changes. The mutating branches change memory
first and then write the marker, so a failed write returns an error with the change in
place; the gates of the next tick look at the changed memory. -/
namespace Ibctl.Recovery
open Files

/-- The phase an applied action announces; nothing for the two that announce no change. -/
def AppliedAction.target : AppliedAction → Option RecoveryPhase
  | .noChange => none
  | .deferred => none
  | .escalatedToBackoff => some .backoffEvery15Min
  | .firedGiveUpAlert => some .givenUp
  | .resumedToAggressive => some .aggressive

def AppliedAction.Matches (applied : AppliedAction) (before after : RecoveryPhase) : Prop :=
  after = applied.target.getD before

namespace RecoveryCoordinator

/-- The memory a failed write must not change. -/
def standing (self : RecoveryCoordinator) : RecoveryPhase × Bool × Option Int × Option String :=
  (self.phase,self.blockedAwaitingResume,self.giveupAlertSentAt,self.resumedByTokenHash)

/-- The action was reported as what it did, or it did nothing. -/
def Reported (self : RecoveryCoordinator) (effect : Effect AppliedAction) : Prop :=
  (∃ applied, effect.result = .ok applied ∧ applied.Matches self.phase effect.coord.phase) ∨
    effect.coord.standing = self.standing

/-- The writes succeed, or the branch taken has nothing to change in memory. -/
def WriteHarmless (self : RecoveryCoordinator) (action : NextAction)
    (token : Option ResumeToken) (io : SaveIo) : Prop :=
  io = .ok ∨
  match action with
  | .sleep _ => True
  | .deferToColdRestart => True
  | .resumeAutomatically => self.standing = (.aggressive,false,none,none)
  | .escalateToBackoff => self.phase = .backoffEvery15Min
  | .fireGiveUpAlert => self.phase = .givenUp ∧ self.giveupAlertSentAt.isSome
  | .forceHitlEarly => self.phase = .givenUp ∧ self.giveupAlertSentAt.isSome
  | .resumeToAggressive => ∀ t, token = some t → self.resumedByTokenHash = some (hashToken t)

variable {codec : MarkerCodec} {self : RecoveryCoordinator}

/-- A mutating branch: set memory, then write. It is reported when the write succeeds or
when memory stood that way already. -/
private theorem persistThen_reported {entered : RecoveryCoordinator} (files : Directory)
    (io : SaveIo) {applied : AppliedAction} (sent : List RecoveryGaveUp)
    (target : applied.target = some entered.phase) :
    Reported self (entered.persistThen codec files io applied sent) ↔
      io = .ok ∨ entered.standing = self.standing := by
  unfold Reported
  rw [persistThen_coord]
  by_cases written : io = .ok
  · subst written
    have result := (persistThen_written codec entered files applied sent).1
    exact ⟨fun _ => .inl rfl,fun _ => .inl ⟨applied,result,by simp [AppliedAction.Matches,target]⟩⟩
  · obtain ⟨⟨e,result⟩,-⟩ :=
      persistThen_failed codec entered files written applied sent
    simp [result,written]

private theorem giveUp_reported (files : Directory) (now : Clocks) (io : SaveIo) :
    Reported self (self.giveUp codec files now io) ↔
      io = .ok ∨ (self.phase = .givenUp ∧ self.giveupAlertSentAt.isSome) := by
  unfold giveUp
  split
  next sent => simp [Reported,sent]
  next unsent =>
    rw [persistThen_reported files io _ rfl]
    refine or_congr_right ⟨fun same => absurd ?_ unsent,fun sent => absurd sent unsent⟩
    simp only [standing,Prod.mk.injEq,enterPhase_phase] at same
    exact ⟨same.1.symm,by rw [← same.2.2.1]; rfl⟩

theorem apply_reported_iff (files : Directory) (action : NextAction) (now : Clocks)
    (token : Option ResumeToken) (io : SaveIo) :
    Reported self (self.apply codec files action now token io) ↔
      self.WriteHarmless action token io := by
  cases action with
  | sleep d => simp [apply,Reported,WriteHarmless]
  | deferToColdRestart => simp [apply,Reported,WriteHarmless]
  | resumeAutomatically =>
    rw [apply,persistThen_reported files io _ rfl,WriteHarmless]
    exact or_congr_right eq_comm
  | escalateToBackoff =>
    rw [apply,persistThen_reported files io _ rfl,WriteHarmless]
    refine or_congr_right ⟨fun same => (Prod.mk.inj same).1.symm,fun phase => ?_⟩
    simp [standing,enterPhase,phase]
  | fireGiveUpAlert => exact giveUp_reported files now io
  | forceHitlEarly => exact giveUp_reported files now io
  | resumeToAggressive =>
    cases token with
    | none => simp [apply,Reported,WriteHarmless]
    | some t =>
      unfold apply
      by_cases replay : self.resumedByTokenHash = some (hashToken t)
      · simp [replay,Reported,WriteHarmless]
      · simp only [replay,if_false]
        rw [persistThen_reported files io _ rfl,WriteHarmless]
        refine or_congr_right ⟨fun same => absurd ?_ replay,fun all => absurd (all t rfl) replay⟩
        simp only [standing,Prod.mk.injEq] at same
        exact same.2.2.2.symm

end RecoveryCoordinator

/-- GivenUp is entered exactly when the alert is reported, with the signal sent to an
installed subscriber, and left exactly when the resumption is reported. -/
def CrossingReported (self : RecoveryCoordinator) (now : Clocks)
    (effect : RecoveryCoordinator.Effect AppliedAction) : Prop :=
  ((self.phase ≠ .givenUp ∧ effect.coord.phase = .givenUp) ↔
    effect.result = .ok .firedGiveUpAlert) ∧
  (effect.result = .ok .firedGiveUpAlert → self.giveupSignalTx = true →
    effect.sent = [⟨self.mode,now.wall⟩]) ∧
  ((self.phase = .givenUp ∧ effect.coord.phase ≠ .givenUp) ↔
    effect.result = .ok .resumedToAggressive)

namespace Running

def TickHarmless (r : Running) : Event → Prop
  | .tick input => ∀ action, r.nextAction input = some action →
      r.coord.WriteHarmless action input.resumeToken input.io
  | _ => True

def TickReported (codec : MarkerCodec) (r : Running) : Event → Prop
  | .tick input => CrossingReported r.coord input.now (r.tick codec input)
  | _ => True

variable {codec : MarkerCodec}

private theorem unchanged_reported {self : RecoveryCoordinator} (now : Clocks) (files : Directory)
    (result : Except RecoveryApplyError AppliedAction)
    (unannounced : result ≠ .ok .firedGiveUpAlert ∧ result ≠ .ok .resumedToAggressive) :
    CrossingReported self now { result, coord := self, files } := by
  simp [CrossingReported,unannounced]

private theorem giveUp_crossing {self : RecoveryCoordinator} (now : Clocks) (files : Directory)
    (phase : self.phase ≠ .givenUp) :
    CrossingReported self now (self.giveUp codec files now .ok) := by
  unfold RecoveryCoordinator.giveUp
  rw [if_neg (fun sent => phase sent.1)]
  have written := RecoveryCoordinator.persistThen_written codec
    { self.enterPhase .givenUp now with giveupAlertSentAt := some now.wall.timestamp } files
    AppliedAction.firedGiveUpAlert (if self.giveupSignalTx then [⟨self.mode,now.wall⟩] else [])
  unfold CrossingReported
  rw [written.1,written.2]
  simp [phase]

private theorem resumed_crossing {self entered : RecoveryCoordinator} (now : Clocks)
    (files : Directory) (before : self.phase = .givenUp) (after : entered.phase = .aggressive) :
    CrossingReported self now (entered.persistThen codec files .ok .resumedToAggressive) := by
  have written := RecoveryCoordinator.persistThen_written codec entered files
    AppliedAction.resumedToAggressive []
  unfold CrossingReported
  rw [written.1]
  simp [before,after]

/-- The cases are the actions; each iff of the decision says which phase the action was
decided in, and with it which failed write is harmless. -/
theorem tick_reported {r : Running} {input : TickInput}
    (harmless : TickHarmless r (.tick input)) : TickReported codec r (.tick input) := by
  change CrossingReported r.coord input.now (r.tick codec input)
  unfold tick
  cases decided : r.nextAction input with
  | none => exact unchanged_reported _ _ _ (by simp)
  | some action =>
    have spared := harmless action decided
    simp only
    cases action with
    | sleep d => exact unchanged_reported _ _ _ (by simp)
    | deferToColdRestart => exact unchanged_reported _ _ _ (by simp)
    | resumeAutomatically =>
      have phase : r.coord.phase = .givenUp :=
        ((computeNextAction_resumeAutomatically_iff _ _).mp decided).2.2
      rcases spared with written | stood
      · rw [written]; exact resumed_crossing _ _ phase rfl
      · have aggressive := (Prod.mk.inj stood).1
        rw [phase] at aggressive; cases aggressive
    | escalateToBackoff =>
      have phase : r.coord.phase = .aggressive :=
        ((computeNextAction_escalate_iff _ _).mp decided).2.2.1
      rcases spared with written | stood
      · rw [written]
        have result := RecoveryCoordinator.persistThen_written codec
          (r.coord.enterPhase .backoffEvery15Min input.now) r.files
          AppliedAction.escalatedToBackoff []
        unfold CrossingReported RecoveryCoordinator.apply
        rw [result.1]
        simp [phase]
      · rw [phase] at stood; cases stood
    | fireGiveUpAlert =>
      have phase : r.coord.phase = .backoffEvery15Min :=
        ((computeNextAction_fire_iff _ _).mp decided).2.2.1
      rcases spared with written | stood
      · rw [written]; exact giveUp_crossing _ _ (by simp [phase])
      · rw [phase] at stood; cases stood.1
    | forceHitlEarly =>
      have phase : r.coord.phase ≠ .givenUp := ((computeNextAction_force_iff _ _).mp decided).2.2.1
      rcases spared with written | stood
      · rw [written]; exact giveUp_crossing _ _ phase
      · exact absurd stood.1 phase
    | resumeToAggressive =>
      obtain ⟨-,-,phase,-,token⟩ := (computeNextAction_resume_iff _ _).mp decided
      obtain ⟨t,given⟩ := Option.isSome_iff_exists.mp token
      unfold RecoveryCoordinator.apply
      simp only [show input.resumeToken = some t from given]
      split
      next replay => exact unchanged_reported _ _ _ (by simp)
      next fresh =>
        rcases spared with written | replay
        · rw [written]; exact resumed_crossing _ _ phase rfl
        · exact absurd (replay t given) fresh

end Running

/-- A call reports its change or makes none exactly when its writes succeed or have
nothing to change; and along every run of such ticks each entry into GivenUp is reported
by its own tick as the alert, each exit as the resumption. -/
theorem apply_reports_iff_write_harmless (codec : MarkerCodec) :
    (∀ (self : RecoveryCoordinator) files action now token io,
      self.Reported (self.apply codec files action now token io) ↔
        self.WriteHarmless action token io) ∧
    (∀ (start : Running) events, Runs.Along (Running.step codec) Running.TickHarmless start events →
      Runs.Along (Running.step codec) (Running.TickReported codec) start events) := by
  constructor
  · intro self files action now token io
    exact RecoveryCoordinator.apply_reported_iff files action now token io
  · intro start events along
    refine along.strengthen (P := fun _ => True) (fun _ _ _ _ => trivial) ?_ trivial
    intro r event _ harmless
    cases event with
    | tick input => exact Running.tick_reported harmless
    | success recorded io => trivial
    | reload forceResetEnv now => trivial

/-- Three hours into backoff the disk is full: the phase is GivenUp in memory, the call
failed, and the next tick only sleeps. -/
theorem apply_unreported_on_full_disk :
    let full : SaveIo := ⟨none,some "No space left on device (os error 28)"⟩
    let effect := stalledCoordinator.apply sampleCodec Files.empty .fireGiveUpAlert
      (sampleClocks 10800) none full
    stalledCoordinator.compute (sampleClocks 10800) false none 0 = some .fireGiveUpAlert ∧
    ¬ stalledCoordinator.Reported effect ∧ effect.coord.phase = .givenUp ∧
    effect.coord.compute (sampleClocks 10801) false none 0 =
      some (.sleep (.fromSecs 3600)) := by
  refine ⟨by decide,?_,by decide,by decide⟩
  rw [RecoveryCoordinator.apply_reported_iff]
  simp [RecoveryCoordinator.WriteHarmless,SaveIo.ok,stalledCoordinator]

theorem apply_reports_iff_write_harmless_giveup :
    Runs.Along (Running.step sampleCodec) (Running.TickReported sampleCodec)
      ⟨stalledCoordinator,Files.empty⟩ [.tick ⟨sampleClocks 10800,false,none,0,.ok⟩] :=
  (apply_reports_iff_write_harmless sampleCodec).2 _ _ ⟨fun _ _ => .inl rfl,trivial⟩

end Ibctl.Recovery
