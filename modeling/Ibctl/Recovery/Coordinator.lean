import Ibctl.Recovery.Marker
import Ibctl.Lib.SipHash

/-! The recovery coordinator: what it keeps in memory, how it boots from the marker, and
the two operations that change it. The disk is passed along beside it, with the outcomes
of its writes, because a failed write leaves memory and disk apart. -/
namespace Ibctl.Recovery
open Files

inductive AppliedAction where
  | noChange
  | escalatedToBackoff
  | firedGiveUpAlert
  | resumedToAggressive
  | deferred
deriving DecidableEq, Repr

inductive RecoveryApplyError where
  | markerWrite (error : String)
  | tokenReplay
  | invalidForPhase (phase : RecoveryPhase) (reason : String)
deriving DecidableEq, Repr

structure RecoveryGaveUp where
  mode : String
  phaseEnteredAt : Zoned
deriving DecidableEq, Repr

structure RecoveryCoordinator where
  mode : String
  settingsDir : String
  config : RecoveryConfig
  phase : RecoveryPhase
  phaseEnteredAtWall : Zoned
  phaseEnteredAtMono : Instant
  lastFullSuccessAt : Option Zoned
  lastFullSuccessMono : Option Instant
  giveupAlertSentAt : Option Int
  resumedByTokenHash : Option String
  blockedAwaitingResume : Bool
  giveupSignalTx : Bool
deriving DecidableEq, Repr

/-- A string is hashed as its UTF-8 bytes and an end mark. -/
def hashedText (s : String) : List (BitVec 8) :=
  s.toUTF8.toList.map (fun byte => byte.toBitVec) ++ [0xff]

def tokenBytes (token : ResumeToken) : List (BitVec 8) :=
  let second := BitVec.ofInt 64 (asSecond token.mintedAt)
  hashedText token.mode ++ (List.range 8).map (fun i => (second >>> (8 * i)).setWidth 8) ++
    hashedText token.nonceMaterial

def hashToken (token : ResumeToken) : String :=
  SipHash.hex16 (SipHash.siphash13 0 0 (tokenBytes token))

variable (codec : MarkerCodec)

namespace RecoveryCoordinator

/-- The monotonic anchor after a boot is moved back by the wall time since the phase was
entered, where the clock's range allows it. -/
def bootAnchor (now : Clocks) (phaseEnteredAt : Zoned) : Instant :=
  (now.mono.checkedSub (.fromSecs (wallSecsSince now.wall phaseEnteredAt))).getD now.mono

def boot (files : Directory) (settingsDir mode : String) (config : RecoveryConfig)
    (forceResetEnv : Option String) (now : Clocks) :
    RecoveryCoordinator × RecoveryLoadOutcome :=
  let outcome := load codec ⟨settingsDir,files⟩ mode (readForceResetEnv forceResetEnv)
  let fresh : RecoveryCoordinator := {
    mode, settingsDir, config
    phase := .aggressive
    phaseEnteredAtWall := now.wall
    phaseEnteredAtMono := now.mono
    lastFullSuccessAt := none
    lastFullSuccessMono := none
    giveupAlertSentAt := none
    resumedByTokenHash := none
    blockedAwaitingResume := false
    giveupSignalTx := false }
  let coord :=
    match outcome with
    | .loaded state =>
      { fresh with
        phase := state.phase
        phaseEnteredAtWall := state.phaseEnteredAt
        phaseEnteredAtMono := bootAnchor now state.phaseEnteredAt
        lastFullSuccessAt := state.lastFullSuccessAt
        giveupAlertSentAt := state.giveupAlertSentAt
        resumedByTokenHash := state.resumedByTokenHash }
    | .defaulted _ => fresh
    | .refusedGivenUpAutoReset _ => { fresh with phase := .givenUp, blockedAwaitingResume := true }
  (coord,outcome)

variable (self : RecoveryCoordinator)

def phaseElapsedSecs (now : Clocks) : Nat :=
  min (wallSecsSince now.wall self.phaseEnteredAtWall)
    (((now.mono.checkedDurationSince self.phaseEnteredAtMono).map Duration.asSecs).getD 0)

def compute (now : Clocks) (coldRestartPending : Bool) (resumeToken : Option ResumeToken)
    (failureFingerprintStreak : Nat) : Option NextAction :=
  computeNextAction
    { phase := self.phase
      phaseElapsedSecs := self.phaseElapsedSecs now
      hadSuccessThisPhase := self.lastFullSuccessAt.isSome
      resumeToken, coldRestartPending, failureFingerprintStreak }
    self.config

def enterPhase (next : RecoveryPhase) (now : Clocks) : RecoveryCoordinator :=
  { self with
    phase := next
    phaseEnteredAtWall := now.wall
    phaseEnteredAtMono := now.mono
    lastFullSuccessAt := none
    lastFullSuccessMono := none }

def persistedState : RecoveryPersistedState where
  schemaVersion := 1
  phase := self.phase
  phaseEnteredAt := self.phaseEnteredAtWall
  phaseEnteredAtMonotonicSecsSinceBoot := 0
  lastFullSuccessAt := self.lastFullSuccessAt
  giveupAlertSentAt := self.giveupAlertSentAt
  resumedByTokenHash := self.resumedByTokenHash
  lastKnownPhase := self.phase

def persist (files : Directory) (io : SaveIo) : Except RecoveryApplyError Unit × Directory :=
  let (result,dir) := save codec ⟨self.settingsDir,files⟩ self.mode self.persistedState io
  (result.mapError .markerWrite,dir.files)

/-- What an operation leaves: its result, the coordinator, the disk and what it sent. -/
structure Effect (α : Type) where
  result : Except RecoveryApplyError α
  coord : RecoveryCoordinator
  files : Directory
  sent : List RecoveryGaveUp := []

/-- `self.persist()?` as the last fallible step of an operation, and then its result. -/
def persistThen {α : Type} (files : Directory) (io : SaveIo) (value : α)
    (sent : List RecoveryGaveUp := []) : Effect α :=
  match self.persist codec files io with
  | (.ok (),files) => { result := .ok value, coord := self, files, sent }
  | (.error e,files) => { result := .error e, coord := self, files }

/-- The give-up branch shared by the time-based and the fingerprint action. -/
def giveUp (files : Directory) (now : Clocks) (io : SaveIo) : Effect AppliedAction :=
  if self.phase = .givenUp ∧ self.giveupAlertSentAt.isSome then
    { result := .ok .noChange, coord := self, files }
  else
    let entered := { self.enterPhase .givenUp now with
      giveupAlertSentAt := some now.wall.timestamp }
    entered.persistThen codec files io .firedGiveUpAlert
      (if self.giveupSignalTx then [⟨self.mode,now.wall⟩] else [])

def apply (files : Directory) (action : NextAction) (now : Clocks)
    (consumedToken : Option ResumeToken) (io : SaveIo) : Effect AppliedAction :=
  match action with
  | .sleep _ => { result := .ok .noChange, coord := self, files }
  | .deferToColdRestart => { result := .ok .deferred, coord := self, files }
  | .resumeAutomatically =>
    let entered := { self.enterPhase .aggressive now with
      giveupAlertSentAt := none, resumedByTokenHash := none, blockedAwaitingResume := false }
    entered.persistThen codec files io .resumedToAggressive
  | .escalateToBackoff =>
    (self.enterPhase .backoffEvery15Min now).persistThen codec files io .escalatedToBackoff
  | .fireGiveUpAlert => self.giveUp codec files now io
  | .forceHitlEarly => self.giveUp codec files now io
  | .resumeToAggressive =>
    match consumedToken with
    | none =>
      { result := .error (.invalidForPhase self.phase "ResumeToAggressive requires a resume token")
        coord := self, files }
    | some token =>
      let hash := hashToken token
      if self.resumedByTokenHash = some hash then
        { result := .error .tokenReplay, coord := self, files }
      else
        let entered := { self.enterPhase .aggressive now with
          giveupAlertSentAt := none, resumedByTokenHash := some hash
          blockedAwaitingResume := false }
        entered.persistThen codec files io .resumedToAggressive

def recordSuccess (files : Directory) (recorded : Clocks) (io : SaveIo) : Effect Unit :=
  match self.phase with
  | .givenUp =>
    { result := .error (.invalidForPhase .givenUp
        ("record_success is invalid in GivenUp — the dwell guard should have been aborted " ++
          "on GivenUp entry"))
      coord := self, files }
  | .aggressive =>
    { self with lastFullSuccessAt := some recorded.wall
                lastFullSuccessMono := some recorded.mono }.persistThen codec files io ()
  | .backoffEvery15Min =>
    { self.enterPhase .aggressive recorded with
      lastFullSuccessAt := some recorded.wall
      lastFullSuccessMono := some recorded.mono }.persistThen codec files io ()

end RecoveryCoordinator

structure Running where
  coord : RecoveryCoordinator
  files : Directory

structure TickInput where
  now : Clocks
  coldRestartPending : Bool
  resumeToken : Option ResumeToken
  failureFingerprintStreak : Nat
  io : SaveIo

/-- What happens to a coordinator: ticks, recorded successes, and a process that ends
and boots from the marker again. -/
inductive Event where
  | tick (input : TickInput)
  | success (recorded : Clocks) (io : SaveIo)
  | reload (forceResetEnv : Option String) (now : Clocks)

namespace Running

variable (r : Running)

def nextAction (input : TickInput) : Option NextAction :=
  r.coord.compute input.now input.coldRestartPending input.resumeToken
    input.failureFingerprintStreak

/-- `compute` and then `apply` on the same samples. A decision that panics applies nothing. -/
def tick (input : TickInput) : RecoveryCoordinator.Effect AppliedAction :=
  match r.nextAction input with
  | none => { result := .ok .noChange, coord := r.coord, files := r.files }
  | some action => r.coord.apply codec r.files action input.now input.resumeToken input.io

def step : Event → Running
  | .tick input => ⟨(r.tick codec input).coord,(r.tick codec input).files⟩
  | .success recorded io =>
    let effect := r.coord.recordSuccess codec r.files recorded io
    ⟨effect.coord,effect.files⟩
  | .reload forceResetEnv now =>
    ⟨(RecoveryCoordinator.boot codec r.files r.coord.settingsDir r.coord.mode r.coord.config
      forceResetEnv now).1,r.files⟩

end Running

variable {codec} {self : RecoveryCoordinator}

namespace RecoveryCoordinator

@[simp] theorem enterPhase_phase (next : RecoveryPhase) (now : Clocks) :
    (self.enterPhase next now).phase = next := rfl

/-- Writing the marker is the end of an operation: memory keeps what was set before. -/
@[simp] theorem persistThen_coord {α : Type} (files : Directory) (io : SaveIo) (value : α)
    (sent : List RecoveryGaveUp) : (self.persistThen codec files io value sent).coord = self := by
  unfold persistThen
  cases self.persist codec files io with
  | mk result files => cases result <;> rfl

variable (codec self)

theorem persist_result (files : Directory) (io : SaveIo) :
    (self.persist codec files io).1 = .ok () ↔ io = .ok := by
  obtain ⟨sidecar,main⟩ := io
  unfold persist save SaveIo.ok
  by_cases phase : self.persistedState.phase = .givenUp <;> cases sidecar <;> cases main <;>
    simp [phase,atomicWrite,removeFile,Except.mapError]

theorem persistThen_written {α : Type} (files : Directory) (value : α)
    (sent : List RecoveryGaveUp) :
    (self.persistThen codec files .ok value sent).result = .ok value ∧
      (self.persistThen codec files .ok value sent).sent = sent := by
  have written := (persist_result codec self files .ok).mpr rfl
  unfold persistThen
  split
  next => exact ⟨rfl,rfl⟩
  next e files same => rw [same] at written; cases written

theorem persistThen_failed {α : Type} (files : Directory) {io : SaveIo} (failed : io ≠ .ok)
    (value : α) (sent : List RecoveryGaveUp) :
    (∃ e, (self.persistThen codec files io value sent).result = .error e) ∧
      (self.persistThen codec files io value sent).sent = [] := by
  unfold persistThen
  split
  next same => exact absurd ((persist_result codec self files io).mp (by rw [same])) failed
  next e files same => exact ⟨⟨e,rfl⟩,rfl⟩

theorem recordSuccess_coord (files : Directory) (recorded : Clocks) (io : SaveIo) :
    (self.recordSuccess codec files recorded io).coord =
      match self.phase with
      | .givenUp => self
      | .aggressive =>
        { self with lastFullSuccessAt := some recorded.wall
                    lastFullSuccessMono := some recorded.mono }
      | .backoffEvery15Min =>
        { self.enterPhase .aggressive recorded with
          lastFullSuccessAt := some recorded.wall
          lastFullSuccessMono := some recorded.mono } := by
  unfold recordSuccess
  split <;> simp

end RecoveryCoordinator

namespace Running

variable (r : Running)

@[simp] theorem step_tick (input : TickInput) :
    r.step codec (.tick input) = ⟨(r.tick codec input).coord,(r.tick codec input).files⟩ := rfl

@[simp] theorem step_success (recorded : Clocks) (io : SaveIo) :
    r.step codec (.success recorded io) =
      ⟨(r.coord.recordSuccess codec r.files recorded io).coord,
        (r.coord.recordSuccess codec r.files recorded io).files⟩ := rfl

end Running

def sampleClocks (secs : Nat) : Clocks where
  wall := ⟨(1720000000 + secs) * 10 ^ 9,"UTC"⟩
  mono := ⟨(5000 + secs) * 10 ^ 9⟩

def stalledCoordinator : RecoveryCoordinator where
  mode := "paper"
  settingsDir := "/home/ibgateway/Jts"
  config := .default
  phase := .backoffEvery15Min
  phaseEnteredAtWall := (sampleClocks 0).wall
  phaseEnteredAtMono := (sampleClocks 0).mono
  lastFullSuccessAt := none
  lastFullSuccessMono := none
  giveupAlertSentAt := none
  resumedByTokenHash := none
  blockedAwaitingResume := false
  giveupSignalTx := true

end Ibctl.Recovery
