import Ibctl.StateMachine.Parked

/-! Resume tokens over the life of a site. A ledger beside the process keeps every argument
that has ended a give-up, across any number of restarts; the coordinator remembers one hash,
of the mode, the second of receipt and the argument. -/
namespace Ibctl.Machine
open Recovery

variable (codec : MarkerCodec)

namespace StateMachine

variable (sm : StateMachine) (turn : Turn)

/-- The token the tick of a turn takes to the coordinator while it waits for one. -/
def takenToken : Option ResumeToken :=
  let drained := (sm.checks turn).takeDwellSuccesses codec turn
  if drained.state.activeRecovery && drained.tickAction turn = some .resumeToAggressive then
    drained.pendingResumeToken
  else none

/-- The mode and the argument of the token that ends a give-up in the turn. -/
def resumedBy : Option (String × String) :=
  let drained := (sm.checks turn).takeDwellSuccesses codec turn
  match sm.takenToken codec turn with
  | none => none
  | some token =>
    let effect := drained.recovery.apply codec drained.files .resumeToAggressive turn.now
      (some token) turn.applyIo
    if effect.coord.phase = .aggressive then some (token.mode,token.nonceMaterial) else none

end StateMachine

structure Ledger where
  process : Process
  used : List (String × String)

inductive LedgerEvent where
  | turn (turn : Turn)
  | restart (config : Config) (recoveryConfig : RecoveryConfig) (now : Clocks)

namespace Ledger

variable (l : Ledger)

/-- A process that has ended takes no turn. -/
def resumedBy : LedgerEvent → Option (String × String)
  | .turn t =>
    match l.process.status with
    | .running => l.process.machine.resumedBy codec t
    | _ => none
  | .restart .. => none

def step (event : LedgerEvent) : Ledger where
  process :=
    match event with
    | .turn t => l.process.step codec t
    | .restart config recoveryConfig now =>
      Process.start codec config recoveryConfig l.process.machine.files
        l.process.machine.recovery.settingsDir now
  used := (l.resumedBy codec event).toList ++ l.used

/-- No argument ends a give-up of its mode a second time. -/
def SingleUse (event : LedgerEvent) : Prop :=
  ∀ argument, l.resumedBy codec event = some argument → argument ∉ l.used

/-- A used argument that a tick takes to the coordinator again comes in the one token whose
hash is remembered. -/
def RemembersReplay : LedgerEvent → Prop
  | .turn t => l.process.status = .running →
    ∀ token, l.process.machine.takenToken codec t = some token →
      (token.mode,token.nonceMaterial) ∈ l.used →
        ((l.process.machine.checks t).takeDwellSuccesses codec t).recovery.resumedByTokenHash =
          some (hashToken token)
  | .restart .. => True

end Ledger

variable {codec}

variable (codec) in
theorem apply_resume_iff (self : RecoveryCoordinator) (files : Files.Directory) (now : Clocks) (token : ResumeToken) (io : SaveIo)
    (given : self.phase = .givenUp) :
    (self.apply codec files .resumeToAggressive now (some token) io).coord.phase = .aggressive ↔
      self.resumedByTokenHash ≠ some (hashToken token) := by
  simp only [RecoveryCoordinator.apply]
  split
  next replay => exact iff_of_false (by simp [given]) (not_not.mpr replay)
  next fresh =>
    rw [RecoveryCoordinator.persistThen_coord]
    exact iff_of_true rfl fresh

namespace StateMachine

variable {sm : StateMachine} {turn : Turn}

theorem takenToken_given {token : ResumeToken} (taken : sm.takenToken codec turn = some token) :
    ((sm.checks turn).takeDwellSuccesses codec turn).recovery.phase = .givenUp := by
  unfold takenToken at taken
  simp only at taken
  split at taken
  next waits =>
    have decided := (Bool.and_eq_true _ _).mp waits
    exact ((computeNextAction_resume_iff _ _).mp (of_decide_eq_true decided.2)).2.2.1
  · cases taken

theorem resumedBy_iff (argument : String × String) :
    sm.resumedBy codec turn = some argument ↔
      ∃ token, sm.takenToken codec turn = some token ∧
        argument = (token.mode,token.nonceMaterial) ∧
        ((sm.checks turn).takeDwellSuccesses codec turn).recovery.resumedByTokenHash ≠
          some (hashToken token) := by
  unfold resumedBy
  cases taken : sm.takenToken codec turn with
  | none => simp
  | some token =>
    have refused := apply_resume_iff codec
      ((sm.checks turn).takeDwellSuccesses codec turn).recovery
      ((sm.checks turn).takeDwellSuccesses codec turn).files turn.now token turn.applyIo
      (takenToken_given taken)
    simp only
    split
    next resumed =>
      have fresh := refused.mp resumed
      constructor
      · intro same
        cases same
        exact ⟨token,rfl,rfl,fresh⟩
      · rintro ⟨other,same,rfl,-⟩
        cases same
        rfl
    next kept =>
      constructor
      · intro same
        cases same
      · rintro ⟨other,same,-,fresh⟩
        cases same
        exact absurd (refused.mpr fresh) kept

end StateMachine

theorem Ledger.singleUse_iff (l : Ledger) (event : LedgerEvent) :
    l.SingleUse codec event ↔ l.RemembersReplay codec event := by
  cases event with
  | restart config recoveryConfig now => simp [SingleUse,RemembersReplay,resumedBy]
  | turn t =>
    unfold SingleUse RemembersReplay resumedBy
    cases status : l.process.status with
    | running =>
      constructor
      · intro single _ token taken used
        by_contra forgotten
        exact single _ ((StateMachine.resumedBy_iff _).mpr ⟨token,taken,rfl,forgotten⟩) used
      · intro remembers argument resumed used
        obtain ⟨token,taken,rfl,fresh⟩ := (StateMachine.resumedBy_iff argument).mp resumed
        exact fresh (remembers rfl token taken used)
    | _ => simp

/-- Along every run, whatever restarts it has, no argument ends a give-up twice exactly when
each used argument that reaches the coordinator again does so in the token of the hash it
remembers. -/
theorem token_single_use_iff (codec : MarkerCodec) (start : Ledger) (events : List LedgerEvent) :
    Runs.Along (Ledger.step codec) (Ledger.SingleUse codec) start events ↔
      Runs.Along (Ledger.step codec) (Ledger.RemembersReplay codec) start events :=
  Runs.along_congr Ledger.singleUse_iff start events

/-- A site that boots from a complete give-up marker and launches by itself. -/
def givenUpSite : Ledger where
  process := Process.start sampleCodec paperConfig .default
    (Files.write Files.empty (markerName "paper") (sampleCodec.toVecPretty givenUpSample))
    "/home/ibgateway/Jts" (sampleClocks 14400)
  used := []

/-- A turn in which an interrupt is there before the handler is polled. -/
def interruptedAt (secs : Nat) (interrupt : Interrupt) : LedgerEvent :=
  .turn (turnAt (sampleClocks secs) (some interrupt))

/-- The first tap ends the give-up; the site gives up again after four hours, and START
brings it back to the launch with the same tap parked. -/
def tappedTwice : List LedgerEvent :=
  [interruptedAt 14401 (.command (.resumeReconnect "tap-1")),
    interruptedAt 14402 (.agentEvent .keepalive),
    interruptedAt 18002 (.agentEvent .keepalive),
    interruptedAt 28802 (.agentEvent .keepalive),
    interruptedAt 28803 (.command (.resumeReconnect "tap-1")),
    interruptedAt 28804 (.command .start),
    interruptedAt 28805 (.agentEvent .keepalive)]

theorem token_used_twice :
    ¬ Runs.Along (Ledger.step sampleCodec) (Ledger.SingleUse sampleCodec) givenUpSite tappedTwice := by
  intro single
  have last := ((Runs.along_append _ _ (tappedTwice.take 6) (tappedTwice.drop 6)).mp single).2.1
  have again : (Runs.run (Ledger.step sampleCodec) givenUpSite (tappedTwice.take 6)).used =
      [("paper","tap-1")] := by decide +kernel
  refine last ("paper","tap-1") (by decide +kernel) ?_
  rw [again]
  exact List.mem_singleton.mpr rfl

end Ibctl.Machine
