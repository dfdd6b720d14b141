import Ibctl.StateMachine.RetryDeadline
import Ibctl.StateMachine.Within

/-! Failures of the agent. Three calls hand an error of the agent on, and the main loop ends
with it: the listing that waits for a countdown on the screen, the one that looks for the
login window and the one that looks for the session conflict. All others answer it. -/
namespace Ibctl.Machine
open Tasks Step Task Recovery

/-- An error of the agent, as it came or through a dialog handler. -/
def StateMachineError.ofAgent : StateMachineError → Prop
  | .agent _ => True
  | .handler (.agentError _) => True
  | _ => False

/-- A listing fails and is answered: neither there nor at the call before it, which is waited
for too, the handler is dropped. -/
def ListingFails (schedule : Schedule Answers) (n : Nat) : Prop :=
  (∃ error, schedule.answers.listWindows n = .error error) ∧ schedule.dropAt ≠ some n ∧
    ∀ before, before + 1 = n → schedule.dropAt ≠ some before

/-- The listing in which a login looks for its window, after one without a blocking dialog. -/
def loginListing (answers : Answers) (n : Nat) : Option Nat :=
  if ((answers.listed n).findSome? fun w => classifyBlockingDialog w.title).isSome then none
  else some (n + 1)

/-- The listing of a login whose error is handed on: the one that waits for the countdown, or,
with the deadline passed, the one that looks for the login window. -/
def loginHandsOn (s : Session) (answers : Answers) : Option Nat :=
  if s.twofaRetryWaitingForScreen then some 0
  else
    match s.twofaRetryNotBefore with
    | none => loginListing answers 0
    | some deadline =>
      if (answers.now 0).nanos < deadline.nanos then none else loginListing answers 1

/-- The number of the listing whose error the handler hands on, if it comes to it. -/
def StateMachine.handsOn (sm : StateMachine) (answers : Answers) : Option Nat :=
  match sm.state with
  | .handlingSessionConflict => some 0
  | .waitingFor2fa => if sm.session.twofaRetryWaitingForScreen then some 0 else none
  | .authenticating => loginHandsOn sm.session answers
  | _ => none

section Handing

variable {schedule : Schedule Answers} {here : Local Session Effect}

/-- A listing that is handed on, with nothing that fails after it. -/
theorem quiet {α : Type} {W : (Session → Session) → Prop} {t : Step α}
    (within : t.Within W fun e => ¬ e.ofAgent) : t.Avoids schedule StateMachineError.ofAgent :=
  within.avoids fun _ => id

theorem listing_failsFrom {α : Type} {rest : List WindowInfo → Step α}
    (avoids : ∀ windows, (rest windows).Avoids schedule StateMachineError.ofAgent) :
    (do let windows ← orFail .agent (← listWindows); rest windows : Step α).FailsFrom schedule
        StateMachineError.ofAgent here ↔
      (∃ error, schedule.answers.listWindows here.calls = .error error) ∧
        schedule.dropAt ≠ some here.calls := by
  unfold listWindows
  rw [failsFrom_await,failsFrom_orFail]
  constructor
  · rintro ⟨goes,⟨error,failed,-⟩ | ⟨windows,-,failed⟩⟩
    · exact ⟨⟨error,failed⟩,goes⟩
    · exact absurd failed (avoids windows _)
  · rintro ⟨⟨error,failed⟩,goes⟩
    exact ⟨goes,.inl ⟨error,failed,trivial⟩⟩

theorem observed_failsFrom :
    waitForObservedTwofaRetry.FailsFrom schedule StateMachineError.ofAgent here ↔
      here.state.twofaRetryWaitingForScreen = true ∧
        (∃ error, schedule.answers.listWindows here.calls = .error error) ∧
        schedule.dropAt ≠ some here.calls := by
  unfold waitForObservedTwofaRetry
  rw [failsFrom_current]
  cases flag : here.state.twofaRetryWaitingForScreen with
  | false =>
    simp only [Bool.not_false,if_true,Bool.false_eq_true,false_and,iff_false]
    exact avoids_pure _ _
  | true =>
    simp only [Bool.not_true,Bool.false_eq_true,if_false,true_and]
    refine listing_failsFrom fun windows => ?_
    refine quiet (W := LeavesCounts) (Within.bind (dumps_within windows) fun components => ?_)
    grind

/-- The first gate hands an error on, and what comes after it only where it is open. -/
theorem gated_failsFrom {next : State} {rest : Step State} :
    (do
      if ← waitForObservedTwofaRetry then return next
      rest : Step State).FailsFrom schedule StateMachineError.ofAgent here ↔
      if here.state.twofaRetryWaitingForScreen then
        (∃ error, schedule.answers.listWindows here.calls = .error error) ∧
          schedule.dropAt ≠ some here.calls
      else rest.FailsFrom schedule StateMachineError.ofAgent here := by
  rw [failsFrom_bind,observed_failsFrom]
  cases flag : here.state.twofaRetryWaitingForScreen with
  | true =>
    simp only [true_and,if_true]
    apply or_iff_left
    rintro ⟨blocked,after,returned,failed⟩
    obtain ⟨shut,-⟩ := blocked_of_observed returned
    rw [shut,flag] at failed
    exact avoids_pure _ _ failed
  | false =>
    simp only [Bool.false_eq_true,false_and,false_or,if_false]
    have opened : waitForObservedTwofaRetry schedule here = (.ok false,here) := by
      unfold waitForObservedTwofaRetry
      rw [bind_apply]
      simp only [current,flag]
      rfl
    constructor
    · rintro ⟨blocked,after,returned,failed⟩
      cases opened.symm.trans returned
      exact failed
    · exact fun failed => ⟨false,here,opened,failed⟩

theorem loginBehindGates_failsFrom :
    loginBehindGates.FailsFrom schedule StateMachineError.ofAgent here ↔
      schedule.dropAt ≠ some here.calls ∧ ∃ n, loginListing schedule.answers here.calls = some n ∧
        (∃ error, schedule.answers.listWindows n = .error error) ∧ schedule.dropAt ≠ some n := by
  have rest := fun reached : Local Session Effect =>
    @listing_failsFrom schedule reached State loginAmong fun windows =>
      quiet (loginAmong_within windows)
  unfold loginBehindGates
  rw [failsFrom_after (quiet checkBlockingDialog_within)]
  unfold loginListing
  constructor
  · rintro ⟨blocking,after,returned,failed⟩
    have goes : schedule.dropAt ≠ some here.calls := by
      intro drops
      unfold checkBlockingDialog listWindows at returned
      rw [bind_apply,await,if_pos drops] at returned
      cases returned
    obtain ⟨rfl,rfl⟩ := checkBlockingDialog_returned returned
    refine ⟨goes,?_⟩
    cases classified : (schedule.answers.listed here.calls).findSome? (fun w =>
        classifyBlockingDialog w.title) with
    | some next =>
      rw [classified] at failed
      exact absurd failed (avoids_pure _ _)
    | none =>
      rw [classified] at failed
      exact ⟨_,rfl,(rest _).mp failed⟩
  · rintro ⟨goes,n,found,failed⟩
    split at found
    · cases found
    next clear =>
      cases found
      have returned : checkBlockingDialog schedule here =
          (.ok none,{ here with calls := here.calls + 1 }) := by
        unfold checkBlockingDialog listWindows
        rw [bind_apply,await,if_neg goes]
        unfold Answers.listed at clear
        cases listed : schedule.answers.listWindows here.calls with
        | error e => rfl
        | ok windows =>
          rw [listed] at clear
          dsimp only
          rw [Option.not_isSome_iff_eq_none.mp clear]
          rfl
      exact ⟨none,_,returned,(rest _).mpr failed⟩

/-- What stands behind the second gate is reached with no deadline left. -/
theorem deadline_failsFrom {next : State} {rest : Step State} :
    (do
      if ← waitForRetryDeadline then return next
      rest : Step State).FailsFrom schedule StateMachineError.ofAgent here ↔
      match here.state.twofaRetryNotBefore with
      | none => rest.FailsFrom schedule StateMachineError.ofAgent here
      | some deadline =>
        ¬ (schedule.answers.now here.calls).nanos < deadline.nanos ∧
          rest.FailsFrom schedule StateMachineError.ofAgent
            { here with
              state := { here.state with twofaRetryNotBefore := none }, calls := here.calls + 1 } := by
  unfold waitForRetryDeadline
  rw [bind_assoc,failsFrom_current]
  cases deadline : here.state.twofaRetryNotBefore with
  | none => exact Iff.rfl
  | some instant =>
    dsimp only
    rw [bind_assoc,failsFrom_ask]
    split
    next early =>
      have shut : (do sleep; return true : Step Bool).Returns schedule (· = true) :=
        returns_last fun _ => returns_pure rfl
      simp only [early,not_true_eq_false,false_and,iff_false]
      rw [failsFrom_after (avoids_bind avoids_sleep fun _ => avoids_pure _)]
      rintro ⟨blocked,after,returned,failed⟩
      rw [shut _ blocked (congrArg Prod.fst returned)] at failed
      exact avoids_pure _ _ failed
    next late =>
      simp only [late,not_false_eq_true,true_and]
      exact Iff.rfl

theorem doAuthenticate_failsFrom (s : Session) :
    doAuthenticate.FailsFrom schedule StateMachineError.ofAgent ⟨s,0,[]⟩ ↔
      ∃ n, loginHandsOn s schedule.answers = some n ∧ ListingFails schedule n := by
  have first : ∀ n, loginListing schedule.answers n = some (n + 1) ∨
      loginListing schedule.answers n = none := by
    intro n
    unfold loginListing
    split
    · exact .inr rfl
    · exact .inl rfl
  unfold loginHandsOn
  rw [doAuthenticate_eq,gated_failsFrom]
  cases s.twofaRetryWaitingForScreen with
  | true => simp [ListingFails]
  | false =>
    simp only [Bool.false_eq_true,if_false]
    rw [deadline_failsFrom]
    cases s.twofaRetryNotBefore with
    | none =>
      dsimp only
      rw [loginBehindGates_failsFrom]
      rcases first 0 with found | none
      · simp [found,ListingFails,and_left_comm,and_comm]
      · simp [none]
    | some deadline =>
      dsimp only
      rw [loginBehindGates_failsFrom]
      split
      next early => simp [early]
      next late =>
        rcases first 1 with found | none
        · simp [found,late,ListingFails,and_left_comm,and_comm]
        · simp [none]

theorem doWaitFor2fa_failsFrom (frame : Frame) (s : Session) :
    (doWaitFor2fa frame).FailsFrom schedule StateMachineError.ofAgent ⟨s,0,[]⟩ ↔
      s.twofaRetryWaitingForScreen = true ∧ ListingFails schedule 0 := by
  rw [doWaitFor2fa_eq,gated_failsFrom]
  cases s.twofaRetryWaitingForScreen with
  | true => simp [ListingFails]
  | false =>
    simp only [Bool.false_eq_true,if_false,false_and,iff_false]
    exact quiet (twofaBehindGate_within frame) _

theorem doHandleSessionConflict_failsFrom (s : Session) :
    doHandleSessionConflict.FailsFrom schedule StateMachineError.ofAgent ⟨s,0,[]⟩ ↔
      ListingFails schedule 0 := by
  rw [doHandleSessionConflict_eq]
  refine (listing_failsFrom fun windows => quiet (conflictAmong_within windows)).trans ?_
  simp [ListingFails]

theorem doConnected_unfailing (frame : Frame) :
    (doConnected frame).Avoids schedule StateMachineError.ofAgent := by
  refine avoids_bind (avoids_mapEffects (quiet (superviseConnection_within frame))) fun found => ?_
  cases found with
  | some next => exact avoids_pure _
  | none =>
    refine avoids_bind ((markStable_within frame).avoids fun _ => id) fun _ => ?_
    exact avoids_bind avoids_sleep fun _ => avoids_pure _

/-- A handler fails for the agent exactly where the listing it hands on does. -/
theorem transition_failsFrom (sm : StateMachine) :
    sm.transition.FailsFrom schedule StateMachineError.ofAgent ⟨sm.session,0,[]⟩ ↔
      ∃ n, sm.handsOn schedule.answers = some n ∧ ListingFails schedule n := by
  have quietly : ∀ {W : (Session → Session) → Prop} {t : Step State},
      (t.Within W fun e => ¬ e.ofAgent) → sm.handsOn schedule.answers = none →
      ((mapEffects ConnectedEffect.gateway t).FailsFrom schedule StateMachineError.ofAgent
          ⟨sm.session,0,[]⟩ ↔
        ∃ n, sm.handsOn schedule.answers = some n ∧ ListingFails schedule n) := by
    intro W t within none
    rw [failsFrom_mapEffects,none]
    exact iff_of_false (quiet within _) (by simp)
  unfold StateMachine.transition
  cases state : sm.state with
  | waitingForLaunch => exact quietly doWaitingForLaunch_within (by rw [StateMachine.handsOn,state])
  | init => exact quietly (doInit_within _) (by rw [StateMachine.handsOn,state])
  | launching =>
    exact quietly (doLaunch_within fun _ => id) (by rw [StateMachine.handsOn,state])
  | waitingForAgent => exact quietly doWaitForAgent_within (by rw [StateMachine.handsOn,state])
  | waitingForLogin => exact quietly (doWaitForLogin_within _) (by rw [StateMachine.handsOn,state])
  | authenticating =>
    rw [failsFrom_mapEffects,StateMachine.handsOn,state]
    exact doAuthenticate_failsFrom sm.session
  | waitingFor2fa =>
    rw [failsFrom_mapEffects,StateMachine.handsOn,state]
    refine (doWaitFor2fa_failsFrom _ _).trans ?_
    cases sm.session.twofaRetryWaitingForScreen with
    | true => simp
    | false => simp
  | handlingSessionConflict =>
    rw [failsFrom_mapEffects,StateMachine.handsOn,state]
    refine (doHandleSessionConflict_failsFrom _).trans ?_
    simp
  | dismissingPopups => exact quietly doDismissPopups_within (by rw [StateMachine.handsOn,state])
  | waitingForApiReady =>
    exact quietly (doWaitForApiReady_within _) (by rw [StateMachine.handsOn,state])
  | configuringApi => exact quietly doConfigureApi_within (by rw [StateMachine.handsOn,state])
  | connected =>
    rw [StateMachine.handsOn,state]
    exact iff_of_false (doConnected_unfailing _ _) (by simp)
  | reconnectingSession =>
    exact quietly (doReconnectingSession_within _) (by rw [StateMachine.handsOn,state])
  | restarting => exact quietly (doRestart_within _) (by rw [StateMachine.handsOn,state])
  | waitingForIB => exact quietly (doWaitingForIb_within _) (by rw [StateMachine.handsOn,state])
  | waitingForHitl2fa =>
    exact quietly (doWaitingForHitl2fa_within _) (by rw [StateMachine.handsOn,state])
  | shutdown =>
    rw [StateMachine.handsOn,state]
    exact iff_of_false (avoids_pure _ _) (by simp)
  | error message =>
    rw [StateMachine.handsOn,state]
    exact iff_of_false (avoids_pure _ _) (by simp)

end Handing

namespace StateMachine

variable {sm : StateMachine} {turn : Turn}

theorem select_failed (error : StateMachineError) :
    (sm.select turn).1 = .transitioned (.error error) ↔
      sm.polls turn = true ∧ (sm.runHandler turn).result = .error (.failed error) := by
  unfold select
  cases polled : sm.polls turn with
  | false =>
    simp only [Bool.false_eq_true,if_false,false_and,iff_false]
    split
    · rintro ⟨⟩
    · rintro ⟨⟩
  | true =>
    simp only [if_true,true_and]
    split
    next ok => simp [ok]
    next failed => simp [failed]
    next dropped _ => simp [dropped]
    next dropped _ => simp [dropped]

theorem settle_failed (outcome : SelectOutcome) (error : StateMachineError) :
    (sm.settle outcome turn).process.status = .failed error ↔
      outcome = .transitioned (.error error) := by
  cases outcome with
  | interrupted interrupt =>
    simp only [settle]
    split
    · simp
    · simp
  | transitioned result =>
    cases result with
    | error other => simp [settle]
    | ok next =>
      have ends : ∀ ending : Prop, [Decidable ending] →
          (if ending then Status.stopped else .running) ≠ .failed error := by
        intro ending _
        split
        · rintro ⟨⟩
        · rintro ⟨⟩
      simp [settle,ends]

end StateMachine

namespace Process

variable (codec : MarkerCodec)

/-- The iteration does not end the process for an error of the agent. -/
def SurvivesAgent (p : Process) (t : Turn) : Prop :=
  p.status = .running → ∀ error, (p.step codec t).status = .failed error → ¬ error.ofAgent

/-- A handler that is polled gets the listing it hands on, if it comes to it. -/
def AgentLists (p : Process) (t : Turn) : Prop :=
  p.status = .running → ∀ ready effects, p.machine.prelude codec t = some (ready,effects) →
    ready.polls t = true → ∀ n, ready.handsOn t.schedule.answers = some n →
      ¬ ListingFails (ready.handlerSchedule t) n

variable {codec}

theorem survivesAgent_iff (p : Process) (t : Turn) :
    p.SurvivesAgent codec t ↔ p.AgentLists codec t := by
  unfold SurvivesAgent AgentLists
  refine forall_congr' fun running => ?_
  cases preluded : p.machine.prelude codec t with
  | none =>
    have panics : (p.step codec t).status = .panicked := by
      simp only [step,turn,running,StateMachine.iterate,preluded]
    simp [panics]
  | some passed =>
    obtain ⟨ready,effects⟩ := passed
    have failed : ∀ error, (p.step codec t).status = .failed error ↔
        ready.polls t = true ∧ (ready.runHandler t).result = .error (.failed error) := by
      intro error
      rw [step,turn_of_prelude running preluded]
      exact (StateMachine.settle_failed _ error).trans (StateMachine.select_failed error)
    have hands := @transition_failsFrom (ready.handlerSchedule t) ready
    rw [StateMachine.handlerSchedule_answers] at hands
    constructor
    · rintro survives _ _ ⟨⟩ polled n found fails
      obtain ⟨error,result,among⟩ := hands.mpr ⟨n,found,fails⟩
      exact survives error ((failed error).mpr ⟨polled,result⟩) among
    · intro lists error stopped among
      obtain ⟨polled,result⟩ := (failed error).mp stopped
      obtain ⟨n,found,fails⟩ := hands.mp ⟨error,result,among⟩
      exact lists ready effects rfl polled n found fails

end Process

/-- Along a run the agent ends nothing exactly where each listing that is handed on is there. -/
theorem agent_survived_iff (codec : MarkerCodec) (config : Config) (recoveryConfig : RecoveryConfig)
    (files : Files.Directory) (settingsDir : String) (now : Clocks) (turns : List Turn) :
    Runs.Along (Process.step codec) (fun p t => p.SurvivesAgent codec t)
        (Process.start codec config recoveryConfig files settingsDir now) turns ↔
      Runs.Along (Process.step codec) (fun p t => p.AgentLists codec t)
        (Process.start codec config recoveryConfig files settingsDir now) turns :=
  Runs.along_congr Process.survivesAgent_iff _ _

/-- A login window that finds another session active, and an agent that is gone a second later. -/
def conflictUnlisted : List Turn :=
  let contested : List WindowInfo := [⟨⟨7⟩,"Existing session detected","javax.swing.JDialog",none⟩]
  [turnAt (sampleClocks 14401) none,turnAt (sampleClocks 14402) none,turnAt (sampleClocks 14403) none,
    { turnAt (sampleClocks 14404) none with
      schedule :=
        ⟨{ quietAnswers (sampleClocks 14404) with listWindows := fun _ => .ok contested },none⟩ },
    { turnAt (sampleClocks 14405) none with
      schedule :=
        ⟨{ quietAnswers (sampleClocks 14405) with listWindows := fun _ => .error .timeout },none⟩ }]

theorem agent_ends_process :
    ¬ Runs.Along (Process.step sampleCodec) (fun p t => p.SurvivesAgent sampleCodec t) paperStart
      conflictUnlisted := by
  intro along
  have last := ((Runs.along_append _ _ (conflictUnlisted.take 4) (conflictUnlisted.drop 4)).mp
    along).2.1
  obtain ⟨running,failed⟩ :
      (Runs.run (Process.step sampleCodec) paperStart (conflictUnlisted.take 4)).status = .running ∧
      (Runs.run (Process.step sampleCodec) paperStart conflictUnlisted).status =
        .failed (.agent .timeout) := by
    decide +kernel
  exact last running (.agent .timeout) failed trivial

end Ibctl.Machine
