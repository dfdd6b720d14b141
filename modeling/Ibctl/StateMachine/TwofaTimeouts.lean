import Ibctl.StateMachine.Stepping
import Ibctl.StateMachine.Within

/-! The count of timeouts of the second factor. A timeout adds one to it, the entry into Connected or
a stable connection sets it to nothing, and nothing else of an iteration writes it. -/
namespace Ibctl.Machine
open Tasks Step Task Recovery

section Handlers

variable {schedule : Schedule Answers}

/-- The wait for the second factor, and where it leads; nothing where it has timed out. -/
def twofaWait (frame : Frame) : Step (Option State) := do
  if ← waitForObservedTwofaRetry then return some .waitingFor2fa
  awaitTwofa frame

/-- The time at which a tick has found that the connection stands. -/
def standsAt (frame : Frame) : Step (Option Instant) := do
  match ← findContradiction frame with
  | some _ => return none
  | none => return some (← ask Answers.now)

theorem doWaitFor2fa_parts (frame : Frame) : doWaitFor2fa frame = (do
    match ← twofaWait frame with
    | some next => return next
    | none => twofaTimeout frame) := by
  rw [doWaitFor2fa_eq,twofaBehindGate_eq]
  unfold twofaWait
  rw [bind_assoc]
  refine bind_congr fun waits => ?_
  cases waits with
  | true => rfl
  | false => rfl

/-- A task that leaves the counts alone leaves the count of timeouts as it was. -/
theorem timeouts_kept {φ α : Type} {task : Task Answers φ StateMachineError Session α}
    (within : task.Within LeavesCounts (fun _ => True)) (here : Local Session φ) :
    (task schedule here).2.state.consecutive2faTimeouts = here.state.consecutive2faTimeouts := by
  have kept : task.Keeps schedule
      (fun s _ => s.consecutive2faTimeouts = here.state.consecutive2faTimeouts) :=
    within.keeps fun f leaves s same => (leaves s).2.2.trans same
  exact kept.after here rfl

theorem twofaWait_within (frame : Frame) : (twofaWait frame).Within LeavesCounts (fun _ => True) := by
  unfold twofaWait
  refine Within.bind (waitForObservedTwofaRetry_within fun _ => trivial) fun waits => ?_
  split
  · exact Within.pure _
  · exact awaitTwofa_within frame

/-- Where a timeout leads under the policy that ends in the operator's hands. -/
def TwoFaBackoff.escalated (backoff : TwoFaBackoff) (timeouts : Nat) : State :=
  if backoff.maxImmediateAttempts ≤ timeouts then .waitingForHitl2fa else .restarting

/-- Timeouts are counted, and the last of them handed to the operator. -/
structure Config.Escalates (config : Config) : Prop where
  policy : config.twofa.backoff.onTimeout = .restartThenHitl
  goesOn : config.twofa.reloginAfterTimeout = true ∨ config.twofa.timeoutAction ≠ .exit

theorem twofaTimeout_apply {frame : Frame} (escalates : frame.config.Escalates)
    (here : Local Session Effect) :
    let timeouts := saturatingSucc 32 here.state.consecutive2faTimeouts
    twofaTimeout frame schedule here =
      (.ok (frame.config.twofa.backoff.escalated timeouts),
        { here with state := { here.state with consecutive2faTimeouts := timeouts } }) := by
  intro timeouts
  have goesOn : ¬ (!frame.config.twofa.reloginAfterTimeout &&
      decide (frame.config.twofa.timeoutAction = .exit)) = true := by
    rcases escalates.goesOn with again | other
    · simp [again]
    · simp [other]
  unfold twofaTimeout
  dsimp only
  rw [if_neg goesOn,bind_apply]
  change (current >>= _) schedule _ = _
  rw [bind_apply]
  simp only [current,escalates.policy]
  unfold TwoFaBackoff.escalated
  split
  · rfl
  · rfl

theorem resetTwofaTimeouts_count (frame : Frame) (here : Local Session Effect) :
    (resetTwofaTimeouts frame schedule here).2.state.consecutive2faTimeouts =
      match frame.connectedContinuouslySince with
      | none => here.state.consecutive2faTimeouts
      | some first =>
        if frame.config.twofa.backoff.counterReset = .stable ∧
            .fromSecs frame.config.twofa.backoff.stableSecs ≤
              (schedule.answers.now here.calls).durationSince first then 0
        else here.state.consecutive2faTimeouts := by
  unfold resetTwofaTimeouts
  rw [bind_apply]
  simp only [current]
  cases frame.connectedContinuouslySince with
  | none => split <;> rfl
  | some first =>
    by_cases counts : frame.config.twofa.backoff.counterReset = .stable ∧
        0 < here.state.consecutive2faTimeouts
    · rw [if_pos counts]
      dsimp only
      rw [bind_apply]
      simp only [elapsed,bind_apply,ask,pure_apply,ge_iff_le]
      by_cases long : Duration.fromSecs frame.config.twofa.backoff.stableSecs ≤
          (schedule.answers.now here.calls).durationSince first
      · rw [if_pos long,if_pos ⟨counts.1,long⟩]
        rfl
      · rw [if_neg long,if_neg fun stable => long stable.2]
        rfl
    · rw [if_neg counts]
      dsimp only
      split
      next stable =>
        have none_ : ¬ 0 < here.state.consecutive2faTimeouts := fun some_ => counts ⟨stable.1,some_⟩
        exact Nat.eq_zero_of_not_pos none_
      next => rfl

/-- What the wait for the second factor does to the count, and where a timeout leads. -/
theorem doWaitFor2fa_timeouts {frame : Frame} (escalates : frame.config.Escalates) (s : Session) :
    (((twofaWait frame).start schedule s).result = .ok none →
      ((doWaitFor2fa frame).start schedule s).result =
          .ok (frame.config.twofa.backoff.escalated (saturatingSucc 32 s.consecutive2faTimeouts)) ∧
        ((doWaitFor2fa frame).start schedule s).state.consecutive2faTimeouts =
          saturatingSucc 32 s.consecutive2faTimeouts) ∧
      (((twofaWait frame).start schedule s).result ≠ .ok none →
        ((doWaitFor2fa frame).start schedule s).state.consecutive2faTimeouts =
          s.consecutive2faTimeouts) := by
  have kept := @timeouts_kept schedule _ _ _ (twofaWait_within frame) ⟨s,0,[]⟩
  simp only [start_result,start_state]
  rw [doWaitFor2fa_parts,bind_apply]
  rcases outcome : twofaWait frame schedule ⟨s,0,[]⟩ with ⟨result,after⟩
  rw [outcome] at kept
  cases result with
  | error stop => exact ⟨nofun,fun _ => kept⟩
  | ok found =>
    cases found with
    | some next => exact ⟨nofun,fun _ => kept⟩
    | none =>
      dsimp only at kept ⊢
      rw [twofaTimeout_apply escalates,kept]
      exact ⟨fun _ => ⟨rfl,rfl⟩,fun counted => absurd rfl counted⟩

/-- The tick of a connection that has stood for so long since the instant. -/
def Frame.standsStable (frame : Frame) (schedule : Schedule Answers) (s : Session)
    (since : Option Instant) : Bool :=
  match since,((standsAt frame).start schedule s).result with
  | some first,.ok (some now) =>
    decide (frame.config.twofa.backoff.counterReset = .stable ∧
      .fromSecs frame.config.twofa.backoff.stableSecs ≤ now.durationSince first)
  | _,_ => false

theorem superviseConnection_timeouts (frame : Frame) (s : Session) :
    ((superviseConnection frame).start schedule s).state.consecutive2faTimeouts =
      if frame.standsStable schedule s frame.connectedContinuouslySince then 0
      else s.consecutive2faTimeouts := by
  have kept := @timeouts_kept schedule _ _ _ (findContradiction_within frame) ⟨s,0,[]⟩
  unfold Frame.standsStable standsAt
  rw [start_state,start_result,superviseConnection_parts,bind_apply,bind_apply]
  rcases outcome : findContradiction frame schedule ⟨s,0,[]⟩ with ⟨result,after⟩
  rw [outcome] at kept
  cases result with
  | error stop => cases frame.connectedContinuouslySince <;> exact kept
  | ok found =>
    cases found with
    | some next => cases frame.connectedContinuouslySince <;> exact kept
    | none =>
      have count := @resetTwofaTimeouts_count schedule frame after
      have ended := bind_return_local (resetTwofaTimeouts frame) (none : Option State) schedule after
      dsimp only at kept ⊢
      rw [ended,count,kept]
      simp only [bind_apply,ask,pure_apply]
      cases frame.connectedContinuouslySince with
      | none => rfl
      | some first => simp only [decide_eq_true_eq]

theorem doConnected_timeouts (frame : Frame) (s : Session) :
    ((doConnected frame).start schedule s).state.consecutive2faTimeouts =
      ((superviseConnection frame).start schedule s).state.consecutive2faTimeouts := by
  unfold doConnected
  rw [start_state,start_state,bind_apply]
  unfold mapEffects
  rcases superviseConnection frame schedule ⟨s,0,[]⟩ with ⟨result,after⟩
  cases result with
  | error stop => rfl
  | ok found =>
    cases found with
    | some next => rfl
    | none =>
      have rest : (do markStable frame; sleep; return .connected :
          Task Answers ConnectedEffect StateMachineError Session State).Within LeavesCounts
            (fun _ => True) :=
        Within.bind (markStable_within frame) fun _ => Within.bind Within.sleep fun _ => Within.pure _
      exact timeouts_kept rest _

end Handlers

namespace StateMachine

variable {codec : MarkerCodec} {sm : StateMachine} {turn : Turn}

section Turns

/-- The wait for the second factor ends in a timeout in this turn. -/
def TimesOut (sm : StateMachine) (turn : Turn) : Prop :=
  sm.state = .waitingFor2fa ∧ sm.polls turn = true ∧
    ((twofaWait sm.frame).start (sm.handlerSchedule turn) sm.session).result = .ok none

instance (sm : StateMachine) (turn : Turn) : Decidable (sm.TimesOut turn) :=
  inferInstanceAs (Decidable (_ ∧ _ ∧ _))

/-- The connection is found standing in this turn, for as long as resets the count. -/
def StandsStable (sm : StateMachine) (turn : Turn) (since : Option Instant) : Prop :=
  sm.state = .connected ∧ sm.polls turn = true ∧
    sm.frame.standsStable (sm.handlerSchedule turn) sm.session since = true

instance (sm : StateMachine) (turn : Turn) (since : Option Instant) :
    Decidable (sm.StandsStable turn since) :=
  inferInstanceAs (Decidable (_ ∧ _ ∧ _))

theorem select_timeouts (escalates : sm.config.Escalates) (turn : Turn) :
    (sm.select turn).2.1.session.consecutive2faTimeouts =
      if sm.TimesOut turn then saturatingSucc 32 sm.session.consecutive2faTimeouts
      else if sm.StandsStable turn sm.connectedContinuouslySince then 0
      else sm.session.consecutive2faTimeouts := by
  by_cases polled : sm.polls turn = true
  · rw [select_session polled]
    change (sm.transition.start (sm.handlerSchedule turn) sm.session).state.consecutive2faTimeouts = _
    by_cases waits : sm.state = .waitingFor2fa
    · rw [if_neg fun stands : sm.StandsStable turn _ => by cases waits.symm.trans stands.1]
      have counted := @doWaitFor2fa_timeouts (sm.handlerSchedule turn) sm.frame
        escalates sm.session
      have runs : sm.transition = mapEffects .gateway (doWaitFor2fa sm.frame) := by
        unfold transition
        rw [waits]
      rw [runs,start_mapEffects]
      split
      next timesOut => exact (counted.1 timesOut.2.2).2
      next goesOn => exact counted.2 fun ended => goesOn ⟨waits,polled,ended⟩
    rw [if_neg fun timesOut : sm.TimesOut turn => waits timesOut.1]
    by_cases connected : sm.state = .connected
    · have runs : sm.transition = doConnected sm.frame := by
        unfold transition
        rw [connected]
      rw [runs,doConnected_timeouts,superviseConnection_timeouts]
      simp only [StandsStable,connected,polled,true_and]
      rfl
    · rw [if_neg fun stands : sm.StandsStable turn _ => connected stands.1]
      refine transition_counts
        (S := fun s => s.consecutive2faTimeouts = sm.session.consecutive2faTimeouts)
        (fun f leaves s same => (leaves s).2.2.trans same) (fun here => absurd here waits) (fun _ => ?_)
        (fun here => absurd here connected) rfl
      have configures : doConfigureApi.Within LeavesTimeouts (fun _ => True) := doConfigureApi_timeouts
      exact configures.keeps fun f leaves s same => (leaves s).2.trans same
  · rw [select_unpolled (by simpa using polled),if_neg fun timesOut => polled timesOut.2.1,
      if_neg fun stands => polled stands.2.1]

theorem TimesOut.leads (escalates : sm.config.Escalates) (timesOut : sm.TimesOut turn) :
    (sm.select turn).1 = .transitioned (.ok (sm.config.twofa.backoff.escalated
      (saturatingSucc 32 sm.session.consecutive2faTimeouts))) := by
  obtain ⟨waits,polled,ended⟩ := timesOut
  apply select_returned polled
  change (sm.transition.start (sm.handlerSchedule turn) sm.session).result = _
  unfold transition
  rw [waits]
  dsimp only
  rw [start_mapEffects]
  exact ((doWaitFor2fa_timeouts escalates sm.session).1 ended).1

end Turns

section Frames

theorem handleAgentEvent_timeouts (event : AgentEvent) (at_ : Clocks) :
    (sm.handleAgentEvent event at_).1.session.consecutive2faTimeouts =
      sm.session.consecutive2faTimeouts := by
  cases event with
  | errorDialog title message buttons =>
    simp only [handleAgentEvent,noteTwofaFailure]
    split
    · split <;> rfl
    · rfl
  | connectionStatusChanged fromStatus status =>
    simp only [handleAgentEvent,noteConnectionStatus]
    split
    · rfl
    · split
      · rfl
      · split <;> rfl
  | _ => rfl

theorem handleAgentEvents_timeouts (at_ : Clocks) (events : List AgentEvent) (sm : StateMachine) :
    (handleAgentEvents at_ events sm).1.session.consecutive2faTimeouts =
      sm.session.consecutive2faTimeouts := by
  induction events generalizing sm with
  | nil => rfl
  | cons event rest ih => exact (ih _).trans (handleAgentEvent_timeouts event at_)

theorem timeouts_of_untold {s s' : Session} (same : s.untold = s'.untold) :
    s.consecutive2faTimeouts = s'.consecutive2faTimeouts := by
  have timeouts : s.untold.consecutive2faTimeouts = s'.untold.consecutive2faTimeouts :=
    congrArg Session.consecutive2faTimeouts same
  exact timeouts

theorem afterSelect_timeouts (sm : StateMachine) (turn : Turn) :
    (sm.afterSelect turn).session.consecutive2faTimeouts =
      (sm.select turn).2.1.session.consecutive2faTimeouts := by
  refine (handleAgentEvents_timeouts _ _ _).trans ?_
  rw [fireDwell_session]

theorem handleInterrupt_timeouts (interrupt : Interrupt) (turn : Turn) :
    (sm.handleInterrupt interrupt turn).1.session.consecutive2faTimeouts =
      sm.session.consecutive2faTimeouts := by
  cases interrupt with
  | agentEvent event => exact handleAgentEvent_timeouts event turn.later
  | _ => exact timeouts_of_untold (handleInterrupt_untold turn nofun)

theorem applyTransition_timeouts (next : State) (turn : Turn) :
    (sm.applyTransition next turn).1.session.consecutive2faTimeouts =
      if next = .connected ∧ sm.state ≠ .connected ∧
          sm.config.twofa.backoff.counterReset = .anyReach then 0
      else sm.session.consecutive2faTimeouts := by
  refine applyTransition_of_prepared (C := fun left => left.session.consecutive2faTimeouts = _)
    (fun _ _ => id) (fun _ => id) ?_
  have there := state_of_standing (readied_standing sm next turn.later)
  have config := config_of_core (core_of_standing (readied_standing sm next turn.later))
  have session := readied_session sm next turn.later
  have fresh : ∀ s : Session, (freshFor next turn.later s).consecutive2faTimeouts =
      s.consecutive2faTimeouts := by
    intro s
    unfold freshFor
    extract_lets selected forgotten entered
    have first : selected.consecutive2faTimeouts = s.consecutive2faTimeouts := by
      unfold selected
      split <;> rfl
    have second : forgotten.consecutive2faTimeouts = s.consecutive2faTimeouts := by
      unfold forgotten
      split
      · exact first
      · exact first
    have third : entered.consecutive2faTimeouts = s.consecutive2faTimeouts := by
      unfold entered
      cases next <;> exact second
    split
    · exact third
    · exact third
  have crosses : (sm.crossed next turn.later).session.consecutive2faTimeouts =
      ((sm.readied next turn.later).crossConnected next turn.later).1.session.consecutive2faTimeouts := by
    unfold crossed leaveHitl
    split <;> rfl
  rw [prepare_eq]
  refine ((fresh _).trans crosses).trans ?_
  have before : (sm.readied next turn.later).session.consecutive2faTimeouts =
      sm.session.consecutive2faTimeouts := by
    rw [session]
  unfold crossConnected
  rw [there]
  by_cases enters : next = .connected ∧ sm.state ≠ .connected
  · rw [if_pos enters]
    simp only [enterConnected,startApiPortProbe,config]
    by_cases any : sm.config.twofa.backoff.counterReset = .anyReach
    · rw [if_pos any,if_pos ⟨enters.1,enters.2,any⟩]
    · have kept : ¬ (next = .connected ∧ sm.state ≠ .connected ∧
          sm.config.twofa.backoff.counterReset = .anyReach) := fun all => any all.2.2
      rw [if_neg any,if_neg kept]
      exact before
  · have kept : ¬ (next = .connected ∧ sm.state ≠ .connected ∧
        sm.config.twofa.backoff.counterReset = .anyReach) := fun all => enters ⟨all.1,all.2.1⟩
    rw [if_neg kept,if_neg enters]
    split
    · exact before
    · split <;> exact before

end Frames

/-- Besides its handler, an iteration changes the count only where it reaches Connected. -/
theorem Stepped.timeouts {after : Process} (stepped : sm.Stepped turn after) (entry : turn.KeepsEntry) :
    after.machine.session.consecutive2faTimeouts =
      if sm.state ≠ .connected ∧ after.machine.state = .connected ∧
          sm.config.twofa.backoff.counterReset = .anyReach then 0
      else (sm.select turn).2.1.session.consecutive2faTimeouts := by
  have there := afterSelect_state sm turn
  have kept := afterSelect_timeouts sm turn
  have config := config_of_core (core_of_standing (afterSelect_standing sm turn))
  cases stepped with
  | handled interrupt taken apart =>
    rw [if_neg,handleInterrupt_timeouts,kept]
    rintro ⟨away,reached,-⟩
    rcases (@handleInterrupt_moves (sm.afterSelect turn) interrupt turn).2 with same | moves
    · exact away (there.symm.trans (same.symm.trans reached))
    · rw [show ((sm.afterSelect turn).handleInterrupt interrupt turn).1.state = .connected from reached]
        at moves
      exact entry interrupt (select_interrupt taken) (Interrupt.connected_of_moves moves)
  | ended interrupt taken ends =>
    rw [if_neg fun reached => by cases ends.symm.trans reached.2.1]
    exact (handleInterrupt_timeouts interrupt turn).trans kept
  | failed error taken =>
    rw [if_neg fun reached => reached.1 (there.symm.trans reached.2.1)]
    exact kept
  | stayed taken status =>
    rw [if_neg fun reached => reached.1 (there.symm.trans reached.2.1)]
    exact kept
  | moved next apart taken status =>
    have ends := (@applyTransition_moves (sm.afterSelect turn) next turn).1
    rw [applyTransition_timeouts,there,config,kept,ends]
    by_cases enters : next = .connected
    · simp [enters,settled]
    · rw [if_neg fun all => enters all.1,if_neg fun all => enters (settled_connected all.2.1)]

end StateMachine

end Ibctl.Machine
