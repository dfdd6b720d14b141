import Ibctl.StateMachine.Standby

/-! One iteration as the operations that make it. After the prelude and the select, and the
agent events that arrived meanwhile, an interrupt is handled, a transition applied, or
nothing. -/
namespace Ibctl.Machine
open Tasks Task Recovery

namespace StateMachine

variable {codec : MarkerCodec} {sm : StateMachine} {turn : Turn}

/-- The machine that the outcome of the select is applied to. -/
def afterSelect (sm : StateMachine) (turn : Turn) : StateMachine :=
  (handleAgentEvents turn.later (turn.pendingEvents sm.state)
    ((sm.select turn).2.1.fireDwell turn.dwellFiresLater)).1

inductive Stepped (sm : StateMachine) (turn : Turn) : Process → Prop
  | handled (interrupt : Interrupt) (taken : (sm.select turn).1 = .interrupted interrupt)
      (apart : ((sm.afterSelect turn).handleInterrupt interrupt turn).1.state ≠ .shutdown) :
      Stepped sm turn ⟨((sm.afterSelect turn).handleInterrupt interrupt turn).1,.running⟩
  | ended (interrupt : Interrupt) (taken : (sm.select turn).1 = .interrupted interrupt)
      (ends : ((sm.afterSelect turn).handleInterrupt interrupt turn).1.state = .shutdown) :
      Stepped sm turn ⟨((sm.afterSelect turn).handleInterrupt interrupt turn).1.stopSocat,.stopped⟩
  | failed (error : StateMachineError) (taken : (sm.select turn).1 = .transitioned (.error error)) :
      Stepped sm turn ⟨sm.afterSelect turn,.failed error⟩
  | stayed (taken : (sm.select turn).1 = .transitioned (.ok sm.state)) (status : Status) :
      Stepped sm turn ⟨sm.afterSelect turn,status⟩
  | moved (next : State) (apart : next ≠ sm.state)
      (taken : (sm.select turn).1 = .transitioned (.ok next)) (status : Status) :
      Stepped sm turn ⟨((sm.afterSelect turn).applyTransition next turn).1,status⟩

section AfterSelect

theorem afterSelect_standing (sm : StateMachine) (turn : Turn) :
    (sm.afterSelect turn).standing = sm.standing :=
  (handleAgentEvents_standing _ _ _).trans ((fireDwell_standing _ _).trans (select_standing sm turn))

theorem afterSelect_state (sm : StateMachine) (turn : Turn) :
    (sm.afterSelect turn).state = sm.state :=
  state_of_standing (afterSelect_standing sm turn)

theorem fireDwell_aside (fires : Option Clocks) : (sm.fireDwell fires).aside = sm.aside := by
  unfold fireDwell
  split
  · split <;> rfl
  · rfl

theorem afterSelect_aside (sm : StateMachine) (turn : Turn) :
    (sm.afterSelect turn).aside = (sm.select turn).2.1.aside :=
  (handleAgentEvents_aside _ _ _).trans (fireDwell_aside _)

theorem select_pending (sm : StateMachine) (turn : Turn) :
    (sm.select turn).2.1.coldRestartEquivalentPending = sm.coldRestartEquivalentPending := by
  unfold select
  split
  · simp only
    split <;> rfl
  · split <;> rfl

theorem afterSelect_pending (sm : StateMachine) (turn : Turn) :
    (sm.afterSelect turn).coldRestartEquivalentPending = sm.coldRestartEquivalentPending :=
  (pending_of_aside (afterSelect_aside sm turn)).trans (select_pending sm turn)

/-- What the handler permits to itself holds of what stands by after the select, and of what
it did. -/
theorem select_beside {K : Standby → Prop} {p : Effect → Prop}
    (permits : sm.Permits turn.schedule.answers K p) (before : K sm.session.standby) :
    K (sm.select turn).2.1.session.standby := by
  by_cases polled : sm.polls turn = true
  · rw [select_session polled]
    have permits' : sm.Permits (sm.handlerSchedule turn).answers K p := by
      rw [handlerSchedule_answers]
      exact permits
    exact ((transition_beside permits').start sm.session ⟨before,by simp⟩).1
  · rw [select_unpolled (by simpa using polled)]
    exact before

end AfterSelect

section Prelude

theorem drainDwell_aside (io : Nat → SaveIo) (n : Nat) (messages : List Clocks)
    (sm : StateMachine) : (drainDwell codec io n messages sm).aside = sm.aside := by
  induction messages generalizing n sm with
  | nil => rfl
  | cons dwell rest ih =>
    simp only [drainDwell]
    split
    · exact ih (n + 1) sm
    · split
      · exact ih (n + 1) _
      · exact ih (n + 1) _

theorem takeDwellSuccesses_aside (turn : Turn) :
    (sm.takeDwellSuccesses codec turn).aside = sm.aside := by
  unfold takeDwellSuccesses
  split
  · exact drainDwell_aside _ _ _ _
  · exact drainDwell_aside _ _ _ _

theorem afterApply_aside (applied : AppliedAction) (turn : Turn) :
    (sm.afterApply applied turn).1.aside = sm.aside := by
  cases applied with
  | firedGiveUpAlert =>
    simp only [afterApply,giveUpHalt]
    split
    · rfl
    · rfl
    · rfl
    · exact moveTo_aside _ _
  | resumedToAggressive =>
    simp only [afterApply]
    split
    · exact moveTo_aside _ _
    · rfl
  | _ => rfl

theorem tickRecovery_aside {ready : StateMachine} {effects : List LoopEffect}
    (ticked : sm.tickRecovery codec turn = some (ready,effects)) : ready.aside = sm.aside := by
  have drained := @takeDwellSuccesses_aside codec sm turn
  unfold tickRecovery at ticked
  simp only at ticked
  split at ticked
  · unfold driveRecovery at ticked
    split at ticked
    · cases ticked
    · simp only at ticked
      split at ticked
      · cases ticked
        exact drained
      next applied result =>
        cases ticked
        exact (afterApply_aside applied turn).trans drained
  · cases ticked
    exact drained

/-- The IB system is available, or has not been heard of for too long. -/
def ibReachable (sm : StateMachine) (now : Clocks) : Prop :=
  (sm.checkIbStatusTtl now).ibStatus.available = true

instance (now : Clocks) : Decidable (sm.ibReachable now) := inferInstanceAs (Decidable (_ = _))

/-- The check of the IB system takes the machine away from where it is. -/
def leavesForIb (sm : StateMachine) (now : Clocks) : Prop :=
  ¬ sm.ibReachable now ∧ sm.state ∉ [.waitingForIB,.shutdown,.waitingForLaunch] ∧
    ¬ (sm.state ∈ [.connected,.dismissingPopups,.waitingForApiReady,.configuringApi] ∧
      sm.config.kickActiveSession = false)

theorem fireDwell_ibStatus (fires : Option Clocks) (now : Clocks) :
    ((sm.fireDwell fires).checkIbStatusTtl now).ibStatus = (sm.checkIbStatusTtl now).ibStatus := by
  unfold fireDwell
  split
  · split
    · unfold checkIbStatusTtl
      cases sm.ibStatus.lastUpdated with
      | none => rfl
      | some last =>
        simp only
        split <;> rfl
    · rfl
  · rfl

/-- Only the check of the IB system puts a state aside: it was the present one, and the
machine now waits for IB. -/
theorem checks_aside (sm : StateMachine) (turn : Turn) :
    (sm.checks turn).aside = sm.aside ∧ (sm.checks turn).state = sm.state ∨
      (sm.checks turn).aside =
          (sm.coldRestartEquivalentPending,some sm.state,sm.session.hitl) ∧
        (sm.checks turn).state = .waitingForIB ∧ sm.leavesForIb turn.now := by
  have timed : ((sm.fireDwell turn.dwellFires).checkIbStatusTtl turn.now).aside = sm.aside := by
    refine Eq.trans ?_ (fireDwell_aside turn.dwellFires)
    unfold checkIbStatusTtl
    split
    · rfl
    · split <;> rfl
  have standing := (checkIbStatusTtl_standing (sm.fireDwell turn.dwellFires) turn.now).trans
    (fireDwell_standing sm turn.dwellFires)
  have there := state_of_standing standing
  have config := config_of_core (core_of_standing standing)
  unfold checks leavesForIb ibReachable
  rw [← @fireDwell_ibStatus sm turn.dwellFires turn.now]
  generalize (sm.fireDwell turn.dwellFires).checkIbStatusTtl turn.now = checked at *
  rw [← there,← config,← pending_of_aside timed,← hitl_of_aside timed]
  unfold checkIbSystemAvailability
  split
  · exact .inl ⟨timed,rfl⟩
  next unavailable =>
    split
    · exact .inl ⟨timed,rfl⟩
    next elsewhere =>
      split
      · exact .inl ⟨timed,rfl⟩
      next kicked => exact .inr ⟨moveTo_aside _ _,moveTo_state _ _ _,unavailable,elsewhere,kicked⟩

end Prelude

section Transition

theorem crossConnected_kept (next : State) (at_ : Clocks) :
    (sm.crossConnected next at_).1.session.returnState = sm.session.returnState ∧
      (sm.crossConnected next at_).1.session.hitl = sm.session.hitl := by
  unfold crossConnected
  split
  · exact ⟨rfl,rfl⟩
  · split
    · exact ⟨rfl,rfl⟩
    · split <;> exact ⟨rfl,rfl⟩

theorem freshFor_kept (next : State) (at_ : Clocks) (s : Session) :
    (freshFor next at_ s).returnState = s.returnState ∧ (freshFor next at_ s).hitl = s.hitl := by
  unfold freshFor
  extract_lets selected forgotten entered
  have first : selected.returnState = s.returnState ∧ selected.hitl = s.hitl := by
    unfold selected
    split <;> exact ⟨rfl,rfl⟩
  have second : forgotten.returnState = s.returnState ∧ forgotten.hitl = s.hitl := by
    unfold forgotten
    split
    · exact first
    · exact first
  have third : entered.returnState = s.returnState ∧ entered.hitl = s.hitl := by
    unfold entered
    cases next <;> exact second
  split
  · exact third
  · exact third

/-- The wait for the operator is forgotten by a transition out of it. -/
def forgottenHitl : HitlEpisode := ⟨none,none,0,0,0⟩

theorem leaveHitl_kept (next : State) :
    (sm.leaveHitl next).session.returnState = sm.session.returnState ∧
      (sm.leaveHitl next).session.hitl =
        if sm.state = .waitingForHitl2fa ∧ next ≠ .waitingForHitl2fa then forgottenHitl
        else sm.session.hitl := by
  unfold leaveHitl
  split <;> exact ⟨rfl,rfl⟩

theorem crossConnected_state (next : State) (at_ : Clocks) :
    (sm.crossConnected next at_).1.state = sm.state := by
  unfold crossConnected
  split
  · rfl
  · split
    · rfl
    · split <;> rfl

theorem applyTransition_kept (next : State) (turn : Turn) :
    (sm.applyTransition next turn).1.session.returnState = sm.session.returnState ∧
      (sm.applyTransition next turn).1.session.hitl =
        if sm.state = .waitingForHitl2fa ∧ next ≠ .waitingForHitl2fa then forgottenHitl
        else sm.session.hitl := by
  have prepared : (sm.prepare next turn.later).1.session.returnState = sm.session.returnState ∧
      (sm.prepare next turn.later).1.session.hitl =
        if sm.state = .waitingForHitl2fa ∧ next ≠ .waitingForHitl2fa then forgottenHitl
        else sm.session.hitl := by
    have there := state_of_standing (readied_standing sm next turn.later)
    have session := readied_session sm next turn.later
    have crosses := @crossConnected_kept (sm.readied next turn.later) next turn.later
    have left := @leaveHitl_kept ((sm.readied next turn.later).crossConnected next turn.later).1 next
    rw [crossConnected_state,there,crosses.1,crosses.2,session] at left
    have fresh := freshFor_kept next turn.later (sm.crossed next turn.later).session
    rw [prepare_eq]
    exact ⟨fresh.1.trans left.1,fresh.2.trans left.2⟩
  exact applyTransition_of_prepared (C := fun left =>
      left.session.returnState = sm.session.returnState ∧ left.session.hitl =
        if sm.state = .waitingForHitl2fa ∧ next ≠ .waitingForHitl2fa then forgottenHitl
        else sm.session.hitl)
    (fun _ _ => id) (fun _ => id) prepared

end Transition

theorem afterPrelude_stepped (sm : StateMachine) (turn : Turn) :
    Stepped sm turn (sm.afterPrelude turn).process := by
  have settled : (sm.afterPrelude turn).process =
      ((sm.afterSelect turn).settle (sm.select turn).1 turn).process := rfl
  rw [settled]
  cases taken : (sm.select turn).1 with
  | interrupted interrupt =>
    simp only [settle]
    by_cases ends : ((sm.afterSelect turn).handleInterrupt interrupt turn).1.state = .shutdown
    · rw [if_pos ends]
      exact .ended interrupt taken ends
    · rw [if_neg ends]
      exact .handled interrupt taken ends
  | transitioned result =>
    cases result with
    | error error => exact .failed error taken
    | ok next =>
      simp only [settle]
      by_cases same : next = sm.state
      · subst same
        rw [if_neg (by simp [afterSelect_state])]
        exact .stayed taken _
      · rw [if_pos (by rwa [ne_eq,afterSelect_state])]
        exact .moved next same taken _

end StateMachine

theorem Process.stepped {codec : MarkerCodec} {p : Process} {t : Turn} {ready : StateMachine}
    {effects : List LoopEffect} (running : p.status = .running)
    (preluded : p.machine.prelude codec t = some (ready,effects)) :
    ready.Stepped t (p.step codec t) := by
  rw [step,turn_of_prelude running preluded]
  exact ready.afterPrelude_stepped t

/-- A process without a prelude goes nowhere. -/
theorem Process.step_cases {codec : MarkerCodec} (p : Process) (t : Turn) :
    (p.step codec t).machine = p.machine ∧ (p.step codec t).status ≠ .running ∨
      ∃ ready effects, p.status = .running ∧ p.machine.prelude codec t = some (ready,effects) ∧
        ready.Stepped t (p.step codec t) := by
  by_cases passes : ∃ ready effects, p.status = .running ∧
      p.machine.prelude codec t = some (ready,effects)
  · obtain ⟨ready,effects,running,preluded⟩ := passes
    exact .inr ⟨ready,effects,running,preluded,stepped running preluded⟩
  · left
    have stops : ∀ ready effects, p.status = .running →
        p.machine.prelude codec t ≠ some (ready,effects) :=
      fun ready effects running preluded => passes ⟨ready,effects,running,preluded⟩
    refine ⟨(turn_of_stopped stops).1,fun runs => ?_⟩
    obtain ⟨ready,effects,running,preluded⟩ := running_of_step runs
    exact stops ready effects running preluded

end Ibctl.Machine
