import Ibctl.StateMachine.Confirmation

/-! The cold-restart-equivalent marker. A ghost beside the process knows whether a challenge was
answered since the last launch and the last connection; the machine's own note agrees with it,
so the marker is written for an answered challenge and once for each. A challenge that was
seen and led into a session conflict is not noted. -/
namespace Ibctl.Machine
open Tasks Task Recovery

/-- The way out of the first state into the second answers a challenge. -/
def answersTwofa (source next : State) (seen : Bool) : Bool :=
  (decide (source = .waitingFor2fa) && seen &&
    decide (next ∈ [.dismissingPopups,.waitingForApiReady,.configuringApi,.connected])) ||
  (decide (source = .waitingForHitl2fa) && decide (next = .waitingForApiReady))

/-- The states a login passes between the challenge and the connection. -/
def loginPath : List State :=
  [.handlingSessionConflict,.dismissingPopups,.waitingForApiReady,.configuringApi]

structure Lifecycle where
  process : Process
  answered : Bool
  goesOn : Bool

namespace Lifecycle

variable (codec : MarkerCodec)

/-- An answer counts until the next launch or connection; a login goes on from a challenge that
was seen for as long as it keeps to its path. -/
def step (l : Lifecycle) (t : Turn) : Lifecycle :=
  let after := l.process.step codec t
  let next := after.machine.state
  let seen := after.machine.session.twofaSeen
  match l.process.status,l.process.machine.prelude codec t with
  | .running,some (ready,_) =>
    { process := after
      answered :=
        if next = ready.state then l.answered
        else if next ∈ [.launching,.connected] then false
        else l.answered || answersTwofa ready.state next seen
      goesOn := decide (next ∈ loginPath) &&
        (decide (ready.state = .waitingFor2fa) && seen ||
          decide (ready.state ∈ loginPath) && l.goesOn) }
  | _,_ => { l with process := after }

def start (process : Process) : Lifecycle := ⟨process,false,false⟩

/-- The marker is written once at most, on an entry into Connected after an answer that none
was written for. -/
def MarksEarned (l : Lifecycle) (t : Turn) : Prop :=
  .coldRestartEquivalentMarker ∈ (l.process.turn codec t).effects →
    (l.process.turn codec t).effects.count .coldRestartEquivalentMarker = 1 ∧
      ∃ ready effects, l.process.status = .running ∧
        l.process.machine.prelude codec t = some (ready,effects) ∧ ready.state ≠ .connected ∧
        (l.process.step codec t).machine.state = .connected ∧
        (l.answered = true ∨ answersTwofa ready.state .connected
          (l.process.step codec t).machine.session.twofaSeen = true)

/-- A login that goes on from a challenge it saw into Connected writes the marker there. -/
def MarksReached (l : Lifecycle) (t : Turn) : Prop :=
  l.process.status = .running →
    ∀ ready effects, l.process.machine.prelude codec t = some (ready,effects) →
      ready.state ≠ .connected → (l.process.step codec t).machine.state = .connected →
        (ready.state = .waitingFor2fa ∧
            (l.process.step codec t).machine.session.twofaSeen = true ∨
          ready.state ∈ loginPath ∧ l.goesOn = true) →
          .coldRestartEquivalentMarker ∈ (l.process.turn codec t).effects

/-- No challenge that was seen leads into a session conflict, but where one is noted already. -/
def SeesNoConflict (l : Lifecycle) (t : Turn) : Prop :=
  l.process.status = .running →
    ∀ ready effects, l.process.machine.prelude codec t = some (ready,effects) →
      ready.state = .waitingFor2fa →
        (ready.select t).1 = .transitioned (.ok .handlingSessionConflict) →
          (ready.afterSelect t).session.twofaSeen = true → ready.coldRestartEquivalentPending = true

end Lifecycle

namespace StateMachine

variable {codec : MarkerCodec} {sm : StateMachine} {turn : Turn}

section Note

theorem checkCeiling_pending (next : State) :
    (sm.checkCeiling next).coldRestartEquivalentPending = sm.coldRestartEquivalentPending := by
  unfold checkCeiling
  split <;> rfl

theorem noteTwofaAnswered_pending (next : State) :
    (sm.noteTwofaAnswered next).coldRestartEquivalentPending =
      (sm.coldRestartEquivalentPending || answersTwofa sm.state next sm.session.twofaSeen) := by
  unfold noteTwofaAnswered answersTwofa
  extract_lets answered
  split
  next holds =>
    have noted : (decide (sm.state = .waitingFor2fa) && sm.session.twofaSeen &&
        decide (next ∈ [State.dismissingPopups,.waitingForApiReady,.configuringApi,.connected]) ||
        decide (sm.state = .waitingForHitl2fa) && decide (next = .waitingForApiReady)) = true := by
      simpa only [Bool.or_eq_true,Bool.and_eq_true,decide_eq_true_eq,and_assoc] using holds
    rw [noted,Bool.or_true]
  next fails =>
    have unnoted : (decide (sm.state = .waitingFor2fa) && sm.session.twofaSeen &&
        decide (next ∈ [State.dismissingPopups,.waitingForApiReady,.configuringApi,.connected]) ||
        decide (sm.state = .waitingForHitl2fa) && decide (next = .waitingForApiReady)) = false := by
      rw [← Bool.not_eq_true]
      simpa only [Bool.or_eq_true,Bool.and_eq_true,decide_eq_true_eq,and_assoc] using fails
    rw [unnoted,Bool.or_false]

theorem readied_pending (next : State) (at_ : Clocks) :
    (sm.readied next at_).coldRestartEquivalentPending =
      (sm.coldRestartEquivalentPending || answersTwofa sm.state next sm.session.twofaSeen) := by
  have recorded := (pending_of_aside (aside_of_reserve (recordTransition_reserve sm.state next at_))).trans
    (@checkCeiling_pending sm next)
  have there := state_of_standing
    ((recordTransition_standing (sm.checkCeiling next) sm.state next at_).trans (checkCeiling_standing sm next))
  have session := (recordTransition_session sm.state next at_).trans (@checkCeiling_session sm next)
  unfold readied
  rw [noteTwofaAnswered_pending]
  simp only [recorded,there,session]

theorem applyTransition_pending (next : State) (turn : Turn) :
    (sm.applyTransition next turn).1.coldRestartEquivalentPending =
      if next = .launching ∨ next = .connected ∧ sm.state ≠ .connected then false
      else sm.coldRestartEquivalentPending || answersTwofa sm.state next sm.session.twofaSeen := by
  have crossed : (sm.crossed next turn.later).coldRestartEquivalentPending =
      if next = .connected ∧ sm.state ≠ .connected then false
      else sm.coldRestartEquivalentPending || answersTwofa sm.state next sm.session.twofaSeen := by
    have left : (sm.crossed next turn.later).coldRestartEquivalentPending =
        ((sm.readied next turn.later).crossConnected next turn.later).1.coldRestartEquivalentPending := by
      unfold StateMachine.crossed leaveHitl
      split <;> rfl
    rw [left,← readied_pending next turn.later,
      ← state_of_standing (readied_standing sm next turn.later)]
    unfold crossConnected
    split
    · rfl
    · split
      · rfl
      · split <;> rfl
  have prepared : (sm.prepare next turn.later).1.coldRestartEquivalentPending =
      if next = .launching ∨ next = .connected ∧ sm.state ≠ .connected then false
      else sm.coldRestartEquivalentPending || answersTwofa sm.state next sm.session.twofaSeen := by
    rw [prepare_eq]
    by_cases launches : next = .launching
    · simp [launches]
    · simp only [launches,if_false,false_or]
      exact crossed
  exact applyTransition_of_prepared (C := fun left => left.coldRestartEquivalentPending =
      if next = .launching ∨ next = .connected ∧ sm.state ≠ .connected then false
      else sm.coldRestartEquivalentPending || answersTwofa sm.state next sm.session.twofaSeen)
    (fun _ _ => id) (fun _ => id) prepared

theorem applyTransition_seen {next : State} (apart : next ≠ .waitingFor2fa) (turn : Turn) :
    (sm.applyTransition next turn).1.session.twofaSeen = sm.session.twofaSeen := by
  have crossed : (sm.crossed next turn.later).session.twofaSeen = sm.session.twofaSeen := by
    have readied := congrArg Session.twofaSeen (readied_session sm next turn.later)
    refine Eq.trans ?_ readied
    have left : (sm.crossed next turn.later).session.twofaSeen =
        ((sm.readied next turn.later).crossConnected next turn.later).1.session.twofaSeen := by
      unfold StateMachine.crossed leaveHitl
      split <;> rfl
    rw [left]
    unfold crossConnected
    split
    · rfl
    · split
      · rfl
      · split <;> rfl
  have fresh : ∀ s : Session, (freshFor next turn.later s).twofaSeen = s.twofaSeen := by
    intro s
    unfold freshFor
    extract_lets selected forgotten entered
    have first : selected.twofaSeen = s.twofaSeen := by
      unfold selected
      split <;> rfl
    have second : forgotten.twofaSeen = s.twofaSeen := by
      unfold forgotten
      split
      · exact first
      · exact first
    have third : entered.twofaSeen = s.twofaSeen := by
      unfold entered
      cases next with
      | waitingFor2fa => exact absurd rfl apart
      | _ => exact second
    split
    · exact third
    · exact third
  have prepared : (sm.prepare next turn.later).1.session.twofaSeen = sm.session.twofaSeen := by
    rw [prepare_eq]
    exact (fresh _).trans crossed
  exact applyTransition_of_prepared
    (C := fun left => left.session.twofaSeen = sm.session.twofaSeen)
    (fun _ _ => id) (fun _ => id) prepared

theorem Stepped.interrupted_target {interrupt : Interrupt} {source target : State}
    (unset : turn.SetsNoState) (taken : (sm.select turn).1 = .interrupted interrupt)
    (moves : interrupt.Moves source target) :
    target ∈ [.waitingForLaunch,.init,.restarting,.shutdown] := by
  have here := select_interrupt taken
  cases interrupt with
  | signal signal =>
    cases signal with
    | recoveryGaveUp mode at_ => exact absurd moves id
    | _ =>
      cases moves
      decide
  | command command =>
    cases command with
    | setState name => simp [Turn.SetsNoState,here,Interrupt.setsState] at unset
    | stop => cases moves; decide
    | exit => cases moves; decide
    | restart => cases moves; decide
    | start =>
      cases moves.2
      decide
    | hitlResume =>
      cases moves.2
      decide
    | _ => exact absurd moves id
  | coldRestart signal =>
    cases signal with
    | fire =>
      cases moves.2
      decide
    | skipped reason => exact absurd moves id
  | agentEvent event => exact absurd moves id

/-- What becomes of the note, told by the states before and after. -/
theorem Stepped.noted {after : Process} (stepped : Stepped sm turn after) (unset : turn.SetsNoState) :
    after.machine.coldRestartEquivalentPending =
      if after.machine.state = sm.state then sm.coldRestartEquivalentPending
      else if after.machine.state ∈ [.launching,.connected] then false
      else sm.coldRestartEquivalentPending ||
        answersTwofa sm.state after.machine.state after.machine.session.twofaSeen := by
  have there := afterSelect_state sm turn
  have selected := afterSelect_pending sm turn
  have quiet : ∀ target seen, target ∈ [State.waitingForLaunch,.init,.restarting,.shutdown] →
      sm.coldRestartEquivalentPending =
        if target = sm.state then sm.coldRestartEquivalentPending
        else if target ∈ [.launching,.connected] then false
        else sm.coldRestartEquivalentPending || answersTwofa sm.state target seen := by
    intro target seen among
    simp only [List.mem_cons,List.not_mem_nil,or_false] at among
    rcases among with rfl | rfl | rfl | rfl <;> simp [answersTwofa]
  have interrupted : ∀ interrupt, (sm.select turn).1 = .interrupted interrupt → ∀ seen,
      ((sm.afterSelect turn).handleInterrupt interrupt turn).1.coldRestartEquivalentPending =
        if ((sm.afterSelect turn).handleInterrupt interrupt turn).1.state = sm.state then
          sm.coldRestartEquivalentPending
        else if ((sm.afterSelect turn).handleInterrupt interrupt turn).1.state ∈
            [.launching,.connected] then false
        else sm.coldRestartEquivalentPending || answersTwofa sm.state
          ((sm.afterSelect turn).handleInterrupt interrupt turn).1.state seen := by
    intro interrupt taken seen
    rw [pending_of_aside (handleInterrupt_aside interrupt turn),selected]
    rcases (@handleInterrupt_moves (sm.afterSelect turn) interrupt turn).2 with same | moves
    · rw [if_pos (same.trans there)]
    · exact quiet _ _ (interrupted_target unset taken moves)
  cases stepped with
  | handled interrupt taken apart => exact interrupted interrupt taken _
  | ended interrupt taken ends => exact interrupted interrupt taken _
  | failed error taken => exact selected.trans (if_pos there).symm
  | stayed taken status => exact selected.trans (if_pos there).symm
  | moved next apart taken status =>
    have pending := @applyTransition_pending (sm.afterSelect turn) next turn
    have entered := (@applyTransition_moves (sm.afterSelect turn) next turn).1
    rw [selected,there] at pending
    simp only [entered]
    cases next with
    | error message =>
      have unanswered : answersTwofa sm.state (.error message)
          (sm.afterSelect turn).session.twofaSeen = false := by simp [answersTwofa]
      have kept : ((sm.afterSelect turn).applyTransition (.error message)
          turn).1.coldRestartEquivalentPending = sm.coldRestartEquivalentPending := by
        simpa [unanswered] using pending
      exact kept.trans (quiet .restarting _ (by decide))
    | waitingFor2fa =>
      refine pending.trans ?_
      simp [settled,apart,answersTwofa]
    | _ =>
      refine pending.trans ?_
      rw [applyTransition_seen (by simp) turn]
      simp [settled,apart,apart.symm]

end Note

section Marker

theorem marker_of_plain {effects : List LoopEffect} (plain : Plain effects) :
    effects.count .coldRestartEquivalentMarker = 0 := by
  apply List.count_eq_zero.mpr
  intro member
  exact absurd (plain _ member) (by simp [LoopEffect.isPlain])

theorem select_marker (turn : Turn) :
    (sm.select turn).2.2.count .coldRestartEquivalentMarker = 0 := by
  apply List.count_eq_zero.mpr
  intro member
  obtain ⟨-,among⟩ := select_handled member
  simp at among

theorem crossConnected_marker (next : State) (at_ : Clocks) :
    (sm.crossConnected next at_).2.count .coldRestartEquivalentMarker =
      if next = .connected ∧ sm.state ≠ .connected ∧ sm.state.isCredentialGathering = true ∧
        sm.coldRestartEquivalentPending = true then 1 else 0 := by
  unfold crossConnected
  split
  next enters =>
    simp only [enterConnected,enters,true_and,ne_eq,not_false_eq_true]
    cases sm.state.isCredentialGathering <;> cases sm.coldRestartEquivalentPending <;> simp
  next stays =>
    have unmet : ¬ (next = .connected ∧ sm.state ≠ .connected ∧
        sm.state.isCredentialGathering = true ∧ sm.coldRestartEquivalentPending = true) :=
      fun met => stays ⟨met.1,met.2.1⟩
    rw [if_neg unmet]
    split
    · simp
    · split <;> simp

theorem applyTransition_marker (next : State) (turn : Turn) :
    (sm.applyTransition next turn).2.count .coldRestartEquivalentMarker =
      if next = .connected ∧ sm.state ≠ .connected ∧ sm.state.isCredentialGathering = true ∧
        (sm.coldRestartEquivalentPending ||
          answersTwofa sm.state next sm.session.twofaSeen) = true then 1 else 0 := by
  have crosses := @crossConnected_marker (sm.readied next turn.later) next turn.later
  rw [state_of_standing (readied_standing sm next turn.later),readied_pending] at crosses
  have prepared : (sm.prepare next turn.later).2.count .coldRestartEquivalentMarker =
      ((sm.readied next turn.later).crossConnected next turn.later).2.count
        .coldRestartEquivalentMarker := by
    rw [prepare_eq]
  rw [← crosses,← prepared]
  unfold applyTransition
  generalize sm.prepare next turn.later = left
  cases next with
  | shutdown =>
    simp only [doShutdown,List.count_append]
    rw [marker_of_plain (plain_killed turn.isRunning),Nat.add_zero]
  | _ => rfl

theorem settle_marker (outcome : SelectOutcome) (turn : Turn) :
    (sm.settle outcome turn).effects.count .coldRestartEquivalentMarker =
      if outcome = .transitioned (.ok .connected) ∧ sm.state ≠ .connected ∧
        sm.state.isCredentialGathering = true ∧
        (sm.coldRestartEquivalentPending ||
          answersTwofa sm.state .connected sm.session.twofaSeen) = true then 1 else 0 := by
  cases outcome with
  | interrupted interrupt =>
    simp only [settle,reduceCtorEq,false_and,if_false]
    split
    · exact marker_of_plain ((handleInterrupt_plain interrupt turn).append (plain_killed turn.isRunning))
    · exact marker_of_plain (handleInterrupt_plain interrupt turn)
  | transitioned result =>
    cases result with
    | error error => simp [settle]
    | ok next =>
      simp only [settle]
      split
      next moves =>
        rw [applyTransition_marker]
        by_cases connected : next = .connected
        · subst connected
          simp
        · simp [connected]
      next stays =>
        have same : next = sm.state := by simpa using stays
        rw [List.count_nil,if_neg]
        rintro ⟨⟨⟩,apart,-⟩
        exact apart same.symm

end Marker

end StateMachine

theorem Process.turn_marker {codec : MarkerCodec} {p : Process} {t : Turn} {ready : StateMachine}
    {effects : List LoopEffect} (running : p.status = .running)
    (preluded : p.machine.prelude codec t = some (ready,effects)) :
    (p.turn codec t).effects.count .coldRestartEquivalentMarker =
      if (ready.select t).1 = .transitioned (.ok .connected) ∧ ready.state ≠ .connected ∧
        ready.state.isCredentialGathering = true ∧ (ready.coldRestartEquivalentPending ||
          answersTwofa ready.state .connected (ready.afterSelect t).session.twofaSeen) = true
      then 1 else 0 := by
  rw [turn_of_prelude running preluded]
  have afterwards : (ready.afterPrelude t).effects = (ready.select t).2.2 ++
      (StateMachine.handleAgentEvents t.later (t.pendingEvents ready.state)
        ((ready.select t).2.1.fireDwell t.dwellFiresLater)).2 ++
      ((ready.afterSelect t).settle (ready.select t).1 t).effects := rfl
  rw [afterwards]
  simp only [List.count_append]
  rw [StateMachine.marker_of_plain (StateMachine.tickRecovery_plain preluded),
    StateMachine.select_marker,
    StateMachine.marker_of_plain (StateMachine.handleAgentEvents_plain _ _ _),
    StateMachine.settle_marker,StateMachine.afterSelect_state,StateMachine.afterSelect_pending]
  simp

namespace Lifecycle

variable {codec : MarkerCodec} {l : Lifecycle} {t : Turn}

@[simp] theorem step_process : (l.step codec t).process = l.process.step codec t := by
  unfold step
  split <;> rfl

theorem step_of_prelude {ready : StateMachine} {effects : List LoopEffect}
    (running : l.process.status = .running)
    (preluded : l.process.machine.prelude codec t = some (ready,effects)) :
    l.step codec t =
      { process := l.process.step codec t
        answered :=
          if (l.process.step codec t).machine.state = ready.state then l.answered
          else if (l.process.step codec t).machine.state ∈ [.launching,.connected] then false
          else l.answered || answersTwofa ready.state (l.process.step codec t).machine.state
            (l.process.step codec t).machine.session.twofaSeen
        goesOn := decide ((l.process.step codec t).machine.state ∈ loginPath) &&
          (decide (ready.state = .waitingFor2fa) &&
              (l.process.step codec t).machine.session.twofaSeen ||
            decide (ready.state ∈ loginPath) && l.goesOn) } := by
  unfold step
  simp only [running,preluded]

/-- The machine notes what the ghost knows. -/
def Noted (l : Lifecycle) : Prop :=
  l.process.status = .running → l.process.machine.coldRestartEquivalentPending = l.answered

theorem prelude_pending {sm ready : StateMachine} {effects : List LoopEffect}
    (preluded : sm.prelude codec t = some (ready,effects)) :
    ready.coldRestartEquivalentPending = sm.coldRestartEquivalentPending := by
  refine (StateMachine.pending_of_aside (StateMachine.tickRecovery_aside preluded)).trans ?_
  rcases StateMachine.checks_aside sm t with ⟨same,-⟩ | ⟨away,-⟩
  · exact StateMachine.pending_of_aside same
  · exact congrArg Prod.fst away

theorem step_noted (unset : t.SetsNoState) (noted : l.Noted) : (l.step codec t).Noted := by
  intro runs
  rw [step_process] at runs
  obtain ⟨ready,effects,running,preluded⟩ := Process.running_of_step runs
  have kept := (Process.stepped running preluded).noted unset
  rw [step_of_prelude running preluded]
  rw [prelude_pending preluded,noted running] at kept
  exact kept

theorem connected_of_taken {ready : StateMachine} {effects : List LoopEffect} {p : Process}
    (running : p.status = .running) (preluded : p.machine.prelude codec t = some (ready,effects))
    (taken : (ready.select t).1 = .transitioned (.ok .connected)) (apart : ready.state ≠ .connected) :
    (p.step codec t).machine.state = .connected ∧
      (p.step codec t).machine.session.twofaSeen = (ready.afterSelect t).session.twofaSeen := by
  have stepped := Process.stepped running preluded
  generalize p.step codec t = after at stepped ⊢
  cases stepped with
  | handled interrupt other ends => cases taken.symm.trans other
  | ended interrupt other ends => cases taken.symm.trans other
  | failed error other => cases taken.symm.trans other
  | stayed other status =>
    exact absurd (by simpa using other.symm.trans taken) apart
  | moved next leaves other status =>
    cases other.symm.trans taken
    exact ⟨(StateMachine.applyTransition_moves .connected t).1,
      StateMachine.applyTransition_seen (by simp) t⟩

theorem marksEarned_of_noted (noted : l.Noted) : l.MarksEarned codec t := by
  intro marks
  have positive := List.count_pos_iff.mpr marks
  by_cases passes : ∃ ready effects, l.process.status = .running ∧
      l.process.machine.prelude codec t = some (ready,effects)
  · obtain ⟨ready,effects,running,preluded⟩ := passes
    rw [Process.turn_marker running preluded] at positive ⊢
    split at positive
    next met =>
      have ⟨taken,apart,_,pending⟩ := met
      obtain ⟨connected,seen⟩ := connected_of_taken running preluded taken apart
      refine ⟨if_pos met,ready,effects,running,preluded,apart,connected,?_⟩
      rw [prelude_pending preluded,noted running,← seen,Bool.or_eq_true] at pending
      exact pending
    · exact absurd positive (by simp)
  · have stops : ∀ ready effects, l.process.status = .running →
        l.process.machine.prelude codec t ≠ some (ready,effects) :=
      fun ready effects running preluded => passes ⟨ready,effects,running,preluded⟩
    rw [(Process.turn_of_stopped stops).2] at marks
    cases marks

end Lifecycle

/-- In every run in which nobody sets the state, the marker is written for challenges answered
since the last launch, and once for each. -/
theorem marker_earned (codec : MarkerCodec) (config : Config) (recoveryConfig : RecoveryConfig)
    (files : Files.Directory) (settingsDir : String) (now : Clocks) (turns : List Turn)
    (unset : ∀ turn ∈ turns, turn.SetsNoState) :
    Runs.Along (Lifecycle.step codec) (Lifecycle.MarksEarned codec)
      (.start (.start codec config recoveryConfig files settingsDir now)) turns := by
  have quiet : Runs.Along (Lifecycle.step codec) (fun _ turn => turn.SetsNoState)
      (.start (.start codec config recoveryConfig files settingsDir now)) turns :=
    Runs.along_of_forall _ _ fun turn member _ => unset turn member
  apply quiet.strengthen (P := Lifecycle.Noted)
  · exact fun _ _ noted met => Lifecycle.step_noted met noted
  · exact fun _ _ noted _ => Lifecycle.marksEarned_of_noted noted
  · exact fun _ => StateMachine.pending_of_aside
      (StateMachine.aside_of_reserve (StateMachine.gates_reserve _ now))

namespace Lifecycle

variable {codec : MarkerCodec} {l : Lifecycle} {t : Turn}

/-- A login that goes on from a challenge it saw is noted. -/
def PathNoted (l : Lifecycle) : Prop :=
  l.process.status = .running → l.goesOn = true →
    l.process.machine.coldRestartEquivalentPending = true

theorem conflict_of_stepped {ready : StateMachine} {after : Process}
    (stepped : ready.Stepped t after) (unset : t.SetsNoState) (here : ready.state = .waitingFor2fa)
    (conflict : after.machine.state = .handlingSessionConflict) :
    (ready.select t).1 = .transitioned (.ok .handlingSessionConflict) ∧
      after.machine.session.twofaSeen = (ready.afterSelect t).session.twofaSeen := by
  have there := (StateMachine.afterSelect_state ready t).trans here
  cases stepped with
  | handled interrupt taken apart =>
    rcases (@StateMachine.handleInterrupt_moves (ready.afterSelect t) interrupt t).2 with same | moves
    · cases there.symm.trans (same.symm.trans conflict)
    · have among := StateMachine.Stepped.interrupted_target unset taken moves
      rw [conflict] at among
      exact absurd among (by decide)
  | ended interrupt taken ends => cases ends.symm.trans conflict
  | failed error taken => cases there.symm.trans conflict
  | stayed taken status => cases there.symm.trans conflict
  | moved next apart taken status =>
    have entered := (@StateMachine.applyTransition_moves (ready.afterSelect t) next t).1.symm.trans conflict
    cases next with
    | handlingSessionConflict => exact ⟨taken,StateMachine.applyTransition_seen (by simp) t⟩
    | _ => cases entered

theorem step_pathNoted (unset : t.SetsNoState) (sees : l.SeesNoConflict codec t)
    (path : l.PathNoted) : (l.step codec t).PathNoted := by
  intro runs goesOn
  rw [step_process] at runs
  obtain ⟨ready,effects,running,preluded⟩ := Process.running_of_step runs
  have stepped := Process.stepped running preluded
  have noted := stepped.noted unset
  rw [step_of_prelude running preluded] at goesOn ⊢
  simp only [Bool.and_eq_true,Bool.or_eq_true,decide_eq_true_eq] at goesOn
  obtain ⟨inside,begins⟩ := goesOn
  have apart : (l.process.step codec t).machine.state ∉ [.launching,.connected] := by
    intro outside
    simp only [loginPath,List.mem_cons,List.not_mem_nil,or_false] at inside outside
    rcases outside with launched | connected
    · simp [launched] at inside
    · simp [connected] at inside
  rw [if_neg apart] at noted
  rcases begins with ⟨here,seen⟩ | ⟨-,before⟩
  · have leaves : (l.process.step codec t).machine.state ≠ ready.state := by
      intro same
      rw [same,here] at inside
      exact absurd inside (by decide)
    rw [if_neg leaves,seen] at noted
    rw [noted,Bool.or_eq_true]
    by_cases conflict : (l.process.step codec t).machine.state = .handlingSessionConflict
    · obtain ⟨taken,same⟩ := conflict_of_stepped stepped unset here conflict
      exact .inl (sees running ready effects preluded here taken (same.symm.trans seen))
    · right
      simp only [loginPath,List.mem_cons,List.not_mem_nil,or_false,conflict,false_or] at inside
      rcases inside with state | state | state <;> simp [state,here,answersTwofa]
  · have pending := (prelude_pending preluded).trans (path running before)
    rw [noted,pending]
    split
    · rfl
    · exact Bool.true_or _

theorem marksReached_of_path (unset : t.SetsNoState) (path : l.PathNoted) :
    l.MarksReached codec t := by
  intro running ready effects preluded apart connected came
  have taken := (Process.stepped running preluded).connected_taken
    (StateMachine.keepsEntry_of_unset unset) apart connected
  apply List.count_pos_iff.mp
  rw [Process.turn_marker running preluded]
  have leads : ready.state ∈ [.configuringApi,.connected,.reconnectingSession] ∨
      ready.state = .waitingForIB := by
    rcases StateMachine.select_leads taken with same | leads | ⟨waits,-⟩
    · exact absurd same.symm apart
    · exact .inl (StateMachine.connected_of_leads leads)
    · exact .inr waits
  rcases came with ⟨here,-⟩ | ⟨inside,goesOn⟩
  · rw [here] at leads
    exact absurd leads (by decide)
  · have here : ready.state = .configuringApi := by
      simp only [loginPath,List.mem_cons,List.not_mem_nil,or_false] at inside
      rcases inside with state | state | state | state
      · rw [state] at leads
        exact absurd leads (by decide)
      · rw [state] at leads
        exact absurd leads (by decide)
      · rw [state] at leads
        exact absurd leads (by decide)
      · exact state
    have pending := (prelude_pending preluded).trans (path running goesOn)
    rw [if_pos ⟨taken,apart,by rw [here]; rfl,by rw [pending,Bool.true_or]⟩]
    exact Nat.one_pos

end Lifecycle

/-- In every run in which nobody sets the state and no challenge that was seen leads into a
session conflict unnoted, a login that goes on from a challenge writes the marker. -/
theorem marker_reached (codec : MarkerCodec) (config : Config) (recoveryConfig : RecoveryConfig)
    (files : Files.Directory) (settingsDir : String) (now : Clocks) (turns : List Turn)
    (unset : ∀ turn ∈ turns, turn.SetsNoState)
    (sees : Runs.Along (Lifecycle.step codec) (Lifecycle.SeesNoConflict codec)
      (.start (.start codec config recoveryConfig files settingsDir now)) turns) :
    Runs.Along (Lifecycle.step codec) (Lifecycle.MarksReached codec)
      (.start (.start codec config recoveryConfig files settingsDir now)) turns := by
  have both := (Runs.along_and _ _).mpr ⟨sees,Runs.along_of_forall
    (G := fun _ turn => turn.SetsNoState) _ _ fun turn member _ => unset turn member⟩
  apply both.strengthen (P := Lifecycle.PathNoted)
  · exact fun _ _ path met => Lifecycle.step_pathNoted met.2 met.1 path
  · exact fun _ _ path met => Lifecycle.marksReached_of_path met.2 path
  · intro _ goesOn
    cases goesOn

def dialogTurn (now : Clocks) (title : String) : Turn :=
  { turnAt now none with
    schedule :=
      ⟨{ quietAnswers now with
          listWindows := fun _ => .ok [⟨⟨7⟩,title,"javax.swing.JDialog",none⟩] },none⟩ }

/-- A login up to the dialog of its second factor. -/
def challenged : List Turn :=
  [turnAt (sampleClocks 14401) none,turnAt (sampleClocks 14402) none,
    turnAt (sampleClocks 14403) none,
    dialogTurn (sampleClocks 14404) "Second Factor Authentication",
    dialogTurn (sampleClocks 14405) "Second Factor Authentication"]

def establishes : List Turn :=
  [gatewayTurn (sampleClocks 14420) .null,
    gatewayTurn (sampleClocks 14421)
      (.object [("labels",.array [.string "API Server",.string "connected"])]),
    turnAt (sampleClocks 14422) none]

def answeredLogin : List Turn :=
  challenged ++ [gatewayTurn (sampleClocks 14406) .null,gatewayTurn (sampleClocks 14412) .null] ++
    establishes

/-- Another session of the same user has to be dismissed after the challenge. -/
def conflictLogin : List Turn :=
  challenged ++ [dialogTurn (sampleClocks 14406) "Existing session detected",
    dialogTurn (sampleClocks 14407) "Existing session detected"] ++ establishes

theorem marker_earned_login :
    .coldRestartEquivalentMarker ∈ ((Runs.run (Process.step sampleCodec) paperLaunch
        (answeredLogin.take 9)).turn sampleCodec (turnAt (sampleClocks 14422) none)).effects ∧
      Runs.Along (Lifecycle.step sampleCodec) (Lifecycle.MarksEarned sampleCodec)
        (.start paperLaunch) answeredLogin :=
  ⟨by decide +kernel,marker_earned sampleCodec paperConfig .default Files.empty
    "/home/ibgateway/Jts" (sampleClocks 14400) answeredLogin (by decide)⟩

/-- The challenge was answered, but the marker is not written. -/
theorem conflict_unmarked :
    (∀ turn ∈ conflictLogin, turn.SetsNoState) ∧
      ¬ Runs.Along (Lifecycle.step sampleCodec) (Lifecycle.MarksReached sampleCodec)
        (.start paperLaunch) conflictLogin := by
  refine ⟨by decide,fun along => ?_⟩
  have last := ((Runs.along_append _ _ (conflictLogin.take 9) (conflictLogin.drop 9)).mp along).2.1
  obtain ⟨running,seen,connected,goesOn,unmarked⟩ :
      let l := Runs.run (Lifecycle.step sampleCodec) (.start paperLaunch) (conflictLogin.take 9)
      let t := turnAt (sampleClocks 14422) none
      l.process.status = .running ∧
        (l.process.machine.prelude sampleCodec t).map (fun ready => ready.1.state) =
          some .configuringApi ∧
        (l.process.step sampleCodec t).machine.state = .connected ∧ l.goesOn = true ∧
        .coldRestartEquivalentMarker ∉ (l.process.turn sampleCodec t).effects := by decide +kernel
  obtain ⟨⟨ready,effects⟩,preluded,here⟩ := Option.map_eq_some_iff.mp seen
  exact unmarked (last running ready effects preluded (ne_of_eq_of_ne here (by decide)) connected
    (.inr ⟨by rw [show ready.state = _ from here]; decide,goesOn⟩))

namespace Lifecycle

/-- No handler returns a session conflict. -/
def MeetsNoConflict (codec : MarkerCodec) (l : Lifecycle) (t : Turn) : Prop :=
  (l.process.machine.prelude codec t).any
    (fun ready => (ready.1.select t).1 = .transitioned (.ok .handlingSessionConflict)) = false

instance (codec : MarkerCodec) (l : Lifecycle) (t : Turn) : Decidable (l.MeetsNoConflict codec t) :=
  inferInstanceAs (Decidable (_ = _))

theorem seesNoConflict_of_meets {codec : MarkerCodec} {l : Lifecycle} {t : Turn}
    (meets : l.MeetsNoConflict codec t) : l.SeesNoConflict codec t := by
  intro _ ready effects preluded _ taken _
  simp [MeetsNoConflict,preluded,taken] at meets

end Lifecycle

theorem marker_reached_login :
    (Runs.run (Lifecycle.step sampleCodec) (.start paperLaunch) (answeredLogin.take 9)).goesOn =
        true ∧
      Runs.Along (Lifecycle.step sampleCodec) (Lifecycle.MarksReached sampleCodec)
        (.start paperLaunch) answeredLogin := by
  have meets : Runs.Along (Lifecycle.step sampleCodec) (Lifecycle.MeetsNoConflict sampleCodec)
      (.start paperLaunch) answeredLogin := by decide +kernel
  exact ⟨by decide +kernel,marker_reached sampleCodec paperConfig .default Files.empty
    "/home/ibgateway/Jts" (sampleClocks 14400) answeredLogin (by decide)
    (meets.mono fun _ _ => Lifecycle.seesNoConflict_of_meets)⟩

end Ibctl.Machine
