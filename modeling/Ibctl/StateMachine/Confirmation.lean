import Ibctl.StateMachine.Stepping
import Ibctl.StateMachine.WarmRestart

/-! The entries into Connected. Two handlers confirm the session before they return it, each
with its very last calls; a machine that was taken out of Connected to wait for IB is put back
without asking anybody. -/
namespace Ibctl.Machine
open Tasks Step Task Recovery

/-- The last of so many calls confirm the session: the API took its configuration, or the
components of one of the Gateway windows just listed show it authenticated. -/
def State.ConfirmedBy (state : State) (answers : Answers) (calls : Nat) : Prop :=
  (state = .configuringApi ∧ ∃ n report, calls = n + 1 ∧ answers.applyApiConfig n = .ok report) ∨
    (state = .reconnectingSession ∧ ∃ n windows i components,
      answers.listWindows n = .ok windows ∧ calls = n + 1 + (gatewayWindows windows).length ∧
      i < (gatewayWindows windows).length ∧ answers.dumpComponents (n + 1 + i) = .ok components ∧
      componentsConfirmAuthenticated components = true)

section Handlers

variable {schedule : Schedule Answers}

theorem apart_of_blocking (P : Nat → Prop) : checkBlockingDialog.Counted schedule P
    (fun blocking _ => blocking ≠ some .connected) := by
  have decided : checkBlockingDialog.Counted schedule P
      (fun blocking _ => Decides .waitingForLogin blocking) :=
    (checkBlockingDialog_decides .waitingForLogin (by decide) (by decide)).counted
  intro here before blocking same connected
  exact absurd (decided here before blocking same .connected connected) (by decide)

theorem doConfigureApi_confirms : doConfigureApi.Counted schedule (fun _ => True)
    (fun next calls => next = .connected → State.configuringApi.ConfirmedBy schedule.answers calls) := by
  have elsewhere : ∀ {P : Nat → Prop} {next : State}, next ≠ .connected →
      (pure next : Step State).Counted schedule P (fun next calls =>
        next = .connected → State.configuringApi.ConfirmedBy schedule.answers calls) :=
    fun apart => counted_pure fun _ _ same => absurd same apart
  unfold doConfigureApi
  refine counted_last fun _ => counted_bind (apart_of_blocking _) fun blocking => ?_
  cases blocking with
  | some next =>
    refine counted_bind counted_update fun _ => ?_
    exact counted_pure fun _ apart same => absurd (congrArg some same) apart
  | none =>
    refine counted_last fun running => ?_
    split
    · exact counted_last fun _ => elsewhere (by decide)
    refine counted_last fun _ => counted_last fun _ => ?_
    refine counted_bind (R := fun applied calls => ∃ n, calls = n + 1 ∧
      schedule.answers.applyApiConfig n = applied) ?_ fun applied => ?_
    · exact counted_await fun n _ => ⟨n,rfl,rfl⟩
    cases applied with
    | ok report =>
      refine counted_bind counted_update fun _ => counted_pure ?_
      rintro calls ⟨n,counted,applied⟩ -
      exact .inl ⟨rfl,n,report,counted,applied⟩
    | error e =>
      refine counted_last fun _ => counted_last fun s => ?_
      split
      · exact counted_last fun _ => counted_last fun _ => elsewhere (by decide)
      · exact counted_last fun _ => elsewhere (by decide)

theorem dumps_counted (windows : List WindowInfo) (first : Nat) :
    (dumps windows).Counted schedule (fun calls => calls = first) (fun dumped calls =>
      calls = first + windows.length ∧ ∀ components ∈ dumped, ∃ i < windows.length,
        schedule.answers.dumpComponents (first + i) = .ok components) := by
  induction windows generalizing first with
  | nil => exact counted_pure fun n same => ⟨same,by simp⟩
  | cons window rest ih =>
    have later : ∀ {dumped : List Json} {calls : Nat}, (calls = first + 1 + rest.length ∧
        ∀ components ∈ dumped, ∃ i < rest.length,
          schedule.answers.dumpComponents (first + 1 + i) = .ok components) →
        calls = first + (window :: rest).length ∧
          ∀ components ∈ dumped, ∃ i < (window :: rest).length,
            schedule.answers.dumpComponents (first + i) = .ok components := by
      rintro dumped calls ⟨counted,among⟩
      refine ⟨by simp only [List.length_cons]; omega,fun components member => ?_⟩
      obtain ⟨i,small,answered⟩ := among components member
      refine ⟨i + 1,by simp only [List.length_cons]; omega,?_⟩
      rwa [show first + (i + 1) = first + 1 + i by omega]
    refine counted_bind (R := fun dumped calls => calls = first + 1 ∧
      schedule.answers.dumpComponents first = dumped) ?_ fun dumped => ?_
    · exact counted_await fun n same => by subst same; exact ⟨rfl,rfl⟩
    cases dumped with
    | error e =>
      intro here before a returned
      exact later (ih (first + 1) here before.1 a returned)
    | ok components =>
      refine counted_bind (R := fun dumped calls => (calls = first + 1 + rest.length ∧
        ∀ components ∈ dumped, ∃ i < rest.length,
          schedule.answers.dumpComponents (first + 1 + i) = .ok components) ∧
        schedule.answers.dumpComponents first = .ok components) ?_ fun others => counted_pure ?_
      · intro here before a returned
        exact ⟨ih (first + 1) here before.1 a returned,before.2⟩
      rintro calls ⟨counted,answered⟩
      obtain ⟨total,among⟩ := later counted
      refine ⟨total,fun other member => ?_⟩
      rcases List.mem_cons.mp member with rfl | member
      · exact ⟨0,by simp,answered⟩
      · exact among other member

theorem confirmRelogin_confirms : confirmRelogin.Counted schedule (fun _ => True)
    (fun found calls => found = some .connected →
      State.reconnectingSession.ConfirmedBy schedule.answers calls) := by
  have ended : ∀ {P : Nat → Prop} {next : State}, next ≠ .connected →
      (endRelogin next).Counted schedule P (fun found calls => found = some .connected →
        State.reconnectingSession.ConfirmedBy schedule.answers calls) := by
    intro P next apart
    refine counted_last fun _ => counted_last fun _ => counted_pure fun _ _ same => ?_
    exact absurd (Option.some.inj same) apart
  unfold confirmRelogin
  refine counted_last fun _ => counted_last fun s => ?_
  split
  · exact ended (by decide)
  extract_lets judges
  have judged : ∀ components : Option (List Json), (judges components).Counted schedule
      (fun calls => ∀ dumped, components = some dumped →
        dumped.any componentsConfirmAuthenticated = true →
          State.reconnectingSession.ConfirmedBy schedule.answers calls)
      (fun found calls => found = some .connected →
        State.reconnectingSession.ConfirmedBy schedule.answers calls) := by
    intro components
    cases components with
    | none => exact ended (by decide)
    | some dumped =>
      unfold judges
      dsimp only
      split
      · exact ended (by decide)
      · split
        next confirms =>
          refine counted_bind counted_update fun _ => counted_pure fun calls among _ => ?_
          exact among dumped rfl confirms
        · exact counted_pure fun _ _ same => by cases same
  refine counted_bind (R := fun listed calls => ∃ n, calls = n + 1 ∧
    schedule.answers.listWindows n = listed) ?_ fun listed => ?_
  · exact counted_await fun n _ => ⟨n,rfl,rfl⟩
  cases listed with
  | error e =>
    refine counted_bind (counted_pure fun _ _ => ?_) judged
    rintro dumped ⟨⟩ confirms
    cases confirms
  | ok windows =>
    dsimp only
    split
    · exact counted_bind (counted_pure fun _ _ dumped same => by cases same) judged
    · rintro here ⟨n,counted,listed⟩
      have dumped := counted_bind (dumps_counted (gatewayWindows windows) (n + 1)) fun found =>
        counted_bind (f := judges) (counted_pure (a := some found) fun calls among dumped same confirms => by
          cases same
          obtain ⟨components,member,confirms⟩ := List.any_eq_true.mp confirms
          obtain ⟨i,small,answered⟩ := among.2 components member
          exact .inr ⟨rfl,n,windows,i,components,listed,among.1,small,answered,confirms⟩) judged
      exact dumped here counted

theorem doReconnectingSession_confirms (frame : Frame) :
    (doReconnectingSession frame).Counted schedule (fun _ => True) (fun next calls =>
      next = .connected → State.reconnectingSession.ConfirmedBy schedule.answers calls) := by
  have elsewhere : ∀ {P : Nat → Prop} {next : State}, next ≠ .connected →
      (pure next : Step State).Counted schedule P (fun next calls =>
        next = .connected → State.reconnectingSession.ConfirmedBy schedule.answers calls) :=
    fun apart => counted_pure fun _ _ same => absurd same apart
  unfold doReconnectingSession
  refine counted_last fun running => ?_
  split
  · exact counted_last fun _ => counted_last fun _ => counted_last fun _ => elsewhere (by decide)
  refine counted_last fun s => ?_
  split
  · intro here _ next returned connected
    have ended := giveUpRelogin_returns frame here next returned
    rw [connected] at ended
    exact absurd ended (by decide)
  refine counted_last fun entered => ?_
  split
  · exact counted_last fun _ => elsewhere (by decide)
  refine counted_last fun listed => ?_
  have waits : ∀ {P : Nat → Prop}, (do sleep; return .reconnectingSession : Step State).Counted
      schedule P (fun next calls =>
        next = .connected → State.reconnectingSession.ConfirmedBy schedule.answers calls) :=
    counted_last fun _ => elsewhere (by decide)
  dsimp only
  split
  · exact waits
  · split
    · refine counted_bind confirmRelogin_confirms fun confirmed => ?_
      cases confirmed with
      | some next => exact counted_pure fun _ confirms same => confirms (congrArg some same)
      | none => exact waits
    · exact counted_last fun _ => counted_last fun _ => counted_last fun _ => elsewhere (by decide)

end Handlers

namespace StateMachine

variable {codec : MarkerCodec} {sm : StateMachine} {turn : Turn}

/-- The handler of this state returned Connected after calls that confirm the session. -/
def Confirmed (sm : StateMachine) (turn : Turn) : Prop :=
  ∃ after, sm.transition (sm.handlerSchedule turn) ⟨sm.session,0,[]⟩ = (.ok .connected,after) ∧
    sm.state.ConfirmedBy turn.schedule.answers after.calls

theorem connected_of_leads {source : State} (leads : source.LeadsTo .connected) :
    source ∈ [.configuringApi,.connected,.reconnectingSession] := by
  cases source with
  | configuringApi => decide
  | connected => decide
  | reconnectingSession => decide
  | error message => rcases leads with inside | error <;> contradiction
  | _ => exact absurd leads (by decide)

theorem select_confirmed (taken : (sm.select turn).1 = .transitioned (.ok .connected))
    (apart : sm.state ≠ .connected) (back : sm.session.returnState ≠ some .connected) :
    sm.Confirmed turn := by
  obtain ⟨polled,returned⟩ := runHandler_of_moves taken apart.symm
  rcases outcome : sm.transition (sm.handlerSchedule turn) ⟨sm.session,0,[]⟩ with ⟨result,after⟩
  have ok : result = .ok .connected := by
    have same : (sm.runHandler turn).result =
        (sm.transition (sm.handlerSchedule turn) ⟨sm.session,0,[]⟩).1 := rfl
    rw [outcome] at same
    exact same.symm.trans returned
  subst ok
  refine ⟨after,outcome,?_⟩
  have counted : ∀ {task : Step State} {state : State}, sm.state = state →
      sm.transition = mapEffects .gateway task →
      task.Counted (sm.handlerSchedule turn) (fun _ => True) (fun next calls =>
        next = .connected → state.ConfirmedBy (sm.handlerSchedule turn).answers calls) →
      sm.state.ConfirmedBy turn.schedule.answers after.calls := by
    intro task state here handler confirms
    have confirmed := counted_mapEffects ConnectedEffect.gateway confirms
      ⟨sm.session,0,[]⟩ trivial .connected
    rw [← handler,outcome,handlerSchedule_answers] at confirmed
    rw [here]
    exact confirmed rfl rfl
  rcases select_leads taken with same | leads | ⟨-,put⟩
  · exact absurd same.symm apart
  · have among := connected_of_leads leads
    simp only [List.mem_cons,List.not_mem_nil,or_false] at among
    rcases among with here | here | here
    · exact counted here (by unfold transition; rw [here]) doConfigureApi_confirms
    · exact absurd here apart
    · exact counted here (by unfold transition; rw [here]) (doReconnectingSession_confirms _)
  · exact absurd put back

/-- Nothing but a transition takes the machine into Connected, unless a command does. -/
theorem Stepped.connected_taken {after : Process} (stepped : Stepped sm turn after)
    (entry : turn.KeepsEntry) (apart : sm.state ≠ .connected)
    (connected : after.machine.state = .connected) :
    (sm.select turn).1 = .transitioned (.ok .connected) := by
  have there := afterSelect_state sm turn
  cases stepped with
  | handled interrupt taken ends =>
    rcases (@handleInterrupt_moves (sm.afterSelect turn) interrupt turn).2 with same | moves
    · exact absurd (there.symm.trans (same.symm.trans connected)) apart
    · rw [connected] at moves
      exact absurd (Interrupt.connected_of_moves moves) (entry interrupt (select_interrupt taken))
  | ended interrupt taken ends => cases ends.symm.trans connected
  | failed error taken => exact absurd (there.symm.trans connected) apart
  | stayed taken status => exact absurd (there.symm.trans connected) apart
  | moved next leaves taken status =>
    have entered := settled_connected
      ((@applyTransition_moves (sm.afterSelect turn) next turn).1.symm.trans connected)
    rw [entered] at taken
    exact taken

theorem keepsEntry_of_unset (unset : turn.SetsNoState) : turn.KeepsEntry := by
  intro interrupt here sets
  cases interrupt with
  | command command =>
    cases command with
    | setState name => simp [Turn.SetsNoState,here,Interrupt.setsState] at unset
    | _ => exact sets
  | _ => exact sets

/-- Nothing but the check of the IB system puts a state aside. -/
theorem Stepped.returnState {after : Process} {K : Option State → Prop}
    (stepped : Stepped sm turn after) (forgets : K none) (before : K sm.session.returnState) :
    K after.machine.session.returnState := by
  have permits : sm.Permits turn.schedule.answers (fun standby => K standby.1) (fun _ => True) := by
    apply permits_of_writers
    · exact fun _ _ _ _ _ => forgets
    · exact fun _ _ _ _ _ kept => kept
    · exact fun _ _ _ _ _ kept => kept
  have selected : K (sm.afterSelect turn).session.returnState := by
    rw [returnState_of_aside (afterSelect_aside sm turn)]
    exact select_beside permits before
  cases stepped with
  | handled interrupt taken apart =>
    rw [returnState_of_aside (handleInterrupt_aside interrupt turn)]
    exact selected
  | ended interrupt taken ends =>
    change K ((sm.afterSelect turn).handleInterrupt interrupt turn).1.session.returnState
    rw [returnState_of_aside (handleInterrupt_aside interrupt turn)]
    exact selected
  | failed error taken => exact selected
  | stayed taken status => exact selected
  | moved next apart taken status =>
    change K ((sm.afterSelect turn).applyTransition next turn).1.session.returnState
    rw [(applyTransition_kept next turn).1]
    exact selected

end StateMachine

namespace Process

variable (codec : MarkerCodec)

/-- An iteration that ends in Connected and did not begin there was confirmed. -/
def EntersConfirmed (p : Process) (t : Turn) : Prop :=
  p.status = .running → ∀ ready effects, p.machine.prelude codec t = some (ready,effects) →
    ready.state ≠ .connected → (p.step codec t).machine.state = .connected → ready.Confirmed t

/-- A connection is not interrupted for want of the IB system. -/
def KeepsConnection (p : Process) (t : Turn) : Prop :=
  p.status = .running → p.machine.state = .connected →
    p.machine.config.kickActiveSession = false ∨ p.machine.ibReachable t.now

def NotAside (p : Process) : Prop := p.machine.session.returnState ≠ some .connected

variable {codec} {p : Process} {t : Turn}

theorem prelude_notAside {ready : StateMachine} {effects : List LoopEffect}
    (running : p.status = .running) (preluded : p.machine.prelude codec t = some (ready,effects))
    (keeps : p.KeepsConnection t) (notAside : p.NotAside) :
    ready.session.returnState ≠ some .connected := by
  rw [StateMachine.returnState_of_aside (StateMachine.tickRecovery_aside preluded)]
  rcases StateMachine.checks_aside p.machine t with ⟨same,-⟩ | ⟨away,-,leaves⟩
  · rw [StateMachine.returnState_of_aside same]
    exact notAside
  · have put : (p.machine.checks t).session.returnState = some p.machine.state :=
      congrArg (fun aside => aside.2.1) away
    rw [put]
    intro connected
    have here := Option.some.inj connected
    rcases keeps running here with kept | reachable
    · exact leaves.2.2 ⟨by simp [here],kept⟩
    · exact leaves.1 reachable

theorem step_notAside (keeps : p.KeepsConnection t) (notAside : p.NotAside) :
    (p.step codec t).NotAside := by
  rcases step_cases p t with ⟨same,-⟩ | ⟨ready,effects,running,preluded,stepped⟩
  · rw [NotAside,same]
    exact notAside
  · exact stepped.returnState (K := fun back => back ≠ some .connected) (by simp)
      (prelude_notAside running preluded keeps notAside)

theorem step_entersConfirmed (entry : t.KeepsEntry) (keeps : p.KeepsConnection t)
    (notAside : p.NotAside) : p.EntersConfirmed codec t := by
  intro running ready effects preluded apart connected
  exact StateMachine.select_confirmed ((stepped running preluded).connected_taken entry apart connected)
    apart (prelude_notAside running preluded keeps notAside)

end Process

/-- In every run without a command into Connected and with no connection interrupted for want
of the IB system, every entry into Connected is confirmed. -/
theorem connected_confirmed (codec : MarkerCodec) (config : Config) (recoveryConfig : RecoveryConfig)
    (files : Files.Directory) (settingsDir : String) (now : Clocks) (turns : List Turn)
    (entry : ∀ turn ∈ turns, turn.KeepsEntry)
    (keeps : Runs.Along (Process.step codec) Process.KeepsConnection
      (.start codec config recoveryConfig files settingsDir now) turns) :
    Runs.Along (Process.step codec) (Process.EntersConfirmed codec)
      (.start codec config recoveryConfig files settingsDir now) turns := by
  have both := (Runs.along_and _ _).mpr ⟨keeps,Runs.along_of_forall
    (G := fun _ turn => turn.KeepsEntry) _ _ fun turn member _ => entry turn member⟩
  apply both.strengthen (P := Process.NotAside)
  · exact fun _ _ notAside kept => Process.step_notAside kept.1 notAside
  · exact fun _ _ notAside kept => Process.step_entersConfirmed kept.2 kept.1 notAside
  · unfold Process.NotAside
    change (StateMachine.gates _ now).session.returnState ≠ _
    rw [StateMachine.gates_session]
    simp [StateMachine.new]

/-- The status page reports the IB system unavailable, and then available again. -/
def kickedOut : List Turn :=
  [turnAt (sampleClocks 14418) (some (.command (.ibStatus "unavailable" "maintenance"))),
    turnAt (sampleClocks 14419) none,
    turnAt (sampleClocks 14420) (some (.command (.ibStatus "available" ""))),
    turnAt (sampleClocks 14421) none]

/-- A site that gives way to the status page is put back into Connected unasked. -/
theorem connected_unconfirmed :
    (∀ turn ∈ autorestarted.take 7 ++ kickedOut, turn.SetsNoState) ∧
      ¬ Runs.Along (Process.step sampleCodec) (Process.EntersConfirmed sampleCodec) paperLaunch
        (autorestarted.take 7 ++ kickedOut) := by
  refine ⟨by decide,fun along => ?_⟩
  have rest := ((Runs.along_append _ _ (autorestarted.take 7) kickedOut).mp along).2
  have last := ((Runs.along_append _ _ (kickedOut.take 3) (kickedOut.drop 3)).mp rest).2.1
  obtain ⟨running,seen,connected⟩ :
      let p := Runs.run (Process.step sampleCodec)
        (Runs.run (Process.step sampleCodec) paperLaunch (autorestarted.take 7)) (kickedOut.take 3)
      let t := turnAt (sampleClocks 14421) none
      p.status = .running ∧
        (p.machine.prelude sampleCodec t).map (fun ready => ready.1.state) = some .waitingForIB ∧
        (p.step sampleCodec t).machine.state = .connected := by decide +kernel
  obtain ⟨⟨ready,effects⟩,preluded,waits⟩ := Option.map_eq_some_iff.mp seen
  obtain ⟨after,-,confirmed⟩ := last running ready effects preluded
    (ne_of_eq_of_ne waits (by decide)) connected
  rcases confirmed with ⟨here,-⟩ | ⟨here,-⟩
  · exact absurd (waits.symm.trans here) (by decide)
  · exact absurd (waits.symm.trans here) (by decide)

theorem connected_confirmed_login :
    (Runs.run (Process.step sampleCodec) paperLaunch (autorestarted.take 7)).machine.state =
        .connected ∧
      Runs.Along (Process.step sampleCodec) (Process.EntersConfirmed sampleCodec) paperLaunch
        (autorestarted.take 7) := by
  have away : Runs.Along (Process.step sampleCodec) (fun p _ => p.machine.state ≠ .connected)
      paperLaunch (autorestarted.take 7) := by decide +kernel
  refine ⟨by decide +kernel,connected_confirmed sampleCodec paperConfig .default Files.empty
    "/home/ibgateway/Jts" (sampleClocks 14400) (autorestarted.take 7) ?_
    (away.mono fun _ _ apart _ here => absurd here apart)⟩
  intro turn member interrupt taken
  simp only [autorestarted,List.take,List.mem_cons,List.not_mem_nil,or_false] at member
  rcases member with rfl | rfl | rfl | rfl | rfl | rfl | rfl <;> cases taken

end Ibctl.Machine
