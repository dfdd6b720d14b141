import Ibctl.StateMachine.Relaunch

/-! Cancelled handlers. Like the restart, which counts before it tears the Gateway down, the
re-login forgets its attempts before it falls back: dropped at one of the waits in between, it
starts again as if it had attempts left. -/
namespace Ibctl.Machine
open Tasks Step Task Recovery

section Relogin

variable {schedule : Schedule Answers} (frame : Frame)

/-- The fallbacks that are configured for a re-login whose attempts are used up. -/
def reloginFallbacks (config : Config) : List State :=
  match config.timing.reloginFailureAction with
  | .restart => [.restarting]
  | .reauth => [.waitingForLogin,.restarting]

/-- The number of the call in `give_up_relogin` that waits with the attempts forgotten. -/
def forgetsAt (answers : Answers) : Nat :=
  2 + match answers.listWindows 1 with
    | .ok windows => (windows.filter isReloginDialog).length
    | .error _ => 0

/-- The give-up is dropped between the reset of the attempts and the fallback. -/
def CutShort (frame : Frame) (schedule : Schedule Answers) (s : Session) : Prop :=
  schedule.dropAt = some (forgetsAt schedule.answers) ∨
    (schedule.dropAt = some (forgetsAt schedule.answers + 1) ∧
      frame.config.timing.reloginFailureAction = .reauth ∧ s.observation.hasLoginForm = false)

instance (frame : Frame) (schedule : Schedule Answers) (s : Session) :
    Decidable (CutShort frame schedule s) := inferInstanceAs (Decidable (_ ∨ _))

theorem sleep_run (schedule : Schedule Answers) (here : Local Session Effect) :
    (sleep : Step Unit) schedule here =
      if schedule.dropAt = some here.calls then (.error .dropped,here)
      else (.ok (),{ here with calls := here.calls + 1 }) := rfl

/-- The clicks on Cancel wait once for each of the dialogs. -/
theorem cancelRelogin_run (windows : List WindowInfo) (here : Local Session Effect) :
    (∃ n effects, schedule.dropAt = some n ∧ here.calls ≤ n ∧
        n < here.calls + (windows.filter isReloginDialog).length ∧
        cancelRelogin windows schedule here = (.error .dropped,⟨here.state,n,effects⟩)) ∨
      ((∀ n, schedule.dropAt = some n → n < here.calls ∨
          here.calls + (windows.filter isReloginDialog).length ≤ n) ∧
        ∃ effects, cancelRelogin windows schedule here =
          (.ok (),⟨here.state,here.calls + (windows.filter isReloginDialog).length,effects⟩)) := by
  induction windows generalizing here with
  | nil => exact .inr ⟨fun n _ => Nat.lt_or_ge n here.calls,_,rfl⟩
  | cons window rest ih =>
    unfold cancelRelogin
    cases dialog : isReloginDialog window with
    | false =>
      have same : (window :: rest).filter isReloginDialog = rest.filter isReloginDialog := by
        simp [dialog]
      rw [same]
      exact ih here
    | true =>
      have one : ((window :: rest).filter isReloginDialog).length =
          (rest.filter isReloginDialog).length + 1 := by simp [dialog]
      rw [one]
      simp only [bind_apply,clickButton,if_true,sleep_run]
      by_cases first : schedule.dropAt = some here.calls
      · exact .inl ⟨here.calls,here.effects,first,le_refl _,by omega,by simp [first]⟩
      · simp only [if_neg first,emit]
        rcases ih ⟨here.state,here.calls + 1,here.effects ++ [.clicked window.id "Cancel"]⟩ with
          ⟨n,effects,drops,after,before,ran⟩ | ⟨misses,effects,ran⟩
        · simp only at after before ran
          exact .inl ⟨n,effects,drops,by omega,by omega,ran⟩
        · simp only at misses ran
          refine .inr ⟨fun n drops => ?_,effects,?_⟩
          · have apart : n ≠ here.calls := fun same => first (same ▸ drops)
            rcases misses n drops with before | after
            · omega
            · omega
          · rw [ran]
            simp only [Nat.add_assoc,Nat.add_comm 1]

/-- What the give-up does once it has cancelled. -/
def fallBack (frame : Frame) : Step State := do
  resetRegistry
  abortClientIdTask
  update fun s => { s with reloginAttempts := 0 }
  sleep
  match frame.config.timing.reloginFailureAction with
  | .restart => return .restarting
  | .reauth =>
    let s ← current
    if s.observation.hasLoginForm then return .waitingForLogin
    match ← listWindows with
    | .ok windows =>
      if windows.any (fun w => isGatewayTitle w.title) then return .waitingForLogin
      else return .restarting
    | .error _ => return .restarting

theorem fallBack_run (here : Local Session Effect) :
    ((schedule.dropAt = some here.calls ∨ (schedule.dropAt = some (here.calls + 1) ∧
          frame.config.timing.reloginFailureAction = .reauth ∧
          here.state.observation.hasLoginForm = false)) ∧
        (fallBack frame schedule here).1 = .error .dropped ∧
        (fallBack frame schedule here).2.state.reloginAttempts = 0) ∨
      (¬ (schedule.dropAt = some here.calls ∨ (schedule.dropAt = some (here.calls + 1) ∧
          frame.config.timing.reloginFailureAction = .reauth ∧
          here.state.observation.hasLoginForm = false)) ∧
        ∃ next ∈ reloginFallbacks frame.config, (fallBack frame schedule here).1 = .ok next) := by
  unfold fallBack
  simp only [bind_apply,resetRegistry,emit,abortClientIdTask,update,sleep_run]
  by_cases slept : schedule.dropAt = some here.calls
  · exact .inl ⟨.inl slept,by simp [slept],by simp [slept]⟩
  rw [if_neg slept]
  cases action : frame.config.timing.reloginFailureAction with
  | restart =>
    exact .inr ⟨by simp [slept],.restarting,by simp [reloginFallbacks,action],rfl⟩
  | reauth =>
    simp only [bind_apply,current]
    cases form : here.state.observation.hasLoginForm with
    | true =>
      exact .inr ⟨by simp [slept],.waitingForLogin,by simp [reloginFallbacks,action],rfl⟩
    | false =>
      simp only [Bool.false_eq_true,if_false,bind_apply,listWindows,await]
      by_cases listed : schedule.dropAt = some (here.calls + 1)
      · exact .inl ⟨.inr ⟨listed,trivial,trivial⟩,by simp [listed],by simp [listed]⟩
      · rw [if_neg listed]
        refine .inr ⟨by simp [slept,listed],?_⟩
        cases schedule.answers.listWindows (here.calls + 1) with
        | error e => exact ⟨.restarting,by simp [reloginFallbacks,action],rfl⟩
        | ok windows =>
          simp only
          split
          · exact ⟨.waitingForLogin,by simp [reloginFallbacks,action],rfl⟩
          · exact ⟨.restarting,by simp [reloginFallbacks,action],rfl⟩

theorem giveUpRelogin_run (s : Session) :
    (∃ n effects, schedule.dropAt = some n ∧ n < forgetsAt schedule.answers ∧
        giveUpRelogin frame schedule ⟨s,1,[]⟩ = (.error .dropped,⟨s,n,effects⟩)) ∨
      ∃ effects, giveUpRelogin frame schedule ⟨s,1,[]⟩ =
        fallBack frame schedule ⟨s,forgetsAt schedule.answers,effects⟩ := by
  have unfolded : giveUpRelogin frame = (do
      match ← listWindows with
      | .ok windows => do cancelRelogin windows; fallBack frame
      | .error _ => fallBack frame) := rfl
  rw [unfolded]
  simp only [bind_apply,listWindows,await]
  by_cases first : schedule.dropAt = some 1
  · refine .inl ⟨1,[],first,?_,by simp [first]⟩
    unfold forgetsAt
    omega
  rw [if_neg first,forgetsAt]
  cases schedule.answers.listWindows 1 with
  | error e => exact .inr ⟨[],rfl⟩
  | ok windows =>
    simp only [bind_apply]
    rcases @cancelRelogin_run schedule windows ⟨s,1 + 1,[]⟩ with
      ⟨n,effects,drops,-,before,ran⟩ | ⟨-,effects,ran⟩
    · exact .inl ⟨n,effects,drops,before,by rw [ran]⟩
    · exact .inr ⟨effects,by rw [ran]⟩

/-- The give-up ends in a fallback, or is dropped before it has forgotten the attempts, or
after. -/
theorem giveUpRelogin_outcome (s : Session) :
    (CutShort frame schedule s ∧ (giveUpRelogin frame schedule ⟨s,1,[]⟩).1 = .error .dropped ∧
        (giveUpRelogin frame schedule ⟨s,1,[]⟩).2.state.reloginAttempts = 0) ∨
      (¬ CutShort frame schedule s ∧
        (((giveUpRelogin frame schedule ⟨s,1,[]⟩).1 = .error .dropped ∧ schedule.dropAt ≠ none ∧
          (giveUpRelogin frame schedule ⟨s,1,[]⟩).2.state.reloginAttempts = s.reloginAttempts) ∨
        ∃ next ∈ reloginFallbacks frame.config,
          (giveUpRelogin frame schedule ⟨s,1,[]⟩).1 = .ok next)) := by
  rcases @giveUpRelogin_run schedule frame s with ⟨n,effects,drops,before,ran⟩ | ⟨effects,ran⟩
  · have early : ¬ CutShort frame schedule s := by
      rintro (late | ⟨late,-⟩)
      · exact absurd (Option.some.inj (drops.symm.trans late)) (by omega)
      · exact absurd (Option.some.inj (drops.symm.trans late)) (by omega)
    rw [ran]
    exact .inr ⟨early,.inl ⟨rfl,by simp [drops],rfl⟩⟩
  · rw [ran]
    exact (@fallBack_run schedule frame ⟨s,forgetsAt schedule.answers,effects⟩).imp id
      fun ⟨late,falls⟩ => ⟨late,.inr falls⟩

end Relogin


section Relogin

theorem reconnecting_dead {schedule : Schedule Answers} (frame : Frame)
    (dead : schedule.answers.isRunning 0 = false) (s : Session) :
    ((doReconnectingSession frame).start schedule s).result = .ok .restarting := by
  unfold Task.start doReconnectingSession
  simp only [bind_apply,ask,dead]
  rfl

theorem reconnecting_exhausted {schedule : Schedule Answers} (frame : Frame)
    (alive : schedule.answers.isRunning 0 = true) (s : Session)
    (exhausted : frame.config.timing.reloginMaxAttempts < s.reloginAttempts) :
    doReconnectingSession frame schedule ⟨s,0,[]⟩ = giveUpRelogin frame schedule ⟨s,1,[]⟩ := by
  unfold doReconnectingSession
  simp only [bind_apply,ask,alive]
  simp [bind_apply,current,exhausted]

namespace StateMachine

variable {codec : MarkerCodec} {sm : StateMachine} {turn : Turn}

/-- The handler of the machine is polled and finds the Gateway running. -/
def pollsAlive (sm : StateMachine) (turn : Turn) : Bool :=
  sm.polls turn && turn.schedule.answers.isRunning 0

/-- The re-login is polled for another round of waiting and clicking. -/
def Round (sm : StateMachine) (turn : Turn) : Prop :=
  sm.pollsAlive turn = true ∧
    sm.session.reloginAttempts ≤ sm.config.timing.reloginMaxAttempts

/-- No round is begun, and what a polled re-login returns is a configured fallback. -/
def FallsBack (sm : StateMachine) (turn : Turn) : Prop :=
  ¬ sm.Round turn ∧ (sm.polls turn = true →
    (∃ next ∈ reloginFallbacks sm.config,
        (sm.select turn).1 = .transitioned (.ok next)) ∨
      ∃ interrupt, (sm.select turn).1 = .interrupted interrupt)

/-- The give-up of this iteration is dropped with the attempts forgotten. -/
def cutsShort (sm : StateMachine) (turn : Turn) : Bool :=
  sm.pollsAlive turn && decide (CutShort sm.frame (sm.handlerSchedule turn) sm.session)

/-- The re-login is polled, and finds the Gateway gone, its attempts used up or another round
to begin. -/
theorem runHandler_reconnecting (here : sm.state = .reconnectingSession) :
    (sm.runHandler turn).result =
        ((doReconnectingSession sm.frame).start (sm.handlerSchedule turn) sm.session).result ∧
      (sm.runHandler turn).state =
        ((doReconnectingSession sm.frame).start (sm.handlerSchedule turn) sm.session).state := by
  have ran : sm.runHandler turn = sm.transition.start (sm.handlerSchedule turn) sm.session := rfl
  have reconnects : sm.transition = mapEffects .gateway (doReconnectingSession sm.frame) := by
    rw [transition,here]
  rw [ran,reconnects,start_mapEffects]
  exact ⟨rfl,rfl⟩

/-- With its attempts used up, the re-login falls back, and only a drop after their reset
leaves it without them. -/
theorem exhausted_fallsBack (here : sm.state = .reconnectingSession)
    (exhausted : sm.config.timing.reloginMaxAttempts < sm.session.reloginAttempts) :
    sm.FallsBack turn ∧
      ((∃ next ∈ reloginFallbacks sm.config, (sm.select turn).1 = .transitioned (.ok next)) ∨
        (sm.select turn).2.1.session.reloginAttempts =
          if sm.cutsShort turn then 0 else sm.session.reloginAttempts) := by
  have none : ¬ sm.Round turn := fun round => absurd round.2 (by omega)
  unfold FallsBack
  by_cases polled : sm.polls turn = true
  · obtain ⟨result,state⟩ := @runHandler_reconnecting sm turn here
    have answers := handlerSchedule_answers sm turn
    have restarts : State.restarting ∈ reloginFallbacks sm.config := by
      unfold reloginFallbacks
      split <;> decide
    by_cases alive : turn.schedule.answers.isRunning 0 = true
    · have short : sm.cutsShort turn =
          decide (CutShort sm.frame (sm.handlerSchedule turn) sm.session) := by
        simp [cutsShort,pollsAlive,polled,alive]
      have gives := @reconnecting_exhausted (sm.handlerSchedule turn) sm.frame
        (by rw [answers]; exact alive) sm.session exhausted
      have session := select_session polled
      rw [state] at session
      unfold Task.start at result session
      simp only [gives] at result session
      rw [session,short]
      rcases @giveUpRelogin_outcome (sm.handlerSchedule turn) sm.frame sm.session with
        ⟨cut,dropped,forgot⟩ | ⟨whole,⟨dropped,drops,kept⟩ | ⟨next,among,returned⟩⟩
      · refine ⟨⟨none,fun _ => .inr (select_dropped polled (result.trans dropped) ?_)⟩,.inr ?_⟩
        · rcases cut with at_ | ⟨at_,-⟩ <;> simp [at_]
        · exact forgot.trans (by simp [cut])
      · refine ⟨⟨none,fun _ => .inr (select_dropped polled (result.trans dropped) drops)⟩,.inr ?_⟩
        exact kept.trans (by simp [whole])
      · have falls := select_returned polled (result.trans returned)
        exact ⟨⟨none,fun _ => .inl ⟨next,among,falls⟩⟩,.inl ⟨next,among,falls⟩⟩
    · have dead := @reconnecting_dead (sm.handlerSchedule turn) sm.frame
        (by rw [answers]; simpa using alive) sm.session
      have falls := select_returned polled (result.trans dead)
      exact ⟨⟨none,fun _ => .inl ⟨_,restarts,falls⟩⟩,.inl ⟨_,restarts,falls⟩⟩
  · rw [Bool.not_eq_true] at polled
    refine ⟨⟨none,fun polls => absurd polls (by simp [polled])⟩,.inr ?_⟩
    rw [select_unpolled polled,cutsShort,pollsAlive,polled]
    rfl

/-- With no attempts counted, the re-login falls back only where the Gateway is gone. -/
theorem forgotten_fallsBack_iff (here : sm.state = .reconnectingSession)
    (forgotten : sm.session.reloginAttempts = 0) :
    (sm.FallsBack turn ↔ sm.pollsAlive turn = false) ∧
      (sm.select turn).2.1.session.reloginAttempts = 0 := by
  refine ⟨⟨fun falls => ?_,fun gone => ?_⟩,?_⟩
  · rw [← Bool.not_eq_true]
    exact fun alive => falls.1 ⟨alive,by omega⟩
  · have none : ¬ sm.Round turn := fun round => absurd (round.1.symm.trans gone) (by decide)
    refine ⟨none,fun polled => .inl ?_⟩
    have dead : turn.schedule.answers.isRunning 0 = false := by
      simpa [pollsAlive,polled] using gone
    have result := (@runHandler_reconnecting sm turn here).1.trans
      (@reconnecting_dead (sm.handlerSchedule turn) sm.frame
        (by rw [handlerSchedule_answers]; exact dead) sm.session)
    refine ⟨.restarting,?_,select_returned polled result⟩
    unfold reloginFallbacks
    split <;> decide
  · have away : sm.state ≠ .connected := by
      rw [here]
      decide
    exact select_keeps (J := fun l => l.reloginAttempts = 0) forgotten away
      (fun _ _ kept => kept) (fun _ _ _ => rfl) fun _ _ _ kept => kept

end StateMachine

end Relogin

namespace Process

variable (codec : MarkerCodec)

/-- The iteration runs in the state. -/
def RunsIn (state : State) (p : Process) (t : Turn) : Prop :=
  ∃ ready effects, p.status = .running ∧ p.machine.prelude codec t = some (ready,effects) ∧
    ready.state = state

def FallsBack (p : Process) (t : Turn) : Prop :=
  ∀ ready effects, p.machine.prelude codec t = some (ready,effects) → ready.FallsBack t

def pollsAlive (p : Process) (t : Turn) : Bool :=
  match p.machine.prelude codec t with
  | some (ready,_) => ready.pollsAlive t
  | none => false

def cutsShort (p : Process) (t : Turn) : Bool :=
  match p.machine.prelude codec t with
  | some (ready,_) => ready.cutsShort t
  | none => false

variable {codec} {p : Process} {t : Turn}

/-- A fallback that is returned is entered. -/
theorem leaves_of_returned {ready : StateMachine} {effects : List LoopEffect} {next : State}
    (running : p.status = .running) (preluded : p.machine.prelude codec t = some (ready,effects))
    (returned : (ready.select t).1 = .transitioned (.ok next))
    (plain : StateMachine.settled next = next) (apart : next ≠ ready.state) :
    (p.step codec t).machine.state = next := by
  obtain ⟨drained,settled,standing,-⟩ := StateMachine.afterPrelude_machine ready t
  have there := StateMachine.state_of_standing standing
  rw [step,turn_of_prelude running preluded]
  simp only [settled,returned]
  rw [StateMachine.settle_transitioned,if_pos (there ▸ apart),
    (StateMachine.applyTransition_moves next t).1,plain]

end Process

/-- A re-login whose attempts were used up when it was entered, and whether they have been
forgotten since. -/
structure Episode where
  process : Process
  spent : Bool

namespace Episode

variable (codec : MarkerCodec)

def step (e : Episode) (t : Turn) : Episode :=
  ⟨e.process.step codec t,e.spent || e.process.cutsShort codec t⟩

/-- The Gateway is gone wherever a re-login that has forgotten its attempts is polled. -/
def FindsGatewayGone (e : Episode) (t : Turn) : Prop :=
  e.spent = true → e.process.pollsAlive codec t = false

/-- The attempts are above the bound until they are forgotten, and then none. -/
def Sound (config : Config) (e : Episode) : Prop :=
  e.process.machine.config = config ∧
    (e.process.machine.state = .reconnectingSession →
      if e.spent then e.process.machine.session.reloginAttempts = 0
      else config.timing.reloginMaxAttempts < e.process.machine.session.reloginAttempts)

variable {codec} {config : Config} {e : Episode} {t : Turn}

/-- What a sound episode hands to the handler of its iteration. -/
theorem ready_sound (sound : e.Sound config) {ready : StateMachine} {effects : List LoopEffect}
    (preluded : e.process.machine.prelude codec t = some (ready,effects))
    (here : ready.state = .reconnectingSession) :
    ready.config = config ∧
      if e.spent then ready.session.reloginAttempts = 0
      else ready.config.timing.reloginMaxAttempts < ready.session.reloginAttempts := by
  obtain ⟨configured,attempts⟩ := sound
  have state : e.process.machine.state = .reconnectingSession :=
    (StateMachine.state_of_prelude preluded (by rw [here]; decide) (by rw [here]; decide)).trans here
  have carried : ready.session.reloginAttempts = e.process.machine.session.reloginAttempts :=
    congrArg (fun c : Lasting × Instant => c.1.reloginAttempts)
      (StateMachine.prelude_carried preluded)
  have same := (StateMachine.prelude_config preluded).trans configured
  rw [carried,same]
  exact ⟨rfl,attempts state⟩

theorem fallsBack_iff (sound : e.Sound config)
    (inside : e.process.RunsIn codec .reconnectingSession t) :
    e.process.FallsBack codec t ↔ e.FindsGatewayGone codec t := by
  obtain ⟨ready,effects,-,preluded,here⟩ := inside
  obtain ⟨-,attempts⟩ := ready_sound sound preluded here
  have only : e.process.FallsBack codec t ↔ ready.FallsBack t := by
    unfold Process.FallsBack
    rw [preluded]
    simp
  have alive : e.process.pollsAlive codec t = ready.pollsAlive t := by
    rw [Process.pollsAlive,preluded]
  rw [only,FindsGatewayGone,alive]
  cases spent : e.spent with
  | true =>
    rw [if_pos spent] at attempts
    simp [(StateMachine.forgotten_fallsBack_iff here attempts).1]
  | false =>
    rw [if_neg (by simp [spent])] at attempts
    simp [(StateMachine.exhausted_fallsBack here attempts).1]

theorem step_sound (sound : e.Sound config)
    (inside : e.process.RunsIn codec .reconnectingSession t) : (e.step codec t).Sound config := by
  obtain ⟨ready,effects,running,preluded,here⟩ := inside
  obtain ⟨same,attempts⟩ := ready_sound sound preluded here
  refine ⟨Process.step_config.trans sound.1,fun stays => ?_⟩
  have away : ready.state ≠ .connected := by
    rw [here]
    decide
  have kept := congrArg Lasting.reloginAttempts
    (Process.step_stays running preluded away (stays.trans here.symm))
  change (e.process.step codec t).machine.session.reloginAttempts =
    (ready.select t).2.1.session.reloginAttempts at kept
  have cut : e.process.cutsShort codec t = ready.cutsShort t := by
    rw [Process.cutsShort,preluded]
  simp only [step,kept,cut]
  cases spent : e.spent with
  | true =>
    rw [if_pos spent] at attempts
    simp [(@StateMachine.forgotten_fallsBack_iff ready t here attempts).2]
  | false =>
    rw [if_neg (by simp [spent])] at attempts
    rw [Bool.false_or]
    rcases (@StateMachine.exhausted_fallsBack ready t here attempts).2 with
      ⟨next,among,returned⟩ | left
    · -- A fallback that was returned is entered, and the episode is over.
      have leaves : next = .restarting ∨ next = .waitingForLogin := by
        unfold reloginFallbacks at among
        split at among
        · exact .inl (List.mem_singleton.mp among)
        · simpa [or_comm] using among
      have apart : next ≠ ready.state := by
        rw [here]
        rcases leaves with rfl | rfl <;> decide
      have entered := Process.leaves_of_returned running preluded returned
        (by rcases leaves with rfl | rfl <;> rfl) apart
      exact absurd (entered.symm.trans (stays.trans here.symm)) apart
    · rw [left]
      split
      · rfl
      · rw [← same]
        exact attempts

end Episode

/-- A relaunch cycle counts once exactly when it is a cold one whose count has room and none
of its restarts was dropped once its delay had passed. A re-login with its attempts used up
falls back exactly when, after a drop that came between their reset and the fallback, it is
polled with the Gateway gone only. -/
theorem cancelled_miscounts_iff (codec : MarkerCodec) (p : Process) :
    (∀ turns last, p.RelaunchCycle codec turns last →
      ((Runs.run (Process.step codec) p (turns ++ [last])).machine.session.consecutiveJvmRestarts =
          p.machine.session.consecutiveJvmRestarts + 1 ↔
        p.machine.session.warmRestartPending = none ∧
          p.machine.session.consecutiveJvmRestarts < 2 ^ 32 - 1 ∧
          (p.relaunches codec turns = 0 ∨
            p.machine.session.consecutiveJvmRestarts + 1 = 2 ^ 32 - 1))) ∧
    (∀ turns, p.machine.config.timing.reloginMaxAttempts < p.machine.session.reloginAttempts →
      Runs.Along (Process.step codec) (Process.RunsIn codec .reconnectingSession) p turns →
      (Runs.Along (Process.step codec) (Process.FallsBack codec) p turns ↔
        Runs.Along (Episode.step codec) (Episode.FindsGatewayGone codec) ⟨p,false⟩ turns)) := by
  refine ⟨fun turns last cycle => ?_,fun turns exhausted inside => ?_⟩
  · have once := counts_once_iff p.machine.session.lasting (p.relaunches codec turns)
    rw [← Process.relaunchCycle_lasting cycle] at once
    exact once
  · have ghost := fun H => @Runs.along_map _ _ (Process.step codec) _ (Episode.step codec)
      Episode.process (fun _ _ => rfl) H ⟨p,false⟩ turns
    have started : Episode.Sound p.machine.config ⟨p,false⟩ := ⟨rfl,fun _ => exhausted⟩
    exact (ghost _).trans (((ghost _).mp inside).congr (fun _ _ => Episode.step_sound)
      (fun _ _ => Episode.fallsBack_iff) started)

theorem Process.runsIn_of_prelude {codec : MarkerCodec} {state : State} {p : Process} {t : Turn}
    (running : p.status = .running)
    (here : (p.machine.prelude codec t).map (fun ready => ready.1.state) = some state) :
    p.RunsIn codec state t := by
  obtain ⟨⟨ready,effects⟩,preluded,same⟩ := Option.map_eq_some_iff.mp here
  exact ⟨ready,effects,running,preluded,same⟩

theorem Process.stays_of_prelude {codec : MarkerCodec} {state : State} {p : Process} {t : Turn}
    (running : p.status = .running)
    (here : (p.machine.prelude codec t).map (fun ready => ready.1.state) = some state)
    (after : (p.step codec t).machine.state = state)
    (runs : (p.step codec t).status = .running) : p.Stays codec state t := by
  obtain ⟨⟨ready,effects⟩,preluded,same⟩ := Option.map_eq_some_iff.mp here
  exact ⟨ready,effects,running,preluded,same,after,runs⟩

theorem Process.returns_of_prelude {codec : MarkerCodec} {state next : State} {p : Process}
    {t : Turn} (running : p.status = .running)
    (here : (p.machine.prelude codec t).map (fun ready => (ready.1.state,(ready.1.select t).1)) =
      some (state,.transitioned (.ok next))) :
    p.Returns codec state next t := by
  obtain ⟨⟨ready,effects⟩,preluded,same⟩ := Option.map_eq_some_iff.mp here
  obtain ⟨inside,returned⟩ := Prod.mk.inj same
  exact ⟨ready,effects,running,preluded,inside,returned⟩

/-- An agent event drops the handler at one of its calls. -/
def Turn.cutAt (turn : Turn) (call : Nat) : Turn :=
  { turn with
    interrupt := some (.agentEvent .overflow)
    schedule := { turn.schedule with dropAt := some call } }

/-- A site in Restarting, told so by RESTART. -/
def paperRestarting : Process :=
  (Process.start sampleCodec paperConfig .default Files.empty "/home/ibgateway/Jts"
    (sampleClocks 14400)).step sampleCodec (turnAt (sampleClocks 14401) (some (.command .restart)))

def reloginTurn (now : Clocks) : Turn :=
  { turnAt now none with
    schedule :=
      ⟨{ quietAnswers now with
          listWindows := fun _ => .ok [⟨⟨7⟩,"Re-login is required","javax.swing.JDialog",none⟩] },none⟩ }

/-- A site whose one attempt at a new login ends in the same dialog. -/
def paperExhausted : Process :=
  Runs.run (Process.step sampleCodec)
    (Process.start sampleCodec { paperConfig with timing := ⟨5,60,1,.restart,0,60⟩ } .default
      Files.empty "/home/ibgateway/Jts" (sampleClocks 14400))
    [turnAt (sampleClocks 14401) (some (.command (.setState "WaitingForLogin"))),
      reloginTurn (sampleClocks 14402),reloginTurn (sampleClocks 14440),
      reloginTurn (sampleClocks 14441)]

theorem Process.round_of_prelude {codec : MarkerCodec} {p : Process} {t : Turn}
    (rounds : (p.machine.prelude codec t).map (fun ready => ready.1.pollsAlive t &&
      decide (ready.1.session.reloginAttempts ≤ ready.1.config.timing.reloginMaxAttempts)) =
        some true) : ¬ p.FallsBack codec t := by
  obtain ⟨⟨ready,effects⟩,preluded,round⟩ := Option.map_eq_some_iff.mp rounds
  intro falls
  rw [Bool.and_eq_true,decide_eq_true_eq] at round
  exact (falls ready effects preluded).1 round

def cutRestart : List Turn := [(turnAt (sampleClocks 14410) none).cutAt 2]

def cutGiveUp : List Turn :=
  [(reloginTurn (sampleClocks 14442)).cutAt 3,reloginTurn (sampleClocks 14443)]

/-- The restart is dropped while it kills the Gateway, the give-up while it waits. -/
theorem cancelled_miscounted :
    (paperRestarting.RelaunchCycle sampleCodec cutRestart (turnAt (sampleClocks 14430) none) ∧
      paperRestarting.machine.session.consecutiveJvmRestarts = 0 ∧
      (Runs.run (Process.step sampleCodec) paperRestarting
        (cutRestart ++ [turnAt (sampleClocks 14430) none])).machine.session.consecutiveJvmRestarts =
          2) ∧
    paperExhausted.machine.config.timing.reloginMaxAttempts <
        paperExhausted.machine.session.reloginAttempts ∧
      Runs.Along (Process.step sampleCodec) (Process.RunsIn sampleCodec .reconnectingSession)
        paperExhausted cutGiveUp ∧
      ¬ Runs.Along (Process.step sampleCodec) (Process.FallsBack sampleCodec) paperExhausted
        cutGiveUp := by
  refine ⟨⟨⟨⟨?_,trivial⟩,?_⟩,?_,?_⟩,?_,⟨?_,?_,trivial⟩,fun falls => ?_⟩
  · exact Process.stays_of_prelude (by decide +kernel) (by decide +kernel) (by decide +kernel)
      (by decide +kernel)
  · exact Process.returns_of_prelude (by decide +kernel) (by decide +kernel)
  · decide +kernel
  · decide +kernel
  · decide +kernel
  · exact Process.runsIn_of_prelude (by decide +kernel) (by decide +kernel)
  · exact Process.runsIn_of_prelude (by decide +kernel) (by decide +kernel)
  · exact absurd falls.2.1 (Process.round_of_prelude (by decide +kernel))

/-- Left alone, the same restart counts once and the same give-up falls back. -/
theorem cancelled_miscounts_iff_quiet :
    ((Runs.run (Process.step sampleCodec) paperRestarting
        ([] ++ [turnAt (sampleClocks 14430) none])).machine.session.consecutiveJvmRestarts =
      paperRestarting.machine.session.consecutiveJvmRestarts + 1) ∧
    Runs.Along (Process.step sampleCodec) (Process.FallsBack sampleCodec) paperExhausted
      [reloginTurn (sampleClocks 14443)] := by
  constructor
  · refine ((cancelled_miscounts_iff sampleCodec paperRestarting).1 [] _ ⟨trivial,?_⟩).mpr ?_
    · exact Process.returns_of_prelude (by decide +kernel) (by decide +kernel)
    · exact ⟨by decide +kernel,by decide +kernel,.inl rfl⟩
  · have inside : Runs.Along (Process.step sampleCodec)
        (Process.RunsIn sampleCodec .reconnectingSession) paperExhausted
        [reloginTurn (sampleClocks 14443)] :=
      ⟨Process.runsIn_of_prelude (by decide +kernel) (by decide +kernel),trivial⟩
    have whole : Runs.Along (Episode.step sampleCodec) (Episode.FindsGatewayGone sampleCodec)
        ⟨paperExhausted,false⟩ [reloginTurn (sampleClocks 14443)] :=
      ⟨fun spent => absurd spent (by decide),trivial⟩
    exact ((cancelled_miscounts_iff sampleCodec paperExhausted).2 _ (by decide +kernel)
      inside).mpr whole

end Ibctl.Machine
