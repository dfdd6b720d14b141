import Ibctl.StateMachine.Stepping
import Ibctl.StateMachine.Within

/-! The measures of an episode: the instant a state was entered, the failures of the agent and
the attempts to configure the API. The entry into a state resets them; whatever else assigns
the state leaves those of the state before. -/
namespace Ibctl.Machine
open Tasks Task Recovery

/-- What is left of a session without the fields that the loop writes between two handlers. -/
def Session.handled (s : Session) : Session :=
  { s with
    returnState := none
    clientIdTask := false
    socatRunning := false
    observation := .new ⟨0⟩
    twofaRetryNotBefore := none
    twofaRetryWaitingForScreen := false
    revocation := .new }

theorem handled_of_untold {s s' : Session} (same : s.untold = s'.untold) : s.handled = s'.handled := by
  have handled : s.untold.handled = s'.untold.handled := congrArg Session.handled same
  exact handled

def Session.measures (s : Session) : Instant × Nat × Nat :=
  (s.stateEnteredAt,s.consecutiveAgentFailures,s.configRetries)

theorem measures_of_handled {s s' : Session} (same : s.handled = s'.handled) :
    s.measures = s'.measures := by
  have measured : s.handled.measures = s'.handled.measures := congrArg Session.measures same
  exact measured

namespace StateMachine

variable {codec : MarkerCodec} {sm : StateMachine} {turn : Turn}

section Frames

theorem prelude_handled {ready : StateMachine} {effects : List LoopEffect}
    (preluded : sm.prelude codec turn = some (ready,effects)) :
    ready.session.handled = sm.session.handled :=
  handled_of_untold (prelude_untold preluded)

theorem handleAgentEvent_handled (event : AgentEvent) (at_ : Clocks) :
    (sm.handleAgentEvent event at_).1.session.handled = sm.session.handled := by
  cases event with
  | errorDialog title message buttons =>
    simp only [handleAgentEvent,noteTwofaFailure]
    split
    · split <;> rfl
    · rfl
  | connectionStatusChanged fromStatus status =>
    simp only [handleAgentEvent,noteConnectionStatus]
    split
    · rfl
    · split
      · rfl
      · split <;> rfl
  | _ => rfl

theorem handleAgentEvents_handled (at_ : Clocks) (events : List AgentEvent) (sm : StateMachine) :
    (handleAgentEvents at_ events sm).1.session.handled = sm.session.handled := by
  induction events generalizing sm with
  | nil => rfl
  | cons event rest ih => exact (ih _).trans (handleAgentEvent_handled event at_)

theorem handleInterrupt_handled (interrupt : Interrupt) (turn : Turn) :
    (sm.handleInterrupt interrupt turn).1.session.handled = sm.session.handled := by
  cases interrupt with
  | agentEvent event => exact handleAgentEvent_handled event turn.later
  | _ => exact handled_of_untold (handleInterrupt_untold turn fun _ => nofun)

/-- Nothing is written to a session between the select and its outcome but by the events. -/
theorem afterSelect_handled (sm : StateMachine) (turn : Turn) :
    (sm.afterSelect turn).session.handled = (sm.select turn).2.1.session.handled :=
  (handleAgentEvents_handled _ _ _).trans (congrArg Session.handled (fireDwell_session _))

end Frames

section Entry

theorem freshFor_measures (next : State) (at_ : Clocks) (s : Session) :
    (freshFor next at_ s).measures = s.measures := by
  unfold freshFor
  extract_lets selected forgotten entered
  have first : selected.measures = s.measures := by
    unfold selected
    split <;> rfl
  have second : forgotten.measures = selected.measures := by
    unfold forgotten
    split <;> rfl
  have third : entered.measures = forgotten.measures := by
    unfold entered
    cases next <;> rfl
  rw [← first,← second,← third]
  split <;> rfl

theorem crossConnected_measures (next : State) (at_ : Clocks) :
    (sm.crossConnected next at_).1.session.measures = sm.session.measures := by
  unfold crossConnected
  split
  · rfl
  · split
    · rfl
    · split <;> rfl

theorem leaveHitl_measures (next : State) :
    (sm.leaveHitl next).session.measures = sm.session.measures := by
  unfold leaveHitl
  split <;> rfl

/-- The entry into a state notes its instant and forgets the failures; the attempts to
configure the API are left to their handler. -/
theorem applyTransition_measures (next : State) (turn : Turn) :
    (sm.applyTransition next turn).1.session.measures =
      (turn.later.mono,0,sm.session.configRetries) := by
  have prepared : (sm.prepare next turn.later).1.session.measures =
      (turn.later.mono,0,sm.session.configRetries) := by
    rw [prepare_eq]
    refine (freshFor_measures next turn.later _).trans ((leaveHitl_measures next).trans ?_)
    rw [crossConnected_measures,readied_session]
    rfl
  exact applyTransition_of_prepared
    (C := fun left => left.session.measures = (turn.later.mono,0,sm.session.configRetries))
    (fun _ _ => id) (fun _ => id) prepared

end Entry

section Handlers

variable {schedule : Schedule Answers}

/-- Whatever ends its work forgets the attempts; only a further attempt keeps them. -/
theorem doConfigureApi_retries : doConfigureApi.Triple schedule (fun _ _ => True)
    (fun next s _ => next ≠ .configuringApi → s.configRetries = 0) (fun _ _ => True) := by
  have resets : ∀ {P : Session → List Effect → Prop} {f : Session → Session},
      (∀ s, (f s).configRetries = 0) → (update f : Step Unit).Triple schedule P
        (fun _ s _ => s.configRetries = 0) (fun _ _ => True) :=
    fun forgets => triple_update fun s _ _ => forgets s
  have returns : ∀ next : State, (pure next : Step State).Triple schedule
      (fun s _ => s.configRetries = 0) (fun next s _ => next ≠ .configuringApi → s.configRetries = 0)
      (fun _ _ => True) :=
    fun next => triple_pure fun s _ forgotten _ => forgotten
  unfold doConfigureApi
  refine triple_last fun _ => triple_last fun blocking => ?_
  cases blocking with
  | some next => exact triple_bind (resets fun _ => rfl) fun _ => returns next
  | none =>
    refine triple_last fun running => ?_
    split
    · exact triple_bind (resets fun _ => rfl) fun _ => returns _
    refine triple_last fun _ => triple_last fun _ => triple_last fun applied => ?_
    cases applied with
    | ok report => exact triple_bind (resets fun _ => rfl) fun _ => returns _
    | error e =>
      refine triple_last fun _ => triple_last fun s => ?_
      split
      · refine triple_bind (resets fun _ => rfl) fun _ => ?_
        refine triple_bind (R := fun _ s _ => s.configRetries = 0) ?_ fun _ => returns _
        exact triple_update fun s _ forgotten => forgotten
      · exact triple_last fun _ => triple_pure fun _ _ _ apart => absurd rfl apart

/-- Outside ConfiguringApi no handler touches the attempts. -/
theorem transition_retries (away : sm.state ≠ .configuringApi) (s : Session) :
    (sm.transition.start schedule s).state.configRetries = s.configRetries :=
  transition_leaves (S := fun after => after.configRetries = s.configRetries)
    (fun _ leaves s' same => (leaves s').1.trans same) (fun here => absurd here away) rfl

/-- Outside ConfiguringApi no attempts are counted. -/
def Unattempted (sm : StateMachine) : Prop :=
  sm.state ≠ .configuringApi → sm.session.configRetries = 0

theorem select_retries (before : sm.Unattempted) (away : sm.state ≠ .configuringApi) :
    (sm.select turn).2.1.session.configRetries = 0 := by
  cases polled : sm.polls turn with
  | false =>
    rw [select_unpolled polled]
    exact before away
  | true =>
    rw [select_session polled]
    exact (transition_retries away sm.session).trans (before away)

/-- A handler that leads to another state leaves no attempts behind. -/
theorem select_leaves {next : State} (before : sm.Unattempted)
    (taken : (sm.select turn).1 = .transitioned (.ok next)) (apart : next ≠ sm.state) :
    (sm.select turn).2.1.session.configRetries = 0 := by
  by_cases here : sm.state = .configuringApi
  · obtain ⟨polled,returned⟩ := runHandler_of_moves taken apart
    rw [select_session polled]
    have configures : sm.transition = mapEffects .gateway doConfigureApi := by
      rw [transition,here]
    have ran : sm.runHandler turn = sm.transition.start (sm.handlerSchedule turn) sm.session := rfl
    rw [configures,start_mapEffects] at ran
    rw [ran] at returned ⊢
    have reached := @doConfigureApi_retries (sm.handlerSchedule turn) ⟨sm.session,0,[]⟩ trivial
    unfold Task.start at returned ⊢
    rcases outcome : doConfigureApi (sm.handlerSchedule turn) ⟨sm.session,0,[]⟩ with ⟨result,after⟩
    rw [outcome] at returned reached
    cases returned
    rw [here] at apart
    exact reached apart
  · exact select_retries before here

/-- The episode of the present state began then, and nothing is counted in it yet. -/
structure FreshSince (sm : StateMachine) (began : Instant) : Prop where
  entered : sm.session.stateEnteredAt = began
  failures : sm.session.consecutiveAgentFailures = 0
  retries : sm.state = .configuringApi → sm.session.configRetries = 0

theorem FreshSince.carry {sm other : StateMachine} {began : Instant}
    (fresh : sm.FreshSince began) (state : other.state = sm.state)
    (measures : other.session.measures = sm.session.measures) : other.FreshSince began := by
  obtain ⟨entered,failures,retries⟩ := by simpa only [Session.measures,Prod.mk.injEq] using measures
  exact ⟨entered.trans fresh.entered,failures.trans fresh.failures,
    fun here => retries.trans (fresh.retries (state ▸ here))⟩

end Handlers

/-- What an iteration whose state is changed by a transition alone leaves of the measures. -/
theorem Stepped.measured {q : Process} {changed : Option Instant} (stepped : sm.Stepped turn q)
    (unattempted : sm.Unattempted) (fresh : ∀ began, changed = some began → sm.FreshSince began)
    (held : ∀ interrupt, (sm.select turn).1 = .interrupted interrupt → ∀ target,
      interrupt.Moves sm.state target → target = sm.state ∨ target = .shutdown)
    (running : q.status = .running) :
    (∀ began, (if q.machine.state ≠ sm.state then some turn.later.mono
        else if sm.polls turn then none else changed) = some began → q.machine.FreshSince began) ∧
      q.machine.Unattempted := by
  have stays : ∀ other : StateMachine, other.state = sm.state →
      other.session.handled = (sm.select turn).2.1.session.handled →
      (∀ began, (if other.state ≠ sm.state then some turn.later.mono
          else if sm.polls turn then none else changed) = some began → other.FreshSince began) ∧
        other.Unattempted := by
    intro other state handled
    have measures := measures_of_handled handled
    refine ⟨fun began same => ?_,fun away => ?_⟩
    · rw [if_neg (by simpa using state)] at same
      cases polled : sm.polls turn with
      | true => simp [polled] at same
      | false =>
        rw [polled] at same
        rw [select_unpolled polled] at measures
        exact (fresh began (by simpa using same)).carry state measures
    · have retries := @select_retries _ turn unattempted (state ▸ away)
      exact (congrArg (fun m : Instant × Nat × Nat => m.2.2) measures).trans retries
  cases stepped with
  | handled interrupt taken apart =>
    apply stays
    · obtain ⟨-,same | moves⟩ := @handleInterrupt_moves (sm.afterSelect turn) interrupt turn
      · exact same.trans (afterSelect_state sm turn)
      · rw [afterSelect_state] at moves
        exact (held interrupt taken _ moves).resolve_right apart
    · exact (handleInterrupt_handled interrupt turn).trans (afterSelect_handled sm turn)
  | ended interrupt taken ends => cases running
  | failed error taken => cases running
  | stayed taken status =>
    exact stays _ (afterSelect_state sm turn) (afterSelect_handled sm turn)
  | moved next apart taken status =>
    have retries : (sm.afterSelect turn).session.configRetries = 0 :=
      (congrArg (fun m : Instant × Nat × Nat => m.2.2)
        (measures_of_handled (afterSelect_handled sm turn))).trans
        (select_leaves unattempted taken apart)
    have measures := @applyTransition_measures (sm.afterSelect turn) next turn
    rw [retries] at measures
    obtain ⟨entered,failures,forgotten⟩ := by
      simpa only [Session.measures,Prod.mk.injEq] using measures
    refine ⟨fun began same => ?_,fun _ => forgotten⟩
    rw [if_pos (runHandler_of_moves taken apart).1] at same
    split at same
    · cases same
      exact ⟨entered,failures,fun _ => forgotten⟩
    · cases same

end StateMachine

/-- A process with the time of the last change of its state, as long as the handler of the new
state has not been polled. -/
structure EpisodeWatch where
  process : Process
  changedAt : Option Instant

namespace EpisodeWatch

variable (codec : MarkerCodec)

/-- The change that a handler polled in this iteration would be the first to see. -/
def beforeHandler (w : EpisodeWatch) (t : Turn) (ready : StateMachine) : Option Instant :=
  if ready.state ≠ w.process.machine.state then some t.now.mono else w.changedAt

def step (w : EpisodeWatch) (t : Turn) : EpisodeWatch where
  process := w.process.step codec t
  changedAt :=
    match w.process.status,w.process.machine.prelude codec t with
    | .running,some (ready,_) =>
      if (w.process.step codec t).machine.state ≠ ready.state then some t.later.mono
      else if ready.polls t then none
      else w.beforeHandler t ready
    | _,_ => w.changedAt

/-- A handler that is the first to see its state starts afresh. -/
def StartsFresh (w : EpisodeWatch) (t : Turn) : Prop :=
  w.process.status = .running → ∀ ready effects,
    w.process.machine.prelude codec t = some (ready,effects) → ready.polls t = true →
      ∀ began, w.beforeHandler t ready = some began → ready.FreshSince began

end EpisodeWatch

/-- The state is changed by no one but the handler that returns the next one: neither the IB
system nor the coordinator moves the machine, and no interrupt that is taken does, unless it
ends the process. -/
def Process.ChangesByTransition (codec : MarkerCodec) (p : Process) (t : Turn) : Prop :=
  p.status = .running → ∀ ready effects, p.machine.prelude codec t = some (ready,effects) →
    ready.state = p.machine.state ∧
      ∀ interrupt, (ready.select t).1 = .interrupted interrupt → ∀ target,
        interrupt.Moves ready.state target → target = ready.state ∨ target = .shutdown

namespace EpisodeWatch

variable {codec : MarkerCodec} {w : EpisodeWatch} {t : Turn}

/-- While the process runs, a change not seen yet is measured from its time. -/
structure Sound (w : EpisodeWatch) : Prop where
  fresh : w.process.status = .running → ∀ began, w.changedAt = some began →
    w.process.machine.FreshSince began
  unattempted : w.process.status = .running → w.process.machine.Unattempted

theorem sound_start (codec : MarkerCodec) (config : Config) (recoveryConfig : RecoveryConfig)
    (files : Files.Directory) (settingsDir : String) (now : Clocks) :
    Sound ⟨Process.start codec config recoveryConfig files settingsDir now,some now.mono⟩ := by
  have session := StateMachine.gates_session
    (StateMachine.new codec config recoveryConfig files settingsDir now) now
  have measures := congrArg Session.measures session
  obtain ⟨entered,failures,retries⟩ := by simpa only [Session.measures,Prod.mk.injEq] using measures
  refine ⟨fun _ began same => ?_,fun _ _ => retries⟩
  cases same
  exact ⟨entered,failures,fun _ => retries⟩

theorem Sound.startsFresh (sound : w.Sound) (changes : w.process.ChangesByTransition codec t) :
    w.StartsFresh codec t := by
  intro running ready effects preluded _ began same
  obtain ⟨stays,-⟩ := changes running ready effects preluded
  rw [beforeHandler,if_neg (by simpa using stays)] at same
  exact (sound.fresh running began same).carry stays
    (measures_of_handled (StateMachine.prelude_handled preluded))

theorem Sound.step (sound : w.Sound) (changes : w.process.ChangesByTransition codec t) :
    (w.step codec t).Sound := by
  obtain ⟨-,ended⟩ | ⟨ready,effects,running,preluded,stepped⟩ := @Process.step_cases codec w.process t
  · exact ⟨fun runs => absurd runs ended,fun runs => absurd runs ended⟩
  · obtain ⟨stays,held⟩ := changes running ready effects preluded
    have measures := measures_of_handled (StateMachine.prelude_handled preluded)
    have unattempted : ready.Unattempted := fun away =>
      (congrArg (fun m : Instant × Nat × Nat => m.2.2) measures).trans
        (sound.unattempted running (stays ▸ away))
    have fresh : ∀ began, w.beforeHandler t ready = some began → ready.FreshSince began := by
      intro began same
      rw [beforeHandler,if_neg (by simpa using stays)] at same
      exact (sound.fresh running began same).carry stays measures
    have measured := fun runs => stepped.measured unattempted fresh held runs
    refine ⟨fun runs began same => (measured runs).1 began ?_,fun runs => (measured runs).2⟩
    simpa only [EpisodeWatch.step,running,preluded] using same

end EpisodeWatch

/-- In a run whose states are changed by transitions alone, every handler starts afresh. -/
theorem episodes_fresh (codec : MarkerCodec) (config : Config) (recoveryConfig : RecoveryConfig)
    (files : Files.Directory) (settingsDir : String) (now : Clocks) (turns : List Turn)
    (changes : Runs.Along (Process.step codec) (fun p t => p.ChangesByTransition codec t)
      (Process.start codec config recoveryConfig files settingsDir now) turns) :
    Runs.Along (EpisodeWatch.step codec) (fun w t => w.StartsFresh codec t)
      ⟨Process.start codec config recoveryConfig files settingsDir now,some now.mono⟩ turns := by
  have watched := (@Runs.along_map _ _ _ _ (EpisodeWatch.step codec) EpisodeWatch.process
    (fun _ _ => rfl) (fun p t => p.ChangesByTransition codec t)
    ⟨Process.start codec config recoveryConfig files settingsDir now,some now.mono⟩ turns).mp changes
  exact watched.strengthen (fun w t sound changes => EpisodeWatch.Sound.step sound changes)
    (fun w t sound changes => EpisodeWatch.Sound.startsFresh sound changes)
    (EpisodeWatch.sound_start codec config recoveryConfig files settingsDir now)

/-- A Gateway that is launched and restarted by command a minute later. -/
def launchedRestarted : List Turn :=
  [turnAt (sampleClocks 14401) none,turnAt (sampleClocks 14402) none,
    turnAt (sampleClocks 14460) (some (.command .restart)),turnAt (sampleClocks 14461) none]

/-- The wait before the restart is measured from the launch and over when it begins. -/
theorem restart_not_fresh :
    ¬ Runs.Along (EpisodeWatch.step sampleCodec) (fun w t => w.StartsFresh sampleCodec t)
      ⟨paperStart,some (sampleClocks 14400).mono⟩ launchedRestarted := by
  intro along
  have last := ((Runs.along_append _ _ (launchedRestarted.take 3) (launchedRestarted.drop 3)).mp
    along).2.1
  let reached := Runs.run (EpisodeWatch.step sampleCodec) ⟨paperStart,some (sampleClocks 14400).mono⟩
    (launchedRestarted.take 3)
  let awaited := turnAt (sampleClocks 14461) none
  obtain ⟨running,seen⟩ : reached.process.status = .running ∧
      (reached.process.machine.prelude sampleCodec awaited).map (fun passed =>
          (passed.1.polls awaited,reached.beforeHandler awaited passed.1,
            passed.1.session.stateEnteredAt)) =
        some (true,some (sampleClocks 14460).mono,(sampleClocks 14402).mono) := by
    decide +kernel
  obtain ⟨⟨ready,effects⟩,preluded,same⟩ := Option.map_eq_some_iff.mp seen
  obtain ⟨polled,began,entered⟩ := by simpa only [Prod.mk.injEq] using same
  have fresh := (last running ready effects preluded polled _ began).entered
  rw [entered] at fresh
  exact absurd fresh (by decide)

theorem Process.changesByTransition_of_quiet {codec : MarkerCodec} {p : Process} {t : Turn}
    (quiet : t.interrupt = none)
    (stays : (p.machine.prelude codec t).map (fun ready => ready.1.state) = some p.machine.state) :
    p.ChangesByTransition codec t := by
  intro _ ready effects preluded
  rw [preluded] at stays
  refine ⟨Option.some.inj stays,fun interrupt taken => ?_⟩
  have none := StateMachine.select_interrupt taken
  rw [quiet] at none
  cases none

theorem episodes_fresh_launched :
    Runs.Along (EpisodeWatch.step sampleCodec) (fun w t => w.StartsFresh sampleCodec t)
      ⟨paperStart,some (sampleClocks 14400).mono⟩
      [turnAt (sampleClocks 14401) none,turnAt (sampleClocks 14402) none,
        turnAt (sampleClocks 14403) none] := by
  apply episodes_fresh
  refine ⟨?_,?_,?_,trivial⟩
  · exact Process.changesByTransition_of_quiet rfl (by decide +kernel)
  · exact Process.changesByTransition_of_quiet rfl (by decide +kernel)
  · exact Process.changesByTransition_of_quiet rfl (by decide +kernel)

end Ibctl.Machine
