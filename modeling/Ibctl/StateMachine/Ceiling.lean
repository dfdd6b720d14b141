import Ibctl.StateMachine.Paused

/-! The ceiling. PAUSE AT names a state; a transition into it pauses the machine before the
handler of that state is polled. What is compared is the state the handler asked for, and an
error asks for another one than it ends in. -/
namespace Ibctl.Machine
open Tasks Recovery

namespace StateMachine

variable {codec : MarkerCodec} {sm : StateMachine} {turn : Turn}

section Frames

theorem noteTwofaAnswered_pause (next : State) : (sm.noteTwofaAnswered next).pause = sm.pause := by
  unfold noteTwofaAnswered
  simp only
  split <;> rfl

theorem crossConnected_pause (next : State) (at_ : Clocks) :
    (sm.crossConnected next at_).1.pause = sm.pause := by
  unfold crossConnected
  split
  · rfl
  · split
    · rfl
    · split <;> rfl

theorem leaveHitl_pause (next : State) : (sm.leaveHitl next).pause = sm.pause := by
  unfold leaveHitl
  split <;> rfl

/-- Of a whole transition only the check of the ceiling touches the pause. -/
theorem applyTransition_pause (next : State) (turn : Turn) :
    (sm.applyTransition next turn).1.pause = (sm.checkCeiling next).pause := by
  have readied : (sm.readied next turn.later).pause = (sm.checkCeiling next).pause :=
    (noteTwofaAnswered_pause next).trans (recordTransition_pause sm.state next turn.later)
  have prepared : (sm.prepare next turn.later).1.pause = (sm.checkCeiling next).pause := by
    rw [prepare_eq]
    exact (leaveHitl_pause next).trans ((crossConnected_pause next turn.later).trans readied)
  exact applyTransition_of_prepared (C := fun left => left.pause = (sm.checkCeiling next).pause)
    (fun _ _ => id) (fun _ => id) prepared

end Frames

end StateMachine

/-- The commands that set a pause or a ceiling, or lift them. -/
def Interrupt.SetsPause : Interrupt → Prop
  | .command .pause => True
  | .command (.pauseAt _) => True
  | .command .resume => True
  | _ => False

def Turn.KeepsPause (turn : Turn) : Prop :=
  ∀ interrupt, turn.interrupt = some interrupt → ¬ interrupt.SetsPause

namespace StateMachine

variable {codec : MarkerCodec} {sm : StateMachine} {turn : Turn} {ceiling : State}

/-- The machine is paused, or told to pause at the state. -/
def Bounded (ceiling : State) (sm : StateMachine) : Prop :=
  sm.pause.paused = true ∨ sm.pause = ⟨false,some ceiling⟩

theorem Bounded.of_pause {other : StateMachine} (bounded : sm.Bounded ceiling)
    (same : other.pause = sm.pause) : other.Bounded ceiling := by
  unfold Bounded
  rwa [same]

theorem checkCeiling_bounded (bounded : sm.Bounded ceiling) (next : State) :
    (sm.checkCeiling next).Bounded ceiling := by
  unfold checkCeiling
  split
  · exact .inl rfl
  · exact bounded

theorem handleInterrupt_pause {interrupt : Interrupt} (keeps : ¬ interrupt.SetsPause) :
    (sm.handleInterrupt interrupt turn).1.pause = sm.pause := by
  cases interrupt with
  | signal signal => cases signal <;> rfl
  | command command =>
    cases command with
    | pause => exact absurd trivial keeps
    | pauseAt name => exact absurd trivial keeps
    | resume => exact absurd trivial keeps
    | stop =>
      simp only [handleInterrupt,dispatchCommand]
      split
      · rfl
      · exact moveTo_pause _ _
    | start =>
      simp only [handleInterrupt,dispatchCommand]
      split
      · exact moveTo_pause _ _
      · rfl
    | setState name =>
      simp only [handleInterrupt,dispatchCommand,handleCommand]
      split
      · rfl
      · exact moveTo_pause _ _
    | hitlResume =>
      simp only [handleInterrupt,dispatchCommand,handleCommand]
      split
      · exact moveTo_pause _ _
      · rfl
    | resumeReconnect token =>
      simp only [handleInterrupt,dispatchCommand,handleCommand]
      split <;> rfl
    | _ => rfl
  | coldRestart signal =>
    cases signal with
    | fire =>
      simp only [handleInterrupt,handleColdRestart]
      split <;> rfl
    | skipped reason => rfl
  | agentEvent event => exact handleAgentEvent_pause event turn.later

/-- PAUSE AT pauses in the state itself, and sets the ceiling elsewhere. -/
theorem pauseAt_bounded {name : String} (named : State.fromName name = some ceiling) :
    (sm.handleInterrupt (.command (.pauseAt name)) turn).1.Bounded ceiling := by
  simp only [handleInterrupt,dispatchCommand,handleCommand,named,Bounded]
  split
  · exact .inl rfl
  · cases sm.pause.paused with
    | true => exact .inl rfl
    | false => exact .inr rfl

/-- What the select leads to keeps the ceiling, unless a command of the operator lifts it. -/
theorem Stepped.bounded {q : Process} (stepped : sm.Stepped turn q) (bounded : sm.Bounded ceiling)
    (keeps : turn.KeepsPause) : q.machine.Bounded ceiling := by
  have selected := bounded.of_pause (@afterSelect_pause sm turn)
  cases stepped with
  | handled interrupt taken apart =>
    exact selected.of_pause (handleInterrupt_pause (keeps interrupt (select_interrupt taken)))
  | ended interrupt taken ends =>
    exact selected.of_pause (handleInterrupt_pause (keeps interrupt (select_interrupt taken)))
  | failed error taken => exact selected
  | stayed taken status => exact selected
  | moved next apart taken status =>
    exact (checkCeiling_bounded selected next).of_pause (applyTransition_pause next turn)

end StateMachine

namespace Process

variable {codec : MarkerCodec} {p : Process} {t : Turn} {ceiling : State}

/-- The turn of a running process, after its prelude, selects the outcome. -/
def Selects (codec : MarkerCodec) (p : Process) (t : Turn) (outcome : SelectOutcome)
    (source : State) : Prop :=
  ∃ ready effects, p.status = .running ∧ p.machine.prelude codec t = some (ready,effects) ∧
    (ready.select t).1 = outcome ∧ ready.state = source

/-- A transition result, not a command or a check, takes the machine into the state. -/
def Enters (codec : MarkerCodec) (target : State) (p : Process) (t : Turn) : Prop :=
  ∃ next source, p.Selects codec t (.transitioned (.ok next)) source ∧ next ≠ source ∧
    (p.step codec t).machine.state = target

/-- The handler asks for an error, from which the machine recovers by a restart. -/
def Errs (codec : MarkerCodec) (p : Process) (t : Turn) : Prop :=
  ∃ message source, p.Selects codec t (.transitioned (.ok (.error message))) source ∧
    .error message ≠ source

/-- A machine that enters the ceiling by a transition is paused, so that its handler is not
polled whatever comes next. -/
def CeilingHeld (codec : MarkerCodec) (ceiling : State) (p : Process) (t : Turn) : Prop :=
  p.Enters codec ceiling t → (p.step codec t).machine.pause.paused = true ∧
    ∀ next, (p.step codec t).handlerRun codec next = none

theorem handlerRun_paused (paused : p.machine.pause.paused = true) :
    p.handlerRun codec t = none := by
  unfold handlerRun
  split
  next ready effects running preluded =>
    have held : ready.pause.paused = true := by
      rwa [StateMachine.prelude_pause preluded]
    rw [StateMachine.polls_of_paused held]
    rfl
  · rfl

theorem step_bounded (bounded : p.machine.Bounded ceiling) (keeps : t.KeepsPause) :
    (p.step codec t).machine.Bounded ceiling := by
  obtain ⟨same,-⟩ | ⟨ready,effects,-,preluded,stepped⟩ := @step_cases codec p t
  · rwa [same]
  · exact stepped.bounded (bounded.of_pause (StateMachine.prelude_pause preluded)) keeps

/-- A transition to another state: the machine was not paused, and what is compared with the
ceiling is what the handler asked for. -/
theorem step_of_selects {next source : State}
    (selects : p.Selects codec t (.transitioned (.ok next)) source) (apart : next ≠ source)
    (bounded : p.machine.Bounded ceiling) :
    (p.step codec t).machine.state = StateMachine.settled next ∧
      ((p.step codec t).machine.pause.paused = true ↔ next = ceiling) := by
  obtain ⟨ready,effects,running,preluded,selected,rfl⟩ := selects
  have stepped := stepped running preluded
  have unpaused : ready.pause.paused = false := by
    have polled := (StateMachine.runHandler_of_moves selected apart).1
    cases paused : ready.pause.paused with
    | false => rfl
    | true =>
      rw [StateMachine.polls_of_paused paused] at polled
      cases polled
  have told : ready.pause = ⟨false,some ceiling⟩ :=
    (bounded.of_pause (StateMachine.prelude_pause preluded)).resolve_left (by simp [unpaused])
  generalize p.step codec t = q at stepped ⊢
  cases stepped with
  | handled interrupt taken apart => rw [selected] at taken; cases taken
  | ended interrupt taken ends => rw [selected] at taken; cases taken
  | failed error taken => rw [selected] at taken; cases taken
  | stayed taken status =>
    rw [selected] at taken
    cases taken
    exact absurd rfl apart
  | moved other apart taken status =>
    rw [selected] at taken
    cases taken
    refine ⟨(StateMachine.applyTransition_moves next t).1,?_⟩
    rw [StateMachine.applyTransition_pause]
    unfold StateMachine.checkCeiling
    rw [StateMachine.afterSelect_pause,told]
    split
    next reached => simpa using (Option.some.inj reached).symm
    next other =>
      refine iff_of_false ?_ fun same => other (congrArg some same.symm)
      rw [StateMachine.afterSelect_pause,told]
      simp

theorem ceilingHeld_iff (named : ∀ message, ceiling ≠ .error message)
    (bounded : p.machine.Bounded ceiling) :
    p.CeilingHeld codec ceiling t ↔ ¬ (ceiling = .restarting ∧ p.Errs codec t) := by
  constructor
  · rintro held ⟨rfl,message,source,selects,apart⟩
    obtain ⟨state,paused⟩ := step_of_selects selects apart bounded
    have stops := (held ⟨_,source,selects,apart,state⟩).1
    exact absurd (paused.mp stops) (by simp)
  · rintro spared ⟨next,source,selects,apart,there⟩
    obtain ⟨state,paused⟩ := step_of_selects selects apart bounded
    rw [state] at there
    have asked : next = ceiling := by
      cases next with
      | error message => exact absurd ⟨there.symm,message,source,selects,apart⟩ spared
      | _ => exact there
    exact ⟨paused.mpr asked,fun later => handlerRun_paused (paused.mpr asked)⟩

end Process

theorem State.apart_of_named {name : String} {target : State}
    (named : State.fromName name = some target) (message : String) : target ≠ .error message := by
  rintro rfl
  have among := List.mem_of_find?_eq_some named
  simp [State.named] at among

/-- After PAUSE AT, and until a command sets a pause or lifts it, a transition into the state
never lets its handler run, unless the state is Restarting and a handler asks for an error. -/
theorem ceiling_held_iff (codec : MarkerCodec) {p : Process} {t : Turn} {name : String}
    {ceiling source : State} (named : State.fromName name = some ceiling)
    (taken : p.Selects codec t (.interrupted (.command (.pauseAt name))) source)
    {turns : List Turn} (keeps : ∀ u ∈ turns, u.KeepsPause) :
    Runs.Along (Process.step codec) (Process.CeilingHeld codec ceiling) (p.step codec t) turns ↔
      Runs.Along (Process.step codec) (fun q u => ¬ (ceiling = .restarting ∧ q.Errs codec u))
        (p.step codec t) turns := by
  have told : (p.step codec t).machine.Bounded ceiling := by
    obtain ⟨ready,effects,running,preluded,selected,-⟩ := taken
    have stepped := Process.stepped running preluded
    generalize p.step codec t = q at stepped ⊢
    have pauses : ∀ interrupt, (ready.select t).1 = .interrupted interrupt →
        ((ready.afterSelect t).handleInterrupt interrupt t).1.Bounded ceiling := by
      intro interrupt taken
      rw [selected] at taken
      cases taken
      exact StateMachine.pauseAt_bounded named
    cases stepped with
    | handled interrupt taken apart => exact pauses interrupt taken
    | ended interrupt taken ends => exact (pauses interrupt taken).of_pause rfl
    | failed error taken => rw [selected] at taken; cases taken
    | stayed taken status => rw [selected] at taken; cases taken
    | moved next apart taken status => rw [selected] at taken; cases taken
  exact Runs.Along.congr (G := fun _ u => u.KeepsPause) (P := fun q => q.machine.Bounded ceiling)
    (fun q u bounded kept => Process.step_bounded bounded kept)
    (fun q u bounded _ => Process.ceilingHeld_iff (State.apart_of_named named) bounded) told
    (Runs.along_of_forall _ turns fun u member _ => keeps u member)

def booted : Process :=
  Process.start sampleCodec paperConfig .default Files.empty "/home/ibgateway/Jts" (sampleClocks 60)

def pauseAt (name : String) : Turn := turnAt (sampleClocks 60) (some (.command (.pauseAt name)))

theorem pauseAt_taken (name : String) :
    booted.Selects sampleCodec (pauseAt name) (.interrupted (.command (.pauseAt name))) .init := by
  obtain ⟨running,fresh⟩ : booted.status = .running ∧
      (booted.machine.prelude sampleCodec (pauseAt "")).map (fun turned => (turned.1.pause,turned.1.state)) =
        some (⟨false,none⟩,.init) := by decide +kernel
  have preludes : booted.machine.prelude sampleCodec (pauseAt name) =
      booted.machine.prelude sampleCodec (pauseAt "") := rfl
  rw [← preludes] at fresh
  obtain ⟨⟨ready,effects⟩,preluded,same⟩ := Option.map_eq_some_iff.mp fresh
  obtain ⟨pause,state⟩ := Prod.mk.inj same
  refine ⟨ready,effects,running,preluded,?_,state⟩
  unfold StateMachine.select
  rw [if_neg (by simp [StateMachine.polls,pauseAt,turnAt,Turn.selectable])]
  simp [pauseAt,turnAt,Turn.selectable]

/-- The path of the Gateway is missing at the launch. -/
def misplaced : Turn :=
  { turnAt (sampleClocks 61) none with
    schedule := ⟨{ quietAnswers (sampleClocks 61) with twsPathExists := fun _ => false },none⟩ }

/-- The site told to pause at Restarting gets there through an error, and goes on: the next
iteration polls the handler. -/
theorem ceiling_overrun :
    let p := booted.step sampleCodec (pauseAt "Restarting")
    let q := p.step sampleCodec misplaced
    (State.fromName "Restarting" = some .restarting ∧ p.machine.pause = ⟨false,some .restarting⟩ ∧
      p.machine.state = .init ∧ q.machine.state = .restarting ∧ q.machine.pause.paused = false ∧
      q.handlerRun sampleCodec (turnAt (sampleClocks 62) none) = some .restarting) ∧
      ¬ Runs.Along (Process.step sampleCodec) (Process.CeilingHeld sampleCodec .restarting) p
        [misplaced] := by
  intro p q
  have passes : State.fromName "Restarting" = some .restarting ∧
      p.machine.pause = ⟨false,some .restarting⟩ ∧ p.machine.state = .init ∧
      q.machine.state = .restarting ∧ q.machine.pause.paused = false ∧
      q.handlerRun sampleCodec (turnAt (sampleClocks 62) none) = some .restarting := by
    decide +kernel
  have asks : p.status = .running ∧ (p.machine.prelude sampleCodec misplaced).map
      (fun turned => ((turned.1.select misplaced).1,turned.1.state)) =
        some (.transitioned (.ok (.error "TWS path does not exist: /home/ibgateway/Jts")),.init) := by
    decide +kernel
  refine ⟨passes,fun held => ?_⟩
  obtain ⟨⟨ready,effects⟩,preluded,same⟩ := Option.map_eq_some_iff.mp asks.2
  obtain ⟨selected,state⟩ := Prod.mk.inj same
  have paused := (held.1 ⟨_,_,⟨ready,effects,asks.1,preluded,selected,state⟩,by simp,
    passes.2.2.2.1⟩).1
  exact absurd (passes.2.2.2.2.1.symm.trans paused) (by decide)

theorem ceiling_held_launching :
    Runs.Along (Process.step sampleCodec) (Process.CeilingHeld sampleCodec .launching)
      (booted.step sampleCodec (pauseAt "Launching"))
      [turnAt (sampleClocks 61) none,turnAt (sampleClocks 62) none] := by
  refine (ceiling_held_iff sampleCodec (by decide) (pauseAt_taken "Launching") ?_).mpr
    (Runs.along_of_forall _ _ fun u _ q => ?_)
  · intro u member interrupt taken
    simp only [List.mem_cons,List.not_mem_nil,or_false] at member
    rcases member with rfl | rfl
    all_goals cases taken
  · rintro ⟨same,-⟩
    cases same

end Ibctl.Machine
