import Ibctl.StateMachine.Relaunch
import Ibctl.StateMachine.WarmRestart

/-! The backoff between launches. A cold restart waits for its delay and counts; a warm one does
neither, and its hash stays pending until a login is awaited. A launch that fails before that
is followed by another warm one at once. -/
namespace Ibctl.Machine
open Tasks Step Task Recovery

section Handlers

variable {schedule : Schedule Answers} {at_ : Instant}

/-- The instant of the entry is kept. -/
def EnteredAt (at_ : Instant) : Session → List Effect → Prop := fun s _ => s.stateEnteredAt = at_

theorem tearDown_entered : tearDown.Keeps schedule (EnteredAt at_) := by
  have kept : ∀ {f : Session → Session}, (∀ s, (f s).stateEnteredAt = s.stateEnteredAt) →
      (update f : Step Unit).Keeps schedule (EnteredAt at_) :=
    fun same => keeps_update fun s _ entered => (same s).trans entered
  have done : ∀ effect, (emit effect : Step Unit).Keeps schedule (EnteredAt at_) :=
    fun effect => keeps_emit fun _ _ entered => entered
  unfold tearDown
  refine keeps_bind (kept fun _ => rfl) fun _ => keeps_bind (kept fun _ => rfl) fun _ => ?_
  refine keeps_bind (keeps_ask _) fun running => ?_
  extract_lets resets kills
  have kill : killJvm.Keeps schedule (EnteredAt at_) := keeps_bind keeps_sleep fun _ => done _
  have killed : ∀ r, (kills r).Keeps schedule (EnteredAt at_) := by
    intro r
    refine keeps_bind keeps_sleep fun _ => keeps_bind keeps_sleep fun _ => ?_
    refine keeps_bind (keeps_ask _) fun running => ?_
    split
    · exact keeps_bind kill fun _ => keeps_bind keeps_sleep fun _ => done _
    · exact done _
  split
  · exact keeps_bind kill killed
  · exact killed ()

theorem doRestart_entered (frame : Frame) (s : Session) :
    ((doRestart frame).start schedule s).state.stateEnteredAt = s.stateEnteredAt := by
  have relaunches : ∀ warm, (relaunch frame warm).Keeps schedule (EnteredAt s.stateEnteredAt) := by
    intro warm
    have torn : (do tearDown; return .launching : Step State).Keeps schedule
        (EnteredAt s.stateEnteredAt) := keeps_bind tearDown_entered fun _ => keeps_pure _
    unfold relaunch
    extract_lets threshold tears
    split
    · refine keeps_bind (keeps_update fun _ _ entered => entered) fun _ => ?_
      refine keeps_bind keeps_current fun s => ?_
      split
      · exact keeps_bind (keeps_emit fun _ _ entered => entered) fun _ => keeps_pure _
      · exact torn
    · exact torn
  rcases @doRestart_cases schedule frame s with ⟨-,waits⟩ | ⟨-,calls,ran⟩
  · rw [waits]
  · unfold Task.start
    rw [ran]
    exact (relaunches _).after ⟨s,calls,[]⟩ rfl

end Handlers

namespace StateMachine

variable {sm : StateMachine} {turn : Turn}

/-- Away from Connected the count of the restarts only grows. -/
theorem select_restarts (away : sm.state ≠ .connected)
    (room : sm.session.consecutiveJvmRestarts < 2 ^ 32 - 1) :
    sm.session.consecutiveJvmRestarts ≤
      (sm.select turn).2.1.session.consecutiveJvmRestarts := by
  by_cases here : sm.state = .restarting
  · have counted := congrArg Lasting.consecutiveJvmRestarts
      (@select_restarting sm turn here).1
    change (sm.select turn).2.1.session.consecutiveJvmRestarts = _ at counted
    rw [counted,Lasting.relaunched]
    split
    · split
      · exact le_refl _
      · change _ ≤ min (sm.session.consecutiveJvmRestarts + 1) (2 ^ 32 - 1)
        omega
    · exact le_refl _
  · exact le_of_eq (select_keeps
      (J := fun l => sm.session.consecutiveJvmRestarts = l.consecutiveJvmRestarts) rfl away
      (fun _ _ kept => kept) (fun _ _ kept => kept) fun restarting => absurd restarting here)

theorem select_entered (here : sm.state = .restarting) :
    (sm.select turn).2.1.session.stateEnteredAt = sm.session.stateEnteredAt := by
  have restarts : sm.transition = mapEffects .gateway (doRestart sm.frame) := by
    rw [transition,here]
  have ran : sm.runHandler turn = sm.transition.start (sm.handlerSchedule turn) sm.session := rfl
  rw [restarts,start_mapEffects] at ran
  cases polled : sm.polls turn with
  | false => rw [select_unpolled polled]
  | true =>
    rw [select_session polled,ran]
    exact doRestart_entered sm.frame sm.session

/-- A cold restart that leaves for Launching has waited for its delay, and has counted. -/
theorem select_relaunches (here : sm.state = .restarting)
    (cold : sm.session.warmRestartPending = none)
    (room : sm.session.consecutiveJvmRestarts < 2 ^ 32 - 1)
    (returned : (sm.select turn).1 = .transitioned (.ok .launching)) :
    restartDelay sm.frame sm.session ≤
        ((turn.schedule.answers.now 0).durationSince sm.session.stateEnteredAt).asSecs ∧
      (sm.select turn).2.1.session.consecutiveJvmRestarts =
        sm.session.consecutiveJvmRestarts + 1 := by
  obtain ⟨counted,leaves⟩ := @select_restarting sm turn here
  have past : sm.pastDelay turn = true := by
    rcases leaves _ returned with same | ⟨past,-⟩
    · cases same
    · exact past
  rw [if_pos past,Lasting.relaunched,if_neg (by simp [Session.lasting,cold])] at counted
  have restarts := congrArg Lasting.consecutiveJvmRestarts counted
  change (sm.select turn).2.1.session.consecutiveJvmRestarts =
    min (sm.session.consecutiveJvmRestarts + 1) (2 ^ 32 - 1) at restarts
  simp only [pastDelay,Bool.and_eq_true,decide_eq_true_eq] at past
  exact ⟨past.2,by omega⟩

end StateMachine

/-- The configured delay, doubled for each restart in a row and capped. -/
def backoffDelay (config : Config) (restarts : Nat) : Nat :=
  min (saturatingMul config.timing.restartDelaySecs (2 ^ min restarts 4)) 900

def LoopEffect.launch : LoopEffect → Option (Option String)
  | .handler (.gateway (.launched hash)) => some hash
  | _ => none

/-- The hash an iteration launches with, if it launches. -/
def Process.launch (codec : MarkerCodec) (p : Process) (t : Turn) : Option (Option String) :=
  (p.turn codec t).effects.findSome? LoopEffect.launch

structure Launch where
  hash : Option String
  restarts : Nat

/-- A process with its last launch, the entry into Restarting and whether the delay has been
waited for in Restarting since. -/
structure Paced where
  process : Process
  last : Option Launch
  enteredAt : Instant
  waited : Bool

namespace Paced

variable (codec : MarkerCodec)

def step (e : Paced) (t : Turn) : Paced :=
  let after := e.process.step codec t
  match e.process.status,e.process.machine.prelude codec t with
  | .running,some (ready,_) =>
    { process := after
      last := ((e.process.launch codec t).map
        (fun hash => ⟨hash,ready.session.consecutiveJvmRestarts⟩)).or e.last
      enteredAt := if after.machine.state = .restarting ∧ ready.state ≠ .restarting
        then t.later.mono else e.enteredAt
      waited :=
        if ready.state = .restarting ∧ (ready.select t).1 = .transitioned (.ok .launching) then
          decide (backoffDelay ready.config ready.session.consecutiveJvmRestarts ≤
            ((t.schedule.answers.now 0).durationSince e.enteredAt).asSecs)
        else (e.process.launch codec t).isNone && e.waited }
  | _,_ => { e with process := after }

/-- The launch of this iteration follows the last one after the delay and with a higher count,
or the last one was no warm one. -/
def SpacesLaunches (e : Paced) (t : Turn) : Prop :=
  (e.process.launch codec t).isSome = true → ∀ last, e.last = some last →
    (e.waited = true ∧ last.restarts < e.process.machine.session.consecutiveJvmRestarts) ∨
      last.hash = none

/-- No launch but the first escapes the backoff. -/
def BacksOff (e : Paced) (t : Turn) : Prop :=
  (e.process.launch codec t).isSome = true → ∀ last, e.last = some last →
    e.waited = true ∧ last.restarts < e.process.machine.session.consecutiveJvmRestarts

end Paced

def Interrupt.isCommand : Interrupt → Bool
  | .command _ => true
  | _ => false

namespace Process

variable (codec : MarkerCodec)

/-- No operator sends a command, and Connected is not reached. -/
def Unattended (p : Process) (t : Turn) : Prop :=
  t.interrupt.any Interrupt.isCommand = false ∧ p.machine.state ≠ .connected

instance (p : Process) (t : Turn) : Decidable (p.Unattended t) :=
  inferInstanceAs (Decidable (_ ∧ _))

/-- The iteration takes no cold restart, does not fail to reach the agent with a hash pending,
and the count has room. -/
def KeepsPace (p : Process) (t : Turn) : Prop :=
  p.machine.session.consecutiveJvmRestarts < 2 ^ 32 - 1 ∧
    ∀ ready effects, p.status = .running → p.machine.prelude codec t = some (ready,effects) →
      ((ready.select t).1 = .interrupted (.coldRestart .fire) →
        StateMachine.coldRestartDormant ready.state = true) ∧
      (p.machine.session.warmRestartPending.isSome = true → ready.state = .waitingForAgent →
        ready.polls t = true → ¬ AgentFails (ready.handlerSchedule t) ready.session)

end Process

namespace Paced

variable {codec : MarkerCodec} {e : Paced} {t : Turn}

/-- After a launch the machine is parked, or about to launch once more after its delay, or
somewhere in between, where a hash can be pending only while its login is awaited. -/
inductive Between (e : Paced) (last : Launch) : Prop where
  | parked (state : e.process.machine.state = .waitingForLaunch)
  | due (place : e.process.machine.place = .launching)
      (cold : e.process.machine.session.warmRestartPending = none) (waited : e.waited = true)
      (grown : last.restarts < e.process.machine.session.consecutiveJvmRestarts)
  | pending (place : e.process.machine.place ∉ [.launching,.init,.waitingForIB])
      (grows : last.restarts ≤ e.process.machine.session.consecutiveJvmRestarts)
      (awaits : e.process.machine.session.warmRestartPending ≠ none →
        e.process.machine.place ∈ awaitsLogin)
      (entered : e.process.machine.state = .restarting →
        e.process.machine.session.stateEnteredAt = e.enteredAt)

def Spaced (e : Paced) : Prop :=
  e.process.status = .running → ∀ last, e.last = some last → e.Between last

theorem step_process (codec : MarkerCodec) (e : Paced) (t : Turn) :
    (e.step codec t).process = e.process.step codec t := by
  unfold step
  simp only
  split <;> rfl

theorem step_eq {ready : StateMachine} {effects : List LoopEffect}
    (running : e.process.status = .running)
    (preluded : e.process.machine.prelude codec t = some (ready,effects)) :
    e.step codec t =
      { process := e.process.step codec t
        last := ((e.process.launch codec t).map
          (fun hash => ⟨hash,ready.session.consecutiveJvmRestarts⟩)).or e.last
        enteredAt :=
          if (e.process.step codec t).machine.state = .restarting ∧ ready.state ≠ .restarting
          then t.later.mono else e.enteredAt
        waited :=
          if ready.state = .restarting ∧ (ready.select t).1 = .transitioned (.ok .launching) then
            decide (backoffDelay ready.config ready.session.consecutiveJvmRestarts ≤
              ((t.schedule.answers.now 0).durationSince e.enteredAt).asSecs)
          else (e.process.launch codec t).isNone && e.waited } := by
  unfold step
  rw [running,preluded]

end Paced

section Unattended

variable {codec : MarkerCodec} {p : Process} {t : Turn} {ready : StateMachine}
  {effects : List LoopEffect}

/-- Nothing but the end of the process moves a machine that nobody attends to. -/
theorem moves_unattended {interrupt : Interrupt} {target : State}
    (unattended : p.Unattended t) (paces : p.KeepsPace codec t)
    (running : p.status = .running) (preluded : p.machine.prelude codec t = some (ready,effects))
    (taken : (ready.select t).1 = .interrupted interrupt)
    (moves : interrupt.Moves ready.state target) : target = .shutdown := by
  cases interrupt with
  | signal signal =>
    cases signal with
    | recoveryGaveUp mode entered => exact absurd moves id
    | _ => exact moves
  | command command =>
    have sent := unattended.1
    rw [StateMachine.select_interrupt taken] at sent
    cases sent
  | coldRestart signal =>
    cases signal with
    | fire =>
      have dormant := (paces.2 ready effects running preluded).1 taken
      rw [moves.1] at dormant
      cases dormant
    | skipped reason => exact absurd moves id
  | agentEvent event => exact absurd moves id

/-- The hash and the count that the prelude hands on. -/
theorem handed_on (preluded : p.machine.prelude codec t = some (ready,effects)) :
    ready.session.warmRestartPending = p.machine.session.warmRestartPending ∧
      ready.session.consecutiveJvmRestarts = p.machine.session.consecutiveJvmRestarts ∧
      ready.session.stateEnteredAt = p.machine.session.stateEnteredAt := by
  have carried := StateMachine.prelude_carried preluded
  exact ⟨congrArg (fun c : Lasting × Instant => c.1.warmRestartPending) carried,
    congrArg (fun c : Lasting × Instant => c.1.consecutiveJvmRestarts) carried,
    congrArg Prod.snd carried⟩

theorem prelude_unconnected (unattended : p.Unattended t)
    (preluded : p.machine.prelude codec t = some (ready,effects)) : ready.state ≠ .connected := by
  intro connected
  refine unattended.2 ((StateMachine.state_of_prelude preluded ?_ ?_).trans connected)
  · rw [connected]
    decide
  · rw [connected]
    decide

/-- What the handler leaves of the hash and the count, away from Connected. -/
theorem handled (unattended : p.Unattended t) (paces : p.KeepsPace codec t)
    (preluded : p.machine.prelude codec t = some (ready,effects)) :
    ((ready.select t).2.1.session.warmRestartPending ≠ none →
        p.machine.session.warmRestartPending ≠ none) ∧
      p.machine.session.consecutiveJvmRestarts ≤
        (ready.select t).2.1.session.consecutiveJvmRestarts := by
  obtain ⟨hash,restarts,-⟩ := handed_on preluded
  have away := prelude_unconnected unattended preluded
  have selected := StateMachine.select_hash ready t
  have none : ready.exitFound t = none := by
    rw [StateMachine.exitFound,if_neg (fun found => away found.1)]
  rw [none] at selected
  refine ⟨fun pending absent => ?_,?_⟩
  · rcases selected with forgot | kept
    · exact pending forgot
    · exact pending (kept.trans (hash.trans absent))
  · have room := paces.1
    rw [← restarts] at room ⊢
    exact StateMachine.select_restarts away room

end Unattended

namespace Paced

variable {codec : MarkerCodec} {e : Paced} {t : Turn} {ready : StateMachine}
  {effects : List LoopEffect} {last : Launch}

/-- An iteration that leaves the state alone. -/
theorem between_unmoved (unattended : e.process.Unattended t)
    (paces : e.process.KeepsPace codec t) (running : e.process.status = .running)
    (preluded : e.process.machine.prelude codec t = some (ready,effects))
    (launches : e.process.launch codec t = none) (between : e.Between last)
    (state : (e.process.step codec t).machine.state = ready.state)
    (remembered : (e.process.step codec t).machine.session.remembered =
      (ready.select t).2.1.session.remembered)
    (back : (e.process.step codec t).machine.session.returnState =
      (ready.select t).2.1.session.returnState)
    (stays : ∀ next, (ready.select t).1 = .transitioned (.ok next) → next = ready.state) :
    (e.step codec t).Between last := by
  by_cases parks : ready.state = .waitingForLaunch
  · refine .parked ?_
    rw [step_eq running preluded]
    exact state.trans parks
  have placed : ready.place = e.process.machine.place := by
    rcases StateMachine.prelude_place preluded with same | parked
    · exact same
    · exact absurd parked parks
  obtain ⟨pending,grows⟩ := handled unattended paces preluded
  obtain ⟨hash,restarts,-,at_⟩ := remembered_parts remembered
  have unleft : ¬ (ready.state = .restarting ∧
      (ready.select t).1 = .transitioned (.ok .launching)) := by
    rintro ⟨here,returned⟩
    have same := (stays _ returned).trans here
    cases same
  have unentered : ¬ ((e.process.step codec t).machine.state = .restarting ∧
      ready.state ≠ .restarting) := fun entered => entered.2 (state ▸ entered.1)
  rw [step_eq running preluded,launches,if_neg unleft,if_neg unentered]
  cases between with
  | parked parked =>
    obtain ⟨other,same,standing⟩ := @StateMachine.prelude_parked codec e.process.machine t parked
    rw [preluded] at same
    cases same
    exact absurd ((StateMachine.state_of_standing standing).trans parked) parks
  | due place cold waited grown =>
    have kept := StateMachine.place_stays state back stays (by rw [placed,place]; decide)
    refine .due ?_ ?_ ?_ ?_
    · exact kept.trans (placed.trans place)
    · by_contra still
      exact pending (hash ▸ still) cold
    · simpa using waited
    · exact lt_of_lt_of_le grown (grows.trans (le_of_eq restarts.symm))
  | pending place grown awaits entered =>
    have apart : ready.place ≠ .waitingForIB := by
      rw [placed]
      rintro waits
      simp [waits] at place
    have kept := (StateMachine.place_stays state back stays apart).trans placed
    refine .pending ?_ ?_ ?_ ?_
    · exact kept.symm ▸ place
    · exact grown.trans (grows.trans (le_of_eq restarts.symm))
    · exact fun still => kept.symm ▸ awaits (pending (hash ▸ still))
    · intro restarting
      have here : ready.state = .restarting := state.symm.trans restarting
      have before : e.process.machine.state = .restarting :=
        (StateMachine.state_of_prelude preluded (by rw [here]; decide)
          (by rw [here]; decide)).trans here
      exact at_.trans ((StateMachine.select_entered here).trans
        ((handed_on preluded).2.2.trans (entered before)))

/-- A state that is entered, other than Launching, is somewhere in between. -/
theorem between_arrived (running : e.process.status = .running)
    (preluded : e.process.machine.prelude codec t = some (ready,effects)) {next : State}
    (state : (e.process.step codec t).machine.state = StateMachine.settled next)
    (between : next ∉ [.launching,.init,.waitingForIB])
    (grows : last.restarts ≤ (e.process.step codec t).machine.session.consecutiveJvmRestarts)
    (awaits : (e.process.step codec t).machine.session.warmRestartPending ≠ none →
      next ∈ awaitsLogin)
    (entered : (e.process.step codec t).machine.session.stateEnteredAt = t.later.mono)
    (restarts : StateMachine.settled next = .restarting → ready.state ≠ .restarting) :
    (e.step codec t).Between last := by
  have apart : StateMachine.settled next ∉ [.launching,.init,.waitingForIB] := by
    cases next with
    | error message => exact (by decide : State.restarting ∉ [State.launching,.init,.waitingForIB])
    | _ => exact between
  have waits : (e.process.step codec t).machine.state ≠ .waitingForIB := by
    rw [state]
    intro same
    simp [same] at apart
  have place := (StateMachine.place_of_state waits).trans state
  rw [step_eq running preluded]
  refine .pending (place.symm ▸ apart) grows (fun still => ?_) fun restarting => ?_
  · have member := awaits still
    change (e.process.step codec t).machine.place ∈ awaitsLogin
    rw [place]
    cases next with
    | error message => simp [awaitsLogin] at member
    | _ => exact member
  · change (e.process.step codec t).machine.state = .restarting at restarting
    change (e.process.step codec t).machine.session.stateEnteredAt = if _ then _ else _
    rw [if_pos ⟨restarting,restarts (state.symm.trans restarting)⟩]
    exact entered

/-- Init and Launching come after no state but the ones that lead there. -/
theorem leads_to_launch {source next : State} (leads : source.LeadsTo next)
    (waits : source ≠ .waitingForIB) :
    next ≠ .init ∧ next ≠ .waitingForIB ∧
      (next = .launching → source = .init ∨ source = .restarting) := by
  have listed : .init ∉ source.successors ∧ .waitingForIB ∉ source.successors ∧
      (.launching ∈ source.successors → source = .init ∨ source = .restarting) := by
    cases source <;> simp [State.successors] at waits ⊢
  rcases leads with follows | fails
  · exact ⟨fun same => listed.1 (same ▸ follows),fun same => listed.2.1 (same ▸ follows),
      fun same => listed.2.2 (same ▸ follows)⟩
  · cases next with
    | error message => simp
    | _ => cases fails

/-- An iteration that enters another state without a launch. -/
theorem between_moved (unattended : e.process.Unattended t)
    (paces : e.process.KeepsPace codec t) (running : e.process.status = .running)
    (preluded : e.process.machine.prelude codec t = some (ready,effects))
    (launches : e.process.launch codec t = none) (between : e.Between last) {next : State}
    (returned : (ready.select t).1 = .transitioned (.ok next)) (apart : next ≠ ready.state)
    (state : (e.process.step codec t).machine.state = StateMachine.settled next)
    (kept : (e.process.step codec t).machine.session.warmRestartPending =
      if next ∈ [.shutdown,.waitingForLaunch] then none
      else (ready.select t).2.1.session.warmRestartPending)
    (restarts : (e.process.step codec t).machine.session.consecutiveJvmRestarts =
      (ready.select t).2.1.session.consecutiveJvmRestarts)
    (entered : (e.process.step codec t).machine.session.stateEnteredAt = t.later.mono) :
    (e.step codec t).Between last := by
  have parks : ready.state ≠ .waitingForLaunch := by
    intro parked
    obtain ⟨outcome,left,selected,ends⟩ := StateMachine.select_parked t parked
    rw [selected] at returned
    rcases ends with same | ⟨interrupt,-,same⟩
    · rw [same] at returned
      cases returned
      exact apart parked.symm
    · rw [same] at returned
      cases returned
  have placed : ready.place = e.process.machine.place := by
    rcases StateMachine.prelude_place preluded with same | parked
    · exact same
    · exact absurd parked parks
  obtain ⟨pending,grows⟩ := handled unattended paces preluded
  rw [← restarts] at grows
  have still : (e.process.step codec t).machine.session.warmRestartPending ≠ none →
      e.process.machine.session.warmRestartPending ≠ none := by
    intro after
    rw [kept] at after
    split at after
    · exact absurd rfl after
    · exact pending after
  -- Back from the wait for IB, the machine enters its place.
  have returns : ready.state = .waitingForIB → next = ready.place := by
    intro waits
    rcases StateMachine.select_waiting waits with ⟨-,stays⟩ | back
    · exact absurd ((stays next returned).trans waits.symm) apart
    · rw [returned] at back
      cases back
      rfl
  have leads : ready.state ≠ .waitingForIB → ready.state.LeadsTo next := by
    intro waits
    rcases StateMachine.select_leads returned with same | leads | ⟨back,-⟩
    · exact absurd same apart
    · exact leads
    · exact absurd back waits
  have due : next = .launching → ready.state ≠ .restarting → e.waited = true →
      e.process.machine.session.warmRestartPending = none →
      last.restarts < e.process.machine.session.consecutiveJvmRestarts →
      (e.step codec t).Between last := by
    rintro rfl away waited cold grown
    rw [step_eq running preluded]
    refine .due ?_ ?_ ?_ (lt_of_lt_of_le grown grows)
    · exact (StateMachine.place_of_state (by rw [state]; decide)).trans state
    · by_contra after
      exact still after cold
    · change (if ready.state = .restarting ∧ _ then _ else
        (e.process.launch codec t).isNone && e.waited) = true
      rw [if_neg (fun restarting => away restarting.1),launches]
      simpa using waited
  cases between with
  | parked parked =>
    obtain ⟨other,same,standing⟩ := @StateMachine.prelude_parked codec e.process.machine t parked
    rw [preluded] at same
    cases same
    exact absurd ((StateMachine.state_of_standing standing).trans parked) parks
  | due place cold waited grown =>
    rw [← placed] at place
    by_cases waits : ready.state = .waitingForIB
    · exact due ((returns waits).trans place) (by rw [waits]; decide) waited cold grown
    · have here : ready.state = .launching := (StateMachine.place_of_state waits).symm.trans place
      have follows := leads waits
      rw [here] at follows
      have between : next ∉ [.launching,.init,.waitingForIB] := by
        rcases follows with member | fails
        · rw [List.mem_singleton.mp member]
          decide
        · cases next with
          | error message => simp
          | _ => cases fails
      exact between_arrived running preluded state between (le_of_lt (lt_of_lt_of_le grown grows))
        (fun after => absurd cold (still after)) entered fun _ => by rw [here]; decide
  | pending place grown awaits began =>
    by_cases waits : ready.state = .waitingForIB
    · have same := (returns waits).trans placed
      rw [← same] at place awaits
      exact between_arrived running preluded state place (grown.trans grows)
        (fun after => awaits (still after)) entered fun _ => by rw [waits]; decide
    · have here := (StateMachine.place_of_state waits).symm.trans placed
      obtain ⟨init,waiting,launching⟩ := leads_to_launch (leads waits) waits
      have member : e.process.machine.session.warmRestartPending ≠ none →
          ready.state ∈ awaitsLogin := fun hash => here ▸ awaits hash
      by_cases launch : next = .launching
      · have restarting : ready.state = .restarting := by
          rcases launching launch with begins | restarting
          · rw [← here,begins] at place
            exact absurd place (by decide)
          · exact restarting
        subst launch
        have cold : e.process.machine.session.warmRestartPending = none := by
          by_contra hash
          have awaited := member hash
          rw [restarting] at awaited
          exact absurd awaited (by decide)
        obtain ⟨hash,count,at_⟩ := handed_on preluded
        have before := (StateMachine.state_of_prelude preluded waits parks).trans restarting
        have coldReady := hash.trans cold
        have room := paces.1
        rw [← count] at room
        obtain ⟨delayed,counted⟩ :=
          StateMachine.select_relaunches restarting coldReady room returned
        rw [restartDelay,if_neg (by simp [coldReady]),at_,began before] at delayed
        rw [step_eq running preluded]
        refine .due ?_ ?_ ?_ ?_
        · exact (StateMachine.place_of_state (by rw [state]; decide)).trans state
        · by_contra after
          exact still after cold
        · change (if ready.state = .restarting ∧ _ then _ else _) = true
          rw [if_pos ⟨restarting,returned⟩]
          exact decide_eq_true delayed
        · change last.restarts < (e.process.step codec t).machine.session.consecutiveJvmRestarts
          omega
      · refine between_arrived running preluded state (by simp [launch,init,waiting])
          (grown.trans grows) (fun after => ?_) entered fun settles restarting => ?_
        · have hash := still after
          refine StateMachine.select_awaiting (member hash) returned apart ?_ fun agent polled => ?_
          · rw [kept] at after
            split at after
            · exact absurd rfl after
            · exact after
          · exact (paces.2 ready effects running preluded).2 (Option.isSome_iff_ne_none.mpr hash)
              agent polled
        · rcases (StateMachine.select_restarting restarting).2 next returned with
            same | ⟨-,same | same⟩
          · exact apart (same.trans restarting.symm)
          · exact launch same
          · rw [same] at settles
            cases settles

theorem launched_of_launch {p : Process} {hash : Option String}
    (launches : p.launch codec t = some hash) :
    ∃ ready effects, p.status = .running ∧ p.machine.prelude codec t = some (ready,effects) ∧
      .handler (.gateway (.launched hash)) ∈ (ready.select t).2.2 := by
  obtain ⟨effect,member,same⟩ := List.exists_of_findSome?_eq_some launches
  unfold LoopEffect.launch at same
  split at same
  · cases same
    exact Process.turn_handled member
  · cases same

theorem backsOff (spaced : e.Spaced) : e.BacksOff codec t := by
  intro launches last found
  obtain ⟨hash,launched⟩ := Option.isSome_iff_exists.mp launches
  obtain ⟨ready,effects,running,preluded,did⟩ := launched_of_launch launched
  obtain ⟨here,-⟩ := StateMachine.select_launched did
  have before := (StateMachine.state_of_prelude preluded (by rw [here]; decide)
    (by rw [here]; decide)).trans here
  have place := @StateMachine.place_of_state e.process.machine (by rw [before]; decide)
  cases spaced running last found with
  | parked parked =>
    rw [before] at parked
    cases parked
  | due _ _ waited grown => exact ⟨waited,grown⟩
  | pending outside =>
    rw [place,before] at outside
    exact absurd outside (by decide)

theorem step_spaced (spaced : e.Spaced) (unattended : e.process.Unattended t)
    (paces : e.process.KeepsPace codec t) : (e.step codec t).Spaced := by
  intro runs last found
  rw [step_process] at runs
  obtain ⟨ready,effects,running,preluded⟩ := Process.running_of_step runs
  have iterated := Process.iterated (t := t) running preluded
  rw [step_eq running preluded] at found
  cases launches : e.process.launch codec t with
  | none =>
    rw [launches] at found
    have between := spaced running last found
    cases iterated with
    | interrupted interrupt taken moves remembered back status =>
      rcases moves with state | moves
      · refine between_unmoved unattended paces running preluded launches between state remembered
          back fun next returned => ?_
        rw [taken] at returned
        cases returned
      · rw [if_pos (moves_unattended unattended paces running preluded taken moves),runs] at status
        cases status
    | failed error ended =>
      rw [runs] at ended
      cases ended
    | stayed returned state remembered back =>
      refine between_unmoved unattended paces running preluded launches between state remembered
        back fun next other => ?_
      rw [returned] at other
      cases other
      rfl
    | moved next returned apart state kept restarts entered =>
      exact between_moved unattended paces running preluded launches between returned apart state
        kept restarts entered
  | some hash =>
    rw [launches] at found
    cases found
    obtain ⟨other,others,-,same,did⟩ := launched_of_launch launches
    rw [preluded] at same
    cases same
    obtain ⟨here,-,goes,session⟩ := StateMachine.select_launched did
    cases iterated with
    | interrupted interrupt taken =>
      rw [taken] at goes
      cases goes
    | failed error ended =>
      rw [runs] at ended
      cases ended
    | stayed returned =>
      rw [returned,here] at goes
      cases goes
    | moved next returned apart state kept restarts entered =>
      rw [returned] at goes
      cases goes
      rw [session] at restarts
      exact between_arrived running preluded state (by decide) (le_of_eq restarts.symm)
        (fun _ => by decide) entered fun settles => by cases settles

end Paced

/-- In every run that no operator attends to and that does not reach Connected, each launch but
the first comes after the delay and with a higher count, as long as no cold restart is taken
and no launch with a hash fails before its login. -/
theorem launches_back_off (codec : MarkerCodec) (p : Process) (turns : List Turn)
    (unattended : Runs.Along (Process.step codec) Process.Unattended p turns)
    (paces : Runs.Along (Process.step codec) (Process.KeepsPace codec) p turns) :
    Runs.Along (Paced.step codec) (fun e t => e.SpacesLaunches codec t ∧ e.BacksOff codec t)
      ⟨p,none,p.machine.session.stateEnteredAt,false⟩ turns := by
  have ghost := fun H => (@Runs.along_map _ _ (Process.step codec) _ (Paced.step codec)
    Paced.process (Paced.step_process codec) H ⟨p,none,p.machine.session.stateEnteredAt,false⟩ turns).mp
  have both := (Runs.along_and _ turns).mpr ⟨ghost _ unattended,ghost _ paces⟩
  have fresh : (⟨p,none,p.machine.session.stateEnteredAt,false⟩ : Paced).Spaced := by
    intro _ last found
    cases found
  refine both.strengthen (fun _ _ spaced met => Paced.step_spaced spaced met.1 met.2)
    (fun e t spaced _ => ?_) fresh
  have off := @Paced.backsOff codec e t spaced
  exact ⟨fun launches last found => .inl (off launches last found),off⟩

namespace Process

/-- Nothing is sent, the count has room and the agent does not fail. -/
def PacesQuietly (codec : MarkerCodec) (p : Process) (t : Turn) : Prop :=
  t.interrupt = none ∧ p.machine.session.consecutiveJvmRestarts < 2 ^ 32 - 1 ∧
    (p.machine.prelude codec t).map (fun ready =>
      decide (p.machine.session.warmRestartPending.isSome = true ∧
        ready.1.state = .waitingForAgent ∧
        AgentFails (ready.1.handlerSchedule t) ready.1.session)) ≠ some true

instance (codec : MarkerCodec) (p : Process) (t : Turn) : Decidable (p.PacesQuietly codec t) :=
  inferInstanceAs (Decidable (_ ∧ _ ∧ _))

theorem keepsPace_of_quiet {codec : MarkerCodec} {p : Process} {t : Turn}
    (quietly : p.PacesQuietly codec t) : p.KeepsPace codec t := by
  obtain ⟨quiet,room,agent⟩ := quietly
  refine ⟨room,fun ready effects _ preluded => ⟨fun taken => ?_,fun pending waits _ fails => ?_⟩⟩
  · have none := StateMachine.select_interrupt taken
    rw [quiet] at none
    cases none
  · rw [preluded] at agent
    exact agent (congrArg some (decide_eq_true ⟨pending,waits,fails⟩))

end Process

/-- The exit of a connection, with its hash. -/
def paperExited : Process := Runs.run (Process.step sampleCodec) paperLaunch autorestarted

/-- The Gateway is launched with the hash, is gone before its agent answers and launched again. -/
def failedWarm : List Turn :=
  [turnAt (sampleClocks 14501) none,turnAt (sampleClocks 14502) none,
    autorestartTurn (sampleClocks 14503),turnAt (sampleClocks 14504) none,
    turnAt (sampleClocks 14505) none]

theorem launches_unspaced :
    Runs.Along (Process.step sampleCodec) Process.Unattended paperExited failedWarm ∧
      ¬ Runs.Along (Paced.step sampleCodec) (Paced.SpacesLaunches sampleCodec)
        ⟨paperExited,none,paperExited.machine.session.stateEnteredAt,false⟩ failedWarm := by
  refine ⟨by decide +kernel,fun spaced => ?_⟩
  have again := ((Runs.along_append _ _ (failedWarm.take 4) (failedWarm.drop 4)).mp spaced).2.1
    (by decide +kernel) ⟨some "ibgateway/20260731",0⟩ rfl
  rcases again with ⟨waited,-⟩ | cold
  · exact absurd waited (by decide +kernel)
  · cases cold

/-- The Gateway is gone while its login is awaited: the second launch is a cold one. -/
def failedLogin : List Turn :=
  [turnAt (sampleClocks 14501) none,turnAt (sampleClocks 14502) none,
    turnAt (sampleClocks 14503) none,autorestartTurn (sampleClocks 14504),
    turnAt (sampleClocks 14510) none,turnAt (sampleClocks 14511) none]

theorem launches_back_off_cold :
    (Runs.run (History.step sampleCodec) ⟨paperExited,[]⟩ failedLogin).log =
        [.launched (some "ibgateway/20260731"),.launched none] ∧
      Runs.Along (Paced.step sampleCodec)
        (fun e t => e.SpacesLaunches sampleCodec t ∧ e.BacksOff sampleCodec t)
        ⟨paperExited,none,paperExited.machine.session.stateEnteredAt,false⟩ failedLogin := by
  have ran : (Runs.run (History.step sampleCodec) ⟨paperExited,[]⟩ failedLogin).log =
        [.launched (some "ibgateway/20260731"),.launched none] ∧
      Runs.Along (Process.step sampleCodec) Process.Unattended paperExited failedLogin ∧
      Runs.Along (Process.step sampleCodec) (Process.PacesQuietly sampleCodec)
        paperExited failedLogin := by
    decide +kernel
  obtain ⟨log,unattended,quietly⟩ := ran
  exact ⟨log,launches_back_off sampleCodec paperExited failedLogin unattended
    (quietly.mono fun _ _ => Process.keepsPace_of_quiet)⟩

end Ibctl.Machine
