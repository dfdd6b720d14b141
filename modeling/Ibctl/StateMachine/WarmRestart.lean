import Ibctl.StateMachine.Iteration
import Ibctl.StateMachine.Parked

/-! The hash of a warm restart. The connected handler finds it at the exit of the Gateway; from
then on the next launch uses it, unless the machine comes to a clean boundary by a transition.
What does not come by a transition leaves it pending. -/
namespace Ibctl.Machine
open Tasks Step Task Recovery

/-- The wait for the agent ends in an error: the Gateway is gone, or the agent has been silent
for a minute. -/
def AgentFails (schedule : Schedule Answers) (s : Session) : Prop :=
  schedule.answers.isRunning 0 = false ∨
    (schedule.dropAt ≠ some 1 ∧ schedule.answers.health 1 ≠ .ok true ∧
      (schedule.answers.now 2).durationSince s.stateEnteredAt > .fromSecs 60)

instance (schedule : Schedule Answers) (s : Session) : Decidable (AgentFails schedule s) :=
  inferInstanceAs (Decidable (_ ∨ _))

theorem doWaitForAgent_fails {schedule : Schedule Answers} {s : Session} {message : String}
    (failed : (doWaitForAgent.start schedule s).result = .ok (.error message)) :
    AgentFails schedule s := by
  unfold AgentFails
  by_cases running : schedule.answers.isRunning 0 = false
  · exact .inl running
  rw [Bool.not_eq_false] at running
  unfold Task.start doWaitForAgent at failed
  simp only [bind_apply,ask,running,Bool.not_true,Bool.false_eq_true,if_false,await] at failed
  by_cases dropped : schedule.dropAt = some 1
  · simp [dropped] at failed
  rw [if_neg dropped] at failed
  refine .inr ⟨dropped,?_⟩
  by_cases late : (schedule.answers.now 2).durationSince s.stateEnteredAt > .fromSecs 60
  · refine ⟨fun healthy => ?_,late⟩
    simp [healthy,pure_apply] at failed
  · exfalso
    have waits : ∀ (waiting : Step State),
        waiting = (do
          let s ← current
          if (← elapsed s.stateEnteredAt) > .fromSecs 60 then
            return .error "Timed out waiting for agent health check"
          sleep
          return .waitingForAgent) →
        (waiting schedule ⟨s,1 + 1,[]⟩).1 ≠ .ok (.error message) := by
      rintro _ rfl
      simp only [bind_apply,current,elapsed,ask,pure_apply,if_neg late,sleep,await]
      by_cases slept : schedule.dropAt = some 3
      · simp [slept]
      · simp [slept]
    cases health : schedule.answers.health 1 with
    | error e =>
      rw [health] at failed
      exact waits _ rfl failed
    | ok healthy =>
      rw [health] at failed
      cases healthy with
      | true => simp [pure_apply] at failed
      | false => exact waits _ rfl failed

/-- With a hash pending, the login is only left without it. -/
theorem doWaitForLogin_left {schedule : Schedule Answers} (frame : Frame) (s : Session) {next : State}
    (returned : ((doWaitForLogin frame).start schedule s).result = .ok next)
    (leaves : next ≠ .waitingForLogin) :
    ((doWaitForLogin frame).start schedule s).state.warmRestartPending = none := by
  have left := (@doWaitForLogin_forgets (fun _ => True) schedule frame fun _ _ => trivial).start s
    ⟨trivial,by simp⟩
  rw [returned] at left
  exact left.2 leaves

/-- What happens to the hash of a warm restart. -/
inductive Mark where
  | exitFound (hash : Option String)
  | launched (hash : Option String)
  | stopped
  | restarted
  | coldRestarted
deriving DecidableEq, Repr

def LoopEffect.mark : LoopEffect → Option Mark
  | .handler (.gateway (.launched hash)) => some (.launched hash)
  | _ => none

/-- A cold restart is accepted where there is something to restart. -/
def Interrupt.marks (state : State) : Interrupt → List Mark
  | .command .stop => [.stopped]
  | .command .restart => [.restarted]
  | .coldRestart .fire => if StateMachine.coldRestartDormant state then [] else [.coldRestarted]
  | _ => []

def SelectOutcome.marks (state : State) : SelectOutcome → List Mark
  | .interrupted interrupt => interrupt.marks state
  | .transitioned _ => []

namespace StateMachine

/-- The exit that the connected handler finds in this iteration, if it looks and there is one. -/
def exitFound (sm : StateMachine) (turn : Turn) : Option (Option String) :=
  if sm.state = .connected ∧ sm.polls turn = true then
    Machine.exitFound (sm.handlerSchedule turn) sm.session
  else none

end StateMachine

namespace Process

variable (codec : MarkerCodec)

/-- What an iteration does about warm restarts, in order: the handler first, the interrupt that
was taken last. -/
def marks (p : Process) (t : Turn) : List Mark :=
  match p.status,p.machine.prelude codec t with
  | .running,some (ready,_) =>
    (ready.exitFound t).toList.map .exitFound ++ (p.turn codec t).effects.filterMap LoopEffect.mark ++
      (ready.select t).1.marks ready.state
  | _,_ => []

end Process

/-- A process with all that has happened to its hashes. -/
structure History where
  process : Process
  log : List Mark

namespace History

variable (codec : MarkerCodec)

def step (h : History) (t : Turn) : History :=
  ⟨h.process.step codec t,h.log ++ h.process.marks codec t⟩

end History

/-- It is over with the hash: another exit was found, the operator stopped or restarted, or a
cold restart was accepted. -/
def Mark.forgets : Mark → Bool
  | .launched _ => false
  | _ => true

/-- The hash was found at the last exit, and since then nobody stopped, restarted or
cold-restarted, nor was it launched with. -/
def Fresh (hash : String) (log : List Mark) : Prop :=
  ∃ earlier since, log = earlier ++ .exitFound (some hash) :: since ∧
    ∀ mark ∈ since, mark.forgets = false ∧ mark ≠ .launched (some hash)

namespace History

variable (codec : MarkerCodec)

/-- The iteration launches with a fresh hash, if it launches with one. -/
def LaunchesFresh (h : History) (t : Turn) : Prop :=
  ∀ hash, .launched (some hash) ∈ h.process.marks codec t → Fresh hash h.log

end History

/-- The states in which a launched Gateway is waited for with its hash still pending. -/
def awaitsLogin : List State := [.waitingForAgent,.waitingForLogin]

namespace Process

variable (codec : MarkerCodec)

/-- With a hash pending, the iteration takes no STOP, RESTART or cold restart, its wait for the
agent does not fail, and the coordinator does not give up between the launch and the login. -/
def SparesHash (p : Process) (t : Turn) : Prop :=
  ∀ ready effects, p.status = .running → p.machine.prelude codec t = some (ready,effects) →
    p.machine.session.warmRestartPending.isSome = true →
      (∀ interrupt, (ready.select t).1 = .interrupted interrupt →
        interrupt.marks ready.state = []) ∧
      (ready.state = .waitingForAgent → ready.polls t = true →
        ¬ AgentFails (ready.handlerSchedule t) ready.session) ∧
      (p.machine.place ∈ awaitsLogin → ready.state ≠ .waitingForLaunch)

end Process

def Interrupt.setsState : Interrupt → Bool
  | .command (.setState _) => true
  | _ => false

/-- Nobody sets the state by hand. -/
def Turn.SetsNoState (t : Turn) : Prop := t.interrupt.any Interrupt.setsState = false

instance (t : Turn) : Decidable t.SetsNoState := inferInstanceAs (Decidable (_ = _))

namespace Process

variable {codec : MarkerCodec} {p : Process} {t : Turn}

theorem marks_of_prelude {ready : StateMachine} {effects : List LoopEffect}
    (running : p.status = .running) (preluded : p.machine.prelude codec t = some (ready,effects)) :
    p.marks codec t = (ready.exitFound t).toList.map .exitFound ++
      (p.turn codec t).effects.filterMap LoopEffect.mark ++ (ready.select t).1.marks ready.state := by
  rw [marks,running,preluded]

theorem launched_of_effect {ready : StateMachine} {effects : List LoopEffect} {mark : Mark}
    (preluded : p.machine.prelude codec t = some (ready,effects))
    (member : mark ∈ (p.turn codec t).effects.filterMap LoopEffect.mark) :
    ∃ hash, mark = .launched hash ∧ .handler (.gateway (.launched hash)) ∈ (ready.select t).2.2 := by
  obtain ⟨effect,among,same⟩ := List.mem_filterMap.mp member
  unfold LoopEffect.mark at same
  split at same
  next hash =>
    cases same
    obtain ⟨other,others,-,other_preluded,did⟩ := turn_handled among
    rw [preluded] at other_preluded
    cases other_preluded
    exact ⟨hash,rfl,did⟩
  · cases same

theorem launched_of_mark {hash : Option String} (marked : .launched hash ∈ p.marks codec t) :
    ∃ ready effects, p.status = .running ∧ p.machine.prelude codec t = some (ready,effects) ∧
      .handler (.gateway (.launched hash)) ∈ (ready.select t).2.2 := by
  have interrupts : ∀ state (outcome : SelectOutcome), .launched hash ∉ outcome.marks state := by
    intro state outcome
    cases outcome with
    | transitioned result => exact List.not_mem_nil
    | interrupted interrupt =>
      simp only [SelectOutcome.marks,Interrupt.marks]
      split
      · simp
      · simp
      · split <;> simp
      · simp
  unfold marks at marked
  split at marked
  next ready effects running preluded =>
    refine ⟨ready,effects,running,preluded,?_⟩
    rcases List.mem_append.mp marked with early | late
    · rcases List.mem_append.mp early with found | member
      · simp at found
      · obtain ⟨other,same,did⟩ := launched_of_effect preluded member
        cases same
        exact did
    · exact absurd late (interrupts _ _)
  · exact absurd marked List.not_mem_nil

end Process

namespace StateMachine

variable {codec : MarkerCodec} {sm : StateMachine} {turn : Turn}

/-- An exit that is found brings its hash and a restart; nothing else brings a hash. -/
theorem select_hash (sm : StateMachine) (turn : Turn) :
    match sm.exitFound turn with
    | some found => (sm.select turn).1 = .transitioned (.ok .restarting) ∧
      (sm.select turn).2.1.session.warmRestartPending = found
    | none => (sm.select turn).2.1.session.warmRestartPending = none ∨
      (sm.select turn).2.1.session.warmRestartPending = sm.session.warmRestartPending := by
  by_cases connected : sm.state = .connected
  · cases polled : sm.polls turn with
    | false =>
      rw [exitFound,if_neg (by simp [polled])]
      exact .inr (by rw [select_unpolled polled])
    | true =>
      have connects : sm.transition = doConnected sm.frame := by
        rw [transition,connected]
      have ran : sm.runHandler turn = (doConnected sm.frame).start (sm.handlerSchedule turn)
          sm.session := by
        rw [← connects]
        rfl
      have exits := @doConnected_exit (sm.handlerSchedule turn) sm.frame sm.session
      rw [exitFound,if_pos ⟨connected,polled⟩]
      cases found : Machine.exitFound (sm.handlerSchedule turn) sm.session with
      | some hash =>
        rw [found] at exits
        exact ⟨select_returned polled (by rw [ran]; exact exits.1),
          by rw [select_session polled,ran]; exact exits.2⟩
      | none =>
        rw [found] at exits
        exact .inr (by rw [select_session polled,ran]; exact exits)
  · rw [exitFound,if_neg (by simp [connected])]
    exact select_keeps
      (J := fun l => l.warmRestartPending = none ∨
        l.warmRestartPending = sm.session.warmRestartPending) (.inr rfl) connected
      (fun _ _ _ => .inl rfl) (fun _ _ kept => kept) fun _ _ _ kept => kept

/-- An interrupt that has nothing to do with the hash ends the process or leaves a machine
that waits for its login alone. -/
theorem moves_awaiting {interrupt : Interrupt} {target : State}
    (awaits : sm.state ∈ awaitsLogin ∨ sm.state = .waitingForIB)
    (moves : interrupt.Moves sm.state target) (spares : interrupt.marks sm.state = [])
    (unset : interrupt.setsState = false) : target = .shutdown := by
  have apart : ∀ {state : State}, state ∉ awaitsLogin → state ≠ .waitingForIB → sm.state ≠ state := by
    rintro state outside waits rfl
    exact awaits.elim outside waits
  cases interrupt with
  | signal signal =>
    cases signal with
    | recoveryGaveUp mode entered => exact absurd moves id
    | _ => exact moves
  | command command =>
    cases command with
    | stop => cases spares
    | exit => exact moves
    | start => exact absurd moves.1 (apart (by decide) (by decide))
    | restart => cases spares
    | setState name => cases unset
    | hitlResume => exact absurd moves.1 (apart (by decide) (by decide))
    | _ => exact absurd moves id
  | coldRestart signal =>
    cases signal with
    | fire =>
      obtain ⟨accepted,-⟩ := moves
      simp only [Interrupt.marks,accepted] at spares
      cases spares
    | skipped reason => exact absurd moves id
  | agentEvent event => exact absurd moves id

/-- With its hash still pending, a machine that awaits its login goes on to await it. -/
theorem select_awaiting {next : State} (awaits : sm.state ∈ awaitsLogin)
    (returned : (sm.select turn).1 = .transitioned (.ok next)) (apart : next ≠ sm.state)
    (pending : (sm.select turn).2.1.session.warmRestartPending ≠ none)
    (agent : sm.state = .waitingForAgent → sm.polls turn = true →
      ¬ AgentFails (sm.handlerSchedule turn) sm.session) : next ∈ awaitsLogin := by
  obtain ⟨polled,result⟩ := runHandler_of_moves returned apart
  have ran : sm.runHandler turn = sm.transition.start (sm.handlerSchedule turn) sm.session := rfl
  simp only [awaitsLogin,List.mem_cons,List.not_mem_nil,or_false] at awaits
  rcases awaits with here | here
  · have waits : sm.transition = mapEffects .gateway doWaitForAgent := by
      rw [transition,here]
    rw [waits,start_mapEffects] at ran
    rw [ran] at result
    rcases doWaitForAgent_returns.start sm.session next result with follows | fails
    · simp only [State.successors,List.mem_cons,List.not_mem_nil,or_false] at follows
      rcases follows with rfl | rfl <;> decide
    · cases next with
      | error message => exact absurd (doWaitForAgent_fails result) (agent here polled)
      | _ => cases fails
  · have waits : sm.transition = mapEffects .gateway (doWaitForLogin sm.frame) := by
      rw [transition,here]
    rw [waits,start_mapEffects] at ran
    rw [select_session polled,ran] at pending
    rw [ran] at result
    exact absurd (doWaitForLogin_left sm.frame sm.session result (here ▸ apart)) pending

end StateMachine

namespace Process

variable {codec : MarkerCodec} {p : Process} {t : Turn}

/-- A machine whose place is a wait for the login, and whose hash stays pending, keeps such a
place. -/
theorem step_awaiting {ready : StateMachine} {effects : List LoopEffect}
    (running : p.status = .running) (preluded : p.machine.prelude codec t = some (ready,effects))
    (spares : p.SparesHash codec t) (unset : t.SetsNoState)
    (awaits : p.machine.place ∈ awaitsLogin)
    (pending : p.machine.session.warmRestartPending.isSome = true)
    (runs : (p.step codec t).status = .running)
    (still : (p.step codec t).machine.session.warmRestartPending ≠ none) :
    (p.step codec t).machine.place ∈ awaitsLogin := by
  obtain ⟨quiet,agent,halts⟩ := spares ready effects running preluded pending
  have placed : ready.place ∈ awaitsLogin := by
    rcases StateMachine.prelude_place preluded with same | parks
    · rw [same]
      exact awaits
    · exact absurd parks (halts awaits)
  have inside : ready.state ∈ awaitsLogin ∨ ready.state = .waitingForIB := by
    by_cases waits : ready.state = .waitingForIB
    · exact .inr waits
    · rw [StateMachine.place_of_state waits] at placed
      exact .inl placed
  have apart : ∀ state ∈ awaitsLogin, state ≠ .waitingForIB := by
    rintro _ member rfl
    exact absurd member (by decide)
  have plain : ∀ state ∈ awaitsLogin, StateMachine.settled state = state := by
    intro state member
    simp only [awaitsLogin,List.mem_cons,List.not_mem_nil,or_false] at member
    rcases member with rfl | rfl <;> rfl
  have keeps : (p.step codec t).machine.state = ready.state →
      (p.step codec t).machine.session.returnState = (ready.select t).2.1.session.returnState →
      (∀ next, (ready.select t).1 = .transitioned (.ok next) → next = ready.state) →
      (p.step codec t).machine.place ∈ awaitsLogin := by
    intro state back stays
    rw [StateMachine.place_stays state back stays (apart _ placed)]
    exact placed
  cases iterated running preluded with
  | interrupted interrupt taken moves remembered back status =>
    rcases moves with state | moves
    · exact keeps state back fun next returned => by rw [taken] at returned; cases returned
    · have named : interrupt.setsState = false := by
        rw [Turn.SetsNoState,StateMachine.select_interrupt taken] at unset
        exact unset
      have ends := StateMachine.moves_awaiting inside moves (quiet interrupt taken) named
      rw [if_pos ends,runs] at status
      cases status
  | failed error ended =>
    rw [runs] at ended
    cases ended
  | stayed returned state remembered back =>
    refine keeps state back fun next other => ?_
    rw [returned] at other
    cases other
    rfl
  | moved next returned away state pendingAfter restarts entered =>
    have member : next ∈ awaitsLogin := by
      rcases inside with member | waits
      · refine StateMachine.select_awaiting member returned away (fun forgot => still ?_) agent
        rw [pendingAfter,forgot]
        split <;> rfl
      · rcases StateMachine.select_waiting waits with ⟨-,stays⟩ | returns
        · exact absurd ((stays next returned).trans waits.symm) away
        · rw [returned] at returns
          cases returns
          exact placed
    rw [plain next member] at state
    rw [StateMachine.place_of_state (state ▸ apart _ member),state]
    exact member

end Process

namespace History

variable {codec : MarkerCodec} {h : History} {t : Turn}

/-- The hash comes from the last exit, nothing has put an end to it, and if it was launched
with, that login is still awaited. -/
def Standing (hash : String) (place : State) (log : List Mark) : Prop :=
  ∃ earlier since, log = earlier ++ .exitFound (some hash) :: since ∧
    (∀ mark ∈ since, mark.forgets = false) ∧ (.launched (some hash) ∈ since → place ∈ awaitsLogin)

def Accounted (h : History) : Prop :=
  h.process.status = .running → ∀ hash, h.process.machine.session.warmRestartPending = some hash →
    Standing hash h.process.machine.place h.log

theorem launchesFresh (accounted : h.Accounted) : h.LaunchesFresh codec t := by
  intro hash launched
  obtain ⟨ready,effects,running,preluded,did⟩ := Process.launched_of_mark launched
  obtain ⟨here,uses,-⟩ := StateMachine.select_launched did
  have pending : h.process.machine.session.warmRestartPending = some hash := by
    rw [uses]
    exact congrArg (fun c : Lasting × Instant => c.1.warmRestartPending)
      (StateMachine.prelude_carried preluded).symm
  obtain ⟨earlier,since,log,kept,used⟩ := accounted running hash pending
  refine ⟨earlier,since,log,fun mark member => ⟨kept mark member,?_⟩⟩
  rintro rfl
  have placed := used member
  rcases StateMachine.prelude_place preluded with same | parks
  · rw [← same,StateMachine.place_of_state (by rw [here]; decide),here] at placed
    exact absurd placed (by decide)
  · rw [here] at parks
    cases parks

theorem step_accounted (accounted : h.Accounted) (spares : h.process.SparesHash codec t)
    (unset : t.SetsNoState) : (h.step codec t).Accounted := by
  intro runs hash pendingAfter
  change (h.process.step codec t).status = .running at runs
  change (h.process.step codec t).machine.session.warmRestartPending = some hash at pendingAfter
  change Standing hash (h.process.step codec t).machine.place (h.log ++ h.process.marks codec t)
  obtain ⟨ready,effects,running,preluded⟩ := Process.running_of_step runs
  have iterated := Process.iterated (t := t) running preluded
  have selected := StateMachine.select_hash ready t
  have handled := iterated.pending runs pendingAfter
  rw [Process.marks_of_prelude running preluded]
  generalize launches : (h.process.turn codec t).effects.filterMap LoopEffect.mark = launched
  have launching : ∀ mark ∈ launched, ∃ hash, mark = .launched hash ∧
      .handler (.gateway (.launched hash)) ∈ (ready.select t).2.2 := by
    intro mark member
    rw [← launches] at member
    exact Process.launched_of_effect preluded member
  have kept : ∀ mark ∈ launched, mark.forgets = false := by
    intro mark member
    obtain ⟨hash,rfl,-⟩ := launching mark member
    rfl
  cases found : ready.exitFound t with
  | some exit =>
    -- The exit is the last mark: its handler launches nothing and was not interrupted.
    rw [found] at selected
    obtain ⟨restarts,sets⟩ := selected
    rw [handled] at sets
    subst sets
    rw [restarts]
    refine ⟨h.log,launched,by simp [SelectOutcome.marks],kept,fun member => ?_⟩
    obtain ⟨other,-,did⟩ := launching _ member
    have goes := (StateMachine.select_launched did).2.2.1
    rw [restarts] at goes
    cases goes
  | none =>
    rw [found] at selected
    have pending : h.process.machine.session.warmRestartPending = some hash := by
      have carried : ready.session.warmRestartPending =
          h.process.machine.session.warmRestartPending :=
        congrArg (fun c : Lasting × Instant => c.1.warmRestartPending)
          (StateMachine.prelude_carried preluded)
      rw [handled] at selected
      rcases selected with none | same
      · cases none
      · exact carried.symm.trans same.symm
    have quiet : (ready.select t).1.marks ready.state = [] := by
      cases outcome : (ready.select t).1 with
      | transitioned result => rfl
      | interrupted interrupt =>
        exact (spares ready effects running preluded (by simp [pending])).1 interrupt outcome
    obtain ⟨earlier,since,log,before,used⟩ := accounted running hash pending
    refine ⟨earlier,since ++ launched,by simp [log,quiet],fun mark member => ?_,fun member => ?_⟩
    · exact (List.mem_append.mp member).elim (before mark) (kept mark)
    · rcases List.mem_append.mp member with earlierLaunch | now
      · exact Process.step_awaiting running preluded spares unset (used earlierLaunch)
          (by simp [pending]) runs (by simp [pendingAfter])
      · obtain ⟨other,-,did⟩ := launching _ now
        obtain ⟨here,-,goes,-⟩ := StateMachine.select_launched did
        cases iterated with
        | interrupted interrupt taken => rw [taken] at goes; cases goes
        | failed error ended => rw [runs] at ended; cases ended
        | stayed returned =>
          rw [returned,here] at goes
          cases goes
        | moved next returned apart state =>
          rw [returned] at goes
          cases goes
          rw [StateMachine.place_of_state (by rw [state]; decide),state]
          decide

end History

/-- In every run without SETSTATE whose iterations all spare a pending hash, each launch with a
hash uses the one that was found at the last exit, and since then nobody has stopped, restarted
or cold-restarted the machine or launched with it. -/
theorem warm_restart_fresh (codec : MarkerCodec) (config : Config)
    (recoveryConfig : RecoveryConfig) (files : Files.Directory) (settingsDir : String)
    (now : Clocks) (turns : List Turn) (unset : ∀ t ∈ turns, t.SetsNoState)
    (spares : Runs.Along (Process.step codec) (Process.SparesHash codec)
      (Process.start codec config recoveryConfig files settingsDir now) turns) :
    Runs.Along (History.step codec) (History.LaunchesFresh codec)
      ⟨Process.start codec config recoveryConfig files settingsDir now,[]⟩ turns := by
  have fresh : (⟨Process.start codec config recoveryConfig files settingsDir now,[]⟩ :
      History).Accounted := by
    intro _ hash pending
    have gated := StateMachine.gates_session
      (StateMachine.new codec config recoveryConfig files settingsDir now) now
    change (StateMachine.gates _ now).session.warmRestartPending = some hash at pending
    rw [gated] at pending
    cases pending
  have ghost := (@Runs.along_map _ _ (Process.step codec) _ (History.step codec) History.process
    (fun _ _ => rfl) (Process.SparesHash codec)
    ⟨Process.start codec config recoveryConfig files settingsDir now,[]⟩ turns).mp spares
  have both := (Runs.along_and _ turns).mpr ⟨ghost,
    Runs.along_of_forall (G := fun _ t => t.SetsNoState) _ turns fun t member _ => unset t member⟩
  exact both.strengthen (fun _ _ accounted met => History.step_accounted accounted met.1 met.2)
    (fun _ _ accounted _ => History.launchesFresh accounted) fresh

def gatewayTurn (now : Clocks) (components : Json) : Turn :=
  { turnAt now none with
    schedule :=
      ⟨{ quietAnswers now with
          listWindows := fun _ => .ok [⟨⟨1⟩,"IBKR Gateway","ibgateway.GWClient",none⟩]
          dumpComponents := fun _ => .ok components },none⟩ }

/-- The Gateway has ended to restart itself. -/
def autorestartTurn (now : Clocks) : Turn :=
  { turnAt now none with
    schedule :=
      ⟨{ quietAnswers now with
          isRunning := fun _ => false
          findAutorestartPath := fun _ => some "ibgateway/20260731" },none⟩ }

def paperLaunch : Process :=
  Process.start sampleCodec paperConfig .default Files.empty "/home/ibgateway/Jts" (sampleClocks 14400)

/-- A login without a second factor, and the exit that ends the connection. -/
def autorestarted : List Turn :=
  [turnAt (sampleClocks 14401) none,turnAt (sampleClocks 14402) none,
    turnAt (sampleClocks 14403) none,gatewayTurn (sampleClocks 14404) .null,
    gatewayTurn (sampleClocks 14415) .null,
    gatewayTurn (sampleClocks 14416)
      (.object [("labels",.array [.string "API Server",.string "connected"])]),
    turnAt (sampleClocks 14417) none,autorestartTurn (sampleClocks 14500)]

def stoppedAndStarted : List Turn :=
  [turnAt (sampleClocks 14501) (some (.command .stop)),
    turnAt (sampleClocks 14502) (some (.command .start)),turnAt (sampleClocks 14503) none,
    turnAt (sampleClocks 14504) none]

theorem not_fresh_of_last {hash : String} {log : List Mark} {mark : Mark}
    (ends : mark.forgets = true) (other : mark ≠ .exitFound (some hash)) :
    ¬ Fresh hash (log ++ [mark]) := by
  rintro ⟨earlier,since,same,kept⟩
  rcases List.eq_nil_or_concat since with rfl | ⟨rest,last,rfl⟩
  · exact other (List.cons.inj (List.append_inj' same rfl).2).1
  · have split : log ++ [mark] = (earlier ++ .exitFound (some hash) :: rest) ++ [last] := by
      simpa using same
    have final := (List.append_inj' split rfl).2
    cases final
    have kept := (kept mark (by simp)).1
    rw [ends] at kept
    cases kept

/-- STOP leaves the hash of the exit pending, and START launches with it. -/
theorem warm_restart_stale :
    (∀ t ∈ autorestarted ++ stoppedAndStarted, t.SetsNoState) ∧
      ¬ Runs.Along (History.step sampleCodec) (History.LaunchesFresh sampleCodec) ⟨paperLaunch,[]⟩
        (autorestarted ++ stoppedAndStarted) := by
  refine ⟨by decide,fun fresh => ?_⟩
  have split : autorestarted ++ stoppedAndStarted =
      (autorestarted ++ stoppedAndStarted.take 3) ++ stoppedAndStarted.drop 3 := by
    simp [stoppedAndStarted]
  rw [split] at fresh
  have last := ((Runs.along_append _ _ _ _).mp fresh).2.1
  have launches : .launched (some "ibgateway/20260731") ∈
      (Runs.run (History.step sampleCodec) ⟨paperLaunch,[]⟩
        (autorestarted ++ stoppedAndStarted.take 3)).process.marks sampleCodec
          (turnAt (sampleClocks 14504) none) := by decide +kernel
  have log : (Runs.run (History.step sampleCodec) ⟨paperLaunch,[]⟩
      (autorestarted ++ stoppedAndStarted.take 3)).log =
        [.launched none,.exitFound (some "ibgateway/20260731")] ++ [.stopped] := by decide +kernel
  have stale := last _ launches
  rw [log] at stale
  exact not_fresh_of_last rfl (by decide) stale

namespace Process

/-- No hash is pending, or nothing is sent and the login is not awaited yet. -/
def SparesQuietly (codec : MarkerCodec) (p : Process) (t : Turn) : Prop :=
  p.machine.session.warmRestartPending = none ∨
    (t.interrupt = none ∧ p.machine.place ∉ awaitsLogin ∧
      (p.machine.prelude codec t).map (fun ready => ready.1.state) ≠ some .waitingForAgent)

instance (codec : MarkerCodec) (p : Process) (t : Turn) : Decidable (p.SparesQuietly codec t) :=
  inferInstanceAs (Decidable (_ ∨ _))

theorem sparesHash_of_quiet {codec : MarkerCodec} {p : Process} {t : Turn}
    (quietly : p.SparesQuietly codec t) : p.SparesHash codec t := by
  intro ready effects _ preluded pending
  rcases quietly with none | ⟨quiet,outside,apart⟩
  · rw [none] at pending
    cases pending
  rw [preluded] at apart
  refine ⟨fun interrupt taken => ?_,fun waits => absurd (congrArg some waits) apart,
    fun awaits => absurd awaits outside⟩
  have none := StateMachine.select_interrupt taken
  rw [quiet] at none
  cases none

end Process

/-- The same exit, with nobody in the way of the restart. -/
def restartedWarm : List Turn :=
  autorestarted ++ [turnAt (sampleClocks 14501) none,turnAt (sampleClocks 14502) none]

theorem warm_restart_fresh_undisturbed :
    (Runs.run (History.step sampleCodec) ⟨paperLaunch,[]⟩ restartedWarm).log =
        [.launched none,.exitFound (some "ibgateway/20260731"),
          .launched (some "ibgateway/20260731")] ∧
      Runs.Along (History.step sampleCodec) (History.LaunchesFresh sampleCodec) ⟨paperLaunch,[]⟩
        restartedWarm := by
  have quietly : Runs.Along (Process.step sampleCodec) (Process.SparesQuietly sampleCodec)
      paperLaunch restartedWarm := by decide +kernel
  exact ⟨by decide +kernel,warm_restart_fresh sampleCodec paperConfig .default Files.empty
    "/home/ibgateway/Jts" (sampleClocks 14400) restartedWarm (by decide)
    (quietly.mono fun _ _ => Process.sparesHash_of_quiet)⟩

end Ibctl.Machine
