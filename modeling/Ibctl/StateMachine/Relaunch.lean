import Ibctl.StateMachine.Iteration
import Ibctl.StateMachine.Parked

/-! The restart. It waits for its delay, counts unless it is a warm one, and only then tears the
Gateway down; a restart that is dropped at one of the waits in between has counted and starts
again. -/
namespace Ibctl.Machine
open Tasks Step Task Recovery

section Restart

/-- The delay before a restart; a warm one has none. -/
def restartDelay (frame : Frame) (s : Session) : Nat :=
  if s.warmRestartPending.isSome then 0
  else min (saturatingMul frame.config.timing.restartDelaySecs
    (2 ^ min s.consecutiveJvmRestarts 4)) 900

/-- The restart does not wait any more. -/
def DelayPassed (frame : Frame) (answers : Answers) (s : Session) : Prop :=
  restartDelay frame s ≤ ((answers.now 0).durationSince s.stateEnteredAt).asSecs

instance (frame : Frame) (answers : Answers) (s : Session) : Decidable (DelayPassed frame answers s) :=
  inferInstanceAs (Decidable (_ ≤ _))

/-- The second phase of `do_restart`. -/
def relaunch (frame : Frame) (isWarmRestart : Bool) : Step State := do
  if !isWarmRestart then
    update fun s => { s with consecutiveJvmRestarts := saturatingSucc 32 s.consecutiveJvmRestarts }
    let s ← current
    let exitThreshold := frame.config.envUnsigned 32 "IBCTL_CONTAINER_EXIT_AFTER_RESTARTS" 8
    if 0 < exitThreshold ∧ exitThreshold ≤ s.consecutiveJvmRestarts then
      emit (.containerRecycle s.consecutiveJvmRestarts)
      return .shutdown
  tearDown
  return .launching

/-- What one relaunch makes of the lasting fields: a cold one counts. -/
def Lasting.relaunched (l : Lasting) : Lasting :=
  if l.warmRestartPending.isSome then l
  else { l with consecutiveJvmRestarts := saturatingSucc 32 l.consecutiveJvmRestarts }

variable {schedule : Schedule Answers} (frame : Frame)

theorem relaunch_counts (l : Lasting) :
    (relaunch frame l.warmRestartPending.isSome).Triple schedule (Steady fun m => m = l)
      (fun next s effects => Steady (fun m => m = l.relaunched) s effects ∧
        (next = .launching ∨ next = .shutdown))
      (Steady fun m => m = l.relaunched) := by
  have torn : (do tearDown; return .launching : Step State).Triple schedule
      (Steady fun m => m = l.relaunched)
      (fun next s effects => Steady (fun m => m = l.relaunched) s effects ∧
        (next = .launching ∨ next = .shutdown))
      (Steady fun m => m = l.relaunched) :=
    triple_bind tearDown_steady fun _ => triple_pure fun _ _ kept => ⟨kept,.inl rfl⟩
  unfold relaunch
  extract_lets threshold tears
  split
  next cold =>
    have counted : ∀ s : Session, s.lasting = l →
        ({ s with consecutiveJvmRestarts := saturatingSucc 32 s.consecutiveJvmRestarts }).lasting =
          l.relaunched := by
      rintro s rfl
      rw [Lasting.relaunched,if_neg (by simpa using cold)]
      rfl
    refine triple_bind (triple_update (Q := fun _ => Steady fun m => m = l.relaunched)
      fun s effects kept => ⟨counted s kept.1,kept.2⟩) fun _ => triple_bind keeps_current fun s => ?_
    split
    · exact triple_bind (keeps_routine rfl) fun _ => triple_pure fun _ _ kept => ⟨kept,.inr rfl⟩
    · exact torn
  next warm =>
    have same : l.relaunched = l := by
      have pending : l.warmRestartPending.isSome = true := by
        rwa [Bool.not_eq_true',Bool.not_eq_false] at warm
      rw [Lasting.relaunched,if_pos pending]
    rw [same] at torn ⊢
    exact torn

/-- The restart waits for its delay and then relaunches. -/
theorem doRestart_cases (s : Session) :
    (¬ DelayPassed frame schedule.answers s ∧
        (doRestart frame).start schedule s =
          ⟨if schedule.dropAt = some 1 then .error .dropped else .ok .restarting,s,[]⟩) ∨
      (DelayPassed frame schedule.answers s ∧ ∃ calls,
        doRestart frame schedule ⟨s,0,[]⟩ =
          relaunch frame s.warmRestartPending.isSome schedule ⟨s,calls,[]⟩) := by
  have unfolded : doRestart frame schedule ⟨s,0,[]⟩ =
      (if (!s.warmRestartPending.isSome && decide (0 < restartDelay frame s)) = true then
        (do
          if (← elapsed s.stateEnteredAt).asSecs < restartDelay frame s then
            sleep
            return .restarting
          relaunch frame s.warmRestartPending.isSome)
      else relaunch frame s.warmRestartPending.isSome : Step State) schedule ⟨s,0,[]⟩ := rfl
  unfold DelayPassed
  by_cases asks : (!s.warmRestartPending.isSome && decide (0 < restartDelay frame s)) = true
  · rw [if_pos asks] at unfolded
    have looked : doRestart frame schedule ⟨s,0,[]⟩ =
        (if ((schedule.answers.now 0).durationSince s.stateEnteredAt).asSecs < restartDelay frame s then
          (do sleep; return .restarting)
        else relaunch frame s.warmRestartPending.isSome : Step State) schedule ⟨s,1,[]⟩ := by
      rw [unfolded]
      exact bind_apply _ _ _ _
    by_cases early : ((schedule.answers.now 0).durationSince s.stateEnteredAt).asSecs <
        restartDelay frame s
    · rw [if_pos early] at looked
      refine .inl ⟨not_le.mpr early,?_⟩
      unfold Task.start
      rw [looked,bind_apply]
      unfold sleep await
      by_cases dropped : schedule.dropAt = some 1
      · simp [dropped]
      · simp [dropped,pure_apply]
    · rw [if_neg early] at looked
      exact .inr ⟨not_lt.mp early,1,looked⟩
  · have none : restartDelay frame s = 0 := by
      rw [Bool.and_eq_true,not_and,decide_eq_true_eq,not_lt] at asks
      by_cases warm : s.warmRestartPending.isSome = true
      · rw [restartDelay,if_pos warm]
      · exact Nat.le_zero.mp (asks (by simpa using warm))
    rw [if_neg asks] at unfolded
    exact .inr ⟨by rw [none]; exact Nat.zero_le _,0,unfolded⟩

/-- A run of the restart relaunches once its delay has passed, also where it is dropped, and
does nothing before. -/
theorem doRestart_outcome (s : Session) :
    ((doRestart frame).start schedule s).state.lasting =
        (if DelayPassed frame schedule.answers s then s.lasting.relaunched else s.lasting) ∧
      ∀ next, ((doRestart frame).start schedule s).result = .ok next → next = .restarting ∨
        (DelayPassed frame schedule.answers s ∧ (next = .launching ∨ next = .shutdown)) := by
  rcases @doRestart_cases schedule frame s with ⟨early,waits⟩ | ⟨passed,calls,relaunches⟩
  · rw [waits,if_neg early]
    refine ⟨rfl,fun next returned => .inl ?_⟩
    simp only at returned
    split at returned
    · cases returned
    · cases returned
      rfl
  · rw [if_pos passed]
    have counted := @relaunch_counts schedule frame s.lasting ⟨s,calls,[]⟩ ⟨rfl,by simp⟩
    have pending : s.lasting.warmRestartPending = s.warmRestartPending := rfl
    rw [pending] at counted
    unfold Task.start
    rw [relaunches]
    generalize relaunch frame s.warmRestartPending.isSome schedule ⟨s,calls,[]⟩ = outcome at counted ⊢
    obtain ⟨result,after⟩ := outcome
    cases result with
    | error stop => exact ⟨counted.1,fun next returned => by cases returned⟩
    | ok next =>
      refine ⟨counted.1.1,fun other returned => .inr ⟨passed,?_⟩⟩
      cases returned
      exact counted.2

end Restart

namespace StateMachine

variable {codec : MarkerCodec} {sm : StateMachine} {turn : Turn}

/-- The restart is polled with its delay behind it. -/
def pastDelay (sm : StateMachine) (turn : Turn) : Bool :=
  sm.polls turn && decide (DelayPassed sm.frame turn.schedule.answers sm.session)

theorem select_restarting (here : sm.state = .restarting) :
    (sm.select turn).2.1.session.lasting =
        (if sm.pastDelay turn then sm.session.lasting.relaunched else sm.session.lasting) ∧
      ∀ next, (sm.select turn).1 = .transitioned (.ok next) → next = .restarting ∨
        (sm.pastDelay turn = true ∧ (next = .launching ∨ next = .shutdown)) := by
  have restarts : sm.transition = mapEffects .gateway (doRestart sm.frame) := by
    rw [transition,here]
  unfold select
  split
  next polled =>
    have handler : ∃ schedule, schedule.answers = turn.schedule.answers ∧
        sm.runHandler turn = (mapEffects .gateway (doRestart sm.frame)).start schedule sm.session := by
      unfold runHandler
      rw [restarts]
      refine ⟨_,?_,rfl⟩
      split <;> rfl
    obtain ⟨schedule,answers,ran⟩ := handler
    obtain ⟨lasting,returned⟩ := @doRestart_outcome schedule sm.frame sm.session
    rw [answers] at lasting returned
    have passed : sm.pastDelay turn = decide (DelayPassed sm.frame turn.schedule.answers sm.session) := by
      simp [pastDelay,polled]
    rw [ran,start_mapEffects]
    simp only [passed,decide_eq_true_eq]
    split
    next next' ok =>
      exact ⟨lasting,fun next same => by cases same; exact returned next' ok⟩
    · exact ⟨lasting,fun next same => by cases same⟩
    · exact ⟨lasting,fun next same => by cases same⟩
    · exact ⟨lasting,fun next same => by cases same; exact .inl here⟩
  next unpolled =>
    have waits : sm.pastDelay turn = false := by
      simp [pastDelay,unpolled]
    rw [waits]
    split
    · exact ⟨rfl,fun next same => by cases same⟩
    · exact ⟨rfl,fun next same => by cases same; exact .inl here⟩

end StateMachine

namespace Process

variable (codec : MarkerCodec)

/-- The iteration runs in the state and leaves the machine in it: nothing happens, or the
handler is dropped for something that moves nothing. -/
def Stays (state : State) (p : Process) (t : Turn) : Prop :=
  ∃ ready effects, p.status = .running ∧ p.machine.prelude codec t = some (ready,effects) ∧
    ready.state = state ∧ (p.step codec t).machine.state = state ∧
    (p.step codec t).status = .running

def Returns (state next : State) (p : Process) (t : Turn) : Prop :=
  ∃ ready effects, p.status = .running ∧ p.machine.prelude codec t = some (ready,effects) ∧
    ready.state = state ∧ (ready.select t).1 = .transitioned (.ok next)

/-- From the entry into Restarting until Launching is returned. -/
def RelaunchCycle (p : Process) (turns : List Turn) (last : Turn) : Prop :=
  Runs.Along (step codec) (Stays codec .restarting) p turns ∧
    Returns codec .restarting .launching (Runs.run (step codec) p turns) last

def pastDelay (p : Process) (t : Turn) : Bool :=
  match p.machine.prelude codec t with
  | some (ready,_) => ready.pastDelay t
  | none => false

/-- The runs of the restart that were polled with the delay behind them. -/
def relaunches : Process → List Turn → Nat
  | _,[] => 0
  | p,t :: rest => (if p.pastDelay codec t then 1 else 0) + relaunches (p.step codec t) rest

variable {codec} {p : Process} {t : Turn}

theorem stays_restarting (stays : p.Stays codec .restarting t) :
    (p.step codec t).machine.session.lasting =
      if p.pastDelay codec t then p.machine.session.lasting.relaunched
      else p.machine.session.lasting := by
  obtain ⟨ready,effects,running,preluded,here,state,-⟩ := stays
  have away : ready.state ≠ .connected := by
    rw [here]
    decide
  have before : p.pastDelay codec t = ready.pastDelay t := by
    rw [pastDelay,preluded]
  have carried : ready.session.lasting = p.machine.session.lasting :=
    congrArg Prod.fst (StateMachine.prelude_carried preluded)
  rw [step_stays running preluded away (state.trans here.symm),before,← carried]
  exact (StateMachine.select_restarting here).1

theorem stays_relaunches {turns : List Turn}
    (stays : Runs.Along (step codec) (Stays codec .restarting) p turns) :
    (Runs.run (step codec) p turns).machine.session.lasting =
      Lasting.relaunched^[p.relaunches codec turns] p.machine.session.lasting := by
  induction turns generalizing p with
  | nil => rfl
  | cons t rest ih =>
    rw [Runs.run_cons,ih stays.2,stays_restarting stays.1,relaunches]
    split
    · rw [Nat.add_comm,Function.iterate_succ_apply]
    · rw [Nat.zero_add]

theorem returns_launching (returns : p.Returns codec .restarting .launching t) :
    (p.step codec t).machine.session.lasting = p.machine.session.lasting.relaunched := by
  obtain ⟨ready,effects,running,preluded,here,launches⟩ := returns
  obtain ⟨drained,settled,standing,-,-,lasting⟩ := StateMachine.afterPrelude_machine ready t
  have there := (StateMachine.state_of_standing standing).trans here
  obtain ⟨selected,returned⟩ := @StateMachine.select_restarting ready t here
  have passed : ready.pastDelay t = true := by
    rcases returned _ launches with same | ⟨passed,-⟩
    · cases same
    · exact passed
  rw [if_pos passed] at selected
  have away : ready.state ≠ .connected := by
    rw [here]
    decide
  have leaves : State.launching ≠ drained.state := by
    rw [there]
    decide
  have entered := congrArg Prod.fst
    (@StateMachine.applyTransition_carried drained .launching t)
  rw [step,turn_of_prelude running preluded]
  simp only [settled]
  rw [launches,StateMachine.settle_transitioned,if_pos leaves]
  refine entered.trans ?_
  rw [there,lasting away,selected]
  have carried : ready.session.lasting = p.machine.session.lasting :=
    congrArg Prod.fst (StateMachine.prelude_carried preluded)
  rw [carried]
  rfl

/-- The cycle counts each of its relaunches, the ones that were dropped as well. -/
theorem relaunchCycle_lasting {turns : List Turn} {last : Turn}
    (cycle : p.RelaunchCycle codec turns last) :
    (Runs.run (step codec) p (turns ++ [last])).machine.session.lasting =
      Lasting.relaunched^[p.relaunches codec turns + 1] p.machine.session.lasting := by
  rw [Runs.run_concat,returns_launching cycle.2,stays_relaunches cycle.1,
    Function.iterate_succ_apply']

end Process

section Count

theorem relaunched_warm {l : Lasting} (warm : l.warmRestartPending.isSome = true) (n : Nat) :
    Lasting.relaunched^[n] l = l := by
  have fixed : l.relaunched = l := if_pos warm
  exact Function.iterate_fixed fixed n

theorem relaunched_cold {l : Lasting} (cold : l.warmRestartPending = none) (n : Nat) :
    (Lasting.relaunched^[n + 1] l).consecutiveJvmRestarts =
      min (l.consecutiveJvmRestarts + n + 1) (2 ^ 32 - 1) := by
  have first : l.relaunched =
      { l with consecutiveJvmRestarts := saturatingSucc 32 l.consecutiveJvmRestarts } :=
    if_neg (by simp [cold])
  induction n generalizing l with
  | zero =>
    rw [Nat.zero_add,Function.iterate_one,first]
    rfl
  | succ n ih =>
    have counted : l.relaunched.consecutiveJvmRestarts =
        min (l.consecutiveJvmRestarts + 1) (2 ^ 32 - 1) := by
      rw [first]
      rfl
    have still : l.relaunched.warmRestartPending = none := by
      rw [first]
      exact cold
    rw [Function.iterate_succ_apply,ih still (if_neg (by simp [still])),counted]
    omega

/-- One cycle counts exactly once when it is a cold one, its count has room, and none of its
relaunches was dropped. -/
theorem counts_once_iff (l : Lasting) (n : Nat) :
    (Lasting.relaunched^[n + 1] l).consecutiveJvmRestarts = l.consecutiveJvmRestarts + 1 ↔
      l.warmRestartPending = none ∧ l.consecutiveJvmRestarts < 2 ^ 32 - 1 ∧
        (n = 0 ∨ l.consecutiveJvmRestarts + 1 = 2 ^ 32 - 1) := by
  cases pending : l.warmRestartPending with
  | some hash =>
    rw [relaunched_warm (by simp [pending])]
    simp
  | none =>
    rw [relaunched_cold pending,eq_self,true_and]
    omega

end Count

end Ibctl.Machine
