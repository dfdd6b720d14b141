import Ibctl.StateMachine.Parked
import Ibctl.StateMachine.Stepping

/-! The waits for the operator. A ghost beside the process knows when the present wait had its
first tick and how many scheduled retries there were since the last connection. A wait begins
fresh as long as the one before it ended by a transition; the deadline of a retry is then the
first interval after the first tick. -/
namespace Ibctl.Machine
open Tasks Step Task Recovery

def Interrupt.abandonsHitl (interrupt : Interrupt) : Prop :=
  ∃ target, target ∉ [.waitingForHitl2fa,.shutdown] ∧ interrupt.Moves .waitingForHitl2fa target

namespace StateMachine

variable (sm : StateMachine)

/-- The first tick of the wait that is under way or, if it has not begun, of this turn. -/
def waitingSince (turn : Turn) (since : Option Instant) : Option Instant :=
  since.or (if sm.polls turn then some (turn.schedule.answers.now 0) else none)

def retriesHitl (turn : Turn) : Prop :=
  sm.state = .waitingForHitl2fa ∧ (sm.select turn).1 = .transitioned (.ok .restarting)

instance (turn : Turn) : Decidable (sm.retriesHitl turn) :=
  inferInstanceAs (Decidable (_ ∧ _))

def hitlEntered (turn : Turn) : Session :=
  ((enterHitl sm.config.twofa.backoff).start (sm.handlerSchedule turn) sm.session).state

/-- The bookkeeping of a wait that has just begun. -/
def BeginsHitl (turn : Turn) : Prop :=
  (sm.hitlEntered turn).hitlEnteredAt = some (turn.schedule.answers.now 0) ∧
    (sm.hitlEntered turn).hitlLoginFormObservationTicks = 0 ∧
    (sm.hitlEntered turn).hitlConnectedObservationTicks = 0 ∧
    (sm.config.twofa.backoff.strategy ∈ [HitlStrategy.periodic,.both] →
      ∀ minutes, sm.config.twofa.backoff.intervalsMinutes.head? = some minutes →
        ∃ deadline, (sm.hitlEntered turn).hitlNextRetryAt = some deadline ∧
          ((turn.schedule.answers.now 1).add (.fromSecs (minutes * 60))).nanos ≤ deadline.nanos)

end StateMachine

structure HitlWatch where
  process : Process
  since : Option Instant
  retries : Nat

namespace HitlWatch

variable (codec : MarkerCodec)

def step (w : HitlWatch) (t : Turn) : HitlWatch :=
  let after := w.process.step codec t
  match w.process.status,w.process.machine.prelude codec t with
  | .running,some (ready,_) =>
    { process := after
      since :=
        if ready.state = .waitingForHitl2fa ∧ after.machine.state = .waitingForHitl2fa then
          ready.waitingSince t w.since
        else none
      retries :=
        if after.machine.state = .connected then 0
        else if ready.retriesHitl t then w.retries + 1
        else w.retries }
  | _,_ => { w with process := after }

def start (process : Process) : HitlWatch := ⟨process,none,0⟩

/-- A wait that has begun is neither cut short for want of the IB system nor by a command. -/
def EndsByTransition (w : HitlWatch) (t : Turn) : Prop :=
  w.process.status = .running →
    (w.since ≠ none → w.process.machine.ibReachable t.now) ∧
    ∀ ready effects, w.process.machine.prelude codec t = some (ready,effects) →
      ready.state = .waitingForHitl2fa → ready.waitingSince t w.since ≠ none →
        ∀ interrupt, (ready.select t).1 = .interrupted interrupt → ¬ interrupt.abandonsHitl

/-- The first tick of a wait finds nothing of the one before. -/
def StartsFresh (w : HitlWatch) (t : Turn) : Prop :=
  w.process.status = .running → w.since = none →
    ∀ ready effects, w.process.machine.prelude codec t = some (ready,effects) →
      ready.state = .waitingForHitl2fa → ready.polls t = true → ready.BeginsHitl t

end HitlWatch

section Entry

/-- The first tick notes its instant and the first deadline; a later one changes nothing. -/
def Session.entersHitl (s : Session) (backoff : TwoFaBackoff) (answers : Answers) : Session :=
  if s.hitlEnteredAt.isNone then
    { s with
      hitlEnteredAt := some (answers.now 0)
      hitlIntervalsIndex := 0
      hitlLoginFormObservationTicks := 0
      hitlConnectedObservationTicks := 0
      hitlNextRetryAt :=
        computeNextHitlDeadline backoff.strategy backoff.intervalsMinutes 0 (answers.now 1) }
  else s

theorem enterHitl_apply (backoff : TwoFaBackoff) (schedule : Schedule Answers) (s : Session) :
    ∃ calls, enterHitl backoff schedule ⟨s,0,[]⟩ =
      (.ok (),⟨s.entersHitl backoff schedule.answers,calls,[]⟩) := by
  unfold enterHitl Session.entersHitl
  cases entered : s.hitlEnteredAt.isNone with
  | true =>
    refine ⟨2,?_⟩
    simp only [bind_apply,current,entered,if_true,ask,update]
  | false =>
    refine ⟨0,?_⟩
    simp only [bind_apply,current,entered,Bool.false_eq_true,if_false,pure_apply]

theorem computeNextHitlDeadline_first {strategy : HitlStrategy} {intervals : List Nat}
    (timed : strategy ∈ [HitlStrategy.periodic,.both]) {minutes : Nat}
    (first : intervals.head? = some minutes) (now : Instant) :
    computeNextHitlDeadline strategy intervals 0 now = some (now.add (.fromSecs (minutes * 60))) := by
  have timer : strategy = .periodic ∨ strategy = .both := by simpa using timed
  cases intervals with
  | nil => cases first
  | cons interval rest =>
    cases first
    simp [computeNextHitlDeadline,timer]

end Entry

namespace StateMachine

variable {codec : MarkerCodec} {sm : StateMachine} {turn : Turn}

theorem hitlEntered_eq (sm : StateMachine) (turn : Turn) :
    sm.hitlEntered turn =
      sm.session.entersHitl sm.config.twofa.backoff turn.schedule.answers := by
  obtain ⟨calls,applied⟩ :=
    enterHitl_apply sm.config.twofa.backoff (sm.handlerSchedule turn) sm.session
  unfold hitlEntered Task.start
  rw [applied,handlerSchedule_answers]

theorem beginsHitl_of_none (unentered : sm.session.hitlEnteredAt = none) : sm.BeginsHitl turn := by
  unfold BeginsHitl
  rw [hitlEntered_eq]
  unfold Session.entersHitl
  rw [if_pos (by simp [unentered])]
  refine ⟨rfl,rfl,rfl,fun timed minutes first => ?_⟩
  exact ⟨_,computeNextHitlDeadline_first timed first _,le_rfl⟩

theorem prelude_hitl {ready : StateMachine} {effects : List LoopEffect}
    (preluded : sm.prelude codec turn = some (ready,effects)) :
    ready.session.hitl = sm.session.hitl := by
  have ticked := hitl_of_aside (tickRecovery_aside preluded)
  rcases checks_aside sm turn with ⟨same,-⟩ | ⟨away,-⟩
  · exact ticked.trans (hitl_of_aside same)
  · exact ticked.trans (congrArg (fun aside => aside.2.2) away)

/-- While the IB system can be reached, the prelude leaves a wait for the operator alone. -/
theorem prelude_waits {ready : StateMachine} {effects : List LoopEffect}
    (preluded : sm.prelude codec turn = some (ready,effects)) (here : sm.state = .waitingForHitl2fa)
    (reachable : sm.ibReachable turn.now) : ready.state = .waitingForHitl2fa := by
  have there : (sm.checks turn).state = .waitingForHitl2fa := by
    rcases checks_aside sm turn with ⟨-,same⟩ | ⟨-,-,leaves⟩
    · exact same.trans here
    · exact absurd reachable leaves.1
  have dormant : (sm.checks turn).state.activeRecovery = false := by
    rw [there]
    rfl
  obtain ⟨ticked,same,standing⟩ := @tickRecovery_dormant codec _ turn dormant
  unfold prelude at preluded
  rw [same] at preluded
  cases preluded
  exact (state_of_standing standing).trans there

theorem select_hitl (away : sm.state = .waitingForHitl2fa → sm.polls turn = false) :
    (sm.select turn).2.1.session.hitl = sm.session.hitl := by
  cases polled : sm.polls turn with
  | false => rw [select_unpolled polled]
  | true =>
    have elsewhere : sm.state ≠ .waitingForHitl2fa := fun here => by simp [away here] at polled
    have permits : sm.Permits turn.schedule.answers
        (fun standby => standby.2.2 = sm.session.hitl) (fun _ => True) := by
      apply permits_of_writers
      · exact fun _ _ _ _ same => same
      · exact fun here => absurd here elsewhere
      · exact fun _ _ _ _ _ same => same
    exact select_beside permits rfl

theorem Stepped.hitl {after : Process} (stepped : Stepped sm turn after) :
    after.machine.session.hitl = (sm.select turn).2.1.session.hitl ∨
      after.machine.session.hitl = forgottenHitl := by
  have selected := hitl_of_aside (afterSelect_aside sm turn)
  cases stepped with
  | handled interrupt taken apart =>
    exact .inl ((hitl_of_aside (handleInterrupt_aside interrupt turn)).trans selected)
  | ended interrupt taken ends =>
    exact .inl ((hitl_of_aside (handleInterrupt_aside interrupt turn)).trans selected)
  | failed error taken => exact .inl selected
  | stayed taken status => exact .inl selected
  | moved next apart taken status =>
    have kept := (@applyTransition_kept (sm.afterSelect turn) next turn).2
    split at kept
    · exact .inr kept
    · exact .inl (kept.trans selected)

theorem Stepped.forgets {after : Process} (stepped : Stepped sm turn after)
    (here : sm.state = .waitingForHitl2fa)
    (kept : ∀ interrupt, (sm.select turn).1 = .interrupted interrupt → ¬ interrupt.abandonsHitl)
    (runs : after.status = .running) (leaves : after.machine.state ≠ .waitingForHitl2fa) :
    after.machine.session.hitl = forgottenHitl := by
  have there := (afterSelect_state sm turn).trans here
  cases stepped with
  | handled interrupt taken apart =>
    rcases (@handleInterrupt_moves (sm.afterSelect turn) interrupt turn).2 with same | moves
    · exact absurd (same.trans there) leaves
    · rw [there] at moves
      exact absurd ⟨_,by simp [leaves,apart],moves⟩ (kept interrupt taken)
  | ended interrupt taken ends => cases runs
  | failed error taken => cases runs
  | stayed taken status => exact absurd there leaves
  | moved next apart taken status =>
    rw [here] at apart
    have left := (@applyTransition_kept (sm.afterSelect turn) next turn).2
    rwa [if_pos ⟨there,apart⟩] at left

end StateMachine

namespace HitlWatch

variable {codec : MarkerCodec} {w : HitlWatch} {t : Turn}

@[simp] theorem step_process : (w.step codec t).process = w.process.step codec t := by
  unfold step
  split <;> rfl

theorem step_of_prelude {ready : StateMachine} {effects : List LoopEffect}
    (running : w.process.status = .running)
    (preluded : w.process.machine.prelude codec t = some (ready,effects)) :
    w.step codec t =
      { process := w.process.step codec t
        since :=
          if ready.state = .waitingForHitl2fa ∧
              (w.process.step codec t).machine.state = .waitingForHitl2fa then
            ready.waitingSince t w.since
          else none
        retries :=
          if (w.process.step codec t).machine.state = .connected then 0
          else if ready.retriesHitl t then w.retries + 1
          else w.retries } := by
  unfold step
  simp only [running,preluded]

/-- The ghost agrees with the machine: no bookkeeping is left of a wait that is over. -/
def Tracks (w : HitlWatch) : Prop :=
  w.process.status = .running →
    (w.since = none → w.process.machine.session.hitlEnteredAt = none) ∧
      (w.since ≠ none → w.process.machine.state = .waitingForHitl2fa)

theorem tracks_start {process : Process} (fresh : process.machine.session.hitlEnteredAt = none) :
    (start process).Tracks :=
  fun _ => ⟨fun _ => fresh,fun began => absurd rfl began⟩

theorem enteredAt_of_hitl {s s' : Session} (same : s.hitl = s'.hitl) :
    s.hitlEnteredAt = s'.hitlEnteredAt := congrArg HitlEpisode.enteredAt same

theorem step_tracks (tracks : w.Tracks) (ends : w.EndsByTransition codec t) :
    (w.step codec t).Tracks := by
  intro runs
  rw [step_process] at runs
  obtain ⟨ready,effects,running,preluded⟩ := Process.running_of_step runs
  have stepped := Process.stepped running preluded
  obtain ⟨blank,waits⟩ := tracks running
  obtain ⟨reachable,kept⟩ := ends running
  have before := StateMachine.prelude_hitl preluded
  rw [step_of_prelude running preluded]
  refine ⟨fun gone => ?_,fun began => ?_⟩
  · by_cases begun : ready.state = .waitingForHitl2fa ∧ ready.waitingSince t w.since ≠ none
    · -- The wait was under way, so it ends here, and by a transition.
      have leaves : (w.process.step codec t).machine.state ≠ .waitingForHitl2fa :=
        fun stays => begun.2 (by simpa [begun.1,stays] using gone)
      exact congrArg HitlEpisode.enteredAt
        (stepped.forgets begun.1 (kept ready effects preluded begun.1 begun.2) runs leaves)
    · -- No wait is under way, and none begins.
      have unbegun : w.since = none := by
        by_contra began
        have here := StateMachine.prelude_waits preluded (waits began) (reachable began)
        refine begun ⟨here,?_⟩
        cases since : w.since with
        | none => exact absurd since began
        | some at_ => simp [StateMachine.waitingSince]
      have quiet : ready.state = .waitingForHitl2fa → ready.polls t = false := by
        intro here
        cases polled : ready.polls t with
        | false => rfl
        | true => exact absurd ⟨here,by simp [StateMachine.waitingSince,unbegun,polled]⟩ begun
      rcases stepped.hitl with same | forgotten
      · exact (enteredAt_of_hitl ((same.trans (StateMachine.select_hitl quiet)).trans before)).trans
          (blank unbegun)
      · exact congrArg HitlEpisode.enteredAt forgotten
  · by_contra elsewhere
    have gone : ¬ (ready.state = .waitingForHitl2fa ∧
        (w.process.step codec t).machine.state = .waitingForHitl2fa) := fun both => elsewhere both.2
    exact began (if_neg gone)

theorem startsFresh_of_tracks (tracks : w.Tracks) : w.StartsFresh codec t := by
  intro running gone ready effects preluded here polled
  apply StateMachine.beginsHitl_of_none
  exact (enteredAt_of_hitl (StateMachine.prelude_hitl preluded)).trans ((tracks running).1 gone)

end HitlWatch

theorem start_session (codec : MarkerCodec) (config : Config) (recoveryConfig : RecoveryConfig)
    (files : Files.Directory) (settingsDir : String) (now : Clocks) :
    (Process.start codec config recoveryConfig files settingsDir now).machine.session =
      (StateMachine.new codec config recoveryConfig files settingsDir now).session :=
  StateMachine.gates_session _ now

/-- In every run that ends its waits for the operator by transitions, the first tick of each
finds its bookkeeping blank and sets it afresh. -/
theorem hitl_starts_fresh (codec : MarkerCodec) (config : Config) (recoveryConfig : RecoveryConfig)
    (files : Files.Directory) (settingsDir : String) (now : Clocks) (turns : List Turn)
    (ends : Runs.Along (HitlWatch.step codec) (HitlWatch.EndsByTransition codec)
      (.start (.start codec config recoveryConfig files settingsDir now)) turns) :
    Runs.Along (HitlWatch.step codec) (HitlWatch.StartsFresh codec)
      (.start (.start codec config recoveryConfig files settingsDir now)) turns := by
  apply ends.strengthen (P := HitlWatch.Tracks)
  · exact fun _ _ tracks kept => HitlWatch.step_tracks tracks kept
  · exact fun _ _ tracks _ => HitlWatch.startsFresh_of_tracks tracks
  · apply HitlWatch.tracks_start
    rw [start_session]
    rfl

/-- A site that retries ten minutes after the prompt was given up, then every hour. -/
def hitlConfig : Config :=
  { paperConfig with
    twofa :=
      { paperConfig.twofa with
        backoff := ⟨.restartThenHitl,3,.periodic,[10,60],.anyReach,300,true⟩ } }

def hitlStart : HitlWatch :=
  .start (.start sampleCodec hitlConfig .default Files.empty "/home/ibgateway/Jts" (sampleClocks 14400))

/-- The operator resumes a wait that has begun; the machine waits again five minutes later. -/
def hitlResumed : List Turn :=
  [turnAt (sampleClocks 14401) (some (.command (.setState "WaitingForHitl2fa"))),
    turnAt (sampleClocks 14402) none,
    turnAt (sampleClocks 14403) (some (.command .hitlResume)),
    turnAt (sampleClocks 14702) (some (.command (.setState "WaitingForHitl2fa"))),
    turnAt (sampleClocks 14703) none]

/-- The second wait takes the first one's entry for its own. -/
theorem hitl_resumed_stale :
    ¬ Runs.Along (HitlWatch.step sampleCodec) (HitlWatch.StartsFresh sampleCodec) hitlStart
      hitlResumed := by
  intro along
  have last := ((Runs.along_append _ _ (hitlResumed.take 4) (hitlResumed.drop 4)).mp along).2.1
  have seen : ((Runs.run (HitlWatch.step sampleCodec) hitlStart
      (hitlResumed.take 4)).process.machine.prelude sampleCodec (turnAt (sampleClocks 14703) none)).map
        (fun ready => (ready.1.state,ready.1.polls (turnAt (sampleClocks 14703) none),
          (ready.1.hitlEntered (turnAt (sampleClocks 14703) none)).hitlEnteredAt)) =
      some (.waitingForHitl2fa,true,some (sampleClocks 14402).mono) := by decide +kernel
  obtain ⟨⟨ready,effects⟩,preluded,same⟩ := Option.map_eq_some_iff.mp seen
  obtain ⟨state,rest⟩ := Prod.mk.inj same
  obtain ⟨polled,entered⟩ := Prod.mk.inj rest
  have fresh := last (by decide +kernel) (by decide +kernel) ready effects preluded state polled
  exact absurd (entered.symm.trans fresh.1) (by decide)

theorem HitlWatch.endsByTransition_of_quiet {codec : MarkerCodec} {w : HitlWatch} {t : Turn}
    (quiet : t.interrupt = none) (reachable : w.process.machine.ibReachable t.now) :
    w.EndsByTransition codec t := by
  intro _
  refine ⟨fun _ => reachable,fun ready effects _ _ _ interrupt taken => ?_⟩
  have none := StateMachine.select_interrupt taken
  rw [quiet] at none
  cases none

theorem HitlWatch.endsByTransition_of_away {codec : MarkerCodec} {w : HitlWatch} {t : Turn}
    (gone : w.since = none) (away : (w.process.machine.prelude codec t).map
      (fun ready => decide (ready.1.state = .waitingForHitl2fa)) = some false) :
    w.EndsByTransition codec t := by
  intro _
  refine ⟨fun began => absurd gone began,fun ready effects preluded here => ?_⟩
  rw [preluded] at away
  simp [here] at away

/-- The first retry is due after ten minutes; a later wait begins afresh. -/
def hitlRetried : List Turn :=
  [turnAt (sampleClocks 14401) (some (.command (.setState "WaitingForHitl2fa"))),
    turnAt (sampleClocks 14402) none,
    turnAt (sampleClocks 15002) none,
    turnAt (sampleClocks 15003) (some (.command (.setState "WaitingForHitl2fa"))),
    turnAt (sampleClocks 15004) none]

theorem hitl_starts_fresh_retried :
    (Runs.run (HitlWatch.step sampleCodec) hitlStart hitlRetried).process.machine.session.hitlEnteredAt =
        some (sampleClocks 15004).mono ∧
      Runs.Along (HitlWatch.step sampleCodec) (HitlWatch.StartsFresh sampleCodec) hitlStart
        hitlRetried := by
  refine ⟨by decide +kernel,hitl_starts_fresh sampleCodec hitlConfig .default Files.empty
    "/home/ibgateway/Jts" (sampleClocks 14400) hitlRetried ⟨?_,?_,?_,?_,?_,trivial⟩⟩
  · exact HitlWatch.endsByTransition_of_away rfl (by decide +kernel)
  · exact HitlWatch.endsByTransition_of_quiet rfl (by decide +kernel)
  · exact HitlWatch.endsByTransition_of_quiet rfl (by decide +kernel)
  · exact HitlWatch.endsByTransition_of_away (by decide +kernel) (by decide +kernel)
  · exact HitlWatch.endsByTransition_of_quiet rfl (by decide +kernel)

end Ibctl.Machine
