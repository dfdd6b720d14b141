import Ibctl.StateMachine.HitlEpisodes

/-! The schedule of the retries. Each wait begins its list anew, so that every retry comes
after the first interval; it comes in time as long as no later interval is longer. -/
namespace Ibctl.Machine
open Tasks Step Task Recovery

/-- The interval the list prescribes before the retry of this number; its last one is held. -/
def TwoFaBackoff.scheduledMinutes (backoff : TwoFaBackoff) (retry : Nat) : Option Nat :=
  backoff.intervalsMinutes[min retry (backoff.intervalsMinutes.length - 1)]?

/-- The monotonic clock does not run backwards while a tick begins. -/
def Turn.ClockRunsOn (turn : Turn) : Prop :=
  (turn.schedule.answers.now 0).nanos ≤ (turn.schedule.answers.now 1).nanos

namespace HitlWatch

variable (codec : MarkerCodec)

/-- A retry comes due no earlier than its own interval after the first tick of its wait. -/
def RetriesInTime (w : HitlWatch) (t : Turn) : Prop :=
  w.process.status = .running →
    ∀ ready effects, w.process.machine.prelude codec t = some (ready,effects) →
      ready.retriesHitl t →
        ∃ since minutes deadline n, ready.waitingSince t w.since = some since ∧
          ready.config.twofa.backoff.scheduledMinutes w.retries = some minutes ∧
          (ready.hitlEntered t).hitlNextRetryAt = some deadline ∧
          (since.add (.fromSecs (minutes * 60))).nanos ≤ deadline.nanos ∧
          deadline.nanos ≤ (t.schedule.answers.now n).nanos

/-- Where the operator is waited for, the interval that is due is no longer than the first. -/
def FirstLongest (w : HitlWatch) : Prop :=
  w.process.machine.state = .waitingForHitl2fa → ∀ minutes first,
    w.process.machine.config.twofa.backoff.scheduledMinutes w.retries = some minutes →
    w.process.machine.config.twofa.backoff.intervalsMinutes.head? = some first → minutes ≤ first

end HitlWatch

section Handler

variable {schedule : Schedule Answers}

/-- The handler's own wait: who began, and when the retry is due. -/
def Waits (entered deadline : Option Instant) (s : Session) (_ : List Effect) : Prop :=
  s.hitlEnteredAt = entered ∧ s.hitlNextRetryAt = deadline

instance (entered deadline : Option Instant) : Stable (Waits entered deadline) where
  write s s' _ same waits := by
    have hitl := congrArg SessionLedger.hitl same
    exact ⟨(congrArg HitlEpisode.enteredAt hitl).trans waits.1,
      (congrArg HitlEpisode.nextRetryAt hitl).trans waits.2⟩
  emit _ _ _ _ waits := waits

def Due (schedule : Schedule Answers) (deadline : Option Instant) : Prop :=
  ∃ instant n, deadline = some instant ∧ instant.nanos ≤ (schedule.answers.now n).nanos

theorem hitlRetryDue_triple (backoff : TwoFaBackoff) (entered deadline : Option Instant) :
    (hitlRetryDue backoff).Triple schedule (Waits entered deadline)
      (fun due s effects => s.hitlEnteredAt = entered ∧
        (due = true → Due schedule deadline) ∧ (due = false → Waits entered deadline s effects))
      (Waits entered deadline) := by
  unfold hitlRetryDue
  apply triple_bind (R := fun s s' effects => s' = s ∧ Waits entered deadline s' effects)
  · exact triple_current fun s effects waits => ⟨rfl,waits⟩
  intro s
  cases scheduled : s.hitlNextRetryAt with
  | none =>
    apply triple_pure
    rintro s' effects ⟨rfl,waits⟩
    exact ⟨waits.1,by simp,fun _ => waits⟩
  | some instant =>
    apply triple_bind (R := fun now s' effects => (∃ n, now = schedule.answers.now n) ∧ s' = s ∧
      Waits entered deadline s' effects)
    · exact triple_ask fun n s' effects here => ⟨⟨n,rfl⟩,here⟩
    intro now
    split
    · apply triple_pure
      rintro s' effects ⟨-,rfl,waits⟩
      exact ⟨waits.1,by simp,fun _ => waits⟩
    next reached =>
      apply triple_bind (R := fun _ s' _ => s'.hitlEnteredAt = entered ∧ Due schedule deadline)
      · apply triple_ask
        rintro - s' effects ⟨⟨n,rfl⟩,rfl,waits⟩
        exact ⟨waits.1,instant,n,waits.2.symm.trans scheduled,by omega⟩
      intro deadlineFrom
      apply triple_bind (R := fun _ s' _ => s'.hitlEnteredAt = entered ∧ Due schedule deadline)
      · exact triple_update fun s' effects due => due
      intro _
      exact triple_pure fun s' effects due => ⟨due.1,fun _ => due.2,by simp⟩

/-- A tick leaves the wait as its beginning left it, or retries after its deadline. -/
theorem doWaitingForHitl2fa_waits (schedule : Schedule Answers) (frame : Frame) (s : Session) :
    ((doWaitingForHitl2fa frame).start schedule s).result = .ok .restarting ∧
        Due schedule (s.entersHitl frame.config.twofa.backoff schedule.answers).hitlNextRetryAt ∨
      ((doWaitingForHitl2fa frame).start schedule s).result ≠ .ok .restarting ∧
        Waits (s.entersHitl frame.config.twofa.backoff schedule.answers).hitlEnteredAt
          (s.entersHitl frame.config.twofa.backoff schedule.answers).hitlNextRetryAt
          ((doWaitingForHitl2fa frame).start schedule s).state [] := by
  obtain ⟨calls,begins⟩ := enterHitl_apply frame.config.twofa.backoff schedule s
  generalize s.entersHitl frame.config.twofa.backoff schedule.answers = entered at begins ⊢
  obtain ⟨rest,same,triple⟩ : ∃ rest : Unit → Step State,
      doWaitingForHitl2fa frame = (enterHitl frame.config.twofa.backoff >>= rest) ∧
        Triple schedule (Waits entered.hitlEnteredAt entered.hitlNextRetryAt) (rest ())
          (fun next s _ => next = .restarting ∧ Due schedule entered.hitlNextRetryAt ∨
            next ≠ .restarting ∧ Waits entered.hitlEnteredAt entered.hitlNextRetryAt s [])
          (Waits entered.hitlEnteredAt entered.hitlNextRetryAt) := by
    refine ⟨_,rfl,?_⟩
    have leaves : ∀ {next : State}, next ≠ .restarting →
        Triple schedule (Waits entered.hitlEnteredAt entered.hitlNextRetryAt) (pure next : Step State)
          (fun next s _ => next = .restarting ∧ Due schedule entered.hitlNextRetryAt ∨
            next ≠ .restarting ∧ Waits entered.hitlEnteredAt entered.hitlNextRetryAt s [])
          (Waits entered.hitlEnteredAt entered.hitlNextRetryAt) :=
      fun apart => triple_pure fun _ _ waits => .inr ⟨apart,waits⟩
    rw [if_neg (by simp [tryRecvColdRestart])]
    apply triple_bind (observeHitlLoginForm_keeps fun _ _ _ waits => waits)
    intro form
    split
    · exact leaves (by decide)
    apply triple_bind (observeHitlConnected_keeps fun _ _ _ waits => waits)
    intro connected
    split
    · exact leaves (by decide)
    apply triple_bind (hitlRetryDue_triple _ _ _)
    intro due
    cases due with
    | true => exact triple_pure fun _ _ retries => .inl ⟨rfl,retries.2.1 rfl⟩
    | false =>
      apply triple_bind (R := fun _ => Waits entered.hitlEnteredAt entered.hitlNextRetryAt)
      · exact triple_await (fun _ _ waits => waits.2.2 rfl) fun _ _ _ waits => waits.2.2 rfl
      intro _
      apply triple_bind keeps_sleep
      intro _
      exact leaves (by decide)
  rw [same]
  have reached := start_bind begins triple ⟨rfl,rfl⟩
  cases result : ((enterHitl frame.config.twofa.backoff >>= rest).start schedule s).result with
  | error stop =>
    rw [result] at reached
    exact .inr ⟨by simp,reached⟩
  | ok next =>
    rw [result] at reached
    rcases reached with ⟨rfl,due⟩ | ⟨apart,waits⟩
    · exact .inl ⟨rfl,due⟩
    · exact .inr ⟨by simpa using apart,waits⟩

end Handler

/-- A deadline, if there is one, is the first interval after the wait began. -/
def TwoFaBackoff.FirstAfter (backoff : TwoFaBackoff) (since : Instant) (deadline : Option Instant) :
    Prop :=
  ∀ instant, deadline = some instant → ∃ first, backoff.intervalsMinutes.head? = some first ∧
    (since.add (.fromSecs (first * 60))).nanos ≤ instant.nanos

theorem computeNextHitlDeadline_after (backoff : TwoFaBackoff) {since now : Instant}
    (forward : since.nanos ≤ now.nanos) :
    backoff.FirstAfter since
      (computeNextHitlDeadline backoff.strategy backoff.intervalsMinutes 0 now) := by
  intro instant scheduled
  unfold computeNextHitlDeadline at scheduled
  split at scheduled
  · cases intervals : backoff.intervalsMinutes with
    | nil => simp [intervals] at scheduled
    | cons first rest =>
      rw [intervals] at scheduled
      simp only [List.length_cons,Nat.zero_lt_succ,if_true,List.getElem?_cons_zero,Option.map_some,
        Option.some.injEq] at scheduled
      subst scheduled
      exact ⟨first,rfl,by simpa [Instant.add] using forward⟩
  · cases scheduled

namespace StateMachine

variable {codec : MarkerCodec} {sm : StateMachine} {turn : Turn}

/-- The bookkeeping of a wait that is under way, or begins with this tick. -/
def Underway (sm : StateMachine) (since : Instant) (s : Session) : Prop :=
  s.hitlEnteredAt ≠ none ∧ sm.config.twofa.backoff.FirstAfter since s.hitlNextRetryAt

theorem hitlEntered_underway {since : Option Instant} {began : Instant}
    (clock : turn.ClockRunsOn) (waiting : sm.waitingSince turn since = some began)
    (blank : since = none → sm.session.hitlEnteredAt = none)
    (underway : ∀ at_, since = some at_ → sm.Underway at_ sm.session) :
    sm.Underway began (sm.hitlEntered turn) := by
  rw [hitlEntered_eq]
  unfold waitingSince at waiting
  cases since with
  | some at_ =>
    cases waiting
    have entered := underway began rfl
    have same : sm.session.entersHitl sm.config.twofa.backoff turn.schedule.answers = sm.session := by
      unfold Session.entersHitl
      rw [if_neg (by simpa using entered.1)]
    rw [same]
    exact entered
  | none =>
    simp only [Option.none_or,Option.ite_none_right_eq_some,Option.some.injEq] at waiting
    obtain ⟨-,rfl⟩ := waiting
    unfold Session.entersHitl
    rw [if_pos (by simp [blank rfl])]
    exact ⟨by simp,computeNextHitlDeadline_after _ clock⟩

theorem runHandler_hitl (here : sm.state = .waitingForHitl2fa) (turn : Turn) :
    (sm.runHandler turn).result =
        ((doWaitingForHitl2fa sm.frame).start (sm.handlerSchedule turn) sm.session).result ∧
      (sm.runHandler turn).state =
        ((doWaitingForHitl2fa sm.frame).start (sm.handlerSchedule turn) sm.session).state := by
  have handler : sm.transition = mapEffects .gateway (doWaitingForHitl2fa sm.frame) := by
    unfold transition
    rw [here]
  have started := start_mapEffects ConnectedEffect.gateway (doWaitingForHitl2fa sm.frame)
    (sm.handlerSchedule turn) sm.session
  rw [← handler] at started
  exact ⟨congrArg Outcome.result started,congrArg Outcome.state started⟩

theorem retriesHitl_due (retries : sm.retriesHitl turn) :
    sm.polls turn = true ∧ Due turn.schedule (sm.hitlEntered turn).hitlNextRetryAt := by
  obtain ⟨here,taken⟩ := retries
  obtain ⟨polled,returned⟩ := runHandler_of_moves taken (by rw [here]; decide)
  refine ⟨polled,?_⟩
  rw [(runHandler_hitl here turn).1] at returned
  rw [hitlEntered_eq]
  have waits := doWaitingForHitl2fa_waits (sm.handlerSchedule turn) sm.frame sm.session
  rw [handlerSchedule_answers] at waits
  rcases waits with ⟨-,instant,n,deadline,reached⟩ | ⟨apart,-⟩
  · rw [handlerSchedule_answers] at reached
    exact ⟨instant,n,deadline,reached⟩
  · exact absurd returned apart

theorem select_underway {began : Instant} (here : sm.state = .waitingForHitl2fa)
    (polled : sm.polls turn = true) (stays : ¬ sm.retriesHitl turn)
    (underway : sm.Underway began (sm.hitlEntered turn)) :
    sm.Underway began (sm.select turn).2.1.session := by
  rw [select_session polled,(runHandler_hitl here turn).2]
  rw [hitlEntered_eq] at underway
  have waits := doWaitingForHitl2fa_waits (sm.handlerSchedule turn) sm.frame sm.session
  rw [handlerSchedule_answers] at waits
  rcases waits with ⟨returned,-⟩ | ⟨-,entered,deadline⟩
  · rw [← (runHandler_hitl here turn).1] at returned
    exact absurd ⟨here,select_returned polled returned⟩ stays
  · rw [Underway,entered,deadline]
    exact underway

/-- A wait that goes on was not retried, and kept what its tick made of the bookkeeping. -/
theorem Stepped.waitsOn {after : Process} (stepped : Stepped sm turn after)
    (here : sm.state = .waitingForHitl2fa) (stays : after.machine.state = .waitingForHitl2fa) :
    ¬ sm.retriesHitl turn ∧ after.machine.session.hitl = (sm.select turn).2.1.session.hitl := by
  have selected := hitl_of_aside (afterSelect_aside sm turn)
  have handled := fun interrupt =>
    (hitl_of_aside (@handleInterrupt_aside (sm.afterSelect turn) interrupt turn)).trans selected
  cases stepped with
  | handled interrupt taken apart => exact ⟨fun ⟨_,retried⟩ => by simp [taken] at retried,handled interrupt⟩
  | ended interrupt taken ends => exact ⟨fun ⟨_,retried⟩ => by simp [taken] at retried,handled interrupt⟩
  | failed error taken => exact ⟨fun ⟨_,retried⟩ => by simp [taken] at retried,selected⟩
  | stayed taken status => exact ⟨fun ⟨_,retried⟩ => by simp [taken,here] at retried,selected⟩
  | moved next apart taken status =>
    have entered := (@applyTransition_moves (sm.afterSelect turn) next turn).1.symm.trans stays
    cases next <;> first | exact absurd here.symm apart | cases entered

end StateMachine

namespace HitlWatch

variable {codec : MarkerCodec} {w : HitlWatch} {t : Turn}

/-- The deadline of a wait that has begun is its own. -/
def Punctual (w : HitlWatch) : Prop :=
  w.process.status = .running →
    ∀ since, w.since = some since → w.process.machine.Underway since w.process.machine.session

theorem underway_of_hitl {sm other : StateMachine} {since : Instant} {s s' : Session}
    (config : other.config = sm.config) (same : s'.hitl = s.hitl) (underway : sm.Underway since s) :
    other.Underway since s' := by
  rw [StateMachine.Underway,config,enteredAt_of_hitl same,
    show s'.hitlNextRetryAt = s.hitlNextRetryAt from congrArg HitlEpisode.nextRetryAt same]
  exact underway

theorem underway_of_prelude {ready : StateMachine} {effects : List LoopEffect} {began : Instant}
    (running : w.process.status = .running)
    (preluded : w.process.machine.prelude codec t = some (ready,effects)) (tracks : w.Tracks)
    (punctual : w.Punctual) (clock : t.ClockRunsOn)
    (waiting : ready.waitingSince t w.since = some began) :
    ready.Underway began (ready.hitlEntered t) := by
  have same := StateMachine.prelude_hitl preluded
  apply StateMachine.hitlEntered_underway clock waiting
  · exact fun gone => (enteredAt_of_hitl same).trans ((tracks running).1 gone)
  · intro at_ since
    exact underway_of_hitl (StateMachine.prelude_config preluded) same (punctual running at_ since)

theorem step_punctual (tracks : w.Tracks) (punctual : w.Punctual) (clock : t.ClockRunsOn) :
    (w.step codec t).Punctual := by
  intro runs began since
  rw [step_process] at runs
  obtain ⟨ready,effects,running,preluded⟩ := Process.running_of_step runs
  have stepped := Process.stepped running preluded
  rw [step_of_prelude running preluded] at since ⊢
  simp only [Option.ite_none_right_eq_some] at since
  obtain ⟨⟨here,stays⟩,waiting⟩ := since
  have config : (w.process.step codec t).machine.config = ready.config :=
    Process.step_config.trans (StateMachine.prelude_config preluded).symm
  have underway := underway_of_prelude running preluded tracks punctual clock waiting
  obtain ⟨waits,kept⟩ := stepped.waitsOn here stays
  cases polled : ready.polls t with
  | true =>
    exact underway_of_hitl config kept (StateMachine.select_underway here polled waits underway)
  | false =>
    have since : w.since = some began := by simpa [StateMachine.waitingSince,polled] using waiting
    rw [StateMachine.select_unpolled polled] at kept
    exact underway_of_hitl Process.step_config (kept.trans (StateMachine.prelude_hitl preluded))
      (punctual running began since)

theorem retriesInTime_of_punctual (tracks : w.Tracks) (punctual : w.Punctual)
    (clock : t.ClockRunsOn) (longest : w.FirstLongest) : w.RetriesInTime codec t := by
  intro running ready effects preluded retries
  obtain ⟨polled,instant,n,deadline,reached⟩ := StateMachine.retriesHitl_due retries
  obtain ⟨began,waiting⟩ : ∃ began, ready.waitingSince t w.since = some began := by
    unfold StateMachine.waitingSince
    rw [if_pos polled]
    cases w.since with
    | none => exact ⟨_,rfl⟩
    | some at_ => exact ⟨_,rfl⟩
  have underway := underway_of_prelude running preluded tracks punctual clock waiting
  obtain ⟨first,head,after⟩ := underway.2 instant deadline
  have there : w.process.machine.state = .waitingForHitl2fa := by
    rw [StateMachine.state_of_prelude preluded]
    · exact retries.1
    · rw [retries.1]
      decide
    · rw [retries.1]
      decide
  obtain ⟨minutes,scheduled⟩ :
      ∃ minutes, ready.config.twofa.backoff.scheduledMinutes w.retries = some minutes := by
    unfold TwoFaBackoff.scheduledMinutes
    cases intervals : ready.config.twofa.backoff.intervalsMinutes with
    | nil => simp [intervals] at head
    | cons interval rest =>
      refine ⟨_,List.getElem?_eq_getElem ?_⟩
      simp only [List.length_cons]
      omega
  have bounded : minutes ≤ first := by
    have config := StateMachine.prelude_config preluded
    rw [config] at scheduled head
    exact longest there minutes first scheduled head
  refine ⟨began,minutes,instant,n,waiting,scheduled,deadline,?_,reached⟩
  have earlier : (began.add (.fromSecs (minutes * 60))).nanos ≤
      (began.add (.fromSecs (first * 60))).nanos := by
    simp only [Instant.add,Duration.fromSecs]
    omega
  omega

end HitlWatch

/-- In every run that ends its waits for the operator by transitions and has no interval longer
than the first one due, every retry comes in time. -/
theorem hitl_retries_in_time (codec : MarkerCodec) (config : Config)
    (recoveryConfig : RecoveryConfig) (files : Files.Directory) (settingsDir : String)
    (now : Clocks) (turns : List Turn) (clock : ∀ turn ∈ turns, turn.ClockRunsOn)
    (ends : Runs.Along (HitlWatch.step codec)
      (fun w t => w.EndsByTransition codec t ∧ w.FirstLongest)
      (.start (.start codec config recoveryConfig files settingsDir now)) turns) :
    Runs.Along (HitlWatch.step codec) (HitlWatch.RetriesInTime codec)
      (.start (.start codec config recoveryConfig files settingsDir now)) turns := by
  have both := (Runs.along_and _ _).mpr ⟨ends,Runs.along_of_forall
    (G := fun _ turn => turn.ClockRunsOn) _ _ fun turn member _ => clock turn member⟩
  apply both.strengthen (P := fun w => w.Tracks ∧ w.Punctual)
  · intro w t ⟨tracks,punctual⟩ ⟨⟨kept,_⟩,forward⟩
    exact ⟨HitlWatch.step_tracks tracks kept,HitlWatch.step_punctual tracks punctual forward⟩
  · intro w t ⟨tracks,punctual⟩ ⟨⟨_,longest⟩,forward⟩
    exact HitlWatch.retriesInTime_of_punctual tracks punctual forward longest
  · refine ⟨HitlWatch.tracks_start ?_,fun _ since began => ?_⟩
    · rw [start_session]
      rfl
    · cases began

/-- A second wait, whose retry should come an hour after its beginning. -/
def hitlRetriedTwice : List Turn := hitlRetried ++ [turnAt (sampleClocks 15604) none]

/-- The second retry comes after the first interval again. -/
theorem hitl_retried_early :
    ¬ Runs.Along (HitlWatch.step sampleCodec) (HitlWatch.RetriesInTime sampleCodec) hitlStart
      hitlRetriedTwice := by
  intro along
  have last := ((Runs.along_append _ _ hitlRetried _).mp along).2.1
  have seen : ((Runs.run (HitlWatch.step sampleCodec) hitlStart
      hitlRetried).process.machine.prelude sampleCodec (turnAt (sampleClocks 15604) none)).map
        (fun ready => (decide (ready.1.retriesHitl (turnAt (sampleClocks 15604) none)),
          ready.1.waitingSince (turnAt (sampleClocks 15604) none)
            (Runs.run (HitlWatch.step sampleCodec) hitlStart hitlRetried).since,
          ready.1.config.twofa.backoff.scheduledMinutes
            (Runs.run (HitlWatch.step sampleCodec) hitlStart hitlRetried).retries,
          (ready.1.hitlEntered (turnAt (sampleClocks 15604) none)).hitlNextRetryAt)) =
      some (true,some (sampleClocks 15004).mono,some 60,some (sampleClocks 15604).mono) := by
    decide +kernel
  obtain ⟨⟨ready,effects⟩,preluded,same⟩ := Option.map_eq_some_iff.mp seen
  obtain ⟨retries,rest⟩ := Prod.mk.inj same
  obtain ⟨waiting,rest⟩ := Prod.mk.inj rest
  obtain ⟨scheduled,deadline⟩ := Prod.mk.inj rest
  obtain ⟨since,minutes,instant,n,began,due,next,early,-⟩ :=
    last (by decide +kernel) ready effects preluded (of_decide_eq_true retries)
  cases waiting.symm.trans began
  cases scheduled.symm.trans due
  cases deadline.symm.trans next
  exact absurd early (by decide)

theorem HitlWatch.firstLongest_of_none {w : HitlWatch} (first : w.retries = 0) : w.FirstLongest := by
  intro _ minutes head scheduled same
  unfold TwoFaBackoff.scheduledMinutes at scheduled
  rw [first,Nat.zero_min,← List.head?_eq_getElem?,same] at scheduled
  exact (Option.some.inj scheduled).ge

theorem hitl_retries_in_time_once :
    (Runs.run (HitlWatch.step sampleCodec) hitlStart (hitlRetried.take 3)).retries = 1 ∧
      Runs.Along (HitlWatch.step sampleCodec) (HitlWatch.RetriesInTime sampleCodec) hitlStart
        (hitlRetried.take 3) := by
  refine ⟨by decide +kernel,hitl_retries_in_time sampleCodec hitlConfig .default Files.empty
    "/home/ibgateway/Jts" (sampleClocks 14400) (hitlRetried.take 3) ?_ ⟨⟨?_,?_⟩,⟨?_,?_⟩,⟨?_,?_⟩,trivial⟩⟩
  · intro turn member
    simp only [hitlRetried,List.take,List.mem_cons,List.not_mem_nil,or_false] at member
    rcases member with rfl | rfl | rfl <;> exact le_rfl
  · exact HitlWatch.endsByTransition_of_away rfl (by decide +kernel)
  · exact HitlWatch.firstLongest_of_none rfl
  · exact HitlWatch.endsByTransition_of_quiet rfl (by decide +kernel)
  · exact HitlWatch.firstLongest_of_none (by decide +kernel)
  · exact HitlWatch.endsByTransition_of_quiet rfl (by decide +kernel)
  · exact HitlWatch.firstLongest_of_none (by decide +kernel)

end Ibctl.Machine
