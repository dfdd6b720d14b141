import Ibctl.Handlers.Registry
import Ibctl.StateMachine.EquivalentMarker

/-! Credentials and the wait the server asks for after a rejection. Two handlers test for it
before they do anything else. Three hand the windows they are shown to the registry without a
test, and its first two members fill in what they are handed. -/
namespace Ibctl.Machine
open Tasks Task Step Recovery

/-- The window is handed to a handler that types credentials into it. -/
def Effect.fillsIn : Effect → Bool
  | .dispatched window => Handlers.isCredential window
  | .dispatchedNamed handler _ => handler ∈ ["LoginHandler","TotpEntryHandler"]
  | _ => false

/-- The server's countdown is neither awaited nor running. -/
def TwofaRetry.Clear (retry : TwofaRetry) (now : Instant) : Prop :=
  retry.waitingForScreen = false ∧
    ∀ deadline, retry.notBefore = some deadline → deadline.nanos ≤ now.nanos

theorem clear_of_none (now : Instant) : TwofaRetry.Clear ⟨none,false⟩ now :=
  ⟨rfl,fun _ same => by cases same⟩

section Gates

variable {schedule : Schedule Answers}

abbrev Untyped : Session → List Effect → Prop := Beside (fun _ => True) fun e => e.fillsIn = false

abbrev Cleared : Session → List Effect → Prop :=
  Beside (fun standby => standby.2.1 = ⟨none,false⟩) fun _ => True

/-- What the gates stand for: nothing is typed before the wait is over. -/
def InTime (s : Session) (effects : List Effect) : Prop := Untyped s effects ∨ Cleared s effects

theorem untyped_routine (effect : Effect) (routine : effect.isRoutine = true) :
    effect.fillsIn = false := by
  cases effect with
  | dispatched window => cases routine
  | dispatchedNamed handler window => cases routine
  | _ => rfl

instance : Stable Untyped := stable_beside untyped_routine

instance : StableRetry Untyped := retry_beside fun _ _ _ _ _ => trivial

instance : Stable Cleared := stable_beside fun _ _ => trivial

instance : Submits Cleared := ⟨fun _ _ => beside_append trivial⟩

/-- The first gate is shut as long as the countdown has not been read. -/
theorem blocked_of_observed {here after : Local Session Effect} {blocked : Bool}
    (returned : waitForObservedTwofaRetry schedule here = (.ok blocked,after)) :
    blocked = here.state.twofaRetryWaitingForScreen ∧ (blocked = false → after = here) := by
  unfold waitForObservedTwofaRetry at returned
  rw [bind_apply] at returned
  dsimp only [current] at returned
  cases flag : here.state.twofaRetryWaitingForScreen with
  | false =>
    rw [flag] at returned
    cases returned
    exact ⟨rfl,fun _ => rfl⟩
  | true =>
    rw [flag,if_neg (by decide)] at returned
    have ends : Returns schedule (do sleep; return true : Step Bool) (· = true) :=
      returns_last fun _ => returns_pure rfl
    have shut : blocked = true := by
      refine returns_last (Q := (· = true)) (fun listed => ?_) here blocked
        (congrArg Prod.fst returned)
      refine returns_last fun windows => returns_last fun components => ?_
      split
      · exact returns_last fun now => returns_last fun _ => ends
      · exact ends
    exact ⟨shut,fun opened => absurd (shut.symm.trans opened) (by decide)⟩

theorem unwaited_of_open {here after : Local Session Effect}
    (opened : waitForObservedTwofaRetry schedule here = (.ok false,after)) :
    after.state.twofaRetryWaitingForScreen = false := by
  obtain ⟨unwaited,same⟩ := blocked_of_observed opened
  rw [same rfl]
  exact unwaited.symm

theorem waitForObservedTwofaRetry_gate : waitForObservedTwofaRetry.Triple schedule Untyped
    (fun blocked => if blocked then InTime
      else fun s effects => Untyped s effects ∧ s.twofaRetryWaitingForScreen = false) InTime := by
  intro here before
  have keeps : waitForObservedTwofaRetry.Keeps schedule Untyped := waitForObservedTwofaRetry_steady
  have kept := keeps.after here before
  rcases outcome : waitForObservedTwofaRetry schedule here with ⟨result,after⟩
  rw [outcome] at kept
  cases result with
  | error stop => exact .inl kept
  | ok blocked =>
    cases blocked with
    | true => exact .inl kept
    | false => exact ⟨kept,unwaited_of_open outcome⟩

/-- The second gate stays shut until the deadline has passed, and leaves none behind. -/
theorem waitForRetryDeadline_gate : waitForRetryDeadline.Triple schedule
    (fun s effects => Untyped s effects ∧ s.twofaRetryWaitingForScreen = false)
    (fun blocked => if blocked then InTime else Cleared) InTime := by
  have cleared : ∀ s effects, s.twofaRetryNotBefore = none → s.twofaRetryWaitingForScreen = false →
      Cleared s effects := by
    intro s effects deadline unwaited
    refine ⟨?_,fun _ _ => trivial⟩
    change TwofaRetry.mk s.twofaRetryNotBefore s.twofaRetryWaitingForScreen = _
    rw [deadline,unwaited]
  unfold waitForRetryDeadline
  refine triple_bind (R := fun s s' effects =>
    s' = s ∧ Untyped s' effects ∧ s'.twofaRetryWaitingForScreen = false)
    (triple_current fun s effects before => ⟨rfl,before⟩) fun s => ?_
  cases deadline : s.twofaRetryNotBefore with
  | none =>
    refine triple_pure fun s' effects before => ?_
    obtain ⟨rfl,-,unwaited⟩ := before
    exact cleared s' effects deadline unwaited
  | some instant =>
    refine triple_bind (R := fun _ s' effects =>
      Untyped s' effects ∧ s'.twofaRetryWaitingForScreen = false)
      (triple_ask fun n s' effects before => before.2) fun now => ?_
    split
    · refine triple_bind (R := fun _ => Untyped) (triple_await (fun s' effects before => .inl before.1)
        fun n s' effects before => before.1) fun _ => ?_
      exact triple_pure fun s' effects untyped => .inl untyped
    · refine triple_bind (R := fun _ => Cleared)
        (triple_update fun s' effects before => cleared _ effects rfl before.2) fun _ => ?_
      exact triple_pure fun _ _ holds => holds

theorem doAuthenticate_inTime :
    doAuthenticate.Triple schedule Untyped (fun _ => InTime) InTime :=
  doAuthenticate_gated waitForObservedTwofaRetry_gate waitForRetryDeadline_gate
    fun _ _ cleared => .inr cleared

theorem doWaitFor2fa_inTime (frame : Frame) :
    (doWaitFor2fa frame).Triple schedule Untyped (fun _ => InTime) InTime :=
  doWaitFor2fa_gated waitForObservedTwofaRetry_gate waitForRetryDeadline_gate
    (fun _ _ cleared => .inr cleared) frame

end Gates

namespace StateMachine

variable {codec : MarkerCodec} {sm : StateMachine} {turn : Turn}

/-- The windows that the handler of the present state hands to the registry untested. -/
def shown (sm : StateMachine) (schedule : Schedule Answers) : List WindowInfo :=
  match sm.state with
  | .handlingSessionConflict => (conflictShown schedule.answers 0).toList
  | .dismissingPopups => popupsShown schedule.answers sm.session.observation 0
  | .connected => connectedShown sm.frame schedule ⟨sm.session,0,[]⟩
  | _ => []

/-- What an untested handler hands over was shown to it, and what was noted of a rejected login
stays. -/
def Untested (sm : StateMachine) (schedule : Schedule Answers) : Session → List Effect → Prop :=
  Beside (fun standby => standby.2.1 = sm.session.retry) fun e =>
    e.fillsIn = true → ∃ window ∈ sm.shown schedule, Handlers.isCredential window = true

theorem untested_shown {schedule : Schedule Answers} {window : WindowInfo}
    (member : window ∈ sm.shown schedule) (s : Session) (effects : List Effect)
    (kept : sm.Untested schedule s effects) :
    sm.Untested schedule s (effects ++ [.dispatched window]) :=
  beside_append (fun fills => ⟨window,member,fills⟩) s effects kept

theorem transition_untested (schedule : Schedule Answers)
    (among : sm.state ∈ [.handlingSessionConflict,.dismissingPopups,.connected]) :
    All (fun s => s.retry = sm.session.retry) (ConnectedEffect.Lifts fun e =>
        e.fillsIn = true → ∃ window ∈ sm.shown schedule, Handlers.isCredential window = true)
      (sm.transition.start schedule sm.session).state
      (sm.transition.start schedule sm.session).effects := by
  have : Stable (sm.Untested schedule) := stable_beside fun effect routine fills => by
    rw [untyped_routine effect routine] at fills
    cases fills
  have gateway : ∀ {task : Step State}, task.KeepsFrom schedule (sm.Untested schedule) ⟨sm.session,0,[]⟩ →
      sm.transition = mapEffects .gateway task → sm.transition.KeepsFrom schedule
        (All (fun s => s.retry = sm.session.retry) (ConnectedEffect.Lifts fun e =>
          e.fillsIn = true → ∃ window ∈ sm.shown schedule, Handlers.isCredential window = true))
        ⟨sm.session,0,[]⟩ := by
    intro task kept handler
    rw [handler]
    exact keepsFrom_mapEffects (fun _ holds => holds) kept
  simp only [List.mem_cons,List.not_mem_nil,or_false] at among
  suffices kept : sm.transition.KeepsFrom schedule (All (fun s => s.retry = sm.session.retry)
      (ConnectedEffect.Lifts fun e =>
        e.fillsIn = true → ∃ window ∈ sm.shown schedule, Handlers.isCredential window = true))
      ⟨sm.session,0,[]⟩ from kept ⟨rfl,by simp⟩
  rcases among with state | state | state
  · refine gateway (doHandleSessionConflict_from fun window found => untested_shown ?_) ?_
    · rw [shown,state]
      exact Option.mem_toList.mpr found
    · rw [transition,state]
  · refine gateway (doDismissPopups_from fun window member => untested_shown ?_) ?_
    · rw [shown,state]
      exact member
    · rw [transition,state]
  · rw [transition,state]
    refine doConnected_from sm.frame (superviseConnection_from (I := sm.Untested schedule) sm.frame
      ?_ ?_ ?_) ?_ ?_
    · exact fun s revocation effects beside => beside_of_standby rfl effects beside
    · exact fun s hash effects beside => beside_of_standby rfl effects beside
    · intro window member
      apply untested_shown
      rw [shown,state]
      exact member
    · exact fun s n kept => kept
    · exact fun s b kept => kept

theorem transition_apart (schedule : Schedule Answers)
    (apart : sm.state ∉ [.handlingSessionConflict,.dismissingPopups,.connected,.authenticating,
      .waitingFor2fa]) :
    ∀ effect ∈ (sm.transition.start schedule sm.session).effects,
      effect.Lifts fun e => e.fillsIn = false := by
  simp only [List.mem_cons,List.not_mem_nil,or_false,not_or] at apart
  obtain ⟨conflict,popups,connected,authenticating,challenged⟩ := apart
  have permits : sm.Permits schedule.answers (fun _ => True) fun e => e.fillsIn = false :=
    { routine := untyped_routine
      launches := fun _ _ => rfl
      resumes := fun _ _ _ _ _ => trivial
      waits := fun _ _ _ _ _ _ => trivial
      retries := fun _ _ _ _ _ _ => trivial
      submits := fun here => (here.elim authenticating challenged).elim
      dispatches := fun here =>
        (here.elim conflict fun here => here.elim popups connected).elim }
  exact ((transition_beside permits).start sm.session ⟨trivial,by simp⟩).2

/-- Where the gates stand, the wait is over when something is typed. -/
theorem transition_gated (schedule : Schedule Answers)
    (among : sm.state = .authenticating ∨ sm.state = .waitingFor2fa) :
    (∀ effect ∈ (sm.transition.start schedule sm.session).effects,
        effect.Lifts fun e => e.fillsIn = false) ∨
      (sm.transition.start schedule sm.session).state.retry = ⟨none,false⟩ := by
  have gateway : ∀ {task : Step State}, sm.transition = mapEffects .gateway task →
      task.Triple schedule Untyped (fun _ => InTime) InTime →
      (∀ effect ∈ (sm.transition.start schedule sm.session).effects,
          effect.Lifts fun e => e.fillsIn = false) ∨
        (sm.transition.start schedule sm.session).state.retry = ⟨none,false⟩ := by
    intro task handler inTime
    rw [handler,start_mapEffects]
    refine (inTime.after ⟨sm.session,0,[]⟩ ⟨trivial,by simp⟩).imp (fun untyped => ?_) And.left
    intro effect member
    obtain ⟨named,typed,rfl⟩ := List.mem_map.mp member
    exact untyped.2 named typed
  rcases among with state | state
  · exact gateway (by rw [transition,state]) doAuthenticate_inTime
  · exact gateway (by rw [transition,state]) (doWaitFor2fa_inTime _)

/-- The handler waits for what the registry makes of the effect, if the select lets it come
so far. -/
def Awaits (sm : StateMachine) (turn : Turn) (effect : Effect) (n : Nat) : Prop :=
  sm.polls turn = true ∧ (∀ drop, (sm.handlerSchedule turn).dropAt = some drop → n ≤ drop) ∧
    sm.transition.WaitsAfter turn.schedule.answers sm.session (.gateway effect) n

/-- Whenever a handler of credentials has a window, the server's wait is over. -/
def SubmitsInTime (sm : StateMachine) (turn : Turn) : Prop :=
  ∀ effect n, sm.Awaits turn effect n → effect.fillsIn = true →
    (sm.transition.waits turn.schedule.answers sm.session n).state.retry.Clear
      (turn.schedule.answers.now n)

/-- No window that asks for credentials is handed over untested before the wait is over. -/
def ShowsNoneEarly (sm : StateMachine) (turn : Turn) : Prop :=
  sm.polls turn = true → ∀ dropAt, ∀ window ∈ sm.shown ⟨turn.schedule.answers,dropAt⟩,
    Handlers.isCredential window = true →
      ∀ n, sm.session.retry.Clear (turn.schedule.answers.now n)

theorem submitsInTime_of_shown (early : sm.ShowsNoneEarly turn) : sm.SubmitsInTime turn := by
  rintro effect n ⟨polled,-,-,last,-⟩ fills
  have did : .gateway effect ∈
      (sm.transition.start ⟨turn.schedule.answers,some n⟩ sm.session).effects :=
    List.mem_of_getLast? last
  by_cases untested : sm.state ∈ [.handlingSessionConflict,.dismissingPopups,.connected]
  · obtain ⟨kept,handed⟩ := transition_untested ⟨turn.schedule.answers,some n⟩ untested
    obtain ⟨window,member,asks⟩ := handed _ did fills
    change TwofaRetry.Clear (Session.retry _) _
    rw [waits,kept]
    exact early polled (some n) window member asks n
  · have typed : ¬ ∀ effect ∈
        (sm.transition.start ⟨turn.schedule.answers,some n⟩ sm.session).effects,
          effect.Lifts fun e => e.fillsIn = false := by
      intro apart
      have typed : effect.fillsIn = false := apart _ did
      rw [fills] at typed
      cases typed
    by_cases among : sm.state = .authenticating ∨ sm.state = .waitingFor2fa
    · have cleared := (transition_gated ⟨turn.schedule.answers,some n⟩ among).resolve_left typed
      change TwofaRetry.Clear (Session.retry _) _
      rw [waits,cleared]
      exact clear_of_none _
    · refine absurd (transition_apart ⟨turn.schedule.answers,some n⟩ ?_) typed
      simp only [List.mem_cons,List.not_mem_nil,or_false,not_or] at untested among ⊢
      exact ⟨untested.1,untested.2.1,untested.2.2,among⟩

end StateMachine

namespace Process

variable (codec : MarkerCodec)

def SubmitsInTime (p : Process) (t : Turn) : Prop :=
  p.status = .running → ∀ ready effects, p.machine.prelude codec t = some (ready,effects) →
    ready.SubmitsInTime t

def ShowsNoneEarly (p : Process) (t : Turn) : Prop :=
  p.status = .running → ∀ ready effects, p.machine.prelude codec t = some (ready,effects) →
    ready.ShowsNoneEarly t

end Process

/-- In every run in which no window that asks for credentials is handed over untested before
the wait is over, credentials are typed only after it. -/
theorem credentials_in_time (codec : MarkerCodec) (config : Config)
    (recoveryConfig : RecoveryConfig) (files : Files.Directory) (settingsDir : String)
    (now : Clocks) (turns : List Turn)
    (early : Runs.Along (Process.step codec) (Process.ShowsNoneEarly codec)
      (.start codec config recoveryConfig files settingsDir now) turns) :
    Runs.Along (Process.step codec) (Process.SubmitsInTime codec)
      (.start codec config recoveryConfig files settingsDir now) turns := by
  refine early.mono fun p turn shows running ready effects preluded => ?_
  exact StateMachine.submitsInTime_of_shown (shows running ready effects preluded)

def rejection : AgentEvent :=
  .errorDialog "Second Factor Authentication"
    (some "Invalid security code. Try again in 60 seconds.") ["OK"]

def challengeWindow : WindowInfo :=
  ⟨⟨7⟩,"Second Factor Authentication","javax.swing.JDialog",none⟩

/-- The challenge is listed, and whoever is handed it handles it. -/
def handledTurn (now : Clocks) : Turn :=
  { turnAt now none with
    schedule :=
      ⟨{ quietAnswers now with
          listWindows := fun _ => .ok [challengeWindow]
          dispatch := fun _ => some (.ok .handled)
          dispatchNamed := fun _ => some (.ok .handled) },none⟩ }

/-- The code is rejected while popups are dismissed, and the challenge listed again. -/
def rejectedPopup : List Turn :=
  autorestarted.take 4 ++
    [turnAt (sampleClocks 14405)
        (some (.agentEvent (.snapshot 1 [⟨1,"IBKR Gateway","ibgateway.GWFrame",false⟩]))),
      turnAt (sampleClocks 14406) (some (.agentEvent rejection)),handledTurn (sampleClocks 14407)]

/-- The dismissal of popups has a code entered a second after the rejection. -/
theorem code_entered_early :
    Handlers.LoginHandler.canHandle false challengeWindow = false ∧
      Handlers.TotpEntryHandler.canHandle challengeWindow = true ∧
      ¬ Runs.Along (Process.step sampleCodec) (Process.SubmitsInTime sampleCodec) paperLaunch
        rejectedPopup := by
  refine ⟨by decide +kernel,by decide +kernel,fun along => ?_⟩
  have last := ((Runs.along_append _ _ (rejectedPopup.take 6) (rejectedPopup.drop 6)).mp along).2.1
  obtain ⟨running,seen⟩ :
      let p := Runs.run (Process.step sampleCodec) paperLaunch (rejectedPopup.take 6)
      let t := handledTurn (sampleClocks 14407)
      p.status = .running ∧
        (p.machine.prelude sampleCodec t).map (fun ready => decide (ready.1.polls t = true ∧
            (ready.1.handlerSchedule t).dropAt = none ∧
            ready.1.transition.WaitsAfter t.schedule.answers ready.1.session
              (.gateway (.dispatched challengeWindow)) 2 ∧
            (ready.1.transition.waits t.schedule.answers ready.1.session 2).state.retry =
              ⟨some ⟨19468000000000⟩,false⟩)) = some true := by decide +kernel
  obtain ⟨⟨ready,effects⟩,preluded,facts⟩ := Option.map_eq_some_iff.mp seen
  obtain ⟨polled,undropped,waits,noted⟩ := of_decide_eq_true facts
  have awaits : ready.Awaits (handledTurn (sampleClocks 14407)) (.dispatched challengeWindow) 2 := by
    refine ⟨polled,fun drop dropped => ?_,waits⟩
    rw [undropped] at dropped
    cases dropped
  have clear := last running ready effects preluded (.dispatched challengeWindow) 2 awaits
    (by decide +kernel)
  rw [noted] at clear
  exact absurd (clear.2 _ rfl) (by decide +kernel)

def secretConfig : Config := { paperConfig with twofa := { paperConfig.twofa with hasSecret := true } }

def secretLaunch : Process :=
  Process.start sampleCodec secretConfig .default Files.empty "/home/ibgateway/Jts" (sampleClocks 14400)

def rejectedLogin : List Turn :=
  challenged.take 4 ++ [turnAt (sampleClocks 14405) (some (.agentEvent rejection)),
    handledTurn (sampleClocks 14406),handledTurn (sampleClocks 14480)]

namespace Process

/-- The handler of the iteration is none of those that hand windows over untested. -/
def Tests (codec : MarkerCodec) (p : Process) (t : Turn) : Prop :=
  (p.machine.prelude codec t).any (fun ready =>
    ready.1.state ∈ [.handlingSessionConflict,.dismissingPopups,.connected]) = false

instance (codec : MarkerCodec) (p : Process) (t : Turn) : Decidable (p.Tests codec t) :=
  inferInstanceAs (Decidable (_ = _))

theorem showsNoneEarly_of_tests {codec : MarkerCodec} {p : Process} {t : Turn}
    (tests : p.Tests codec t) : p.ShowsNoneEarly codec t := by
  intro _ ready effects preluded _ dropAt window member
  simp only [Tests,preluded,Option.any_some,decide_eq_false_iff_not,List.mem_cons,
    List.not_mem_nil,or_false,not_or] at tests
  obtain ⟨conflict,popups,connected⟩ := tests
  unfold StateMachine.shown at member
  split at member
  · contradiction
  · contradiction
  · contradiction
  · cases member

end Process

theorem credentials_in_time_rejected :
    .handler (.gateway (.dispatchedNamed "TotpEntryHandler" challengeWindow)) ∈
        ((Runs.run (Process.step sampleCodec) secretLaunch (rejectedLogin.take 6)).turn sampleCodec
          (handledTurn (sampleClocks 14480))).effects ∧
      Runs.Along (Process.step sampleCodec) (Process.SubmitsInTime sampleCodec) secretLaunch
        rejectedLogin := by
  have tests : Runs.Along (Process.step sampleCodec) (Process.Tests sampleCodec) secretLaunch
      rejectedLogin := by decide +kernel
  exact ⟨by decide +kernel,credentials_in_time sampleCodec secretConfig .default Files.empty
    "/home/ibgateway/Jts" (sampleClocks 14400) rejectedLogin
    (tests.mono fun _ _ => Process.showsNoneEarly_of_tests)⟩

end Ibctl.Machine
