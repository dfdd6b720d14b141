import Ibctl.StateMachine.Cleanup
import Ibctl.StateMachine.Iteration
import Ibctl.StateMachine.RevocationLaw
import Ibctl.StateMachine.WarmRestart

/-! What becomes of a pending contradiction at a tick of Connected. The checks before the probe
leave a login form and a disconnected label alone; the probe keeps what it sees and clears what
it does not see, whether it looked or could not look. -/
namespace Ibctl.Machine
open Tasks Step Task Recovery

namespace RevocationTracker

theorem firstSeenAt_observe (self : RevocationTracker) (source : RevocationSource) (now : Instant)
    (tag : RevocationTag) :
    (self.observe source now).2.firstSeenAt tag =
      if source.tag = tag then some ((self.firstSeenAt tag).getD now) else self.firstSeenAt tag := by
  unfold observe
  cases known : self.firstSeenAt source.tag with
  | some first =>
    dsimp only
    split
    · rename_i same
      rw [← same,known]
      rfl
    · rfl
  | none =>
    dsimp only
    rw [firstSeenAt_cons]
    split
    · rename_i same
      rw [← same,known]
      rfl
    · rfl

end RevocationTracker

section Pending

variable {schedule : Schedule Answers} {tag : RevocationTag} {first : Instant}

/-- The contradiction is pending since a time. -/
def Pending (tag : RevocationTag) (first : Instant) (l : Lasting) : Prop :=
  l.revocation.firstSeenAt tag = some first

theorem observe_pending {tracker : RevocationTracker} (pending : tracker.firstSeenAt tag = some first)
    (source : RevocationSource) (now : Instant) :
    (tracker.observe source now).2.firstSeenAt tag = some first := by
  rw [RevocationTracker.firstSeenAt_observe,pending]
  split <;> rfl

theorem clear_pending {tracker : RevocationTracker} (pending : tracker.firstSeenAt tag = some first)
    {other : RevocationTag} (apart : other ≠ tag) : (tracker.clear other).firstSeenAt tag = some first := by
  rw [RevocationTracker.firstSeenAt_clear,if_neg apart.symm,pending]

/-- The contradictions that the probe of the windows looks for. -/
inductive Probed where
  | loginForm
  | disconnectedLabel
deriving DecidableEq, Repr

def Probed.source : Probed → RevocationSource
  | loginForm => .loginFormVisible
  | disconnectedLabel => .disconnectedLabelStable

theorem steady_observe (s : Session) (source : RevocationSource) (now : Instant) (effects : List Effect)
    (steady : Steady (Pending tag first) s effects) :
    Steady (Pending tag first) { s with revocation := (s.revocation.observe source now).2 } effects :=
  ⟨observe_pending steady.1 source now,steady.2⟩

theorem steady_clear (s : Session) (other : RevocationTag) (effects : List Effect) (apart : other ≠ tag)
    (steady : Steady (Pending tag first) s effects) :
    Steady (Pending tag first) { s with revocation := s.revocation.clear other } effects :=
  ⟨clear_pending steady.1 apart,steady.2⟩

/-- The checks before the probe have other contradictions to clear. -/
theorem runningContradiction_pending (probed : Probed) (frame : Frame) :
    (runningContradiction frame).Keeps schedule (Steady (Pending probed.source.tag first)) := by
  refine runningContradiction_keeps (C := (· ≠ probed.source.tag)) steady_observe steady_clear frame ?_
  simp only [List.mem_cons,List.not_mem_nil,or_false,forall_eq_or_imp,forall_eq]
  cases probed <;> decide

end Pending

section Sight

/-- The components of the windows that are dumped from this call on, as far as they come. -/
def dumped (answers : Answers) : Nat → List WindowInfo → List Json
  | _,[] => []
  | n,_ :: rest =>
    match answers.dumpComponents n with
    | .ok components => components :: dumped answers (n + 1) rest
    | .error _ => dumped answers (n + 1) rest

/-- What a probe sees. -/
structure Sight where
  twofa : Bool
  loginForm : Bool
  disconnected : Bool
deriving DecidableEq, Repr

/-- What the cache shows without a look at the windows. -/
def cachedLoginButton (s : Session) : Bool :=
  (s.observation.mainGatewayWindow.map (fun m => m.hasLoginButton)).getD false

/-- What a probe that starts at this call and is needed sees in these windows. -/
def sightOf (answers : Answers) (s : Session) (n : Nat) : Except AgentError (List WindowInfo) → Sight
  | .error _ => ⟨false,cachedLoginButton s,false⟩
  | .ok windows =>
    let components := dumped answers (n + 2) (gatewayWindows windows)
    ⟨windows.any (fun w => isTwofaTitle w.title),
      cachedLoginButton s || components.any componentsHaveLoginForm,
      components.any componentsIndicateDisconnected⟩

/-- The number of the call after the windows were dumped and handed over. -/
def callsAfter (n : Nat) : Except AgentError (List WindowInfo) → Nat
  | .error _ => n + 2
  | .ok windows => n + 2 + (gatewayWindows windows).length + windows.length

variable {schedule : Schedule Answers}

theorem not_cuts_first {n m : Nat} (uncut : ¬ schedule.Cuts n m) (some_ : n < m) :
    schedule.dropAt ≠ some n :=
  fun cut => uncut ⟨n,cut,le_refl _,some_⟩

theorem not_cuts_rest {n m : Nat} (uncut : ¬ schedule.Cuts n m) : ¬ schedule.Cuts (n + 1) m :=
  fun ⟨k,cut,later,before⟩ => uncut ⟨k,cut,by omega,before⟩

theorem cuts_rest {n m : Nat} (cut : schedule.Cuts n m) (here : schedule.dropAt ≠ some n) :
    schedule.Cuts (n + 1) m := by
  obtain ⟨k,there,later,before⟩ := cut
  have apart : k ≠ n := fun same => here (same ▸ there)
  exact ⟨k,there,by omega,before⟩

theorem dumps_uncut (windows : List WindowInfo) (here : Local Session Effect)
    (uncut : ¬ schedule.Cuts here.calls (here.calls + windows.length)) :
    dumps windows schedule here =
      (.ok (dumped schedule.answers here.calls windows),
        { here with calls := here.calls + windows.length }) := by
  induction windows generalizing here with
  | nil => rfl
  | cons window rest ih =>
    have first := not_cuts_first uncut (by simp)
    have rest_ := ih { here with calls := here.calls + 1 } (by
      rw [Nat.add_assoc,Nat.add_comm 1]
      exact not_cuts_rest uncut)
    have counted : here.calls + 1 + rest.length = here.calls + (rest.length + 1) := by omega
    unfold dumps dumped dumpComponents
    rw [bind_apply,await_uncut first]
    dsimp only
    cases schedule.answers.dumpComponents here.calls with
    | ok components =>
      dsimp only
      rw [bind_apply,rest_]
      dsimp only
      rw [pure_apply,List.length_cons,counted]
    | error e =>
      dsimp only
      rw [rest_,List.length_cons]
      dsimp only
      rw [counted]

theorem dumps_cut (windows : List WindowInfo) (here : Local Session Effect)
    (cut : schedule.Cuts here.calls (here.calls + windows.length)) :
    (dumps windows schedule here).1 = .error .dropped := by
  induction windows generalizing here with
  | nil =>
    obtain ⟨k,-,later,before⟩ := cut
    exact absurd (Nat.lt_of_le_of_lt later before) (Nat.lt_irrefl _)
  | cons window rest ih =>
    unfold dumps dumpComponents
    rw [bind_apply]
    by_cases first : schedule.dropAt = some here.calls
    · rw [await_cut first]
    · have stops := ih { here with calls := here.calls + 1 } (by
        rw [Nat.add_assoc,Nat.add_comm 1]
        exact cuts_rest cut first)
      rw [await_uncut first]
      dsimp only
      cases schedule.answers.dumpComponents here.calls with
      | ok components =>
        dsimp only
        rw [bind_apply]
        generalize dumps rest schedule { here with calls := here.calls + 1 } = outcome at stops ⊢
        obtain ⟨result,after⟩ := outcome
        subst stops
        rfl
      | error e => exact stops

theorem dispatchAll_cons (window : WindowInfo) (rest : List WindowInfo) (here : Local Session Effect) :
    dispatchAll (window :: rest) schedule here =
      match (await Answers.dispatch : Step _) schedule
          ⟨here.state,here.calls,here.effects ++ [.dispatched window]⟩ with
      | (.ok _,after) => dispatchAll rest schedule after
      | (.error e,after) => (.error e,after) := by
  have dispatched : dispatch window schedule here =
      (await Answers.dispatch : Step _) schedule
        ⟨here.state,here.calls,here.effects ++ [.dispatched window]⟩ := rfl
  rw [dispatchAll,bind_apply,dispatched]
  rcases (await Answers.dispatch : Step _) schedule _ with ⟨result,after⟩
  cases result <;> rfl

theorem dispatchAll_uncut (windows : List WindowInfo) (here : Local Session Effect)
    (uncut : ¬ schedule.Cuts here.calls (here.calls + windows.length)) :
    ∃ effects, dispatchAll windows schedule here =
      (.ok (),⟨here.state,here.calls + windows.length,effects⟩) := by
  induction windows generalizing here with
  | nil => exact ⟨here.effects,rfl⟩
  | cons window rest ih =>
    have first := not_cuts_first uncut (by simp)
    obtain ⟨effects,rest_⟩ := ih ⟨here.state,here.calls + 1,here.effects ++ [.dispatched window]⟩ (by
      rw [Nat.add_assoc,Nat.add_comm 1]
      exact not_cuts_rest uncut)
    refine ⟨effects,?_⟩
    rw [dispatchAll_cons,await_uncut]
    · dsimp only
      rw [rest_,List.length_cons]
      congr 2
      change here.calls + 1 + rest.length = here.calls + (rest.length + 1)
      omega
    · exact first

theorem dispatchAll_cut (windows : List WindowInfo) (here : Local Session Effect)
    (cut : schedule.Cuts here.calls (here.calls + windows.length)) :
    (dispatchAll windows schedule here).1 = .error .dropped := by
  induction windows generalizing here with
  | nil =>
    obtain ⟨k,-,later,before⟩ := cut
    exact absurd (Nat.lt_of_le_of_lt later before) (Nat.lt_irrefl _)
  | cons window rest ih =>
    rw [dispatchAll_cons]
    by_cases first : schedule.dropAt = some here.calls
    · rw [await_cut]
      exact first
    · rw [await_uncut]
      · refine ih _ ?_
        rw [Nat.add_assoc,Nat.add_comm 1]
        exact cuts_rest cut first
      · exact first

end Sight

section Judged

variable {schedule : Schedule Answers} {first : Instant}

/-- What a probe does with what it saw. -/
def judgeSight (seen : Sight) : Step (Option State) := do
  if seen.twofa then return some .waitingFor2fa
  if let some next ← observeOrClear seen.loginForm .loginFormVisible then return next
  observeOrClear seen.disconnected .disconnectedLabelStable

/-- The login form has been there for long enough. -/
def Sight.Fires (seen : Sight) (now : Instant) (tracker : RevocationTracker) : Prop :=
  seen.loginForm = true ∧ ∃ first, tracker.firstSeenAt .loginFormVisible = some first ∧
    RevocationSource.loginFormVisible.debounce ≤ now.durationSince first

/-- What speaks for leaving the contradiction pending: that it is seen, or that the tick ends
before its turn. -/
def Sight.Sustains (seen : Sight) (now : Instant) (tracker : RevocationTracker) : Probed → Prop
  | .loginForm => seen.twofa = true ∨ seen.loginForm = true
  | .disconnectedLabel => seen.twofa = true ∨ seen.Fires now tracker ∨ seen.disconnected = true

theorem observe_returned (source : RevocationSource) (here : Local Session Effect) :
    observe source schedule here =
      (.ok ((here.state.revocation.observe source (schedule.answers.now here.calls)).1.map
          RevocationSource.nextState),
        ⟨{ here.state with
            revocation := (here.state.revocation.observe source (schedule.answers.now here.calls)).2 },
          here.calls + 1,here.effects⟩) := rfl

theorem clear_returned (present : Bool) (source : RevocationSource) (absent : present = false)
    (here : Local Session Effect) :
    observeOrClear present source schedule here =
      (.ok none,{ here with
        state := { here.state with revocation := here.state.revocation.clear source.tag } }) := by
  subst absent
  rfl

/-- A label is kept pending by its observation alone. -/
theorem label_pending_iff {here : Local Session Effect} (seen : Bool)
    (pending : here.state.revocation.firstSeenAt .disconnectedLabelStable = some first) :
    (observeOrClear seen .disconnectedLabelStable schedule here).2.state.revocation.firstSeenAt
      .disconnectedLabelStable = some first ↔ seen = true := by
  cases seen with
  | true => exact iff_of_true (observe_pending pending _ _) rfl
  | false =>
    rw [clear_returned false _ rfl]
    refine iff_of_false ?_ nofun
    rw [show RevocationSource.disconnectedLabelStable.tag = .disconnectedLabelStable from rfl,
      RevocationTracker.firstSeenAt_clear,if_pos rfl]
    nofun

theorem label_apart (seen : Bool) (here : Local Session Effect) :
    (observeOrClear seen .disconnectedLabelStable schedule here).2.state.revocation.firstSeenAt
      .loginFormVisible = here.state.revocation.firstSeenAt .loginFormVisible := by
  cases seen with
  | true =>
    refine (RevocationTracker.firstSeenAt_observe _ .disconnectedLabelStable _ _).trans ?_
    rw [if_neg (by decide)]
  | false =>
    rw [clear_returned false _ rfl]
    refine (RevocationTracker.firstSeenAt_clear _ _ _).trans ?_
    rw [if_neg (by decide)]

theorem fires_iff (seen : Sight) (now : Instant) (tracker : RevocationTracker) :
    seen.Fires now tracker ↔ seen.loginForm = true ∧
      (tracker.observe .loginFormVisible now).1.isSome := by
  refine and_congr_right fun _ => ?_
  have lasts : RevocationSource.loginFormVisible.debounce ≠ 0 := by decide
  rw [RevocationTracker.observe_fst]
  cases known : tracker.firstSeenAt .loginFormVisible with
  | none => simp [RevocationSource.tag,known,lasts]
  | some first => simp [RevocationSource.tag,known,lasts]

/-- A login form that has been there for long enough ends the tick. -/
theorem judgeSight_unfold (seen : Sight) (here : Local Session Effect) (quiet : seen.twofa = false) :
    judgeSight seen schedule here =
      match observeOrClear seen.loginForm .loginFormVisible schedule here with
      | (.ok (some next),after) => (.ok (some next),after)
      | (.ok none,after) => observeOrClear seen.disconnected .disconnectedLabelStable schedule after
      | (.error e,after) => (.error e,after) := by
  unfold judgeSight
  rw [quiet]
  simp only [Bool.false_eq_true,if_false]
  rw [bind_apply]
  rcases observeOrClear seen.loginForm .loginFormVisible schedule here with ⟨result,after⟩
  rcases result with e | _ | next <;> rfl

/-- A probe that came to its end leaves pending what speaks for it, and clears the rest. -/
theorem judge_pending_iff (probed : Probed) {seen : Sight} {here : Local Session Effect}
    (pending : here.state.revocation.firstSeenAt probed.source.tag = some first) :
    (judgeSight seen schedule here).2.state.revocation.firstSeenAt probed.source.tag = some first ↔
      seen.Sustains (schedule.answers.now here.calls) here.state.revocation probed := by
  cases quiet : seen.twofa with
  | true =>
    have ends : judgeSight seen schedule here = (.ok (some .waitingFor2fa),here) := by
      unfold judgeSight
      rw [quiet]
      rfl
    rw [ends]
    exact iff_of_true pending (by cases probed <;> exact .inl quiet)
  | false =>
    rw [judgeSight_unfold seen here quiet]
    cases form : seen.loginForm with
    | false =>
      rw [clear_returned false _ rfl]
      cases probed with
      | loginForm =>
        dsimp only
        refine iff_of_false ?_ (by simp [Sight.Sustains,quiet,form])
        rw [show Probed.loginForm.source.tag = .loginFormVisible from rfl,label_apart]
        refine (RevocationTracker.firstSeenAt_clear _ _ _).trans_ne ?_
        simp [RevocationSource.tag]
      | disconnectedLabel =>
        have kept : (here.state.revocation.clear .loginFormVisible).firstSeenAt
            .disconnectedLabelStable = some first := clear_pending pending (by decide)
        refine (label_pending_iff seen.disconnected kept).trans ?_
        simp [Sight.Sustains,Sight.Fires,quiet,form]
    | true =>
      rw [show observeOrClear true .loginFormVisible = observe .loginFormVisible from rfl,observe_returned]
      have fires := fires_iff seen (schedule.answers.now here.calls) here.state.revocation
      have kept := observe_pending pending .loginFormVisible (schedule.answers.now here.calls)
      generalize here.state.revocation.observe .loginFormVisible (schedule.answers.now here.calls)
        = observed at fires kept ⊢
      obtain ⟨fired,revocation⟩ := observed
      cases fired with
      | some source =>
        have ended := fires.mpr ⟨form,rfl⟩
        refine iff_of_true kept ?_
        cases probed with
        | loginForm => exact .inr form
        | disconnectedLabel => exact .inr (.inl ended)
      | none =>
        have waits : ¬ seen.Fires (schedule.answers.now here.calls) here.state.revocation := by
          rw [fires]
          simp
        cases probed with
        | loginForm =>
          refine iff_of_true ?_ (.inr form)
          exact (label_apart _ _).trans kept
        | disconnectedLabel =>
          refine (label_pending_iff seen.disconnected kept).trans ?_
          simp [Sight.Sustains,waits,quiet]

end Judged

section Probe

variable {schedule : Schedule Answers} {first : Instant}

/-- The probe is dropped before it can do anything with what it sees. -/
def CutOff (schedule : Schedule Answers) (before : Local Session Effect) : Prop :=
  schedule.dropAt = some before.calls ∨
    schedule.Cuts (before.calls + 2)
      (callsAfter before.calls (schedule.answers.listWindows before.calls))

/-- The probe from the listing of the windows on. -/
def lookAt (s : Session) (windows : Except AgentError (List WindowInfo)) (probeNeeded : Bool) :
    Step (Option State) := do
  let (probeTwofa,components) ← match windows with
    | .error _ => pure (false,[])
    | .ok windows => do
      let components ← if probeNeeded then dumps (gatewayWindows windows) else pure []
      dispatchAll windows
      pure (probeNeeded && windows.any (fun w => isTwofaTitle w.title),components)
  judgeSight ⟨probeTwofa,cachedLoginButton s || components.any componentsHaveLoginForm,
    components.any componentsIndicateDisconnected⟩

theorem probedContradiction_looks : probedContradiction = (do
    let windows ← listWindows
    clear .errorDialog
    let s ← current
    followWindowClass
    let entered ← elapsed s.stateEnteredAt
    lookAt s windows (s.revocation.anyPending || cacheSuggestsProbe s.observation ||
      decide (entered.asSecs % 30 < 3))) := rfl

theorem lookAt_failed (s : Session) (e : AgentError) (needed : Bool) :
    lookAt s (.error e) needed =
      judgeSight ⟨false,cachedLoginButton s || false,false⟩ := rfl

theorem lookAt_listed (s : Session) (windows : List WindowInfo) :
    lookAt s (.ok windows) true = (do
      let components ← dumps (gatewayWindows windows)
      dispatchAll windows
      judgeSight ⟨windows.any (fun w => isTwofaTitle w.title),
        cachedLoginButton s || components.any componentsHaveLoginForm,
        components.any componentsIndicateDisconnected⟩) := by
  unfold lookAt
  simp only [if_true,Bool.true_and,pure_bind]

theorem dumps_still (windows : List WindowInfo) (here : Local Session Effect) :
    (dumps windows schedule here).2.state = here.state :=
  Keeps.after (I := fun s _ => s = here.state) (dumps_steady windows) here rfl

theorem dispatchAll_still (windows : List WindowInfo) (here : Local Session Effect) :
    (dispatchAll windows schedule here).2.state = here.state :=
  Keeps.after (I := fun s _ => s = here.state) (dispatchAll_steady fun _ _ _ _ => id) here rfl

@[simp] theorem callsAfter_listed (n : Nat) (windows : List WindowInfo) :
    callsAfter n (.ok windows) = n + 2 + (gatewayWindows windows).length + windows.length := rfl

theorem lookAt_pending_iff (probed : Probed) (s : Session) (n : Nat)
    (windows : Except AgentError (List WindowInfo)) {here : Local Session Effect}
    (counted : here.calls = n + 2)
    (pending : here.state.revocation.firstSeenAt probed.source.tag = some first) :
    (lookAt s windows true schedule here).2.state.revocation.firstSeenAt probed.source.tag =
        some first ↔
      schedule.Cuts (n + 2) (callsAfter n windows) ∨
        (sightOf schedule.answers s n windows).Sustains
          (schedule.answers.now (callsAfter n windows)) here.state.revocation probed := by
  cases windows with
  | error e =>
    have uncut : ¬ schedule.Cuts (n + 2) (callsAfter n (.error e)) := by
      rintro ⟨k,-,later,before⟩
      exact absurd (Nat.lt_of_le_of_lt later before) (Nat.lt_irrefl _)
    rw [lookAt_failed,judge_pending_iff probed pending,counted,Bool.or_false]
    exact (or_iff_right uncut).symm
  | ok windows =>
    rw [lookAt_listed,bind_apply]
    by_cases dumping : schedule.Cuts here.calls (here.calls + (gatewayWindows windows).length)
    · have dropped := dumps_cut _ here dumping
      have still := @dumps_still schedule (gatewayWindows windows) here
      generalize dumps (gatewayWindows windows) schedule here = outcome at dropped still ⊢
      obtain ⟨result,after⟩ := outcome
      subst dropped
      refine iff_of_true ?_ (.inl ?_)
      · rw [← still] at pending
        exact pending
      · obtain ⟨k,there,later,before⟩ := dumping
        exact ⟨k,there,counted ▸ later,by rw [callsAfter_listed]; omega⟩
    · rw [dumps_uncut _ here dumping]
      dsimp only
      rw [bind_apply]
      generalize handed : (⟨here.state,here.calls + (gatewayWindows windows).length,here.effects⟩ :
        Local Session Effect) = there
      have calls : there.calls = n + 2 + (gatewayWindows windows).length := by
        rw [← handed,← counted]
      have state : there.state = here.state := by rw [← handed]
      rw [← state] at pending ⊢
      by_cases handing : schedule.Cuts there.calls (there.calls + windows.length)
      · have dropped := dispatchAll_cut windows there handing
        have still := @dispatchAll_still schedule windows there
        generalize dispatchAll windows schedule there = outcome at dropped still ⊢
        obtain ⟨result,after⟩ := outcome
        subst dropped
        refine iff_of_true ?_ (.inl ?_)
        · rw [← still] at pending
          exact pending
        · obtain ⟨k,drops,later,before⟩ := handing
          exact ⟨k,drops,by omega,by rw [callsAfter_listed]; omega⟩
      · obtain ⟨effects,dispatched⟩ := dispatchAll_uncut windows there handing
        rw [dispatched]
        dsimp only
        have uncut : ¬ schedule.Cuts (n + 2) (callsAfter n (.ok windows)) := by
          rintro ⟨k,drops,later,before⟩
          rw [callsAfter_listed] at before
          by_cases early : k < there.calls
          · exact dumping ⟨k,drops,by omega,by omega⟩
          · exact handing ⟨k,drops,by omega,by omega⟩
        refine (judge_pending_iff probed ?_).trans ?_
        · exact pending
        · rw [or_iff_right uncut,callsAfter_listed,calls,counted]
          exact Iff.rfl

theorem followWindowClass_returned (here : Local Session Effect) :
    ∃ s, s.revocation = here.state.revocation ∧
      followWindowClass schedule here = (.ok (),{ here with state := s }) := by
  refine ⟨_,?_,rfl⟩
  dsimp only
  split
  · split <;> rfl
  · rfl

/-- What follows the listing of the windows, while something is pending. -/
theorem probe_looks {before : Local Session Effect} (uncut : schedule.dropAt ≠ some before.calls)
    (pending : (before.state.revocation.clear .errorDialog).anyPending = true) :
    ∃ s, s.revocation = before.state.revocation.clear .errorDialog ∧
      probedContradiction schedule before =
        lookAt before.state (schedule.answers.listWindows before.calls) true schedule
          ⟨s,before.calls + 2,before.effects⟩ := by
  let cleared : Session :=
    { before.state with revocation := before.state.revocation.clear .errorDialog }
  obtain ⟨s,revocation,followed⟩ :=
    @followWindowClass_returned schedule ⟨cleared,before.calls + 1,before.effects⟩
  refine ⟨s,revocation,?_⟩
  have clears : clear .errorDialog schedule ⟨before.state,before.calls + 1,before.effects⟩ =
      (.ok (),⟨cleared,before.calls + 1,before.effects⟩) := rfl
  have looks : (current : Step Session) schedule ⟨cleared,before.calls + 1,before.effects⟩ =
      (.ok cleared,⟨cleared,before.calls + 1,before.effects⟩) := rfl
  have asks : elapsed cleared.stateEnteredAt schedule ⟨s,before.calls + 1,before.effects⟩ =
      (.ok ((schedule.answers.now (before.calls + 1)).durationSince cleared.stateEnteredAt),
        ⟨s,before.calls + 2,before.effects⟩) := rfl
  rw [probedContradiction_looks,bind_apply,listWindows,await_uncut uncut]
  dsimp only
  rw [bind_apply,clears]
  dsimp only
  rw [bind_apply,looks]
  dsimp only
  rw [bind_apply,followed]
  dsimp only
  rw [bind_apply,asks]
  dsimp only
  rw [show cleared.revocation.anyPending = true from pending]
  rfl

/-- A probe leaves a pending contradiction alone exactly when it is cut short or sees something
that speaks for it. -/
theorem probe_pending_iff (probed : Probed) {before : Local Session Effect}
    (pending : before.state.revocation.firstSeenAt probed.source.tag = some first) :
    (probedContradiction schedule before).2.state.revocation.firstSeenAt probed.source.tag =
        some first ↔
      CutOff schedule before ∨
        (sightOf schedule.answers before.state before.calls
          (schedule.answers.listWindows before.calls)).Sustains
          (schedule.answers.now
            (callsAfter before.calls (schedule.answers.listWindows before.calls)))
          before.state.revocation probed := by
  have spared : (before.state.revocation.clear .errorDialog).firstSeenAt probed.source.tag =
      some first := clear_pending pending (by cases probed <;> decide)
  unfold CutOff
  by_cases cut : schedule.dropAt = some before.calls
  · have dropped : probedContradiction schedule before = (.error .dropped,before) := by
      rw [probedContradiction_looks,bind_apply,listWindows,await_cut cut]
    rw [dropped]
    exact iff_of_true pending (.inl (.inl cut))
  · have needed : (before.state.revocation.clear .errorDialog).anyPending = true :=
      (RevocationTracker.anyPending_iff _).mpr ⟨_,by rw [spared]; rfl⟩
    obtain ⟨s,revocation,looks⟩ := probe_looks cut needed
    rw [looks,or_iff_right cut]
    rw [← revocation] at spared
    refine (lookAt_pending_iff probed before.state before.calls _ rfl ?_).trans ?_
    · exact spared
    · refine or_congr_right ?_
      have same : s.revocation.firstSeenAt .loginFormVisible =
          before.state.revocation.firstSeenAt .loginFormVisible := by
        rw [revocation,RevocationTracker.firstSeenAt_clear,if_neg (by decide)]
      cases probed with
      | loginForm => exact Iff.rfl
      | disconnectedLabel =>
        unfold Sight.Sustains Sight.Fires
        dsimp only
        rw [same]

end Probe

section Tick

variable {schedule : Schedule Answers} {first : Instant}

/-- Where a tick starts its probe, if nothing ends it before. -/
def probeStart (frame : Frame) (schedule : Schedule Answers) (s : Session) :
    Option (Local Session Effect) :=
  match findExit schedule ⟨s,0,[]⟩ with
  | (.ok none,there) =>
    match runningContradiction frame schedule there with
    | (.ok none,before) => some before
    | _ => none
  | _ => none

/-- What the probe that starts here sees speaks for the contradiction, or it does not come to
its end. -/
def Spared (schedule : Schedule Answers) (before : Local Session Effect) (probed : Probed) : Prop :=
  CutOff schedule before ∨
    (sightOf schedule.answers before.state before.calls
      (schedule.answers.listWindows before.calls)).Sustains
      (schedule.answers.now (callsAfter before.calls (schedule.answers.listWindows before.calls)))
      before.state.revocation probed

/-- What follows the probe in a tick. -/
def afterProbe (frame : Frame) : Option State → Step (Option State)
  | some next => return some next
  | none => do
    syncClientIds
    resetTwofaTimeouts frame
    return none

theorem afterProbe_revocation (frame : Frame) (probed : Option State) (here : Local Session Effect)
    (quiet : ∀ effect ∈ here.effects, effect.isLaunch = false) :
    (afterProbe frame probed schedule here).2.state.revocation = here.state.revocation := by
  have kept : (afterProbe frame probed).Keeps schedule
      (Steady fun l => l.revocation = here.state.revocation) := by
    cases probed with
    | some next => exact keeps_pure _
    | none =>
      refine keeps_bind syncClientIds_steady fun _ => ?_
      exact keeps_bind (resetTwofaTimeouts_steady frame) fun _ => keeps_pure _
  exact (kept.after here ⟨rfl,quiet⟩).1

theorem afterExit_none (frame : Frame) :
    afterExit frame none = (do
      if let some next ← runningContradiction frame then return some next
      afterProbe frame (← probedContradiction)) := by
  unfold afterExit afterProbe
  refine bind_congr fun direct => ?_
  cases direct with
  | some next => rfl
  | none =>
    refine bind_congr fun probed => ?_
    cases probed <;> rfl

theorem probedContradiction_quiet {before : Local Session Effect}
    (quiet : ∀ effect ∈ before.effects, effect.isLaunch = false) :
    ∀ effect ∈ (probedContradiction schedule before).2.effects, effect.isLaunch = false :=
  (probedContradiction_from (I := Steady fun _ => True) (fun _ _ _ steady => steady)
    (fun _ _ _ _ => steady_append rfl _ _) ⟨trivial,quiet⟩).2

/-- A pending contradiction survives the supervision exactly when no probe is started, or one that
spares it. -/
theorem superviseConnection_pending_iff (probed : Probed) (frame : Frame) {s : Session}
    (pending : s.revocation.firstSeenAt probed.source.tag = some first) :
    ((superviseConnection frame).start schedule s).state.revocation.firstSeenAt probed.source.tag =
        some first ↔
      ∀ before, probeStart frame schedule s = some before → Spared schedule before probed := by
  have finds : findExit.Keeps schedule (Steady (Pending probed.source.tag first)) := findExit_steady
  have found := finds.after ⟨s,0,[]⟩ ⟨pending,by simp⟩
  change (superviseConnection frame schedule ⟨s,0,[]⟩).2.state.revocation.firstSeenAt _ = _ ↔ _
  unfold probeStart
  rw [superviseConnection_eq,bind_apply]
  generalize findExit schedule ⟨s,0,[]⟩ = looked at found ⊢
  obtain ⟨result,there⟩ := looked
  rcases result with stop | exit | hash
  · refine iff_of_true found.1 fun before absent => ?_
    cases absent
  · have checks : (runningContradiction frame).Keeps schedule
        (Steady (Pending probed.source.tag first)) := runningContradiction_pending probed frame
    have checked := checks.after there found
    dsimp only
    rw [afterExit_none,bind_apply]
    generalize runningContradiction frame schedule there = direct at checked ⊢
    obtain ⟨result,before⟩ := direct
    rcases result with stop | direct | next
    · refine iff_of_true checked.1 fun before absent => ?_
      cases absent
    · dsimp only
      rw [bind_apply]
      have sparing := @probe_pending_iff schedule first probed before checked.1
      have quiet := @probedContradiction_quiet schedule before checked.2
      generalize probedContradiction schedule before = outcome at sparing quiet ⊢
      obtain ⟨result,after⟩ := outcome
      have only : (∀ other, some before = some other → Spared schedule other probed) ↔
          Spared schedule before probed := by simp
      refine Iff.trans ?_ (sparing.trans only.symm)
      cases result with
      | error stop => exact Iff.rfl
      | ok found =>
        dsimp only
        rw [afterProbe_revocation frame found after quiet]
    · refine iff_of_true checked.1 fun before absent => ?_
      cases absent
  · have exits : (afterExit frame (some hash)).Keeps schedule
        (Steady (Pending probed.source.tag first)) := by
      unfold afterExit
      refine keeps_bind (keeps_update fun _ _ steady => steady) fun _ => ?_
      exact keeps_bind (observe_keeps steady_observe _) fun _ => keeps_pure _
    refine iff_of_true (exits.after there found).1 fun before absent => ?_
    cases absent

/-- The rest of a tick leaves the contradictions as the supervision left them. -/
theorem doConnected_revocation (frame : Frame) (s : Session) :
    ((doConnected frame).start schedule s).state.revocation =
      ((superviseConnection frame).start schedule s).state.revocation := by
  unfold Task.start doConnected
  simp only [bind_apply,mapEffects]
  generalize superviseConnection frame schedule ⟨s,0,[]⟩ = supervised
  obtain ⟨result,after⟩ := supervised
  rcases result with stop | found | next
  · rfl
  · have marks : (do markStable frame; sleep; return .connected :
        Task Answers ConnectedEffect StateMachineError Session State).Keeps schedule
        (All (fun s => s.revocation = after.state.revocation)
          (ConnectedEffect.Lifts fun _ => True)) := by
      refine keeps_bind ?_ fun _ => keeps_bind keeps_sleep fun _ => keeps_pure _
      exact markStable_steady frame (fun _ _ kept => kept) fun _ _ kept => kept
    refine (marks.after ⟨after.state,after.calls,after.effects.map .gateway⟩ ⟨rfl,?_⟩).1
    intro effect member
    obtain ⟨gateway,-,rfl⟩ := List.mem_map.mp member
    trivial
  · rfl

theorem doConnected_pending_iff (probed : Probed) (frame : Frame) {s : Session}
    (pending : s.revocation.firstSeenAt probed.source.tag = some first) :
    ((doConnected frame).start schedule s).state.revocation.firstSeenAt probed.source.tag =
        some first ↔
      ∀ before, probeStart frame schedule s = some before → Spared schedule before probed := by
  rw [doConnected_revocation]
  exact superviseConnection_pending_iff probed frame pending

end Tick

section Runs

/-- The main window among those listed: the one that the cache knows, or else the first. -/
def isMainWindow (observation : AgentObservation) (windows : List WindowInfo) (window : WindowInfo) :
    Bool :=
  match observation.mainGatewayWindow with
  | some main => window.id.id = main.id
  | none => (gatewayWindows windows).head? = some window

/-- The windows cannot be listed, or the main one is listed and cannot be dumped. -/
def Unfetched (answers : Answers) (before : Local Session Effect) : Prop :=
  match answers.listWindows before.calls with
  | .error _ => True
  | .ok windows => ∃ i window e, (gatewayWindows windows)[i]? = some window ∧
      isMainWindow before.state.observation windows window = true ∧
      answers.dumpComponents (before.calls + 2 + i) = .error e

namespace Process

variable {codec : MarkerCodec} {p : Process} {t : Turn} {ready : StateMachine}

/-- The step polls a tick of Connected, on this machine. -/
structure Ticks (codec : MarkerCodec) (p : Process) (t : Turn) (ready : StateMachine) : Prop where
  running : p.status = .running
  preluded : ∃ effects, p.machine.prelude codec t = some (ready,effects)
  connected : ready.state = .connected
  polled : ready.polls t = true

/-- The step is a tick whose probe cannot fetch its windows, while this contradiction is pending. -/
structure Unseeing (codec : MarkerCodec) (probed : Probed) (p : Process) (t : Turn)
    (ready : StateMachine) (first : Instant) (before : Local Session Effect) : Prop where
  ticks : p.Ticks codec t ready
  pending : ready.session.revocation.firstSeenAt probed.source.tag = some first
  probes : probeStart ready.frame (ready.handlerSchedule t) ready.session = some before
  unfetched : Unfetched t.schedule.answers before

/-- A tick that cannot fetch its windows does not drop what is pending. -/
def KeepsPending (codec : MarkerCodec) (probed : Probed) (p : Process) (t : Turn) : Prop :=
  ∀ ready first before, p.Unseeing codec probed t ready first before →
    (ready.select t).2.1.session.revocation.firstSeenAt probed.source.tag = some first

/-- A tick that cannot fetch its windows comes to the end of its probe with nothing that speaks
for what is pending. -/
def TakesFailureForAbsence (codec : MarkerCodec) (probed : Probed) (p : Process) (t : Turn) : Prop :=
  ∃ ready first before, p.Unseeing codec probed t ready first before ∧
    ¬ Spared (ready.handlerSchedule t) before probed

theorem keepsPending_iff (codec : MarkerCodec) (probed : Probed) (p : Process) (t : Turn) :
    p.KeepsPending codec probed t ↔ ¬ p.TakesFailureForAbsence codec probed t := by
  have tick : ∀ ready first before, p.Unseeing codec probed t ready first before →
      ((ready.select t).2.1.session.revocation.firstSeenAt probed.source.tag = some first ↔
        Spared (ready.handlerSchedule t) before probed) := by
    intro ready first before unseeing
    have connects : ready.transition = doConnected ready.frame := by
      rw [StateMachine.transition,unseeing.ticks.connected]
    have ran : (ready.runHandler t).state =
        ((doConnected ready.frame).start (ready.handlerSchedule t) ready.session).state := by
      rw [← connects]
      rfl
    rw [StateMachine.select_session unseeing.ticks.polled,ran,
      doConnected_pending_iff probed ready.frame unseeing.pending,unseeing.probes]
    simp
  constructor
  · rintro keeps ⟨ready,first,before,unseeing,lost⟩
    exact lost ((tick ready first before unseeing).mp (keeps ready first before unseeing))
  · intro never ready first before unseeing
    refine (tick ready first before unseeing).mpr (by_contra fun lost => ?_)
    exact never ⟨ready,first,before,unseeing,lost⟩

end Process

/-- A run keeps what is pending through the ticks that cannot fetch the windows exactly when none
of them takes the failure for the absence of the contradiction. -/
theorem pending_kept_iff (codec : MarkerCodec) (probed : Probed) (p : Process) (turns : List Turn) :
    Runs.Along (Process.step codec) (Process.KeepsPending codec probed) p turns ↔
      Runs.Along (Process.step codec) (fun p t => ¬ p.TakesFailureForAbsence codec probed t) p turns :=
  Runs.along_congr (Process.keepsPending_iff codec probed) p turns

/-- The agent does not answer. -/
def unansweredTurn (now : Clocks) : Turn :=
  { turnAt now none with
    schedule := ⟨{ quietAnswers now with listWindows := fun _ => .error .timeout },none⟩ }

/-- The label is seen at one tick, and the agent does not answer at the next. -/
def disconnectedUnanswered : List Turn :=
  connectedRestarted.take 2 ++
    [gatewayTurn (sampleClocks 14403)
      (.object [("labels",.array [.string "API Server",.string "disconnected"])]),
      unansweredTurn (sampleClocks 14404)]

/-- The label that was pending is dropped unseen. -/
theorem pending_dropped :
    ¬ Runs.Along (Process.step sampleCodec)
      (Process.KeepsPending sampleCodec .disconnectedLabel) paperStart disconnectedUnanswered := by
  intro along
  let p := Runs.run (Process.step sampleCodec) paperStart (disconnectedUnanswered.take 3)
  let t := unansweredTurn (sampleClocks 14404)
  have keeps : p.KeepsPending sampleCodec .disconnectedLabel t :=
    ((Runs.along_append _ _ (disconnectedUnanswered.take 3) (disconnectedUnanswered.drop 3)).mp
      along).2.1
  have running : p.status = .running := by decide +kernel
  have facts : (p.machine.prelude sampleCodec t).map (fun found =>
      (found.1.state,found.1.polls t,
        found.1.session.revocation.firstSeenAt .disconnectedLabelStable,
        (probeStart found.1.frame (found.1.handlerSchedule t) found.1.session).isSome,
        (found.1.select t).2.1.session.revocation.firstSeenAt .disconnectedLabelStable)) =
      some (.connected,true,some (sampleClocks 14403).mono,true,none) := by
    decide +kernel
  obtain ⟨⟨ready,effects⟩,preluded,facts⟩ := Option.map_eq_some_iff.mp facts
  obtain ⟨connected,polled,pending,probes,dropped⟩ := by
    simpa only [Prod.mk.injEq] using facts
  obtain ⟨before,probes⟩ := Option.isSome_iff_exists.mp probes
  have kept := keeps ready (sampleClocks 14403).mono before
    ⟨⟨running,⟨effects,preluded⟩,connected,polled⟩,pending,probes,trivial⟩
  exact absurd (kept.symm.trans dropped) nofun

end Runs

end Ibctl.Machine
