import Ibctl.StateMachine.Within

/-! Two machines side by side that differ in the windows of their caches alone. What a handler
does before it looks at a window it does in both. -/
namespace Ibctl.Machine
open Tasks Step Task

@[grind] def Session.seen (s : Session) (windows : List ObservedWindow) (windowClass : Option String) : Session :=
  { s with observation := { s.observation with windows }, connectedWindowClass := windowClass }

/-- Two sessions that differ in the windows of their caches, and in the class noted of the main
one. -/
inductive Twins (w w' : List ObservedWindow) : Session → Session → Prop
  | seen (s : Session) (c c' : Option String) (noted : c.isSome = c'.isSome) :
      Twins w w' (s.seen w c) (s.seen w' c')

/-- An update of something else. -/
@[grind] def Aside (f : Session → Session) : Prop := ∀ s w c, f (s.seen w c) = (f s).seen w c

variable {w w' : List ObservedWindow} {φ α : Type}

@[grind ←] theorem blind_aside {f : Session → Session} (aside : Aside f) :
    (update f : Task Answers φ StateMachineError Session Unit).Blind (Twins w w') := by
  refine alike_update ?_
  rintro _ _ ⟨s,c,c',noted⟩
  rw [aside,aside]
  exact .seen (f s) c c' noted

/-- A look at something else. -/
theorem blind_read {f : Session → Task Answers φ StateMachineError Session α}
    (same : ∀ (s : Session) c c', f (s.seen w c) = f (s.seen w' c')) (after : ∀ s, (f s).Blind (Twins w w')) :
    (current >>= f).Blind (Twins w w') := by
  refine blind_current ?_ after
  rintro _ _ ⟨s,c,c',-⟩
  exact same s c c'

@[grind .] theorem elapsed_blind (since : Instant) : (elapsed since).Blind (Twins w w') := by
  unfold elapsed
  grind

@[grind .] theorem listWindows_blind : listWindows.Blind (Twins w w') := blind_await _

@[grind .] theorem dumpComponents_blind : dumpComponents.Blind (Twins w w') := blind_await _

@[grind .] theorem abortClientIdTask_blind : abortClientIdTask.Blind (Twins w w') :=
  blind_aside fun _ _ _ => rfl

@[grind .] theorem resetRegistry_blind : resetRegistry.Blind (Twins w w') := blind_emit _

@[grind .] theorem clickButton_blind (window : WindowId) (label : String) :
    (clickButton window label).Blind (Twins w w') :=
  alike_bind blind_sleep fun _ => blind_emit _

@[grind .] theorem dispatch_blind (window : WindowInfo) : (dispatch window).Blind (Twins w w') :=
  alike_bind (blind_emit _) fun _ => blind_await _

@[grind .] theorem dispatchNamed_blind (handler : String) (window : WindowInfo) :
    (dispatchNamed handler window).Blind (Twins w w') :=
  alike_bind (blind_emit _) fun _ => blind_await _

@[grind .] theorem reviveSocat_blind : reviveSocat.Blind (Twins w w') := by
  unfold reviveSocat startSocat stopSocat
  refine blind_read (fun _ _ _ => rfl) fun s => ?_
  grind

@[grind .] theorem dispatchAll_blind (windows : List WindowInfo) :
    (dispatchAll windows).Blind (Twins w w') := by
  induction windows with
  | nil => exact alike_pure _
  | cons window rest ih => exact alike_bind (dispatch_blind window) fun _ => ih

@[grind .] theorem findByComponents_blind (test : Json → Bool) (windows : List WindowInfo) :
    (findByComponents test windows).Blind (Twins w w') := by
  induction windows with
  | nil => exact alike_pure _
  | cons window rest ih =>
    refine alike_bind dumpComponents_blind fun dumped => ?_
    cases dumped with
    | error e => exact ih
    | ok components => grind

@[grind .] theorem dumps_blind (windows : List WindowInfo) : (dumps windows).Blind (Twins w w') := by
  induction windows with
  | nil => exact alike_pure _
  | cons window rest ih =>
    refine alike_bind dumpComponents_blind fun dumped => ?_
    cases dumped with
    | error e => exact ih
    | ok components => exact alike_bind ih fun _ => alike_pure _

@[grind .] theorem checkBlockingDialog_blind : checkBlockingDialog.Blind (Twins w w') := by
  unfold checkBlockingDialog
  grind

section Twofa

@[grind .] theorem waitForObservedTwofaRetry_blind : waitForObservedTwofaRetry.Blind (Twins w w') := by
  unfold waitForObservedTwofaRetry
  refine blind_read (fun _ _ _ => rfl) fun s => ?_
  split
  · exact alike_pure _
  refine alike_bind listWindows_blind fun listed => alike_bind (blind_orFail _ _) fun windows => ?_
  refine alike_bind (dumps_blind _) fun components => ?_
  grind

@[grind .] theorem waitForRetryDeadline_blind : waitForRetryDeadline.Blind (Twins w w') := by
  unfold waitForRetryDeadline
  refine blind_read (fun _ _ _ => rfl) fun s => ?_
  grind

@[grind .] theorem findTwofaWindow_blind (windows : List WindowInfo) :
    (findTwofaWindow windows).Blind (Twins w w') := by
  unfold findTwofaWindow
  grind

@[grind .] theorem answerTwofa_blind (frame : Frame) (window : WindowInfo) :
    (answerTwofa frame window).Blind (Twins w w') := by
  unfold answerTwofa
  refine alike_bind (blind_aside fun _ _ _ => rfl) fun _ => blind_read (fun _ _ _ => rfl) fun s => ?_
  extract_lets device enters answers
  have aside : Aside fun s => { s with twofaDeviceSelected := true } := fun _ _ _ => rfl
  have answered : ∀ r, (answers r).Blind (Twins w w') := by
    intro r
    unfold answers enters
    grind
  split
  · split
    · refine alike_bind (blind_await _) fun selected => ?_
      split
      · grind
      · exact alike_bind (blind_aside aside) answered
    · exact alike_bind (blind_aside aside) answered
  · exact answered ()

@[grind .] theorem confirmTwofa_blind (windows : List WindowInfo) :
    (confirmTwofa windows).Blind (Twins w w') := by
  unfold confirmTwofa
  refine blind_read (fun _ _ _ => rfl) fun s => ?_
  extract_lets judges confirms
  have judged : ∀ gone, (judges gone).Blind (Twins w w') := by
    intro gone
    unfold judges
    grind
  have confirmed : ∀ r, (confirms r).Blind (Twins w w') := by
    intro r
    refine blind_read (fun _ _ _ => rfl) fun s => ?_
    split
    · exact alike_bind (elapsed_blind _) judged
    · exact alike_bind (alike_pure _) judged
  split
  · exact alike_bind (blind_ask _) fun _ => alike_bind (blind_aside fun _ _ _ => rfl) confirmed
  · exact confirmed ()

@[grind .] theorem watchTwofa_blind (frame : Frame) : (watchTwofa frame).Blind (Twins w w') := by
  unfold watchTwofa
  refine alike_bind listWindows_blind fun listed => ?_
  cases listed with
  | error e =>
    refine alike_bind (blind_aside fun _ _ _ => rfl) fun _ => blind_read (fun _ _ _ => rfl) fun s => ?_
    grind
  | ok windows =>
    refine alike_bind (blind_aside fun _ _ _ => rfl) fun _ => ?_
    split
    · exact alike_pure _
    · refine alike_bind (findTwofaWindow_blind windows) fun found => ?_
      cases found with
      | some window => exact answerTwofa_blind frame window
      | none =>
        refine blind_read (fun _ _ _ => rfl) fun s => ?_
        grind

@[grind .] theorem twofaTimeout_blind (frame : Frame) : (twofaTimeout frame).Blind (Twins w w') := by
  unfold twofaTimeout
  simp only
  split
  · exact alike_pure _
  · refine alike_bind (blind_aside fun _ _ _ => rfl) fun _ => blind_read (fun _ _ _ => rfl) fun s => ?_
    grind

end Twofa

section Popups

theorem dispatchPopups_blind (windows : List WindowInfo) :
    (dispatchPopups windows).Blind (Twins w w') := by
  induction windows with
  | nil => exact alike_pure _
  | cons window rest ih =>
    refine alike_bind (dispatch_blind window) fun dispatched => ?_
    split
    · refine alike_bind (blind_ask _) fun now => alike_bind (blind_aside fun _ _ _ => rfl) fun _ => ?_
      exact alike_bind ih fun _ => alike_pure _
    · exact ih

theorem inspectApiServer_blind (disconnected : Bool) (windows : List WindowInfo) :
    (inspectApiServer disconnected windows).Blind (Twins w w') := by
  induction windows generalizing disconnected with
  | nil => exact alike_pure _
  | cons window rest ih =>
    refine alike_bind dumpComponents_blind fun dumped => ?_
    cases dumped with
    | error e => exact ih disconnected
    | ok components => grind

end Popups

section Connection

@[grind .] theorem observe_blind (source : RevocationSource) :
    (observe source).Blind (Twins w w') := by
  unfold observe
  refine alike_bind (blind_ask _) fun now => blind_read (fun _ _ _ => rfl) fun s => ?_
  exact alike_bind (blind_aside fun _ _ _ => rfl) fun _ => alike_pure _

@[grind .] theorem clear_blind (tag : RevocationTag) : (clear tag).Blind (Twins w w') :=
  blind_aside fun _ _ _ => rfl

@[grind .] theorem observeOrClear_blind (present : Bool) (source : RevocationSource) :
    (observeOrClear present source).Blind (Twins w w') := by
  unfold observeOrClear
  grind

@[grind .] theorem syncClientIds_blind : syncClientIds.Blind (Twins w w') := by
  unfold syncClientIds
  refine blind_read (fun _ _ _ => rfl) fun s => ?_
  grind

@[grind .] theorem resetTwofaTimeouts_blind (frame : Frame) :
    (resetTwofaTimeouts frame).Blind (Twins w w') := by
  unfold resetTwofaTimeouts
  refine blind_read (fun _ _ _ => rfl) fun s => ?_
  dsimp only
  split
  · split
    · refine alike_bind (elapsed_blind _) fun since => ?_
      split
      · exact blind_aside fun _ _ _ => rfl
      · exact alike_pure _
    · exact alike_pure _
  · exact alike_pure _

theorem markStable_blind (frame : Frame) : (markStable frame).Blind (Twins w w') := by
  unfold markStable
  cases frame.connectedContinuouslySince with
  | none => exact alike_pure _
  | some since =>
    refine alike_bind (blind_ask _) fun now => ?_
    split
    · refine alike_bind (blind_aside fun _ _ _ => rfl) fun _ => blind_read (fun _ _ _ => rfl) fun s => ?_
      split
      · refine alike_bind (blind_ask _) fun written => alike_bind (blind_emit _) fun _ => ?_
        exact blind_aside fun _ _ _ => rfl
      · exact alike_pure _
    · exact alike_pure _

end Connection

end Ibctl.Machine
