import Ibctl.Handlers.ApiConfig
import Ibctl.Handlers.Dialogs

/-! Which dialogs about orders are left to the user, whatever goes through the windows. -/
namespace Ibctl.Handlers
open Tasks Task Machine Text

section Clicks

/-- A click on a button of the window. -/
def IsClick (window : WindowId) (stroke : Stroke) : Prop := ∃ label, stroke = .clicked window label

/-- No button of the window was clicked. -/
def Untouched (window : WindowId) (strokes : List Stroke) : Prop := ∀ stroke ∈ strokes, ¬ IsClick window stroke

variable {schedule : Schedule Answers} {window : WindowInfo}

abbrev KeepsClicked {α : Type} (schedule : Schedule Answers) (window : WindowInfo) (t : Handle α) : Prop :=
  t.Keeps schedule (Did (IsClick window.id))

/-- The task clicks a button of the window, wherever it ends. -/
abbrev Clicks {α : Type} (schedule : Schedule Answers) (window : WindowInfo) (t : Handle α) : Prop :=
  t.Does schedule (IsClick window.id)

theorem clicks_clickButton (label : String) : Clicks schedule window (clickButton window.id label) :=
  does_bind (does_emit ⟨label,rfl⟩) fun _ => keeps_await _

theorem keepsClicked_clickButton (label : String) :
    KeepsClicked schedule window (clickButton window.id label) :=
  (clicks_clickButton label).keeps

theorem keepsClicked_clickFirst (labels : List String) :
    KeepsClicked schedule window (clickFirst window.id labels) := by
  induction labels with
  | nil => exact keeps_pure _
  | cons label rest ih =>
    refine keeps_bind (keepsClicked_clickButton label) fun clicked => ?_
    split
    · exact keeps_pure _
    · exact ih

theorem clicks_clickFirst (label : String) (rest : List String) :
    Clicks schedule window (clickFirst window.id (label :: rest)) := by
  refine triple_bind (clicks_clickButton label) fun clicked => ?_
  split
  · exact keeps_pure _
  · exact keepsClicked_clickFirst rest

theorem clicks_clickAnyOf (label : String) (rest : List String) (missing : String) :
    Clicks schedule window (clickAnyOf window (label :: rest) missing) := by
  refine does_bind (clicks_clickFirst label rest) fun clicked => ?_
  split
  · exact keeps_pure _
  · exact keeps_pure _

end Clicks

section Handling

variable {schedule : Schedule Answers} {window : WindowInfo}

theorem LoginHandler.handle_clicks (self : LoginHandler) : Clicks schedule window (self.handle window) := by
  have verified : ∀ expected attempts, KeepsClicked schedule window (verifyMode expected attempts) := by
    intro expected attempts
    induction attempts with
    | zero => exact keeps_pure _
    | succ attempts ih =>
      refine keeps_bind keeps_sleep fun _ => keeps_bind (keeps_await _) fun dumped => ?_
      split
      · split
        · exact keeps_pure _
        · exact ih
      · exact ih
  have typed : ∀ field text, KeepsClicked schedule window (typeText window.id field text) := by
    intro field text
    exact keeps_bind (keeps_did_emit _) fun _ => keeps_bind (keeps_await _) fun _ => keeps_orFail _ _
  unfold handle
  refine does_bind (clicks_clickButton _) fun _ => keeps_bind keeps_sleep fun _ => ?_
  refine keeps_bind (keepsClicked_clickButton _) fun _ => keeps_bind (verified _ _) fun _ => ?_
  refine keeps_bind (typed _ _) fun username => ?_
  split
  · exact keeps_pure _
  refine keeps_bind (typed _ _) fun password => ?_
  split
  · exact keeps_pure _
  refine keeps_bind (keepsClicked_clickFirst _) fun submitted => ?_
  split
  · exact keeps_pure _
  · exact keeps_bind (keeps_update fun _ _ clicked => clicked) fun _ => keeps_pure _

theorem SessionConflictHandler.handle_clicks (action : SessionAction) :
    Clicks schedule window (handle action window) := by
  unfold handle
  cases action with
  | primary => exact clicks_clickAnyOf _ _ _
  | secondary => exact clicks_clickAnyOf _ _ _
  | primaryOverride => exact clicks_clickAnyOf _ _ _

theorem ReloginHandler.handle_clicks : Clicks schedule window (handle window) :=
  does_bind (clicks_clickFirst _ _) fun _ => keeps_pure _

theorem SslReconnectHandler.handle_clicks : Clicks schedule window (handle window) :=
  clicks_clickAnyOf _ _ _

theorem TipOfDayHandler.handle_clicks : Clicks schedule window (handle window) := by
  refine does_bind (clicks_clickButton _) fun closed => ?_
  split
  · exact keeps_pure _
  · refine keeps_bind (keepsClicked_clickButton _) fun _ => ?_
    exact keeps_bind (keeps_orFail _ _) fun _ => keeps_pure _

theorem PaperWarningHandler.handle_clicks : Clicks schedule window (handle window) :=
  clicks_clickAnyOf _ _ _

theorem VersionNoticeHandler.handle_clicks : Clicks schedule window (handle window) := by
  have answered : ∀ labels, KeepsClicked schedule window (clickUntilAnswered window labels) := by
    intro labels
    induction labels with
    | nil => exact keeps_pure _
    | cons label rest ih =>
      refine keeps_bind (keepsClicked_clickButton _) fun clicked => ?_
      split
      · exact keeps_pure _
      · exact ih
  have first : Clicks schedule window (clickUntilAnswered window ["OK","Close","Dismiss"]) := by
    refine does_bind (clicks_clickButton _) fun clicked => ?_
    split
    · exact keeps_pure _
    · exact answered _
  unfold handle
  refine does_bind first fun clicked => ?_
  dsimp only
  split
  · refine keeps_bind (keeps_did_emit _) fun _ => keeps_bind (keeps_await _) fun _ => ?_
    exact keeps_bind (keeps_orFail _ _) fun _ => keeps_pure _
  · exact keeps_pure _

theorem GatewayNotificationHandler.handle_clicks : Clicks schedule window (handle window) := by
  refine does_bind (clicks_clickFirst _ _) fun clicked => ?_
  split
  · exact keeps_pure _
  · exact keeps_pure _

theorem AcceptConnectionHandler.handle_clicks {action : AcceptIncoming} (acts : action ≠ .manual) :
    Clicks schedule window (handle action window) := by
  cases action with
  | manual => exact absurd rfl acts
  | accept =>
    refine does_bind (clicks_clickButton _) fun _ => ?_
    exact keeps_bind (keeps_orFail _ _) fun _ => keeps_pure _
  | reject =>
    refine does_bind (clicks_clickButton _) fun _ => ?_
    exact keeps_bind (keeps_orFail _ _) fun _ => keeps_pure _

/-- Nothing is in the way of a handler, and the components are answered like this. -/
def willing (dump : Except AgentError Json) : Schedule Answers where
  answers :=
    { clickButton := fun _ => .ok true
      dumpComponents := fun _ => dump
      typeText := fun _ => .ok true
      typeTextBest := fun _ => .ok true
      sendKey := fun _ => .ok true
      verifyWindow := fun _ => .ok none
      secret := fun _ => some ""
      correctedUnixSeconds := fun _ => .ok 0
      generateAt := fun _ _ _ => .ok "" }
  dropAt := none

variable {dump : Except AgentError Json}

theorem TotpEntryHandler.handle_clicks (self : TotpEntryHandler) :
    Clicks (willing dump) window (self.handle window) := by
  have verified : (self.verify window).Triple (willing dump) (fun _ _ => True)
      (fun refused _ _ => refused = none) (Did (IsClick window.id)) := by
    unfold verify
    split
    · exact triple_pure fun _ _ _ => rfl
    · refine triple_answered rfl (fun _ => rfl) ?_
      exact triple_pure fun _ _ _ => rfl
  have generated : self.generate.Triple (willing dump) (fun _ _ => True) (fun _ _ _ => True)
      (Did (IsClick window.id)) := by
    unfold generate
    refine triple_asked (fun _ => rfl) ?_
    refine triple_answered rfl (fun _ => rfl) ?_
    refine triple_asked (fun _ => rfl) ?_
    simp only [orFail,pure_bind]
    refine triple_answered rfl (fun _ => rfl) ?_
    exact triple_pure fun _ _ _ => trivial
  have submitted : Clicks (willing dump) window (submit window) := by
    refine does_bind (clicks_clickFirst _ _) fun clicked => ?_
    dsimp only
    split
    · refine keeps_bind (keeps_did_emit _) fun _ => keeps_bind (keeps_await _) fun _ => ?_
      exact keeps_bind (keeps_orFail _ _) fun _ => keeps_pure _
    · exact keeps_pure _
  unfold handle
  refine triple_bind verified fun refused => ?_
  cases refused with
  | some result => exact fun here before => absurd before (Option.some_ne_none result)
  | none => ?_
  refine triple_bind (generated.mono (fun _ _ _ => trivial) (fun _ _ _ _ => trivial) fun _ _ => id)
    fun code => ?_
  refine triple_bind (R := fun _ _ _ => True) (triple_emit fun _ _ _ => trivial) fun _ => ?_
  refine triple_answered rfl (fun _ => rfl) ?_
  simp only [orFail,pure_bind]
  exact submitted

/-- What a dump answers, or nothing where it fails. -/
abbrev dumped (dump : Except AgentError Json) : Json := dump.toOption.getD .null

theorem IbcCompatibilityDialogHandler.handle_clicks (self : IbcCompatibilityDialogHandler)
    {action : DialogAction}
    (classified : classifyDialog self.policy window.title (dialogTextBlob window (dumped dump)) = some action) :
    Clicks (willing dump) window (self.handle window) := by
  obtain ⟨label,rest,buttons⟩ := List.exists_cons_of_ne_nil (buttons_of_classifyDialog action classified)
  unfold handle
  generalize classifyDialog self.policy window.title = classify at classified ⊢
  refine triple_answered (b := dump) rfl (fun _ => rfl) ?_
  dsimp only
  rw [classified]
  dsimp only
  rw [buttons]
  refine does_bind (clicks_clickFirst label rest) fun clicked => ?_
  split
  · exact keeps_pure _
  · exact keeps_pure _

/-- The handler declines, and leaves everything as it was. -/
abbrev Declines (schedule : Schedule Answers) (t : Handle HandlerResult) : Prop :=
  t.Triple schedule (fun submitted _ => submitted = false)
    (fun result submitted _ => result = .notApplicable ∧ submitted = false) (fun _ _ => False)

theorem IbcCompatibilityDialogHandler.handle_declines (self : IbcCompatibilityDialogHandler)
    (left : classifyDialog self.policy window.title (dialogTextBlob window (dumped dump)) = none) :
    Declines (willing dump) (self.handle window) := by
  unfold handle
  generalize classifyDialog self.policy window.title = classify at left ⊢
  refine triple_answered (b := dump) rfl (fun _ => rfl) ?_
  dsimp only
  rw [left]
  exact triple_pure fun _ _ unsubmitted => ⟨rfl,unsubmitted⟩

theorem AcceptConnectionHandler.handle_declines : Declines schedule (handle .manual window) :=
  triple_pure fun _ _ unsubmitted => ⟨rfl,unsubmitted⟩

end Handling

section Dispatch

variable {schedule : Schedule Answers} {window : WindowInfo} {handlers : List DialogHandler}

theorem dispatch_keeps {I : Bool → List Stroke → Prop}
    (kept : ∀ handler ∈ handlers, ∀ submitted, handler.canHandle submitted window = true →
      (handler.handle window).Keeps schedule I) :
    (dispatch window handlers).Keeps schedule I := by
  induction handlers with
  | nil => exact keeps_pure _
  | cons first rest ih =>
    have goesOn := ih fun other among => kept other (List.mem_cons_of_mem _ among)
    unfold dispatch
    refine keeps_bind keeps_current fun submitted => ?_
    split
    next can =>
      refine keeps_bind (keeps_attempt (kept first List.mem_cons_self _ can)) fun result => ?_
      split
      · exact goesOn
      · exact keeps_pure _
    · exact goesOn

/-- One of the handlers that can handle the window clicks in it, and those before it decline. -/
theorem dispatch_clicks (lasts : ∀ handler ∈ handlers, KeepsClicked schedule window (handler.handle window))
    (settled : ∀ handler ∈ handlers, Clicks schedule window (handler.handle window) ∨
      Declines schedule (handler.handle window))
    {handler : DialogHandler} (registered : handler ∈ handlers)
    (can : handler.canHandle false window = true) (clicks : Clicks schedule window (handler.handle window)) :
    (dispatch window handlers).Triple schedule (fun submitted _ => submitted = false)
      (fun _ => Did (IsClick window.id)) (Did (IsClick window.id)) := by
  induction handlers with
  | nil => cases registered
  | cons first rest ih =>
    have goesOn : handler ∈ rest → (dispatch window rest).Triple schedule
        (fun submitted _ => submitted = false) (fun _ => Did (IsClick window.id)) (Did (IsClick window.id)) :=
      ih (fun other among => lasts other (List.mem_cons_of_mem _ among))
        fun other among => settled other (List.mem_cons_of_mem _ among)
    have restLasts : KeepsClicked schedule window (dispatch window rest) :=
      dispatch_keeps fun other among _ _ => lasts other (List.mem_cons_of_mem _ among)
    have turn : Clicks schedule window (first.handle window) ∨
        handler ∈ rest ∧ Declines schedule (first.handle window) := by
      rcases List.mem_cons.mp registered with rfl | later
      · exact .inl clicks
      · exact (settled first List.mem_cons_self).imp_right fun declines => ⟨later,declines⟩
    unfold dispatch
    refine triple_bind (R := fun submitted submitted' _ => submitted = false ∧ submitted' = false)
      (triple_current fun _ _ unsubmitted => ⟨unsubmitted,unsubmitted⟩) fun submitted => ?_
    cases submitted with
    | true => exact fun here before => by cases before.1
    | false => ?_
    refine Triple.mono (P := fun submitted _ => submitted = false) ?_ (fun _ _ => And.right)
      (fun _ _ _ => id) fun _ _ => id
    split
    · rcases turn with firstClicks | ⟨later,declines⟩
      · refine triple_bind (R := fun _ => Did (IsClick window.id)) ?_ fun result => ?_
        · exact (triple_attempt firstClicks).mono (fun _ _ _ => trivial)
            (fun result _ _ held => by cases result <;> exact held) fun _ _ => id
        · split
          · exact restLasts
          · exact keeps_pure _
      · refine triple_bind ((triple_attempt declines).mono (fun _ _ => id) (fun _ _ _ => id)
          fun _ _ => False.elim) fun result => ?_
        cases result with
        | error error => exact fun here before => before.elim
        | ok result =>
          cases result with
          | notApplicable => exact (goesOn later).mono (fun _ _ => And.right) (fun _ _ _ => id) fun _ _ => id
          | handled => exact fun here before => by cases before.1
          | error message => exact fun here before => by cases before.1
    next cannot =>
      rcases List.mem_cons.mp registered with rfl | later
      · exact absurd can cannot
      · exact goesOn later

theorem dispatch_touches
    (settled : ∀ handler ∈ handlers, KeepsClicked schedule window (handler.handle window) ∧
      (Clicks schedule window (handler.handle window) ∨ Declines schedule (handler.handle window)))
    {handler : DialogHandler} (registered : handler ∈ handlers)
    (can : handler.canHandle false window = true) (clicks : Clicks schedule window (handler.handle window)) :
    ¬ Untouched window.id ((dispatch window handlers).start schedule false).effects := by
  have clicked := dispatch_clicks (fun other among => (settled other among).1)
    (fun other among => (settled other among).2) registered can clicks
  obtain ⟨stroke,among,click⟩ := clicked.after ⟨false,0,[]⟩ rfl
  exact fun untouched => untouched stroke among click

/-- The components of the window are these, whenever they can be read. -/
def Shows (components : Json) (schedule : Schedule Answers) : Prop :=
  ∀ n read, schedule.answers.dumpComponents n = .ok read → read = components

/-- Of the handlers that click, none can handle the window: the one of the many small dialogs leaves
it to the user, whether or not it can read the components, and the one of incoming connections
leaves all of them. -/
structure DialogHandlerRegistry.LeavesAlone (registry : DialogHandlerRegistry) (window : WindowInfo)
    (components : Json) : Prop where
  login : LoginHandler.canHandle false window = false
  twofa : TotpEntryHandler.canHandle window = false
  conflict : SessionConflictHandler.canHandle window = false
  relogin : ReloginHandler.canHandle window = false
  ssl : SslReconnectHandler.canHandle window = false
  tip : TipOfDayHandler.canHandle window = false
  compat : IbcCompatibilityDialogHandler.canHandle window = true → ∀ read ∈ [components,.null],
    LeftToUser registry.policy window.title (dialogTextBlob window read)
  accept : AcceptConnectionHandler.canHandle window = true → registry.acceptIncoming = .manual
  paper : PaperWarningHandler.canHandle window = false
  version : VersionNoticeHandler.canHandle window = false
  notification : GatewayNotificationHandler.canHandle window = false

theorem IsOrderDecision.guarded {policy : DialogPolicy} {components : Json}
    (order : IsOrderDecision policy window components) :
    (InTitle window.title "cryptocurrency order confirmation" ∧ policy.cryptoOrderDecision = .manual) ∨
      policy.allowBlindTrading = false :=
  order.imp_right And.right

theorem IbcCompatibilityDialogHandler.handle_untouched (self : IbcCompatibilityDialogHandler) {components : Json}
    (order : IsOrderDecision self.policy window components) (shows : Shows components schedule)
    (left : ∀ read ∈ [components,.null],
      LeftToUser self.policy window.title (dialogTextBlob window read)) :
    (self.handle window).Keeps schedule (fun _ => Untouched window.id) := by
  have declined : ∀ read ∈ [components,.null],
      classifyDialog self.policy window.title (dialogTextBlob window read) = none :=
    fun read among => (classifyDialog_eq_none order.guarded).mpr (left read among)
  unfold handle
  generalize classifyDialog self.policy window.title = classify at declined ⊢
  refine triple_bind (R := fun dump _ strokes => dumped dump ∈ [components,.null] ∧ Untouched window.id strokes)
    (triple_await (fun _ _ => id) fun n s strokes untouched => ⟨?_,untouched⟩) fun dump => ?_
  · cases answered : schedule.answers.dumpComponents n with
    | ok read =>
      obtain rfl := shows n read answered
      exact List.mem_cons_self
    | error e => exact List.mem_cons_of_mem _ List.mem_cons_self
  · rintro here ⟨among,untouched⟩
    dsimp only
    rw [declined _ among]
    exact untouched

theorem shows_willing {components : Json} {dump : Except AgentError Json}
    (dumped : dump = .ok components ∨ dump = .error .timeout) : Shows components (willing dump) := by
  rintro n read answered
  rcases dumped with rfl | rfl
  · exact (Except.ok.inj answered).symm
  · cases answered

theorem IbcCompatibilityDialogHandler.handle_keepsClicked (self : IbcCompatibilityDialogHandler) :
    KeepsClicked schedule window (self.handle window) := by
  refine keeps_bind (keeps_await _) fun dump => ?_
  dsimp only
  split
  · exact keeps_pure _
  · refine keeps_bind (keepsClicked_clickFirst _) fun clicked => ?_
    split
    · exact keeps_pure _
    · exact keeps_pure _

theorem IbcCompatibilityDialogHandler.handle_settles (self : IbcCompatibilityDialogHandler)
    (dump : Except AgentError Json) :
    KeepsClicked (willing dump) window (self.handle window) ∧
      (Clicks (willing dump) window (self.handle window) ∨
        Declines (willing dump) (self.handle window)) := by
  refine ⟨self.handle_keepsClicked,?_⟩
  cases classified : classifyDialog self.policy window.title (dialogTextBlob window (dumped dump)) with
  | some action => exact .inl (self.handle_clicks classified)
  | none => exact .inr (self.handle_declines classified)

theorem AcceptConnectionHandler.handle_settles (action : AcceptIncoming) :
    KeepsClicked schedule window (handle action window) ∧
      (Clicks schedule window (handle action window) ∨ Declines schedule (handle action window)) := by
  by_cases manual : action = .manual
  · subst manual
    exact ⟨keeps_pure _,.inr handle_declines⟩
  · exact ⟨(handle_clicks manual).keeps,.inl (handle_clicks manual)⟩

/-- Where nothing is in its way, every handler clicks or declines. -/
theorem DialogHandlerRegistry.settles (registry : DialogHandlerRegistry) (dump : Except AgentError Json) :
    ∀ handler ∈ registry.handlers, KeepsClicked (willing dump) window (handler.handle window) ∧
      (Clicks (willing dump) window (handler.handle window) ∨
        Declines (willing dump) (handler.handle window)) := by
  have settles : ∀ {t : Handle HandlerResult}, Clicks (willing dump) window t →
      KeepsClicked (willing dump) window t ∧
        (Clicks (willing dump) window t ∨ Declines (willing dump) t) :=
    fun clicks => ⟨clicks.keeps,.inl clicks⟩
  simp only [handlers,withDefaults,List.forall_mem_cons]
  exact ⟨settles (LoginHandler.handle_clicks _),settles (TotpEntryHandler.handle_clicks _),
    settles (SessionConflictHandler.handle_clicks _),settles ReloginHandler.handle_clicks,
    settles SslReconnectHandler.handle_clicks,settles TipOfDayHandler.handle_clicks,
    IbcCompatibilityDialogHandler.handle_settles _ _,AcceptConnectionHandler.handle_settles _,
    settles PaperWarningHandler.handle_clicks,settles VersionNoticeHandler.handle_clicks,
    settles GatewayNotificationHandler.handle_clicks,List.forall_mem_nil _⟩

/-- The registry leaves a dialog about an order alone just where none of its clicking handlers can
handle it. -/
theorem dispatch_untouched_iff (registry : DialogHandlerRegistry) {components : Json}
    (order : IsOrderDecision registry.policy window components) :
    (∀ schedule submitted, Shows components schedule →
      Untouched window.id ((dispatch window registry.handlers).start schedule submitted).effects) ↔
      registry.LeavesAlone window components := by
  constructor
  · intro untouched
    have alone : ∀ dump, (dump = .ok components ∨ dump = .error .timeout) →
        ∀ handler ∈ registry.handlers, handler.canHandle false window = true →
          ¬ Clicks (willing dump) window (handler.handle window) := by
      intro dump shown handler registered can clicks
      exact dispatch_touches (registry.settles dump) registered can clicks
        (untouched (willing dump) false (shows_willing shown))
    have always : ∀ handler ∈ registry.handlers,
        (∀ dump, Clicks (willing dump) window (handler.handle window)) →
          handler.canHandle false window = false := by
      intro handler registered clicks
      exact Bool.eq_false_iff.mpr fun can => alone (.ok components) (.inl rfl) handler registered can (clicks _)
    simp only [DialogHandlerRegistry.handlers,withDefaults,List.forall_mem_cons,LoginHandler.registered,
      TotpEntryHandler.registered,SessionConflictHandler.registered,ReloginHandler.registered,
      SslReconnectHandler.registered,TipOfDayHandler.registered,IbcCompatibilityDialogHandler.registered,
      AcceptConnectionHandler.registered,PaperWarningHandler.registered,VersionNoticeHandler.registered,
      GatewayNotificationHandler.registered] at alone always
    obtain ⟨login,twofa,conflict,relogin,ssl,tip,-,-,paper,version,notification,-⟩ := always
    refine
      { login := login fun _ => registry.login.handle_clicks
        twofa := twofa fun _ => registry.totpEntry.handle_clicks
        conflict := conflict fun _ => SessionConflictHandler.handle_clicks registry.sessionAction
        relogin := relogin fun _ => ReloginHandler.handle_clicks
        ssl := ssl fun _ => SslReconnectHandler.handle_clicks
        tip := tip fun _ => TipOfDayHandler.handle_clicks
        compat := fun can read among => ?_
        accept := fun can => ?_
        paper := paper fun _ => PaperWarningHandler.handle_clicks
        version := version fun _ => VersionNoticeHandler.handle_clicks
        notification := notification fun _ => GatewayNotificationHandler.handle_clicks }
    · rw [← classifyDialog_eq_none order.guarded]
      obtain ⟨dump,shown,rfl⟩ : ∃ dump, (dump = .ok components ∨ dump = .error .timeout) ∧
          dumped dump = read := by
        rcases List.mem_cons.mp among with rfl | unread
        · exact ⟨_,.inl rfl,rfl⟩
        · exact ⟨_,.inr rfl,(List.mem_singleton.mp unread).symm⟩
      have compat := (alone dump shown).2.2.2.2.2.2.1
      by_contra classified
      obtain ⟨action,classified⟩ := Option.ne_none_iff_exists'.mp classified
      exact compat can (IbcCompatibilityDialogHandler.handle_clicks ⟨registry.policy⟩ classified)
    · have accept := (alone (.ok components) (.inl rfl)).2.2.2.2.2.2.2.1
      by_contra acts
      exact accept can (AcceptConnectionHandler.handle_clicks acts)
  · intro leaves schedule submitted shows
    have kept : (dispatch window registry.handlers).Keeps schedule (fun _ => Untouched window.id) := by
      refine dispatch_keeps ?_
      simp only [DialogHandlerRegistry.handlers,withDefaults,List.forall_mem_cons,LoginHandler.registered,
        TotpEntryHandler.registered,SessionConflictHandler.registered,ReloginHandler.registered,
        SslReconnectHandler.registered,TipOfDayHandler.registered,IbcCompatibilityDialogHandler.registered,
        AcceptConnectionHandler.registered,PaperWarningHandler.registered,VersionNoticeHandler.registered,
        GatewayNotificationHandler.registered]
      have idle : ∀ {able : Bool} {t : Handle HandlerResult}, able = false → Bool → able = true →
          t.Keeps schedule (fun _ => Untouched window.id) := by
        rintro able t rfl _ ⟨⟩
      refine ⟨fun submitted can => ?_,idle leaves.twofa,idle leaves.conflict,idle leaves.relogin,
        idle leaves.ssl,idle leaves.tip,fun _ can => ?_,fun _ can => ?_,idle leaves.paper,
        idle leaves.version,idle leaves.notification,List.forall_mem_nil _⟩
      · cases submitted with
        | true => cases can
        | false => exact idle leaves.login false can
      · exact IbcCompatibilityDialogHandler.handle_untouched ⟨registry.policy⟩ order shows (leaves.compat can)
      · rw [leaves.accept can]
        exact keeps_pure _
    exact kept.start submitted (List.forall_mem_nil _)

end Dispatch

section Paths

/-- No button of the window is clicked, whatever the agent answers: when the window is handed to the
registry, when the API is configured and when the settings are saved. -/
def StaysManual (registry : DialogHandlerRegistry) (settings : ApiConfigSettings) (screen : List WindowInfo)
    (window : WindowInfo) (components : Json) : Prop :=
  (∀ schedule submitted, Shows components schedule →
    Untouched window.id ((dispatch window registry.handlers).start schedule submitted).effects) ∧
  (∀ schedule, Lists screen schedule →
    UiUntouched window.id ((applyApiConfig settings).start schedule ()).effects) ∧
  ∀ schedule, Lists screen schedule → UiUntouched window.id (saveTwsSettings.start schedule ()).effects

def sampleRegistry : DialogHandlerRegistry where
  login := ⟨"user","password",.paper⟩
  totpEntry := ⟨"TWOFACTOR_CODE",false,false⟩
  sessionAction := .primary
  acceptIncoming := .accept
  policy := .default

def gatewayShown : WindowInfo := ⟨⟨1⟩,"IBKR Gateway","frame",some ⟨700,550⟩⟩

def configShown : WindowInfo := ⟨⟨2⟩,"Trader Workstation Configuration","dialog",none⟩

def cryptoShown : WindowInfo := ⟨⟨3⟩,"Cryptocurrency Order Confirmation","dialog",none⟩

def warningShown : WindowInfo := ⟨⟨4⟩,"Warning","dialog",none⟩

def blindTexts : Json := .object [("labels",.array [.string "Blind trading: no market data for this order"])]

def utcSettings : ApiConfigSettings := ⟨none,none,none,none,none,some "UTC format",none,none⟩

end Paths

end Ibctl.Handlers
