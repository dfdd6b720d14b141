import Ibctl.Lib.Text
import Ibctl.StateMachine.Session

/-! What goes through all windows: the configuration of the API after a login, with its sweeps of
the dialogs that are in its way, and the saving of the settings. -/
namespace Ibctl.Handlers
open Tasks Task Machine

structure ApiConfigSettings where
  socketPort : Option Nat
  masterClientId : Option String
  readOnlyApi : Option Bool
  bypassOrderPrecautions : Option Bool
  allowBlindTrading : Option Bool
  instrumentTimezone : Option String
  autoRestartTime : Option String
  autoLogoffTime : Option String

def ApiConfigSettings.hasSettings (self : ApiConfigSettings) : Bool :=
  self.masterClientId.isSome || self.socketPort.isSome || self.readOnlyApi.isSome ||
    self.bypassOrderPrecautions.isSome || self.allowBlindTrading.isSome ||
    self.instrumentTimezone.isSome || self.autoRestartTime.isSome || self.autoLogoffTime.isSome

/-- What the agent answers; of a checkbox, whether it was found. -/
structure UiAnswers where
  isRunning : Nat → Bool
  listWindows : Nat → Except AgentError (List WindowInfo)
  clickButton : Nat → Except AgentError Bool
  clickMenu : Nat → Except AgentError Bool
  clickAt : Nat → Except AgentError Bool
  typeText : Nat → Except AgentError Bool
  typeTextByLabel : Nat → Except AgentError Bool
  setCheckbox : Nat → Except AgentError Bool
  setCombobox : Nat → Except AgentError Bool
  selectTreeNode : Nat → Except AgentError Bool

inductive UiAction where
  | clicked (window : WindowId) (label : String)
  | clickedMenu (window : WindowId) (path : String)
  | clickedAt (window : WindowId) (x y : Int)
  | typed (window : WindowId) (field : Nat) (text : String)
  | typedByLabel (window : WindowId) (label text : String)
  | setCheckbox (window : WindowId) (label : String) (state : Bool)
  | setCombobox (window : WindowId) (label item : String)
  | selectedTreeNode (window : WindowId) (node : String)
deriving DecidableEq, Repr

abbrev Ui := Task UiAnswers UiAction String Unit

def act (action : UiAction) (answer : UiAnswers → Nat → Except AgentError Bool) :
    Ui (Except AgentError Bool) := do
  emit action
  await answer

def clickAll (window : WindowId) : List String → Ui Unit
  | [] => return
  | label :: rest => do
    let _ ← act (.clicked window label) UiAnswers.clickButton
    clickAll window rest

/-- The buttons of these names, in every window of the list. -/
def sweep (labels : List String) : List WindowInfo → Ui Unit
  | [] => return
  | window :: rest => do
    clickAll window.id labels
    sweep labels rest

/-- The windows that are listed, or none where that fails. -/
def listed : Ui (List WindowInfo) := do return (← await UiAnswers.listWindows).toOption.getD []

def dismissPopups (configWin : WindowId) : Ui Unit := do
  sweep ["Yes","OK"] ((← listed).filter fun window => window.id ≠ configWin)

def precautionLabels : List String :=
  ["Bypass Order Precautions for API Orders",
    "Bypass Bond warning for API Orders",
    "Bypass negative yield to worst confirmation for API Orders",
    "Bypass Called Bond warning for API Orders",
    "Bypass \"same action pair trade\" warning for API orders",
    "Bypass price-based volatility risk warning for API Orders",
    "Bypass Redirect Order warning for Stock API Orders",
    "Bypass No Overfill Protection precaution",
    "Bypass Route Marketable to BBO warning for API orders"]

/-- The number of labels that were not found. -/
def applyPrecautionLabels (configWin : WindowId) (bypass : Bool) : List String → Ui Nat
  | [] => return 0
  | label :: rest => do
    let outcome ← act (.setCheckbox configWin label bypass) UiAnswers.setCheckbox
    let missing ← applyPrecautionLabels configWin bypass rest
    return if outcome = .ok false then missing + 1 else missing

/-- A box that is to be cleared is ticked first; a label that is missing is counted once. -/
def setReadOnly (configWin : WindowId) (readOnly : Bool) : Ui Nat := do
  let ticked ← act (.setCheckbox configWin "Read-Only API" true) UiAnswers.setCheckbox
  if readOnly then return if ticked = .ok false then 1 else 0
  let cleared ← act (.setCheckbox configWin "Read-Only API" false) UiAnswers.setCheckbox
  return if ticked = .ok false ∨ cleared = .ok false then 1 else 0

def pollConfig : Nat → Ui (Option WindowInfo)
  | 0 => return none
  | attempts + 1 => do
    sleep
    match (← listed).find? fun window => titleContains window.title ["configuration"] with
    | some window => return some window
    | none => pollConfig attempts

/-- The centre of a window. -/
def centre (window : WindowInfo) : Int × Int :=
  match window.bounds with
  | some bounds => (bounds.width.tdiv 2,bounds.height.tdiv 2)
  | none => (350,275)

def openMenu (win : WindowInfo) : Ui Unit := do
  match ← act (.clickedMenu win.id "Configure/Settings") UiAnswers.clickMenu with
  | .ok true => return
  | _ =>
    let _ ← act (.clickedMenu win.id "Configure") UiAnswers.clickMenu
    sleep

def openConfig (win : WindowInfo) : Nat → Ui (Option WindowInfo)
  | 0 => return none
  | attempts + 1 => do
    openMenu win
    match ← pollConfig 20 with
    | some configWin => return some configWin
    | none =>
      let _ ← act (.clickedAt win.id (centre win).1 (centre win).2) UiAnswers.clickAt
      sleep
      openConfig win attempts

def errorText : AgentError → String
  | .connectionFailed path source => "agent not reachable at " ++ path ++ ": " ++ source
  | .requestFailed reason => "agent request failed: " ++ reason
  | .agent reason => "agent returned error: " ++ reason
  | .parseError reason => "failed to parse agent response: " ++ reason
  | .timeout => "timeout waiting for agent response"

/-- The words of a time, of which the second defaults to PM. -/
def parseTimeWithAmpm (input : String) : String × String :=
  let parts := (Text.splitWhitespace input.toList).map String.ofList
  (parts[0]?.getD input,parts[1]?.getD "PM")

section Configure

variable (settings : ApiConfigSettings) (configWin : WindowId)

def applySocketPort : Option Nat → Ui Unit
  | none => return
  | some port => do
    match ← act (.typedByLabel configWin "Socket port" (toString port)) UiAnswers.typeTextByLabel with
    | .ok true => return
    | _ => let _ ← act (.typed configWin 0 (toString port)) UiAnswers.typeText

def applyMasterClientId : Option String → Ui Unit
  | none => return
  | some id => do let _ ← act (.typed configWin 1 id) UiAnswers.typeText

def applyReadOnlyApi : Option Bool → Ui Nat
  | none => return 0
  | some readOnly => setReadOnly configWin readOnly

def applyTimezone : Option String → Ui Unit
  | none => return
  | some timezone => do
    let _ ← act (.setCombobox configWin
      "Send instrument-specific attributes for dual-mode API client in" timezone) UiAnswers.setCombobox

/-- The page API, Settings. -/
def applyApiSettings : Ui Nat := do
  applySocketPort configWin settings.socketPort
  applyMasterClientId configWin settings.masterClientId
  let missing ← applyReadOnlyApi configWin settings.readOnlyApi
  applyTimezone configWin settings.instrumentTimezone
  return missing

/-- The page Precautions. -/
def applyPrecautions : Ui Nat :=
  match settings.bypassOrderPrecautions with
  | none => return 0
  | some bypass => do
    let _ ← act (.selectedTreeNode configWin "Precautions") UiAnswers.selectTreeNode
    sleep
    let missing ← applyPrecautionLabels configWin bypass precautionLabels
    sleep
    dismissPopups configWin
    return missing

def typeTime (time : String) (kind : String) : Ui Unit := do
  let _ ← act (.typed configWin 0 (parseTimeWithAmpm time).1) UiAnswers.typeText
  let _ ← act (.clicked configWin (parseTimeWithAmpm time).2) UiAnswers.clickButton
  let _ ← act (.clicked configWin kind) UiAnswers.clickButton

/-- The page Lock and Exit. -/
def applyLockAndExit : Ui Unit := do
  if settings.autoRestartTime = none ∧ settings.autoLogoffTime = none then return
  let _ ← act (.selectedTreeNode configWin "Lock and Exit") UiAnswers.selectTreeNode
  sleep
  match settings.autoRestartTime,settings.autoLogoffTime with
  | some restartTime,_ =>
    typeTime configWin restartTime "Auto restart"
    sleep
    dismissPopups configWin
  | none,some logoffTime => typeTime configWin logoffTime "Auto logoff"
  | none,none => return

/-- The sweeps after the configuration was saved. -/
def dismissPostConfig : Nat → Ui Unit
  | 0 => return
  | sweeps + 1 => do
    sleep
    let post ← listed
    if post.length ≤ 1 then return
    sweep ["OK"] post
    dismissPostConfig sweeps

/-- A click on the main window closes a menu that is still open. -/
def clickMain : Ui Unit := do
  match (← listed).head? with
  | none => return
  | some mainWin =>
    let _ ← act (.clickedAt mainWin.id (centre mainWin).1 (centre mainWin).2) UiAnswers.clickAt

def saveAndClose : Ui Unit := do
  let _ ← act (.clicked configWin "Apply") UiAnswers.clickButton
  sleep
  let _ ← act (.clicked configWin "OK") UiAnswers.clickButton
  sleep
  dismissPostConfig 3
  clickMain

def selectNode (node : String) (failed : AgentError → String) : Ui Unit := do
  let _ ← orFail failed (← act (.selectedTreeNode configWin node) UiAnswers.selectTreeNode)
  sleep

/-- What is done in the configuration dialog once it is open. -/
def configure : Ui ApiConfigReport := do
  selectNode configWin "API" fun e => "Failed to select API: " ++ errorText e
  selectNode configWin "Settings" fun _ => "Failed to navigate to API/Settings"
  let readOnlyMissing ← applyApiSettings settings configWin
  let precautionsMissing ← applyPrecautions settings configWin
  applyLockAndExit settings configWin
  saveAndClose configWin
  return ⟨precautionsMissing,readOnlyMissing⟩

def applyApiConfig : Ui ApiConfigReport := do
  if !settings.hasSettings then return ⟨0,0⟩
  let windows ← orFail (fun e => "Failed to list windows: " ++ errorText e) (← await UiAnswers.listWindows)
  match windows.find? fun window => isGatewayTitle window.title with
  | none => fail "Main Gateway window not found — cannot apply API config"
  | some win =>
    match ← openConfig win 3 with
    | none => fail "Configuration dialog not found after 3 attempts"
    | some configWin => configure settings configWin.id

end Configure

def isTwsTitle (title : String) : Bool :=
  titleContains title ["ibkr gateway","ib gateway","trader workstation"]

/-- The windows that the sweep after a save passes over. -/
def isMainTitle (title : String) : Bool := titleContains title ["gateway","trader workstation"]

def dismissPostSaveDialogs : Ui Unit := do
  sweep ["OK","Yes"] ((← listed).filter fun window => !isMainTitle window.title)

def clickSave (win : WindowId) : List String → Ui Unit
  | [] => return
  | path :: rest => do
    match ← act (.clickedMenu win path) UiAnswers.clickMenu with
    | .ok true =>
      sleep
      dismissPostSaveDialogs
    | _ => clickSave win rest

def saveTwsSettings : Ui Unit := do
  if !(← ask UiAnswers.isRunning) then return
  let windows ← listed
  match (windows.find? fun window => isTwsTitle window.title) <|> windows.head? with
  | none => return
  | some win => clickSave win.id ["File/Save Settings","File/Save settings"]

section Steps

/-- The agent never lists a window that is not on the screen. -/
def Lists (screen : List WindowInfo) (schedule : Schedule UiAnswers) : Prop :=
  ∀ n windows, schedule.answers.listWindows n = .ok windows → windows.Sublist screen

/-- A task that does not fail, clicks buttons in windows of one kind alone, and takes the windows
it looks at from the screen. -/
inductive Steps (screen : List WindowInfo) (C : WindowId → Prop) : {α : Type} → Ui α → (α → Prop) → Prop
  | pure {α : Type} {Q : α → Prop} {a : α} (holds : Q a) : Steps screen C (pure a) Q
  | bind {α β : Type} {R : β → Prop} {Q : α → Prop} {t : Ui β} {f : β → Ui α} (first : Steps screen C t R)
      (second : ∀ b, R b → Steps screen C (f b) Q) : Steps screen C (t >>= f) Q
  | act {action : UiAction} {answer : UiAnswers → Nat → Except AgentError Bool}
      (kind : ∀ window label, action = .clicked window label → C window) :
      Steps screen C (act action answer) (fun _ => True)
  | sleep : Steps screen C sleep (fun _ => True)
  | listed : Steps screen C listed (fun windows => windows.Sublist screen)

def IsUiClick (window : WindowId) (action : UiAction) : Prop := ∃ label, action = .clicked window label

variable {screen : List WindowInfo} {C : WindowId → Prop} {schedule : Schedule UiAnswers}
  {window : WindowId}

theorem Steps.ensures {α : Type} {t : Ui α} {Q : α → Prop} (steps : Steps screen C t Q)
    (lists : Lists screen schedule) :
    t.Ensures schedule (fun action => ∀ window, IsUiClick window action → C window) Q := by
  induction steps with
  | pure holds => exact ensures_pure holds
  | bind _ _ first second => exact ensures_bind first second
  | act kind =>
    refine ensures_bind (ensures_emit ?_) fun _ _ => ensures_await fun _ => trivial
    rintro window ⟨label,rfl⟩
    exact kind window label rfl
  | sleep => exact ensures_sleep
  | listed =>
    refine ensures_bind (R := fun answered => (answered.toOption.getD []).Sublist screen)
      (ensures_await fun n => ?_) fun answered held => ensures_pure held
    cases answered : schedule.answers.listWindows n with
    | ok windows => exact lists n windows answered
    | error e => exact List.nil_sublist _

/-- The screen, and an agent that does everything it is asked for. -/
def obliging (screen : List WindowInfo) : Schedule UiAnswers where
  answers :=
    { isRunning := fun _ => true
      listWindows := fun _ => .ok screen
      clickButton := fun _ => .ok true
      clickMenu := fun _ => .ok true
      clickAt := fun _ => .ok true
      typeText := fun _ => .ok true
      typeTextByLabel := fun _ => .ok true
      setCheckbox := fun _ => .ok true
      setCombobox := fun _ => .ok true
      selectTreeNode := fun _ => .ok true }
  dropAt := none

theorem lists_obliging : Lists screen (obliging screen) := by
  rintro n windows answered
  exact (Except.ok.inj answered) ▸ List.Sublist.refl screen

theorem Steps.goes {α : Type} {t : Ui α} {Q : α → Prop} (steps : Steps screen C t Q) :
    t.Triple (obliging screen) (fun _ _ => True) (fun a _ _ => Q a) (fun _ _ => False) := by
  induction steps with
  | pure holds => exact triple_pure fun _ _ _ => holds
  | bind _ _ first second =>
    exact triple_bind first fun b here held => second b held here trivial
  | act kind =>
    refine triple_bind (R := fun _ _ _ => True) (triple_emit fun _ _ _ => trivial) fun _ => ?_
    exact triple_await_steady rfl fun _ _ _ _ => trivial
  | sleep => exact triple_await_steady rfl fun _ _ _ _ => trivial
  | listed =>
    refine triple_answered (b := .ok screen) rfl (fun _ => rfl) ?_
    exact triple_pure fun _ _ _ => List.Sublist.refl screen

theorem Steps.keeps {α : Type} {t : Ui α} {Q : α → Prop} {p : UiAction → Prop} (steps : Steps screen C t Q) :
    t.Keeps (obliging screen) (Did p) :=
  (steps.ensures lists_obliging).keeps_did

theorem Steps.last {α β : Type} {R : β → Prop} {Q : α → Prop} {t : Ui β} {f : β → Ui α}
    (first : Steps screen C t R) (second : ∀ b, Steps screen C (f b) Q) : Steps screen C (t >>= f) Q :=
  first.bind fun b _ => second b

theorem clickAll_steps (holds : C window) (labels : List String) :
    Steps screen C (clickAll window labels) (fun _ => True) := by
  induction labels with
  | nil => exact .pure trivial
  | cons label rest ih => exact .last (.act (by rintro _ _ ⟨⟩; exact holds)) fun _ => ih

theorem sweep_steps (labels : List String) {windows : List WindowInfo}
    (holds : ∀ window ∈ windows, C window.id) :
    Steps screen C (sweep labels windows) (fun _ => True) := by
  induction windows with
  | nil => exact .pure trivial
  | cons window rest ih =>
    refine .last (clickAll_steps (holds window List.mem_cons_self) labels) fun _ => ?_
    exact ih fun other among => holds other (List.mem_cons_of_mem _ among)

theorem dismissPopups_steps {configWin : WindowId}
    (holds : ∀ window ∈ screen, window.id ≠ configWin → C window.id) :
    Steps screen C (dismissPopups configWin) (fun _ => True) := by
  refine .bind .listed fun windows within => sweep_steps _ fun window among => ?_
  obtain ⟨shown,other⟩ := List.mem_filter.mp among
  exact holds window (within.subset shown) (by simpa using other)

/-- An action that is no click on a button. -/
theorem act_steps {action : UiAction} {answer : UiAnswers → Nat → Except AgentError Bool}
    (other : ∀ window, ¬ IsUiClick window action) :
    Steps screen C (act action answer) (fun _ => True) :=
  .act fun window label same => absurd ⟨label,same⟩ (other window)

theorem applyPrecautionLabels_steps (configWin : WindowId) (bypass : Bool) (labels : List String) :
    Steps screen C (applyPrecautionLabels configWin bypass labels) (fun _ => True) := by
  induction labels with
  | nil => exact .pure trivial
  | cons label rest ih =>
    exact .last (act_steps (by rintro _ ⟨_,⟨⟩⟩)) fun _ => .last ih fun _ => .pure trivial

theorem setReadOnly_steps (configWin : WindowId) (readOnly : Bool) :
    Steps screen C (setReadOnly configWin readOnly) (fun _ => True) := by
  unfold setReadOnly
  refine .last (act_steps (by rintro _ ⟨_,⟨⟩⟩)) fun ticked => ?_
  split
  · exact .pure trivial
  · exact .last (act_steps (by rintro _ ⟨_,⟨⟩⟩)) fun _ => .pure trivial

theorem pollConfig_steps (attempts : Nat) :
    Steps screen C (pollConfig attempts) (fun found => ∀ configWin, found = some configWin →
      configWin ∈ screen ∧ titleContains configWin.title ["configuration"] = true) := by
  induction attempts with
  | zero => exact .pure nofun
  | succ attempts ih =>
    refine .last .sleep fun _ => .bind .listed fun windows within => ?_
    split
    next configWin found =>
      refine .pure ?_
      rintro _ ⟨⟩
      exact ⟨within.subset (List.mem_of_find?_eq_some found),by simpa using List.find?_some found⟩
    · exact ih

theorem openMenu_steps (win : WindowInfo) : Steps screen C (openMenu win) (fun _ => True) := by
  refine .last (act_steps (by rintro _ ⟨_,⟨⟩⟩)) fun clicked => ?_
  split
  · exact .pure trivial
  · exact .last (act_steps (by rintro _ ⟨_,⟨⟩⟩)) fun _ => .sleep

theorem openConfig_steps (win : WindowInfo) (attempts : Nat) :
    Steps screen C (openConfig win attempts) (fun found => ∀ configWin, found = some configWin →
      configWin ∈ screen ∧ titleContains configWin.title ["configuration"] = true) := by
  induction attempts with
  | zero => exact .pure nofun
  | succ attempts ih =>
    refine .last (openMenu_steps win) fun _ => .bind (pollConfig_steps 20) fun found held => ?_
    cases found with
    | some configWin => exact .pure held
    | none => exact .last (act_steps (by rintro _ ⟨_,⟨⟩⟩)) fun _ => .last .sleep fun _ => ih

theorem applyApiSettings_steps (settings : ApiConfigSettings) (configWin : WindowId) :
    Steps screen C (applyApiSettings settings configWin) (fun _ => True) := by
  have port : ∀ value, Steps screen C (applySocketPort configWin value) (fun _ => True) := by
    intro value
    cases value with
    | none => exact .pure trivial
    | some port =>
      refine .last (act_steps (by rintro _ ⟨_,⟨⟩⟩)) fun typed => ?_
      split
      · exact .pure trivial
      · exact .last (act_steps (by rintro _ ⟨_,⟨⟩⟩)) fun _ => .pure trivial
  have master : ∀ value, Steps screen C (applyMasterClientId configWin value) (fun _ => True) := by
    intro value
    cases value with
    | none => exact .pure trivial
    | some id => exact .last (act_steps (by rintro _ ⟨_,⟨⟩⟩)) fun _ => .pure trivial
  have readOnly : ∀ value, Steps screen C (applyReadOnlyApi configWin value) (fun _ => True) := by
    intro value
    cases value with
    | none => exact .pure trivial
    | some readOnly => exact setReadOnly_steps _ _
  have timezone : ∀ value, Steps screen C (applyTimezone configWin value) (fun _ => True) := by
    intro value
    cases value with
    | none => exact .pure trivial
    | some timezone => exact .last (act_steps (by rintro _ ⟨_,⟨⟩⟩)) fun _ => .pure trivial
  exact .last (port _) fun _ => .last (master _) fun _ => .last (readOnly _) fun _ =>
    .last (timezone _) fun _ => .pure trivial

theorem applyPrecautions_steps (settings : ApiConfigSettings) {configWin : WindowId}
    (holds : ∀ window ∈ screen, window.id ≠ configWin → C window.id) :
    Steps screen C (applyPrecautions settings configWin) (fun _ => True) := by
  unfold applyPrecautions
  cases settings.bypassOrderPrecautions with
  | none => exact .pure trivial
  | some bypass =>
    refine .last (act_steps (by rintro _ ⟨_,⟨⟩⟩)) fun _ => .last .sleep fun _ => ?_
    refine .last (applyPrecautionLabels_steps _ _ _) fun missing => .last .sleep fun _ => ?_
    exact .last (dismissPopups_steps holds) fun _ => .pure trivial

theorem typeTime_steps {configWin : WindowId} (own : C configWin) (time kind : String) :
    Steps screen C (typeTime configWin time kind) (fun _ => True) := by
  refine .last (act_steps (by rintro _ ⟨_,⟨⟩⟩)) fun _ => ?_
  refine .last (.act (by rintro _ _ ⟨⟩; exact own)) fun _ => ?_
  exact .last (.act (by rintro _ _ ⟨⟩; exact own)) fun _ => .pure trivial

theorem applyLockAndExit_steps (settings : ApiConfigSettings) {configWin : WindowId} (own : C configWin)
    (holds : ∀ window ∈ screen, window.id ≠ configWin → C window.id) :
    Steps screen C (applyLockAndExit settings configWin) (fun _ => True) := by
  unfold applyLockAndExit
  split
  · exact .pure trivial
  · refine .last (act_steps (by rintro _ ⟨_,⟨⟩⟩)) fun _ => .last .sleep fun _ => ?_
    split
    · refine .last (typeTime_steps own _ _) fun _ => .last .sleep fun _ => ?_
      exact dismissPopups_steps holds
    · exact typeTime_steps own _ _
    · exact .pure trivial

theorem dismissPostConfig_steps (holds : ∀ window ∈ screen, C window.id) (sweeps : Nat) :
    Steps screen C (dismissPostConfig sweeps) (fun _ => True) := by
  induction sweeps with
  | zero => exact .pure trivial
  | succ sweeps ih =>
    refine .last .sleep fun _ => .bind .listed fun post within => ?_
    split
    · exact .pure trivial
    · refine .last (sweep_steps _ fun window among => holds window (within.subset among)) fun _ => ih

theorem clickMain_steps : Steps screen C clickMain (fun _ => True) := by
  refine .last .listed fun final => ?_
  split
  · exact .pure trivial
  · exact .last (act_steps (by rintro _ ⟨_,⟨⟩⟩)) fun _ => .pure trivial

theorem saveAndClose_steps {configWin : WindowId} (own : C configWin) (holds : ∀ window ∈ screen, C window.id) :
    Steps screen C (saveAndClose configWin) (fun _ => True) := by
  refine .last (.act (by rintro _ _ ⟨⟩; exact own)) fun _ => .last .sleep fun _ => ?_
  refine .last (.act (by rintro _ _ ⟨⟩; exact own)) fun _ => .last .sleep fun _ => ?_
  exact .last (dismissPostConfig_steps holds 3) fun _ => clickMain_steps

end Steps

section Sweeps

variable {screen : List WindowInfo} {schedule : Schedule UiAnswers} {window : WindowId}

/-- No button of the window was clicked. -/
def UiUntouched (window : WindowId) (actions : List UiAction) : Prop :=
  ∀ action ∈ actions, ¬ IsUiClick window action

/-- The task clicks no button of the window. -/
abbrev Spares {α : Type} (schedule : Schedule UiAnswers) (window : WindowId) (t : Ui α) : Prop :=
  t.Ensures schedule (fun action => ∀ other, IsUiClick other action → other ≠ window) (fun _ => True)

theorem Spares.untouched {α : Type} {t : Ui α} (spares : Spares schedule window t) :
    UiUntouched window (t.start schedule ()).effects := by
  intro action among click
  exact spares.start () action among window click rfl

theorem selectNode_spares (configWin : WindowId) (node : String) (failed : AgentError → String) :
    Spares schedule window (selectNode configWin node failed) := by
  refine ensures_bind (R := fun _ => True) (ensures_bind (ensures_emit ?_) fun _ _ =>
    ensures_await fun _ => trivial) fun selected _ => ?_
  · rintro other ⟨label,⟨⟩⟩
  · exact ensures_bind (ensures_orFail fun _ _ => trivial) fun _ _ => ensures_sleep

theorem configure_spares (settings : ApiConfigSettings) {configWin : WindowId} (lists : Lists screen schedule)
    (other : configWin ≠ window) (absent : ∀ shown ∈ screen, shown.id ≠ window) :
    Spares schedule window (configure settings configWin) := by
  refine ensures_bind (selectNode_spares _ _ _) fun _ _ => ensures_bind (selectNode_spares _ _ _) fun _ _ => ?_
  have rest : Steps screen (fun shown => shown ≠ window) (do
      let readOnlyMissing ← applyApiSettings settings configWin
      let precautionsMissing ← applyPrecautions settings configWin
      applyLockAndExit settings configWin
      saveAndClose configWin
      return ⟨precautionsMissing,readOnlyMissing⟩ : Ui ApiConfigReport) (fun _ => True) := by
    refine .last (applyApiSettings_steps _ _) fun _ => ?_
    refine .last (applyPrecautions_steps _ fun shown among _ => absent shown among) fun _ => ?_
    refine .last (applyLockAndExit_steps _ other fun shown among _ => absent shown among) fun _ => ?_
    exact .last (saveAndClose_steps other absent) fun _ => .pure trivial
  exact rest.ensures lists

/-- Something is configured, and the main window and the dialog for it are on the screen. -/
def Configures (settings : ApiConfigSettings) (screen : List WindowInfo) : Prop :=
  settings.hasSettings = true ∧ (∃ main ∈ screen, isGatewayTitle main.title = true) ∧
    ∃ config ∈ screen, titleContains config.title ["configuration"] = true

theorem applyApiConfig_spares {settings : ApiConfigSettings} (lists : Lists screen schedule)
    (absent : Configures settings screen → ∀ shown ∈ screen, shown.id ≠ window) :
    Spares schedule window (applyApiConfig settings) := by
  unfold applyApiConfig
  split
  · exact ensures_pure trivial
  next has =>
    refine ensures_bind (R := fun answered => ∀ windows, answered = .ok windows → windows.Sublist screen)
      (ensures_await fun n windows => lists n windows) fun answered within => ?_
    refine ensures_bind (ensures_orFail within) fun windows within => ?_
    split
    · exact ensures_fail
    next win found =>
      have opens := @openConfig_steps screen (fun other => other ≠ window) win 3
      refine ensures_bind (opens.ensures lists) fun opened held => ?_
      split
      · exact ensures_fail
      next configWin =>
        obtain ⟨shown,titled⟩ := held configWin rfl
        have configures : Configures settings screen :=
          ⟨by simpa using has,⟨win,within.subset (List.mem_of_find?_eq_some found),by
            simpa using List.find?_some found⟩,configWin,shown,titled⟩
        exact configure_spares settings lists (absent configures configWin shown) (absent configures)

/-- The task clicks a button of the window, where the agent does all it is asked for. -/
abbrev Touches {α : Type} (screen : List WindowInfo) (window : WindowId) (t : Ui α) : Prop :=
  t.Does (obliging screen) (IsUiClick window)

theorem touches_click (label : String) {answer : UiAnswers → Nat → Except AgentError Bool} :
    Touches screen window (act (.clicked window label) answer) :=
  does_bind (does_emit ⟨label,rfl⟩) fun _ => keeps_await _

/-- Steps that click anywhere. -/
abbrev Anywhere : WindowId → Prop := fun _ => True

theorem clickAll_touches (label : String) (rest : List String) :
    Touches screen window (clickAll window (label :: rest)) :=
  does_bind (touches_click label) fun _ => (clickAll_steps (C := Anywhere) trivial rest).keeps

theorem sweep_touches (label : String) (rest : List String) {windows : List WindowInfo} {shown : WindowInfo}
    (among : shown ∈ windows) : Touches screen shown.id (sweep (label :: rest) windows) := by
  induction windows with
  | nil => cases among
  | cons first others ih =>
    rcases List.mem_cons.mp among with rfl | later
    · refine does_bind (clickAll_touches label rest) fun _ => ?_
      exact (sweep_steps (C := Anywhere) _ fun _ _ => trivial).keeps
    · exact does_after (clickAll_steps (C := Anywhere) trivial _).goes fun _ _ => ih later

/-- A list of answers that is on the screen is the screen. -/
theorem listed_screen {α : Type} {f : List WindowInfo → Ui α} {P : Unit → List UiAction → Prop}
    {Q : α → Unit → List UiAction → Prop} {E : Unit → List UiAction → Prop}
    (rest : (f screen).Triple (obliging screen) P Q E) : (listed >>= f).Triple (obliging screen) P Q E := by
  unfold listed
  rw [bind_assoc]
  refine triple_answered (b := .ok screen) rfl (fun _ => rfl) ?_
  rw [pure_bind]
  exact rest

theorem dismissPostConfig_touches {shown : WindowInfo} (among : shown ∈ screen) (several : 1 < screen.length)
    (sweeps : Nat) : Touches screen shown.id (dismissPostConfig (sweeps + 1)) := by
  refine does_after (Steps.sleep (C := Anywhere)).goes fun _ _ => listed_screen ?_
  rw [if_neg (by omega)]
  refine does_bind (sweep_touches _ _ among) fun _ => ?_
  exact (dismissPostConfig_steps (C := Anywhere) (fun _ _ => trivial) _).keeps

/-- The dialog itself is clicked when it is saved, and every other window by the sweep after that. -/
theorem saveAndClose_touches {configWin shown : WindowInfo} (config : configWin ∈ screen)
    (among : shown ∈ screen) : Touches screen shown.id (saveAndClose configWin.id) := by
  have ticks : Steps screen Anywhere sleep (fun _ => True) := .sleep
  have clicks : ∀ label, Steps screen Anywhere (act (.clicked configWin.id label) UiAnswers.clickButton)
      (fun _ => True) := fun label => .act fun _ _ _ => trivial
  by_cases same : shown.id = configWin.id
  · rw [same]
    refine does_bind (touches_click "Apply") fun _ => Steps.keeps (Q := fun _ => True) (.last ticks fun _ => ?_)
    refine .last (clicks "OK") fun _ => .last ticks fun _ => ?_
    exact .last (dismissPostConfig_steps (fun _ _ => trivial) 3) fun _ => clickMain_steps
  · have several : 1 < screen.length := by
      by_contra few
      obtain ⟨only,rfl⟩ : ∃ only, screen = [only] :=
        List.length_eq_one_iff.mp (by have := List.length_pos_of_mem config; omega)
      rw [List.mem_singleton.mp config,List.mem_singleton.mp among] at same
      exact same rfl
    refine does_after (clicks "Apply").goes fun _ _ => does_after ticks.goes fun _ _ => ?_
    refine does_after (clicks "OK").goes fun _ _ => does_after ticks.goes fun _ _ => ?_
    exact does_bind (dismissPostConfig_touches among several 2) fun _ => (clickMain_steps (C := Anywhere)).keeps

theorem selectNode_goes (configWin : WindowId) (node : String) (failed : AgentError → String) :
    (selectNode configWin node failed).Triple (obliging screen) (fun _ _ => True) (fun _ _ _ => True)
      (fun _ _ => False) := by
  unfold selectNode act
  simp only [bind_assoc]
  refine triple_bind (R := fun _ _ _ => True) (triple_emit fun _ _ _ => trivial) fun _ => ?_
  refine triple_answered (b := .ok true) rfl (fun _ => rfl) ?_
  rw [orFail,pure_bind]
  exact triple_await_steady rfl fun _ _ _ _ => trivial

theorem configure_touches (settings : ApiConfigSettings) {configWin shown : WindowInfo}
    (config : configWin ∈ screen) (among : shown ∈ screen) :
    Touches screen shown.id (configure settings configWin.id) := by
  refine does_after (selectNode_goes _ _ _) fun _ _ => does_after (selectNode_goes _ _ _) fun _ _ => ?_
  refine does_after (applyApiSettings_steps (C := Anywhere) _ _).goes fun _ _ => ?_
  refine does_after (applyPrecautions_steps (C := Anywhere) _ fun _ _ _ => trivial).goes fun _ _ => ?_
  refine does_after (applyLockAndExit_steps (C := Anywhere) _ trivial fun _ _ _ => trivial).goes fun _ _ => ?_
  exact does_bind (saveAndClose_touches config among) fun _ => keeps_pure _

/-- The dialog is found where it is on the screen. -/
theorem openConfig_finds (win : WindowInfo) (attempts : Nat)
    (titled : ∃ config ∈ screen, titleContains config.title ["configuration"] = true) :
    (openConfig win (attempts + 1)).Triple (obliging screen) (fun _ _ => True)
      (fun found _ _ => ∃ configWin ∈ screen, found = some configWin) (fun _ _ => False) := by
  have polled : (pollConfig 20).Triple (obliging screen) (fun _ _ => True)
      (fun found _ _ => ∃ configWin ∈ screen, found = some configWin) (fun _ _ => False) := by
    refine triple_bind (Steps.sleep (C := Anywhere)).goes fun _ => listed_screen ?_
    split
    next configWin found =>
      exact triple_pure fun _ _ _ => ⟨configWin,List.mem_of_find?_eq_some found,rfl⟩
    next missing =>
      obtain ⟨config,onScreen,named⟩ := titled
      exact absurd named (List.find?_eq_none.mp missing config onScreen)
  refine triple_bind (openMenu_steps (C := Anywhere) win).goes fun _ => ?_
  refine triple_bind polled fun found => ?_
  rintro here ⟨configWin,onScreen,rfl⟩
  exact ⟨configWin,onScreen,rfl⟩

theorem applyApiConfig_touches {settings : ApiConfigSettings} (configures : Configures settings screen)
    {shown : WindowInfo} (among : shown ∈ screen) :
    Touches screen shown.id (applyApiConfig settings) := by
  obtain ⟨has,⟨main,onScreen,titled⟩,config⟩ := configures
  unfold applyApiConfig
  rw [has]
  refine triple_answered (b := .ok screen) rfl (fun _ => rfl) ?_
  rw [orFail,pure_bind]
  split
  next missing => exact absurd titled (List.find?_eq_none.mp missing main onScreen)
  next win found =>
    refine does_after (openConfig_finds win 2 config) ?_
    rintro _ ⟨configWin,shownConfig,rfl⟩
    exact configure_touches settings shownConfig among

/-- The configuration leaves a window alone just where it is not made, or the window is not shown. -/
theorem applyApiConfig_untouched_iff (settings : ApiConfigSettings) (screen : List WindowInfo)
    (window : WindowId) :
    (∀ schedule, Lists screen schedule →
      UiUntouched window ((applyApiConfig settings).start schedule ()).effects) ↔
      (Configures settings screen → ∀ shown ∈ screen, shown.id ≠ window) := by
  constructor
  · rintro untouched configures shown among rfl
    obtain ⟨action,done,click⟩ := (applyApiConfig_touches configures among).after ⟨(),0,[]⟩ trivial
    exact untouched _ lists_obliging action done click
  · intro absent schedule lists
    exact (applyApiConfig_spares lists absent).untouched

theorem clickSave_spares (win : WindowId) (paths : List String) (lists : Lists screen schedule)
    (passed : ∀ shown ∈ screen, shown.id = window → isMainTitle shown.title = true) :
    Spares schedule window (clickSave win paths) := by
  have swept : Steps screen (fun other => other ≠ window) dismissPostSaveDialogs (fun _ => True) := by
    refine .bind .listed fun windows within => sweep_steps _ fun shown among same => ?_
    obtain ⟨listed,other⟩ := List.mem_filter.mp among
    rw [passed shown (within.subset listed) same] at other
    cases other
  have saved : Steps screen (fun other => other ≠ window) (clickSave win paths) (fun _ => True) := by
    induction paths with
    | nil => exact .pure trivial
    | cons path rest ih =>
      refine .last (act_steps (by rintro _ ⟨_,⟨⟩⟩)) fun clicked => ?_
      split
      · exact .last .sleep fun _ => swept
      · exact ih
  exact saved.ensures lists

theorem dismissPostSaveDialogs_touches {shown : WindowInfo} (among : shown ∈ screen)
    (other : isMainTitle shown.title = false) : Touches screen shown.id dismissPostSaveDialogs := by
  refine listed_screen (sweep_touches _ _ (List.mem_filter.mpr ⟨among,?_⟩))
  rw [other]
  rfl

theorem saveTwsSettings_touches {shown : WindowInfo} (among : shown ∈ screen)
    (other : isMainTitle shown.title = false) : Touches screen shown.id saveTwsSettings := by
  unfold saveTwsSettings
  refine triple_asked (b := true) (fun _ => rfl) (listed_screen ?_)
  split
  next nothing =>
    simp only [Option.orElse_eq_orElse,Option.orElse_eq_or,Option.or_eq_none_iff,
      List.head?_eq_none_iff] at nothing
    exact absurd nothing.2 (List.ne_nil_of_mem among)
  next win found =>
    unfold clickSave act
    simp only [bind_assoc]
    refine triple_bind (R := fun _ _ _ => True) (triple_emit fun _ _ _ => trivial) fun _ => ?_
    refine triple_answered (b := .ok true) rfl (fun _ => rfl) ?_
    refine does_after (Steps.sleep (C := Anywhere)).goes fun _ _ => ?_
    exact dismissPostSaveDialogs_touches among other

/-- The saving of the settings leaves a window alone just where its title is that of a main window. -/
theorem saveTwsSettings_untouched_iff (screen : List WindowInfo) (window : WindowId) :
    (∀ schedule, Lists screen schedule →
      UiUntouched window (saveTwsSettings.start schedule ()).effects) ↔
      ∀ shown ∈ screen, shown.id = window → isMainTitle shown.title = true := by
  constructor
  · rintro untouched shown among rfl
    by_contra other
    obtain ⟨action,done,click⟩ :=
      (saveTwsSettings_touches among (Bool.eq_false_iff.mpr other)).after ⟨(),0,[]⟩ trivial
    exact untouched _ lists_obliging action done click
  · intro passed schedule lists
    have spares : Spares schedule window saveTwsSettings := by
      unfold saveTwsSettings
      refine ensures_bind (R := fun _ => True) (ensures_ask fun _ => trivial) fun running _ => ?_
      split
      · exact ensures_pure trivial
      · refine ensures_bind ((Steps.listed (C := fun other => other ≠ window)).ensures lists) fun windows _ => ?_
        split
        · exact ensures_pure trivial
        · exact clickSave_spares _ _ lists passed
    exact spares.untouched

end Sweeps

end Ibctl.Handlers
