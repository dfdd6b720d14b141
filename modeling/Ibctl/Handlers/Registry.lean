import Ibctl.StateMachine.Session

/-! The dialog handlers that fill in credentials, and the registry that hands a window to the
first handler that can handle it. -/
namespace Ibctl.Handlers
open Tasks Task Machine

/-- What the agent, the OCR, the clock and the environment answer to the two handlers. -/
structure Answers where
  clickButton : Nat → Except AgentError Bool
  dumpComponents : Nat → Except AgentError Json
  typeText : Nat → Except AgentError Bool
  typeTextBest : Nat → Except AgentError Bool
  sendKey : Nat → Except AgentError Bool
  verifyWindow : Nat → Except String (Option Bool)
  secret : Nat → Option String
  correctedUnixSeconds : Nat → Except String Int
  generateAt : Nat → String → Int → Except String String

inductive Stroke where
  | clicked (window : WindowId) (label : String)
  | typed (window : WindowId) (field : Option Nat) (text : String)
  | sentKey (window : WindowId) (key : String)
deriving DecidableEq, Repr

/-- The local state is the flag of the login handler that it has submitted. -/
abbrev Handle := Task Answers Stroke HandlerError Bool

def clickButton (window : WindowId) (label : String) : Handle (Except AgentError Bool) := do
  emit (.clicked window label)
  await Answers.clickButton

def clickFirst (window : WindowId) : List String → Handle Bool
  | [] => return false
  | label :: rest => do
    match ← clickButton window label with
    | .ok true => return true
    | _ => clickFirst window rest

structure LoginHandler where
  username : String
  password : String
  tradingMode : TradingMode

namespace LoginHandler

variable (self : LoginHandler)

def canHandle (loginSubmitted : Bool) (window : WindowInfo) : Bool :=
  !loginSubmitted && titleContains window.title ["login"]

def modeLabel : String :=
  match self.tradingMode with
  | .paper => "Paper Trading"
  | _ => "Live Trading"

def buttonLabels : List String :=
  match self.tradingMode with
  | .paper => ["Paper Log In","Log In"]
  | _ => ["Log In","Paper Log In"]

def hasButton (components : Json) (label : String) : Bool :=
  (((components.get "buttons").bind Json.asArray).getD []).any
    fun button => (button.get "text").bind Json.asStr = some label

/-- Wait for the expected button, a few times; the login goes on without it. -/
def verifyMode (expected : String) : Nat → Handle Unit
  | 0 => return
  | attempts + 1 => do
    sleep
    match ← await Answers.dumpComponents with
    | .ok components => if hasButton components expected then return else verifyMode expected attempts
    | .error _ => verifyMode expected attempts

def typeText (window : WindowId) (field : Nat) (text : String) : Handle Bool := do
  emit (.typed window (some field) text)
  orFail .agentError (← await Answers.typeText)

def handle (window : WindowInfo) : Handle HandlerResult := do
  let _ ← clickButton window.id "IB API"
  sleep
  let _ ← clickButton window.id self.modeLabel
  verifyMode (self.buttonLabels.headD "Log In") 5
  if !(← typeText window.id 0 self.username) then
    return .error "Username field not found or not writable"
  if !(← typeText window.id 1 self.password) then
    return .error "Password field not found or not writable"
  if !(← clickFirst window.id self.buttonLabels) then return .error "No login button found"
  update fun _ => true
  return .handled

end LoginHandler

structure TotpEntryHandler where
  secretEnv : String
  ocrEnabled : Bool
  ocrStrict : Bool

namespace TotpEntryHandler

variable (self : TotpEntryHandler)

def canHandle (window : WindowInfo) : Bool := isTwofaTitle window.title

def failed (reason : String) : HandlerError := .failed "TotpEntryHandler" reason

/-- The text of the window is read first where that is enabled; strict verification ends the
entry when it is not the expected one. -/
def verify (window : WindowInfo) : Handle (Option HandlerResult) := do
  if !self.ocrEnabled then return none
  match ← await Answers.verifyWindow with
  | .ok (some false) =>
    if self.ocrStrict then
      return some (.error ("OCR did not recognize expected 2FA text in '" ++ window.title ++ "'"))
    else return none
  | .ok _ => return none
  | .error e =>
    if self.ocrStrict then return some (.error ("strict OCR verification failed: " ++ e))
    else return none

def generate : Handle String := do
  match ← ask Answers.secret with
  | none => fail (failed ("TOTP secret env var '" ++ self.secretEnv ++ "' not set"))
  | some secret =>
    sleep
    let timestamp ← orFail (fun e => failed ("failed to read corrected clock: " ++ e))
      (← ask Answers.correctedUnixSeconds)
    let generated ← await Answers.generateAt
    orFail (fun e => failed ("failed to generate TOTP code: " ++ e)) (generated secret timestamp)

/-- Enter is pressed where no button takes the code. -/
def submit (window : WindowInfo) : Handle HandlerResult := do
  if !(← clickFirst window.id ["OK","Verify","Submit","Continue","Next"]) then
    emit (.sentKey window.id "Enter")
    let _ ← orFail .agentError (← await Answers.sendKey)
  return .handled

def handle (window : WindowInfo) : Handle HandlerResult := do
  if let some refused ← self.verify window then return refused
  let code ← self.generate
  emit (.typed window.id none code)
  if !(← orFail .agentError (← await Answers.typeTextBest)) then
    return .error "2FA code field not found or not writable"
  submit window

end TotpEntryHandler

structure DialogHandler where
  name : String
  canHandle : Bool → WindowInfo → Bool
  handle : WindowInfo → Handle HandlerResult

def LoginHandler.registered (self : LoginHandler) : DialogHandler :=
  ⟨"LoginHandler",LoginHandler.canHandle,self.handle⟩

def TotpEntryHandler.registered (self : TotpEntryHandler) : DialogHandler :=
  ⟨"TotpEntryHandler",fun _ => TotpEntryHandler.canHandle,self.handle⟩

/-- The handlers that fill in credentials are asked before all others. -/
def withDefaults (login : LoginHandler) (totpEntry : TotpEntryHandler)
    (others : List DialogHandler) : List DialogHandler :=
  login.registered :: totpEntry.registered :: others

/-- The first handler that can handle the window and does not decline it. -/
def dispatch (window : WindowInfo) :
    List DialogHandler → Handle (Option (Except HandlerError HandlerResult))
  | [] => return none
  | handler :: rest => do
    if handler.canHandle (← current) window then
      let result ← attempt (handler.handle window)
      match result with
      | .ok .notApplicable => dispatch window rest
      | _ => return some result
    else dispatch window rest

def dispatchNamed (name : String) (window : WindowInfo) (handlers : List DialogHandler) :
    Handle (Option (Except HandlerError HandlerResult)) := do
  match handlers.find? fun handler => handler.name = name with
  | none => return none
  | some handler => return some (← attempt (handler.handle window))

section Fills

variable {schedule : Schedule Answers} {window : WindowInfo}

/-- Something was typed into the window. -/
def Filled (window : WindowInfo) (_ : Bool) (strokes : List Stroke) : Prop :=
  ∃ field text, .typed window.id field text ∈ strokes

/-- A handler that handles the window has typed into it, and it declines none. -/
def Fills (window : WindowInfo) (result : HandlerResult) (loginSubmitted : Bool)
    (strokes : List Stroke) : Prop :=
  match result with
  | .handled => Filled window loginSubmitted strokes
  | .notApplicable => False
  | .error _ => True

theorem keeps_stroke (stroke : Stroke) : (emit stroke : Handle Unit).Keeps schedule (Filled window) := by
  apply keeps_emit
  rintro s strokes ⟨field,text,typed⟩
  exact ⟨field,text,List.mem_append_left _ typed⟩

theorem clickFirst_keeps (labels : List String) :
    (clickFirst window.id labels).Keeps schedule (Filled window) := by
  induction labels with
  | nil => exact keeps_pure _
  | cons label rest ih =>
    refine keeps_bind (keeps_bind (keeps_stroke _) fun _ => keeps_await _) fun clicked => ?_
    split
    · exact keeps_pure _
    · exact ih

theorem fills_error {P : Bool → List Stroke → Prop} (message : String) :
    (pure (.error message) : Handle HandlerResult).Triple schedule P (Fills window) (fun _ _ => True) :=
  triple_pure fun _ _ _ => trivial

theorem fills_handled :
    (pure .handled : Handle HandlerResult).Triple schedule (Filled window) (Fills window)
      (fun _ _ => True) :=
  triple_pure fun _ _ filled => filled

theorem fills_kept {α : Type} {t : Handle α} {f : α → Handle HandlerResult}
    (kept : t.Keeps schedule (Filled window))
    (after : ∀ a, (f a).Triple schedule (Filled window) (Fills window) (fun _ _ => True)) :
    (t >>= f).Triple schedule (Filled window) (Fills window) (fun _ _ => True) :=
  triple_bind (R := fun _ => Filled window)
    (kept.mono (fun _ _ filled => filled) (fun _ _ _ filled => filled) fun _ _ _ => trivial) after

theorem fills_typed {field : Option Nat} {text : String} {f : Unit → Handle HandlerResult}
    (after : (f ()).Triple schedule (Filled window) (Fills window) (fun _ _ => True)) :
    (emit (.typed window.id field text) >>= f).Triple schedule (fun _ _ => True) (Fills window)
      (fun _ _ => True) :=
  triple_bind (R := fun _ => Filled window) (triple_emit fun s strokes _ => ⟨field,text,by simp⟩)
    fun _ => after

theorem LoginHandler.handle_fills (self : LoginHandler) :
    (self.handle window).Triple schedule (fun _ _ => True) (Fills window) (fun _ _ => True) := by
  unfold handle
  refine triple_last fun _ => triple_last fun _ => triple_last fun _ => triple_last fun _ => ?_
  unfold typeText
  simp only [bind_assoc]
  apply fills_typed
  refine fills_kept (keeps_await _) fun typed => fills_kept (keeps_orFail _ _) fun username => ?_
  split
  · exact fills_error _
  refine fills_kept (keeps_stroke _) fun _ => fills_kept (keeps_await _) fun typed => ?_
  refine fills_kept (keeps_orFail _ _) fun password => ?_
  split
  · exact fills_error _
  refine fills_kept (clickFirst_keeps _) fun clicked => ?_
  split
  · exact fills_error _
  · exact fills_kept (keeps_update fun _ _ filled => filled) fun _ => fills_handled

theorem TotpEntryHandler.verify_refuses (self : TotpEntryHandler) :
    (self.verify window).Triple schedule (fun _ _ => True)
      (fun refused _ _ => ∀ result, refused = some result → ∃ message, result = .error message)
      (fun _ _ => True) := by
  have goes : ∀ {P : Bool → List Stroke → Prop}, (pure none : Handle (Option HandlerResult)).Triple
      schedule P (fun refused _ _ =>
        ∀ result, refused = some result → ∃ message, result = .error message) (fun _ _ => True) :=
    triple_pure fun _ _ _ _ same => by cases same
  have refuses : ∀ {P : Bool → List Stroke → Prop} (message : String),
      (pure (some (.error message)) : Handle (Option HandlerResult)).Triple schedule P
        (fun refused _ _ =>
          ∀ result, refused = some result → ∃ message, result = .error message) (fun _ _ => True) :=
    fun message => triple_pure fun _ _ _ result same => ⟨message,(Option.some.inj same).symm⟩
  unfold verify
  split
  · exact goes
  refine triple_last fun verified => ?_
  split
  · split
    · exact refuses _
    · exact goes
  · exact goes
  · split
    · exact refuses _
    · exact goes

theorem TotpEntryHandler.submit_fills (window : WindowInfo) :
    (submit window).Triple schedule (Filled window) (Fills window) (fun _ _ => True) := by
  unfold submit
  refine fills_kept (clickFirst_keeps _) fun clicked => ?_
  dsimp only
  split
  · refine fills_kept (keeps_stroke _) fun _ => fills_kept (keeps_await _) fun sent => ?_
    exact fills_kept (keeps_orFail _ _) fun _ => fills_handled
  · exact fills_handled

theorem TotpEntryHandler.handle_fills (self : TotpEntryHandler) :
    (self.handle window).Triple schedule (fun _ _ => True) (Fills window) (fun _ _ => True) := by
  unfold handle
  refine triple_bind self.verify_refuses fun refused => ?_
  cases refused with
  | some result =>
    refine triple_pure fun s strokes refuses => ?_
    obtain ⟨message,rfl⟩ := refuses result rfl
    trivial
  | none =>
    refine triple_last fun code => ?_
    apply fills_typed
    refine fills_kept (keeps_await _) fun typed => fills_kept (keeps_orFail _ _) fun filled => ?_
    split
    · exact fills_error _
    · exact submit_fills window

end Fills

/-- A window that one of the two handlers takes, unless the login was submitted already. -/
def isCredential (window : WindowInfo) : Bool :=
  LoginHandler.canHandle false window || TotpEntryHandler.canHandle window

theorem cannot_of_plain {window : WindowInfo} (plain : isCredential window = false) (submitted : Bool) :
    LoginHandler.canHandle submitted window = false ∧ TotpEntryHandler.canHandle window = false := by
  simp only [isCredential,Bool.or_eq_false_iff] at plain
  refine ⟨?_,plain.2⟩
  cases submitted with
  | true => rfl
  | false => exact plain.1

/-- No other window is filled in: its dispatch is that of the handlers that come after. -/
theorem dispatch_plain (login : LoginHandler) (totpEntry : TotpEntryHandler)
    (others : List DialogHandler) {window : WindowInfo} (plain : isCredential window = false) :
    dispatch window (withDefaults login totpEntry others) = dispatch window others := by
  funext schedule here
  obtain ⟨notLogin,notTwofa⟩ := cannot_of_plain plain here.state
  simp only [withDefaults,dispatch,LoginHandler.registered,TotpEntryHandler.registered,bind_apply,
    current,notLogin,notTwofa,Bool.false_eq_true,if_false]

/-- The first handler that can handle a window is asked; if it fills the window in where it
handles it, the dispatch does. -/
theorem dispatch_first {schedule : Schedule Answers} {window : WindowInfo} {handler : DialogHandler}
    {rest : List DialogHandler} (can : ∀ submitted, handler.canHandle submitted window = true)
    (fills : (handler.handle window).Triple schedule (fun _ _ => True) (Fills window)
      (fun _ _ => True)) :
    (dispatch window (handler :: rest)).Triple schedule (fun _ _ => True)
      (fun taken s strokes => taken = some (.ok .handled) → Filled window s strokes)
      (fun _ _ => True) := by
  unfold dispatch
  refine triple_last fun submitted => ?_
  rw [if_pos (can submitted)]
  refine triple_bind (triple_attempt fills) fun result => ?_
  match result with
  | .ok .notApplicable => exact fun here before => absurd before id
  | .ok .handled => exact triple_pure fun s strokes filled _ => filled
  | .ok (.error message) => exact triple_pure fun _ _ _ same => by cases same
  | .error error => exact triple_pure fun _ _ _ same => by cases same

theorem dispatch_twofa (login : LoginHandler) (totpEntry : TotpEntryHandler)
    (others : List DialogHandler) {schedule : Schedule Answers} {window : WindowInfo}
    (twofa : isTwofaTitle window.title = true) (plain : titleContains window.title ["login"] = false) :
    (dispatch window (withDefaults login totpEntry others)).Triple schedule (fun _ _ => True)
      (fun taken s strokes => taken = some (.ok .handled) → Filled window s strokes)
      (fun _ _ => True) := by
  have declined : ∀ submitted, login.registered.canHandle submitted window = false := by
    intro submitted
    simp only [LoginHandler.registered,LoginHandler.canHandle,plain,Bool.and_false]
  have takes : ∀ submitted, totpEntry.registered.canHandle submitted window = true := by
    intro submitted
    simp only [TotpEntryHandler.registered,TotpEntryHandler.canHandle,twofa]
  have fills : (totpEntry.registered.handle window).Triple schedule (fun _ _ => True)
      (Fills window) (fun _ _ => True) := totpEntry.handle_fills
  unfold withDefaults dispatch
  generalize totpEntry.registered = entry at takes fills ⊢
  refine triple_last fun submitted => ?_
  rw [declined submitted,if_neg Bool.false_ne_true]
  exact dispatch_first takes fills

end Ibctl.Handlers
