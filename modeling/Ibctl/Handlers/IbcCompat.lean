import Ibctl.Handlers.Registry

/-! The handler of the many small dialogs, which are told apart by the texts they show. What it
may decide about an order is a policy of the environment. -/
namespace Ibctl.Handlers
open Tasks Task Machine Text

structure DialogAction where
  name : String
  buttons : List String
deriving DecidableEq, Repr

inductive CryptoOrderDecision where
  | manual
  | transmit
  | cancel
deriving DecidableEq, Repr

structure DialogPolicy where
  dismissPasswordExpiry : Bool
  acceptBidAskLastSizeUpdate : Bool
  cryptoOrderDecision : CryptoOrderDecision
  allowBlindTrading : Bool
  bypassOrderPrecautions : Bool
deriving DecidableEq, Repr

abbrev Env := String → Option String

def envLower (env : Env) (name : String) : Option String :=
  ((env name).map fun value => toAsciiLowercase (trim value)).filter fun value => value ≠ ""

def envYes (env : Env) (name : String) : Bool :=
  (envLower env name).any fun value => value = "yes" || value = "true" || value = "1"

def DialogPolicy.fromEnv (env : Env) : DialogPolicy where
  dismissPasswordExpiry := envYes env "DISMISS_PASSWORD_EXPIRY_WARNING"
  acceptBidAskLastSizeUpdate :=
    (envLower env "ACCEPT_BID_ASK_LAST_SIZE_DISPLAY_UPDATE_NOTIFICATION").any
      fun value => value = "accept" || value = "defer"
  cryptoOrderDecision :=
    match envLower env "CONFIRM_CRYPTO_CURRENCY_ORDERS" with
    | some "transmit" => .transmit
    | some "cancel" => .cancel
    | _ => .manual
  allowBlindTrading := envYes env "ALLOW_BLIND_TRADING"
  bypassOrderPrecautions := envYes env "BYPASS_WARNING" || envYes env "BYPASS_ORDER_PRECAUTIONS"

def DialogPolicy.default : DialogPolicy := ⟨false,false,.manual,false,false⟩

def boundedBy (window : WindowInfo) (test : Bounds → Bool) : Bool := window.bounds.any test

def isSmall (bounds : Bounds) : Bool := bounds.width < 650 && bounds.height < 400

def isLarge (bounds : Bounds) : Bool := 650 ≤ bounds.width && 400 ≤ bounds.height

def isLargeGatewayWindow (window : WindowInfo) : Bool :=
  isGatewayTitle window.title && boundedBy window isLarge

section Classify

variable (policy : DialogPolicy) (title text : String)

abbrev InTitle (needle : String) : Prop := containsText (toLowercase title) needle = true

abbrev InText (needle : String) : Prop := containsText (toLowercase text) needle = true

/-- `classify_dialog_with_policy`. -/
@[irreducible] def classifyDialog : Option DialogAction :=
  if InText text "apply the new socket port setting" then
    some ⟨"ApiChangeConfirmationDialogHandler",["Yes","OK"]⟩
  else if InText text "trading platform restart automatically" then
    some ⟨"AutoRestartConfirmationDialog",["OK"]⟩
  else if (InTitle title "restart confirmation" ∨ InText text "auto-restart" ∨ InText text "auto logoff") ∧
      (InText text "restart" ∨ InText text "logoff") then
    some ⟨"AutoLogoffRestartConfirmationDialog",["Yes","OK"]⟩
  else if InTitle title "newer version" ∨ InText text "newer version" then
    some ⟨"NewerVersionDialogHandler",["OK","No"]⟩
  else if InTitle title "login failed" then some ⟨"LoginFailedDialogHandler",["OK"]⟩
  else if InTitle title "login error" then some ⟨"LoginErrorDialogHandler",["OK"]⟩
  else if InTitle title "login" ∧ InText text "not currently available" then
    some ⟨"NotCurrentlyAvailableDialogHandler",["OK"]⟩
  else if InText text "too many failed login attempts" then
    some ⟨"TooManyFailedLoginAttemptsDialogHandler",["OK"]⟩
  else if InTitle title "connection lost" ∨ InText text "connection lost" then
    some ⟨"ConnectionLostDialogHandler",["OK","Reconnect"]⟩
  else if InTitle title "password notice" ∧ policy.dismissPasswordExpiry then
    some ⟨"PasswordExpiryWarningFrameHandler",["OK"]⟩
  else if InText text "bid, ask and last size display update" ∧ policy.acceptBidAskLastSizeUpdate then
    some ⟨"BidAskLastSizeDisplayUpdateDialogHandler",["I understand - display market data","OK"]⟩
  else if InTitle title "cryptocurrency order confirmation" then
    match policy.cryptoOrderDecision with
    | .transmit => some ⟨"CryptoOrderConfirmationDialogHandler",["Transmit"]⟩
    | .cancel => some ⟨"CryptoOrderConfirmationDialogHandler",["Cancel"]⟩
    | .manual => none
  else if (InTitle title "order preview" ∨ InText text "order preview") ∧
      ¬ InText text "blind trading" ∧ policy.bypassOrderPrecautions then
    some ⟨"OrderPreviewDialogHandler",["Transmit","Submit","OK"]⟩
  else if (InTitle title "precaution" ∨ InText text "precautionary setting" ∨
      InText text "order precaution") ∧ policy.bypassOrderPrecautions then
    some ⟨"ApiPrecautionWarningDialog",["Override and Transmit","Transmit","Yes","OK"]⟩
  else if (InTitle title "order preview" ∨ InText text "blind trading") ∧ InText text "blind trading" ∧
      policy.allowBlindTrading then
    some ⟨"BlindTradingWarningDialogHandler",["Override and Transmit","Yes"]⟩
  else if InTitle title "api client needs write access" ∨ InText text "api write access" ∨
      InText text "read-only api" then
    some ⟨"ReadOnlyApiWarningDialog",["Yes","OK","Close"]⟩
  else if InText text "login handoff" ∨ InText text "trading login handoff" then
    some ⟨"TradingLoginHandoffDialogHandler",["OK"]⟩
  else none

/-- The texts of dialogs that are answered before anything about an order is looked at. -/
def IsRoutine : Prop :=
  InText text "apply the new socket port setting" ∨
  InText text "trading platform restart automatically" ∨
  ((InTitle title "restart confirmation" ∨ InText text "auto-restart" ∨ InText text "auto logoff") ∧
    (InText text "restart" ∨ InText text "logoff")) ∨
  (InTitle title "newer version" ∨ InText text "newer version") ∨
  InTitle title "login failed" ∨ InTitle title "login error" ∨
  (InTitle title "login" ∧ InText text "not currently available") ∨
  InText text "too many failed login attempts" ∨
  (InTitle title "connection lost" ∨ InText text "connection lost") ∨
  (InTitle title "password notice" ∧ policy.dismissPasswordExpiry = true) ∨
  (InText text "bid, ask and last size display update" ∧ policy.acceptBidAskLastSizeUpdate = true)

/-- Behind the orders in crypto currencies: the precautions that are bypassed, and the notices that
are always answered. -/
def IsOverridden : Prop :=
  ((InTitle title "order preview" ∨ InText text "order preview") ∧ ¬ InText text "blind trading" ∧
    policy.bypassOrderPrecautions = true) ∨
  ((InTitle title "precaution" ∨ InText text "precautionary setting" ∨ InText text "order precaution") ∧
    policy.bypassOrderPrecautions = true) ∨
  (InTitle title "api client needs write access" ∨ InText text "api write access" ∨
    InText text "read-only api") ∨
  InText text "login handoff" ∨ InText text "trading login handoff"

/-- No text of the dialog is one that is answered without asking the user. -/
def LeftToUser : Prop :=
  ¬ IsRoutine policy title text ∧
    if InTitle title "cryptocurrency order confirmation" then policy.cryptoOrderDecision = .manual
    else ¬ IsOverridden policy title text

instance : Decidable (IsRoutine policy title text) :=
  inferInstanceAs (Decidable (_ ∨ _ ∨ _ ∨ _ ∨ _ ∨ _ ∨ _ ∨ _ ∨ _ ∨ _ ∨ _))

instance : Decidable (IsOverridden policy title text) := inferInstanceAs (Decidable (_ ∨ _ ∨ _ ∨ _ ∨ _))

instance : Decidable (LeftToUser policy title text) :=
  inferInstanceAs (Decidable (¬ IsRoutine policy title text ∧
    if InTitle title "cryptocurrency order confirmation" then policy.cryptoOrderDecision = .manual
    else ¬ IsOverridden policy title text))

variable {policy title text}

theorem if_some_eq_none {α : Type} {c : Prop} [Decidable c] {a : α} {rest : Option α} :
    (if c then some a else rest) = none ↔ ¬ c ∧ rest = none := by
  split <;> simp_all

theorem classifyDialog_eq_none
    (guarded : (InTitle title "cryptocurrency order confirmation" ∧ policy.cryptoOrderDecision = .manual) ∨
      policy.allowBlindTrading = false) :
    classifyDialog policy title text = none ↔ LeftToUser policy title text := by
  unfold classifyDialog LeftToUser IsRoutine IsOverridden
  simp only [if_some_eq_none]
  by_cases crypto : InTitle title "cryptocurrency order confirmation"
  · simp only [if_pos crypto,not_or,and_assoc]
    cases policy.cryptoOrderDecision with
    | manual => simp only
    | transmit => simp only [reduceCtorEq]
    | cancel => simp only [reduceCtorEq]
  · have unallowed : policy.allowBlindTrading = false := guarded.resolve_left fun order => crypto order.1
    simp only [if_neg crypto,unallowed,Bool.false_eq_true,and_false,not_false_eq_true,true_and,
      if_some_eq_none,not_or,and_assoc,and_true]

theorem if_some_forall {α : Type} {c : Prop} [Decidable c] {a : α} {rest : Option α} {P : α → Prop}
    (here : P a) (later : ∀ b, rest = some b → P b) : ∀ b, (if c then some a else rest) = some b → P b := by
  split
  · rintro b ⟨⟩
    exact here
  · exact later

/-- Every class of dialog names a button. -/
theorem buttons_of_classifyDialog :
    ∀ action, classifyDialog policy title text = some action → action.buttons ≠ [] := by
  have last : ∀ action : DialogAction, none = some action → action.buttons ≠ [] := nofun
  unfold classifyDialog
  iterate 11 refine if_some_forall (List.cons_ne_nil _ _) ?_
  split
  · cases policy.cryptoOrderDecision with
    | manual => exact last
    | transmit => rintro action ⟨⟩; exact List.cons_ne_nil _ _
    | cancel => rintro action ⟨⟩; exact List.cons_ne_nil _ _
  · iterate 5 refine if_some_forall (List.cons_ne_nil _ _) ?_
    exact last

end Classify

/-- The title, and every text that is not blank among the components. -/
def dialogTextBlob (window : WindowInfo) (components : Json) : String :=
  "\n".intercalate
    (window.title :: components.stringsAt (fun _ text => decide (trim text ≠ "")) none)

/-- A dialog that asks about an order, where the policy leaves the answer to the user. -/
def IsOrderDecision (policy : DialogPolicy) (window : WindowInfo) (components : Json) : Prop :=
  (InTitle window.title "cryptocurrency order confirmation" ∧ policy.cryptoOrderDecision = .manual) ∨
  ((InTitle window.title "blind trading" ∨ InText (dialogTextBlob window components) "blind trading") ∧
    policy.allowBlindTrading = false)

structure IbcCompatibilityDialogHandler where
  policy : DialogPolicy

namespace IbcCompatibilityDialogHandler

variable (self : IbcCompatibilityDialogHandler)

def canHandle (window : WindowInfo) : Bool :=
  if titleContains window.title ["configuration"] then false
  else if isLargeGatewayWindow window then false
  else if isGatewayTitle window.title && boundedBy window isSmall then true
  else
    titleContains window.title ["confirmation","cryptocurrency order","login","newer version","notice",
      "order preview","password notice","restart","warning"]

def handle (window : WindowInfo) : Handle HandlerResult := do
  let components := (← await Answers.dumpComponents).toOption.getD .null
  match classifyDialog self.policy window.title (dialogTextBlob window components) with
  | none => return .notApplicable
  | some action =>
    if ← clickFirst window.id action.buttons then return .handled
    return .error (action.name ++ " matched but no expected button was found")

def registered : DialogHandler :=
  ⟨"IbcCompatibilityDialogHandler",fun _ => canHandle,self.handle⟩

end IbcCompatibilityDialogHandler

end Ibctl.Handlers
