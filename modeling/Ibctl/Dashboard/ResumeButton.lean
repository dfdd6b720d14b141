import Ibctl.Dashboard.GiveUpAlerts
import Ibctl.Dashboard.Reconnect
import Ibctl.Lib.Web

/-! The button of the alert for an instance that gave up. A phone opens its link, the page asks to
confirm, and the form of the page sends the command. What lies below the base URL gets to the
dashboard, from a proxy that cuts off the path of that URL. -/
namespace Ibctl.Dashboard
open Web

def callbackPath : List Char := "/api/reconnect/callback".toList

structure PromptForm where
  method : String
  action : List Char
  inputs : List (List Char × List Char)

/-- The form of `confirmation_prompt_html`. -/
def confirmationPromptForm (mode token formAction : List Char) : PromptForm where
  method := "POST"
  action := htmlEscape formAction
  inputs := [("t".toList,htmlEscape token),("mode".toList,htmlEscape mode)]

def promptForm (mode token : List Char) : PromptForm := confirmationPromptForm mode token callbackPath

/-- A client without a session, and the times of one of its requests. -/
structure Visitor where
  ip : Option String
  accept : String
  now : Nat
  at_ : Readings

def Visitor.request (v : Visitor) (method : String) (path query : List Char) : Request where
  method := method
  path := String.ofList path
  query := String.ofList query
  accept := v.accept
  authorization := ""
  authCookie := ""
  oauthCookie := ""
  stateCookie := ""
  next := none
  code := none
  state := none
  error := none
  now := v.now
  githubUser := .error .raised
  oidcEndpoint := false
  userinfo := .error .raised

def Visitor.post (v : Visitor) (fields : List (List Char × List Char)) : Post :=
  ⟨v.ip,valueOf fields "t".toList,valueOf fields "mode".toList⟩

section Visits

variable {δ : Type} [DecidableEq δ] (py : Python) (cfg : Settings) (site : Site δ) (escapes : Escapes)
  (baseUrl : List Char)

/-- The query of a request that gets to the callback. -/
def reaches (v : Visitor) (method : String) (url : List Char) : Option (List Char) :=
  match targetBelow baseUrl url with
  | none => none
  | some (path,query) =>
    match dispatch py cfg (v.request method path query) with
    | .ok (.passed _) => if path = callbackPath then some query else none
    | _ => none

def openLink (v : Visitor) (url : List Char) (c : Callbacks δ) : Option Response × Callbacks δ :=
  match reaches py cfg baseUrl v "GET" url with
  | none => (none,c)
  | some query =>
    let (response,after) :=
      reconnectCallbackPrompt site c (v.post (parseQsl escapes query)) v.at_
    (some response,after)

/-- The action of the form begins with a slash: it is a path on the origin of the page. -/
def submitForm (v : Visitor) (pageUrl : List Char) (form : PromptForm) (c : Callbacks δ) :
    Option (Except Response Flight) × Callbacks δ :=
  match (originOf pageUrl).bind fun origin =>
    reaches py cfg baseUrl v form.method (origin ++ attributeText escapes form.action) with
  | none => (none,c)
  | some _ =>
    let sent := formEncode escapes
      (form.inputs.map fun input => (input.1,attributeText escapes input.2))
    let (result,after) := dispatchUntilSent site c (v.post (parseQsl escapes sent)) v.at_
    (some result,after)

/-- The limiter lets the request pass. -/
def Callbacks.Admits (c : Callbacks δ) (v : Visitor) : Prop :=
  (c.limiter.check (v.ip.getD "unknown") v.at_.limited).1 = some true

/-- Whoever opens the link in time gets the prompt, and whoever confirms it there in time, before
the link was used, has the token sent to the instance as it was minted. -/
def ButtonWorks (url token mode : List Char) (issued validHours : Nat) : Prop :=
  let inTime (v : Visitor) :=
    issued ≤ seconds v.at_.validated ∧ seconds v.at_.validated < issued + validHours * 3600
  ∀ (c : Callbacks δ) (first second : Visitor), inTime first → inTime second → c.Admits first →
    ∃ after, openLink py cfg site escapes baseUrl first url c = (some (.prompt mode token),after) ∧
      (after.Admits second → (after.used.contains (site.sha256 token) second.at_.tested).1 = false →
        ∃ flight, (submitForm py cfg site escapes baseUrl second url (promptForm mode token) after).1 =
            some (.ok flight) ∧
          flight.mode = mode ∧ flight.command = "RESUME_RECONNECT ".toList ++ token)

end Visits

section Tokens

variable {mac : Mac} {signingKey mode token : List Char} {validHours now : Nat}

theorem plain_joinDots {segments : List (List Char)} (plain : ∀ s ∈ segments, Plain s) :
    Plain (joinDots segments) := by
  have dot : Plain ['.'] := by
    intro c among
    rw [List.mem_singleton.mp among]
    rfl
  induction segments with
  | nil => nofun
  | cons segment rest ih =>
    have later := ih fun s among => plain s (List.mem_cons_of_mem _ among)
    cases rest with
    | nil => simpa [joinDots] using plain segment (by simp)
    | cons next others =>
      intro c among
      have split_ : joinDots (segment :: next :: others) = segment ++ '.' :: joinDots (next :: others) := by
        simp [joinDots,List.intercalate_cons_cons]
      rw [split_,List.mem_append,List.mem_cons] at among
      rcases among with among | rfl | among
      · exact plain segment (by simp) c among
      · rfl
      · exact later c among

theorem plain_write (n : Nat) : Plain (Decimal.write n) := by
  intro c among
  have bounds := Decimal.isDigit_bounds (Decimal.isDigit_of_mem_write among)
  have digit : Text.isAsciiDigit c = true := by
    unfold Text.isAsciiDigit
    rw [Bool.and_eq_true,decide_eq_true_eq,decide_eq_true_eq]
    exact ⟨bounds.1,bounds.2⟩
  unfold isPlain Text.isAsciiAlphanumeric
  simp only [digit,Bool.true_or]

theorem plain_encode (bytes : List UInt8) : Plain (Base64.encode bytes) := by
  have digits : ∀ n < 64, isPlain (Base64.digit n) = true := by decide +kernel
  intro c among
  obtain ⟨n,small,rfl⟩ := Base64.mem_encode among
  exact digits n small

theorem plain_mode (known : mode ∈ validModes) : Plain mode := by
  simp only [validModes,List.mem_cons,List.not_mem_nil,or_false] at known
  rcases known with rfl | rfl
  · exact plain_of_all (by decide)
  · exact plain_of_all (by decide)

/-- The fields of a token that is minted for a mode, and what becomes of it. -/
theorem minted_token (known : mode ∈ validModes)
    (minted : mintToken mac signingKey mode validHours reconnectIntent now = .ok token) :
    Plain token ∧ extractMode token = some mode ∧
      ∀ at_, at_ < now + validHours * 3600 → 0 < validHours →
        validateToken mac signingKey token reconnectIntent at_ = .ok := by
  obtain ⟨mintable,issued,expires,rfl⟩ := mintToken_fields minted
  obtain ⟨modeGiven,dotless,lower⟩ := sound_mode known
  generalize fields : mintedFields mode reconnectIntent validHours now = f at mintable issued expires ⊢
  have same : f.intent = reconnectIntent ∧ f.issued = now ∧ f.expires = now + validHours * 3600 ∧
      f.mode = mode := by
    rw [← fields]
    exact ⟨rfl,rfl,rfl,lower⟩
  obtain ⟨intent,began,ends,mode_eq⟩ := same
  have plainIntent : '.' ∉ f.intent := by
    rw [intent]
    decide
  have plainMode : '.' ∉ f.mode := by rwa [mode_eq]
  have segments := @splitOn_text mac signingKey f plainIntent plainMode (by omega) (by omega)
  refine ⟨?_,?_,?_⟩
  · unfold TokenFields.text
    rw [writeInt_of_nonneg (by omega),writeInt_of_nonneg (by omega)]
    apply plain_joinDots
    intro s among
    simp only [List.mem_cons,List.not_mem_nil,or_false] at among
    rcases among with rfl | rfl | rfl | rfl | rfl | rfl
    · exact plain_of_all (by decide)
    · rw [intent]
      exact plain_of_all (by decide)
    · exact plain_write _
    · exact plain_write _
    · rw [mode_eq]
      exact plain_mode known
    · exact plain_encode _
  · unfold extractMode
    rw [segments]
    simp only [mode_eq,if_neg modeGiven]
  · intro at_ before positive
    have writes : ∀ n : Int, 0 ≤ n → Decimal.Writable n.natAbs → Decimal.Writable n.toNat := by
      intro n nonneg written
      rwa [show n.toNat = n.natAbs by omega]
    have spelled := @text_spells mac signingKey f plainIntent plainMode (by omega) (by omega)
      (writes _ (by omega) issued) (writes _ (by omega) expires)
    rw [validateToken_ok_iff]
    refine ⟨f,spelled,intent,?_,?_,by omega,by omega,by omega⟩
    · rw [intent]
      decide
    · rwa [mode_eq]

end Tokens

section Buttons

variable {site : GiveUpSite} {channel mode : String} {r : RecoveryBlock} {issued : Nat} {button : Action}

def RecoveryBlock.validHours (r : RecoveryBlock) : Nat :=
  orDefault r.callbackValidHours defaultCallbackValidHours

theorem validHours_pos (r : RecoveryBlock) : 0 < r.validHours := by
  unfold RecoveryBlock.validHours orDefault countOr
  cases given : r.callbackValidHours with
  | none => simp [defaultCallbackValidHours]
  | some hours =>
    cases hours with
    | zero => decide
    | succ hours => simp [Option.filter]

/-- Where the alert has a button, a token was minted for it. -/
theorem button_minted (shown : button ∈ (buildGiveUpAlert site channel mode r issued).actions) :
    site.signingKey ≠ [] ∧ ∃ token,
      mintToken site.mac site.signingKey mode.toList r.validHours reconnectIntent issued = .ok token ∧
        button.url = reconnectUrl site.baseUrl token mode := by
  unfold buildGiveUpAlert at shown
  dsimp only at shown
  split at shown
  next can =>
    split at shown
    next token minted =>
      obtain rfl := List.mem_singleton.mp shown
      have given : site.signingKey ≠ [] := by
        unfold AlertSite.canUseAction at can
        simp at can
        exact can.1
      exact ⟨given,token,minted,rfl⟩
    next => cases shown
  next => cases shown

end Buttons

section Passing

variable {py : Python} {cfg : Settings} {baseUrl : List Char}

theorem firstValid_ne {checks : List (Means × Except AuthError Bool)}
    (fails : ∀ check ∈ checks, check.2 ≠ .ok true) (means : Means) :
    firstValid checks ≠ .ok (some means) := by
  induction checks with
  | nil => nofun
  | cons check rest ih =>
    obtain ⟨kind,result⟩ := check
    have later := ih fun other among => fails other (List.mem_cons_of_mem _ among)
    cases result with
    | error raised => nofun
    | ok valid =>
      cases valid with
      | false => exact later
      | true => exact absurd rfl (fails _ List.mem_cons_self)

theorem isAuthorized_visitor (v : Visitor) (method : String) (path query : List Char) (means : Means) :
    isAuthorized py cfg (v.request method path query) ≠ .ok (some means) := by
  apply firstValid_ne
  intro check among
  rcases List.mem_append.mp among with among | among
  · unfold tokenChecks at among
    split at among
    · cases among
    · simp only [List.mem_cons,List.not_mem_nil,or_false] at among
      rcases among with rfl | rfl | rfl
      · exact fun valid => absurd (compareDigest_true valid) (by simp [Visitor.request])
      · simp [validBasic,startsWith,Visitor.request]
      · simp [validCookie,Visitor.request]
  · obtain rfl := List.mem_singleton.mp among
    simp only [validOauthCookie,Visitor.request]
    split
    · simp
    · simp [parseOauthSession,unsignData,rsplitDot,Text.splitOnce,Except.map]

/-- Nothing lets a client pass that has nothing to show. -/
theorem dispatch_visitor (v : Visitor) (method : String) (path query : List Char)
    (guarded : isStaticOrPublic (String.ofList path) = false) (enabled : cfg.authEnabled = true)
    (means : Option Means) : dispatch py cfg (v.request method path query) ≠ .ok (.passed means) := by
  have refused := @isAuthorized_visitor py cfg v method path query
  unfold dispatch
  rw [if_neg (not_not.mpr enabled)]
  have named : (v.request method path query).path = String.ofList path := rfl
  rw [named,guarded]
  simp only [Bool.false_eq_true,if_false]
  split
  · nofun
  next found => exact absurd found (refused _)
  next => split <;> nofun

theorem callbackPath_guarded : isStaticOrPublic (String.ofList callbackPath) = false := by decide +kernel

theorem reaches_callback (v : Visitor) (method : String) (url query : List Char) :
    reaches py cfg baseUrl v method url = some query ↔
      targetBelow baseUrl url = some (callbackPath,query) ∧ cfg.authEnabled = false := by
  unfold reaches
  constructor
  · intro reached
    split at reached
    · cases reached
    next path found target =>
      split at reached
      next means passed =>
        split at reached
        next there =>
          cases reached
          rw [there] at passed target
          refine ⟨target,Bool.eq_false_iff.mpr fun enabled => ?_⟩
          exact dispatch_visitor v method _ _ callbackPath_guarded enabled _ passed
        next => cases reached
      next => cases reached
  · rintro ⟨target,disabled⟩
    have passes : dispatch py cfg (v.request method callbackPath query) = .ok (.passed none) := by
      unfold dispatch
      rw [disabled]
      rfl
    rw [target]
    simp only [passes,if_true]

end Passing

section Links

variable {baseUrl token : List Char} {mode : String}

/-- The query of a link. -/
def linkQuery (token mode : List Char) : List Char :=
  "t".toList ++ '=' :: token ++ '&' :: ("mode".toList ++ '=' :: mode)

/-- A link has below its base URL the path of the callback and its query. -/
theorem reconnectUrl_eq (baseUrl token : List Char) (mode : String) :
    reconnectUrl baseUrl token mode =
      baseUrl ++ '/' :: ("api/reconnect/callback".toList ++ '?' :: linkQuery token mode.toList) := by
  unfold reconnectUrl linkQuery
  simp

theorem targetBelow_link (unbroken : '#' ∉ baseUrl) (plain : Plain token) (plainMode : Plain mode.toList) :
    targetBelow baseUrl (reconnectUrl baseUrl token mode) =
      some (callbackPath,linkQuery token mode.toList) := by
  have sent : '#' ∉ "api/reconnect/callback".toList ++ '?' :: linkQuery token mode.toList := by
    unfold linkQuery
    simp [@Plain.not_mem _ plain '#' rfl,@Plain.not_mem _ plainMode '#' rfl]
  have path : '/' :: ("api/reconnect/callback".toList ++ '?' :: linkQuery token mode.toList) =
      callbackPath ++ '?' :: linkQuery token mode.toList := rfl
  rw [reconnectUrl_eq,targetBelow_below unbroken sent,path,Text.splitOnce_found (by decide)]
  rfl

theorem valueOf_link (escapes : Escapes) (plain : Plain token) (plainMode : Plain mode.toList) :
    valueOf (parseQsl escapes (linkQuery token mode.toList)) "t".toList = token ∧
      valueOf (parseQsl escapes (linkQuery token mode.toList)) "mode".toList = mode.toList := by
  have named : Plain "t".toList ∧ Plain "mode".toList :=
    ⟨plain_of_all (by decide),plain_of_all (by decide)⟩
  unfold linkQuery
  rw [parseQsl_pair named.1 named.2 plain plainMode]
  exact ⟨rfl,rfl⟩

end Links

section Handlers

variable {δ : Type} [DecidableEq δ] {site : Site δ} {c : Callbacks δ} {mode token : List Char} {v : Visitor}

omit [DecidableEq δ] in
theorem modeOf_known (known : mode ∈ validModes) : modeOf mode = mode ∧ '.' ∉ mode := by
  simp only [validModes,List.mem_cons,List.not_mem_nil,or_false] at known
  rcases known with rfl | rfl <;> decide

omit [DecidableEq δ] in
theorem validateCommon_minted (given : site.signingKey ≠ []) (known : mode ∈ validModes)
    (valid : validateToken site.mac site.signingKey token reconnectIntent (seconds v.at_.validated) = .ok)
    (carries : extractMode token = some mode) (admits : c.Admits v) :
    validateCommon site c.limiter ⟨v.ip,token,mode⟩ v.at_ =
      (.ok mode,(c.limiter.check (v.ip.getD "unknown") v.at_.limited).2) := by
  obtain ⟨same,dotless⟩ := modeOf_known known
  unfold Callbacks.Admits at admits
  unfold validateCommon
  rcases limited : c.limiter.check (v.ip.getD "unknown") v.at_.limited with ⟨admitted,checked⟩
  rw [limited] at admits
  dsimp only at admits
  subst admits
  dsimp only
  rw [if_neg given,same,if_neg (by simp [known,dotless]),valid,carries]
  simp

end Handlers

section Result

variable {δ : Type} [DecidableEq δ] {py : Python} {cfg : Settings} {site : Site δ} {escapes : Escapes}
  {baseUrl token : List Char} {mode : String} {c : Callbacks δ} {v : Visitor}

/-- What holds of a link whose token was minted for its mode, at a time it is valid. -/
structure Link (site : Site δ) (token : List Char) (mode : String) (v : Visitor) : Prop where
  given : site.signingKey ≠ []
  known : mode.toList ∈ validModes
  plain : Plain token
  carries : extractMode token = some mode.toList
  valid : validateToken site.mac site.signingKey token reconnectIntent (seconds v.at_.validated) = .ok

omit [DecidableEq δ] in
theorem Link.opened (link : Link site token mode v) (disabled : cfg.authEnabled = false)
    (unbroken : '#' ∉ baseUrl) (admits : c.Admits v) :
    openLink py cfg site escapes baseUrl v (reconnectUrl baseUrl token mode) c =
      (some (.prompt mode.toList token),
        { c with limiter := (c.limiter.check (v.ip.getD "unknown") v.at_.limited).2 }) := by
  have plainMode := plain_mode link.known
  have reached := (@reaches_callback py cfg baseUrl v "GET" _ _).mpr
    ⟨targetBelow_link unbroken link.plain plainMode,disabled⟩
  obtain ⟨token_eq,mode_eq⟩ := valueOf_link escapes link.plain plainMode
  unfold openLink
  rw [reached]
  dsimp only
  unfold Visitor.post reconnectCallbackPrompt
  rw [token_eq,mode_eq,validateCommon_minted link.given link.known link.valid link.carries admits]

theorem Link.submitted (link : Link site token mode v) (disabled : cfg.authEnabled = false)
    (root : originOf baseUrl = some baseUrl) (admits : c.Admits v)
    (unused : (c.used.contains (site.sha256 token) v.at_.tested).1 = false)
    (registered : site.hasInstance mode.toList = true) :
    (submitForm py cfg site escapes baseUrl v (reconnectUrl baseUrl token mode)
      (promptForm mode.toList token) c).1 = some (.ok ⟨token,mode.toList⟩) := by
  have plainMode := plain_mode link.known
  have origin : originOf (reconnectUrl baseUrl token mode) = some baseUrl := by
    rw [reconnectUrl_eq]
    exact originOf_below root _
  have action : baseUrl ++ attributeText escapes (htmlEscape callbackPath) =
      baseUrl ++ '/' :: "api/reconnect/callback".toList := rfl
  have target : targetBelow baseUrl (baseUrl ++ '/' :: "api/reconnect/callback".toList) =
      some (callbackPath,[]) :=
    targetBelow_below (not_mem_origin root).2 (by decide)
  have reached := (@reaches_callback py cfg baseUrl v "POST" _ _).mpr ⟨target,disabled⟩
  have named : Plain "t".toList ∧ Plain "mode".toList :=
    ⟨plain_of_all (by decide),plain_of_all (by decide)⟩
  have sent : formEncode escapes ((promptForm mode.toList token).inputs.map fun input =>
      (input.1,attributeText escapes input.2)) = linkQuery token mode.toList := by
    have fields : (promptForm mode.toList token).inputs.map (fun input =>
        (input.1,attributeText escapes input.2)) =
          [("t".toList,token),("mode".toList,mode.toList)] := by
      simp only [promptForm,confirmationPromptForm,List.map_cons,List.map_nil,
        attributeText_plain link.plain,attributeText_plain plainMode]
    rw [fields,formEncode_pair named.1 named.2 link.plain plainMode]
    rfl
  obtain ⟨token_eq,mode_eq⟩ := valueOf_link escapes link.plain plainMode
  unfold submitForm
  rw [origin,Option.bind_some]
  simp only [promptForm,confirmationPromptForm] at sent ⊢
  rw [action,reached]
  dsimp only
  rw [sent]
  unfold Visitor.post dispatchUntilSent
  rw [token_eq,mode_eq,validateCommon_minted link.given link.known link.valid link.carries admits]
  dsimp only
  rcases asked : c.used.contains (site.sha256 token) v.at_.tested with ⟨known,used⟩
  rw [asked] at unused
  dsimp only at unused
  subst unused
  dsimp only
  rw [if_pos registered]

/-- The form of a page that the dashboard serves gets back to it at the root of its origin only. -/
theorem root_of_submitted {url : List Char} {form : PromptForm} {result : Except Response Flight}
    (action : form.action = htmlEscape callbackPath)
    (sent : (submitForm py cfg site escapes baseUrl v url form c).1 = some result) :
    originOf baseUrl = some baseUrl := by
  unfold submitForm at sent
  split at sent
  · cases sent
  next query found =>
    obtain ⟨origin,from_url,reached⟩ := Option.bind_eq_some_iff.mp found
    rw [action] at reached
    obtain ⟨target,-⟩ := reaches_callback v _ _ _ |>.mp reached
    have away := not_mem_origin from_url
    have path : attributeText escapes (htmlEscape callbackPath) = callbackPath := rfl
    rw [path] at target
    have whole := eq_of_targetBelow target (by simp [away.2]; decide) (by simp [away.1]; decide)
    rw [← List.append_cancel_right whole]
    exact originOf_origin from_url

omit [DecidableEq δ] in
theorem reaches_of_opened {url : List Char} {response : Response} {after : Callbacks δ}
    (opened : openLink py cfg site escapes baseUrl v url c = (some response,after)) :
    cfg.authEnabled = false ∧ '#' ∉ baseUrl := by
  unfold openLink at opened
  split at opened
  · cases opened
  next query reached =>
    obtain ⟨target,disabled⟩ := (reaches_callback v _ _ _).mp reached
    exact ⟨disabled,not_mem_of_targetBelow target⟩

/-- A client that comes at one time only. -/
def visitorAt (time : Nat) : Visitor := ⟨none,"",0,⟨time,time,time⟩⟩

omit [DecidableEq δ] in
/-- A dashboard that has just started lets a client open the link and confirm. -/
theorem start_admits (time : Nat) :
    (Callbacks.start : Callbacks δ).Admits (visitorAt time) ∧
      ({ (Callbacks.start : Callbacks δ) with
        limiter := ((Callbacks.start : Callbacks δ).limiter.check "unknown" time).2 } :
        Callbacks δ).Admits (visitorAt time) := by
  have first : (Callbacks.start : Callbacks δ).limiter.check "unknown" time =
      (some true,⟨60 * microseconds,10,1024,[("unknown",[time])]⟩) := rfl
  refine ⟨congrArg Prod.fst first,?_⟩
  have few (old : Nat → Bool) : ([time].dropWhile old).length < 10 :=
    Nat.lt_of_le_of_lt (List.dropWhile_suffix old).length_le (by simp)
  unfold Callbacks.Admits
  rw [first]
  simp [visitorAt,RateLimiter.check]
  exact decide_eq_true (few _)

/-- The button works just where the dashboard asks nobody to log in, and is served at the root of
its origin. -/
theorem resume_button_iff (py : Python) (cfg : Settings) (site : GiveUpSite) (sha256 : List Char → δ)
    (hasInstance : List Char → Bool) (escapes : Escapes) (channel mode : String) (r : RecoveryBlock)
    (issued : Nat) (button : Action) (known : mode.toList ∈ validModes)
    (registered : hasInstance mode.toList = true)
    (shown : button ∈ (buildGiveUpAlert site channel mode r issued).actions) :
    (∃ token,
      mintToken site.mac site.signingKey mode.toList r.validHours reconnectIntent issued = .ok token ∧
        ButtonWorks py cfg ⟨site.mac,sha256,site.signingKey,hasInstance⟩ escapes site.baseUrl button.url
          token mode.toList issued r.validHours) ↔
      cfg.authEnabled = false ∧ originOf site.baseUrl = some site.baseUrl := by
  obtain ⟨given,token,minted,url⟩ := button_minted shown
  obtain ⟨plain,carries,valid⟩ := minted_token known minted
  have positive := validHours_pos r
  have link (v : Visitor) (inTime : seconds v.at_.validated < issued + r.validHours * 3600) :
      Link ⟨site.mac,sha256,site.signingKey,hasInstance⟩ token mode v :=
    ⟨given,known,plain,carries,valid _ inTime positive⟩
  rw [url]
  constructor
  · rintro ⟨other,again,works⟩
    obtain rfl : token = other := Except.ok.inj (minted.symm.trans again)
    have now : seconds (issued * microseconds) = issued := Nat.mul_div_cancel _ (by decide)
    have inTime : issued ≤ seconds (issued * microseconds) ∧
        seconds (issued * microseconds) < issued + r.validHours * 3600 := by omega
    obtain ⟨admits,again⟩ := @start_admits δ (issued * microseconds)
    obtain ⟨after,opened,confirmed⟩ := works .start (visitorAt (issued * microseconds))
      (visitorAt (issued * microseconds)) inTime inTime admits
    obtain ⟨disabled,unbroken⟩ := reaches_of_opened opened
    rw [(link _ inTime.2).opened disabled unbroken admits] at opened
    obtain rfl := (Prod.mk.inj opened).2
    obtain ⟨flight,sent,-⟩ := confirmed again rfl
    exact ⟨disabled,root_of_submitted rfl sent⟩
  · rintro ⟨disabled,root⟩
    refine ⟨token,minted,?_⟩
    intro c first second inTime later admits
    refine ⟨_,(link first inTime.2).opened disabled (not_mem_origin root).2 admits,?_⟩
    intro again unused
    exact ⟨_,(link second later.2).submitted disabled root again unused registered,rfl,rfl⟩

def giveUpSite : GiveUpSite where
  mac := linkSite.mac
  signingKey := linkSite.signingKey
  baseUrl := "https://ibctl.example.com".toList
  ntfySendRetries := none
  fromIsoformat := fun _ => none

/-- A give-up whose link is valid for a day. -/
def givenUp : RecoveryBlock := ⟨"given_up",some "2023-11-14T22:13:20Z",none,none,some 24,none,none,none⟩

/-- The link of the sample site, as the alert has it. -/
def resumeButton : Action :=
  ⟨"view","Resume reconnect",reconnectUrl giveUpSite.baseUrl linkToken "paper",true⟩

def openSettings : Settings := ⟨"","","","",[],[],"","","",[],[]⟩

def guardedSettings : Settings := { openSettings with token := "secret" }

def linkPython : Python := ⟨linkSite.mac,fun _ => none⟩

/-- The escapes of a browser that is never asked for one. -/
def noEscapes : Escapes := ⟨fun c => [c],id,id⟩

theorem resumeButton_shown :
    resumeButton ∈ (buildGiveUpAlert giveUpSite "ntfy" "paper" givenUp linkIssued).actions := by
  decide +kernel

theorem resume_button_open :
    ∃ token,
      mintToken linkSite.mac linkSite.signingKey "paper".toList givenUp.validHours reconnectIntent
          linkIssued = .ok token ∧
        ButtonWorks linkPython openSettings linkSite noEscapes giveUpSite.baseUrl resumeButton.url token
          "paper".toList linkIssued givenUp.validHours :=
  (resume_button_iff linkPython openSettings giveUpSite linkSite.sha256 linkSite.hasInstance noEscapes
    "ntfy" "paper" givenUp linkIssued resumeButton (by decide) rfl resumeButton_shown).mpr
    ⟨by decide,by decide +kernel⟩

/-- With a token to log in, the link that the alert has gets a phone without a session nowhere. -/
theorem guarded_button_fails :
    resumeButton ∈ (buildGiveUpAlert giveUpSite "ntfy" "paper" givenUp linkIssued).actions ∧
      ¬ ∃ token,
        mintToken linkSite.mac linkSite.signingKey "paper".toList givenUp.validHours reconnectIntent
            linkIssued = .ok token ∧
          ButtonWorks linkPython guardedSettings linkSite noEscapes giveUpSite.baseUrl resumeButton.url
            token "paper".toList linkIssued givenUp.validHours := by
  refine ⟨resumeButton_shown,?_⟩
  rintro ⟨token,-,works⟩
  have inTime : linkIssued ≤ seconds (hoursLater 1) ∧
      seconds (hoursLater 1) < linkIssued + givenUp.validHours * 3600 := by decide
  have admits := (@start_admits (List Char) (hoursLater 1)).1
  obtain ⟨after,opened,-⟩ := works .start (visitorAt (hoursLater 1)) (visitorAt (hoursLater 1)) inTime
    inTime admits
  have refused : (openLink linkPython guardedSettings linkSite noEscapes giveUpSite.baseUrl
      (visitorAt (hoursLater 1)) resumeButton.url .start).1 = none := by decide +kernel
  rw [opened] at refused
  cases refused

end Result

end Ibctl.Dashboard
