import Ibctl.Dashboard.Sessions
import Ibctl.Lib.Runs

/-! What the OAuth cookie of an admitted request shows. Two kinds of values are signed alike,
and the middleware does not look at which of them it has before it. -/
namespace Ibctl.Dashboard

def Purpose.key : Purpose → String
  | .state _ => stateKey
  | .session _ _ _ => sessionKey

def Purpose.text : Purpose → String
  | .state nextPath => nextPath
  | .session _ login _ => login

theorem Purpose.named (purpose : Purpose) : purpose.key ≠ "iat" := by
  cases purpose with
  | state => simp [Purpose.key,stateKey]
  | session => simp [Purpose.key,sessionKey]

section Predicates

variable (py : Python) (cfg : Settings)

/-- What holds of everything that is handed out. -/
structure Issued.Sound (e : Issued) : Prop where
  writable : Decimal.Writable (seconds e.issuedAt)
  signed : e.value =
    py.signData (stampedPayload e.purpose.key e.purpose.text e.issuedAt) cfg.authSecret.toList
  allowed : ∀ provider login groups, e.purpose = .session provider login groups →
    cfg.allows login groups provider = true

/-- It is not older than a session may be, by its own stamp. -/
def Issued.Lives (e : Issued) (now : Nat) : Prop :=
  now ≤ (seconds e.issuedAt + sessionMaxAge) * microseconds

instance (e : Issued) (now : Nat) : Decidable (e.Lives now) := inferInstanceAs (Decidable (_ ≤ _))

/-- The middleware looks at the OAuth cookie, and at nothing behind it. -/
def DecidedByCookie (r : Request) : Prop :=
  cfg.authEnabled = true ∧ isStaticOrPublic r.path = false ∧
    firstValid (tokenChecks cfg.token r) = .ok none ∧ cfg.authSecret ≠ ""

/-- Nobody but the dashboard makes signatures: a cookie that carries one was handed out. -/
def Unforged (handedOut : List Issued) (r : Request) : Prop :=
  (∃ encoded, r.oauthCookie.toList = py.sealed cfg.authSecret.toList encoded) →
    ∃ e ∈ handedOut, r.oauthCookie.toList = e.value

/-- The OAuth cookie admits a request only if it is a session of somebody on the allow lists,
at most seven days old. -/
def OnlySessions (handedOut : List Issued) (r : Request) : Prop :=
  dispatch py cfg r = .ok (.passed (some .oauthCookie)) →
    ∃ e ∈ handedOut, r.oauthCookie.toList = e.value ∧
      (∃ provider login groups, e.purpose = .session provider login groups ∧
        cfg.allows login groups provider = true) ∧
      r.now ≤ e.issuedAt + sessionMaxAge * microseconds

/-- Where the OAuth cookie decides, it is no state of the last seven days. -/
def NoLiveState (handedOut : List Issued) (r : Request) : Prop :=
  DecidedByCookie cfg r → ∀ e ∈ handedOut, ∀ nextPath, e.purpose = .state nextPath →
    r.oauthCookie.toList = e.value → ¬ e.Lives r.now

end Predicates

variable {py : Python} {cfg : Settings}

section Admission

theorem firstValid_append (checks : List (Means × Except AuthError Bool)) (means : Means)
    (last : Except AuthError Bool) (other : ∀ check ∈ checks, check.1 ≠ means) :
    firstValid (checks ++ [(means,last)]) = .ok (some means) ↔
      firstValid checks = .ok none ∧ last = .ok true := by
  induction checks with
  | nil =>
    rcases last with _ | _ | _ <;> simp [firstValid]
  | cons check rest ih =>
    obtain ⟨first,result⟩ := check
    have different : first ≠ means := other (first,result) (by simp)
    rcases result with raised | valid
    · simp [firstValid]
    cases valid with
    | true => simp [firstValid,different]
    | false => simpa [firstValid] using ih fun check found => other check (by simp [found])

theorem tokenChecks_means (token : String) (r : Request) :
    ∀ check ∈ tokenChecks token r, check.1 ≠ Means.oauthCookie := by
  unfold tokenChecks
  split <;> simp

theorem validOauthCookie_iff (cookie secret : String) (now : Nat) :
    validOauthCookie py cookie secret now = .ok true ↔ secret ≠ "" ∧
      ∃ payload, parseOauthSession py cookie.toList secret.toList now = .ok (some payload) := by
  unfold validOauthCookie
  by_cases empty : secret = ""
  · simp [empty]
  · rw [if_neg empty]
    rcases parseOauthSession py cookie.toList secret.toList now with _ | _ | payload <;>
      simp [Except.map,empty]

theorem dispatch_oauth_iff (r : Request) :
    dispatch py cfg r = .ok (.passed (some .oauthCookie)) ↔ DecidedByCookie cfg r ∧
      ∃ payload, parseOauthSession py r.oauthCookie.toList cfg.authSecret.toList r.now =
        .ok (some payload) := by
  have authorized : isAuthorized py cfg r = .ok (some .oauthCookie) ↔
      firstValid (tokenChecks cfg.token r) = .ok none ∧ cfg.authSecret ≠ "" ∧
        ∃ payload, parseOauthSession py r.oauthCookie.toList cfg.authSecret.toList r.now =
          .ok (some payload) := by
    rw [isAuthorized,firstValid_append _ _ _ (tokenChecks_means cfg.token r),validOauthCookie_iff]
  have asked : dispatch py cfg r = .ok (.passed (some .oauthCookie)) ↔
      cfg.authEnabled = true ∧ isStaticOrPublic r.path = false ∧
        isAuthorized py cfg r = .ok (some .oauthCookie) := by
    unfold dispatch
    cases enabled : cfg.authEnabled with
    | false => simp
    | true =>
      cases open_ : isStaticOrPublic r.path with
      | true => simp
      | false =>
        rcases isAuthorized py cfg r with _ | _ | means
        · simp
        · simp only [not_true_eq_false,if_false,Bool.false_eq_true]
          split <;> simp
        · simp
  rw [asked,authorized,DecidedByCookie]
  tauto

variable {e : Issued} {now : Nat}

/-- What was handed out, whatever for, is read as a session while it is young enough. -/
theorem parseOauthSession_sound (sound : e.Sound py cfg) :
    (∃ payload, parseOauthSession py e.value cfg.authSecret.toList now = .ok (some payload)) ↔
      e.Lives now := by
  rw [sound.signed,parseOauthSession,unsignData_stamped e.purpose.named,
    checkAge_stamped sound.writable,Issued.Lives]
  split
  · rename_i late
    simp [Nat.not_le.mpr late]
  · rename_i young
    simp [Nat.not_lt.mp young]

theorem admitted_iff (sound : e.Sound py cfg) {r : Request} (presented : r.oauthCookie.toList = e.value) :
    dispatch py cfg r = .ok (.passed (some .oauthCookie)) ↔
      DecidedByCookie cfg r ∧ e.Lives r.now := by
  rw [dispatch_oauth_iff,presented,parseOauthSession_sound sound]

/-- The two kinds of values are never the same text. -/
theorem key_of_value {f : Issued} (sound : e.Sound py cfg) (other : f.Sound py cfg)
    (same : e.value = f.value) : e.purpose.key = f.purpose.key := by
  rw [sound.signed,other.signed] at same
  exact stamped_injective e.purpose.named f.purpose.named same

theorem lives_seven_days (lives : e.Lives now) :
    now ≤ e.issuedAt + sessionMaxAge * microseconds := by
  unfold Issued.Lives seconds at lives
  rw [Nat.add_mul] at lives
  exact lives.trans (Nat.add_le_add_right (Nat.div_mul_le_self _ _) _)

end Admission

section Step

/-- At one request the two agree, if all that was handed out is sound. -/
theorem onlySessions_iff {handedOut : List Issued} {r : Request}
    (sound : ∀ e ∈ handedOut, e.Sound py cfg) (unforged : Unforged py cfg handedOut r) :
    OnlySessions py cfg handedOut r ↔ NoLiveState cfg handedOut r := by
  constructor
  · intro only decided e found nextPath state presented lives
    obtain ⟨f,present,same,⟨provider,login,groups,session,-⟩,-⟩ :=
      only ((admitted_iff (sound e found) presented).mpr ⟨decided,lives⟩)
    have keys := key_of_value (sound e found) (sound f present) (presented.symm.trans same)
    rw [state,session] at keys
    simp [Purpose.key,stateKey,sessionKey] at keys
  · intro no admitted
    obtain ⟨decided,payload,read⟩ := (dispatch_oauth_iff r).mp admitted
    obtain ⟨e,found,presented⟩ := unforged (sealed_of_unsignData read)
    have lives := ((admitted_iff (sound e found) presented).mp admitted).2
    refine ⟨e,found,presented,?_,lives_seven_days lives⟩
    cases purpose : e.purpose with
    | state nextPath => exact absurd lives (no decided e found nextPath purpose presented)
    | session provider login groups =>
      exact ⟨provider,login,groups,rfl,(sound e found).allowed _ _ _ purpose⟩

theorem signStamped_ok {key text : String} {secret value : List Char} {now : Nat}
    (signed : signStamped py key text secret now = .ok value) :
    Decimal.Writable (seconds now) ∧ value = py.signData (stampedPayload key text now) secret := by
  unfold signStamped at signed
  split at signed
  · rename_i writable
    cases signed
    exact ⟨writable,rfl⟩
  · cases signed

theorem map_ok {α β : Type} {x : Except AuthError α} {f : α → β} {b : β}
    (mapped : x.map f = .ok b) : ∃ a, x = .ok a ∧ f a = b := by
  cases x with
  | error raised => cases mapped
  | ok a =>
    cases mapped
    exact ⟨a,rfl,rfl⟩

variable {r : Request} {answer : Answer}

theorem unforged_blank {handedOut : List Issued} (blank : r.oauthCookie = "") :
    Unforged py cfg handedOut r := by
  rintro ⟨encoded,carried⟩
  rw [blank] at carried
  simp [Python.sealed] at carried

theorem unforged_of_mem {handedOut : List Issued} {e : Issued} (found : e ∈ handedOut)
    (presented : r.oauthCookie.toList = e.value) : Unforged py cfg handedOut r :=
  fun _ => ⟨e,found,presented⟩

theorem oauthStart_sound (answered : oauthStart py cfg r = .ok answer) :
    ∀ e ∈ answer.issued, e.Sound py cfg := by
  obtain ⟨value,built,rfl⟩ := map_ok answered
  obtain ⟨writable,signed⟩ := signStamped_ok built
  intro e found
  obtain rfl := List.mem_singleton.mp found
  exact ⟨writable,signed,fun _ _ _ session => by cases session⟩

theorem oauthCallback_sound {provider : Provider} {failed invalid : String}
    {identity : Except Failure (String × List String)}
    (allowed : ∀ login groups, identity = .ok (login,groups) → cfg.allows login groups provider = true)
    (answered : oauthCallback py cfg provider failed invalid identity r = .ok answer) :
    ∀ e ∈ answer.issued, e.Sound py cfg := by
  unfold oauthCallback at answered
  split at answered
  · cases answered
  split at answered
  · cases answered
  split at answered
  · cases answered
    simp [Answer.issued]
  split at answered
  · cases answered
    simp [Answer.issued]
  split at answered
  · cases answered
    simp [Answer.issued]
  · cases answered
  · rename_i login groups
    obtain ⟨value,built,rfl⟩ := map_ok answered
    obtain ⟨writable,signed⟩ := signStamped_ok built
    intro e found
    obtain rfl := List.mem_singleton.mp found
    refine ⟨writable,signed,fun _ _ _ session => ?_⟩
    cases session
    exact allowed login groups rfl

theorem githubIdentity_allowed {user : Except Failure GithubUser} (login : String)
    (groups : List String) (known : githubIdentity cfg user = .ok (login,groups)) :
    cfg.allows login groups .github = true := by
  unfold githubIdentity at known
  split at known
  · cases known
  · rename_i user
    dsimp only at known
    generalize (if cfg.githubAllowedOrgs = [] then [] else user.orgs) = orgs at known
    split at known
    · cases known
    · rename_i passed
      cases known
      simpa [Settings.allows] using passed

theorem oidcIdentity_allowed {userinfo : Except Failure Userinfo} (login : String)
    (groups : List String) (known : oidcIdentity cfg userinfo = .ok (login,groups)) :
    cfg.allows login groups .oidc = true := by
  unfold oidcIdentity at known
  split at known
  · cases known
  split at known
  · cases known
  split at known
  · cases known
  · rename_i user group
    cases known
    simp only [not_not] at user group
    rw [Settings.allows,user,group]
    rfl

theorem route_sound (answered : route py cfg r = .ok answer) :
    ∀ e ∈ answer.issued, e.Sound py cfg := by
  have nothing : ∀ e ∈ Answer.issued .toLogin, e.Sound py cfg := by simp [Answer.issued]
  unfold route at answered
  split at answered
  · cases answered
    exact nothing
  split at answered
  · unfold githubOauthStart at answered
    split at answered
    · cases answered
      exact nothing
    · exact oauthStart_sound answered
  split at answered
  · unfold githubOauthCallback at answered
    split at answered
    · cases answered
      exact nothing
    · exact oauthCallback_sound githubIdentity_allowed answered
  split at answered
  · unfold oidcStart at answered
    split at answered
    · cases answered
      exact nothing
    split at answered
    · cases answered
    · exact oauthStart_sound answered
  split at answered
  · unfold oidcCallback at answered
    split at answered
    · cases answered
      exact nothing
    · exact oauthCallback_sound oidcIdentity_allowed answered
  · cases answered
    exact nothing

theorem step_sound {handedOut : List Issued} (sound : ∀ e ∈ handedOut, e.Sound py cfg) :
    ∀ e ∈ step py cfg handedOut r, e.Sound py cfg := by
  unfold step serve
  cases dispatch py cfg r with
  | error raised => exact sound
  | ok dispatched =>
    cases dispatched with
    | passed means =>
      cases answered : route py cfg r with
      | error raised => exact sound
      | ok answer =>
        intro e found
        rcases List.mem_append.mp found with old | new
        · exact sound e old
        · exact route_sound answered e new
    | toLogin nextPath => simpa [Answer.issued] using sound
    | unauthorized => simpa [Answer.issued] using sound

theorem step_public {handedOut : List Issued} (open_ : isStaticOrPublic r.path = true)
    (answered : route py cfg r = .ok answer) :
    step py cfg handedOut r = handedOut ++ answer.issued := by
  have passed : dispatch py cfg r = .ok (.passed none) := by
    unfold dispatch
    rw [if_pos open_,ite_self]
  unfold step serve
  rw [passed]
  dsimp only
  rw [answered]

end Step

section Login

variable {r : Request} {e : Issued} {nextPath : String}

theorem statePayload_sound (sound : e.Sound py cfg) (state : e.purpose = .state nextPath)
    (young : r.now ≤ (seconds e.issuedAt + stateMaxAge) * microseconds)
    (returned : r.state = some (String.ofList e.value))
    (same : r.stateCookie = String.ofList e.value) :
    statePayload py cfg r = .ok (some (stampedPayload stateKey nextPath e.issuedAt)) := by
  have given : String.ofList e.value ≠ "" := by
    rw [sound.signed]
    simp [Python.signData,Python.sealed,String.ofList_eq_empty_iff]
  unfold statePayload
  rw [returned]
  dsimp only
  rw [if_pos ⟨given,same.symm⟩,String.toList_ofList,sound.signed,parseOauthState,
    unsignData_stamped e.purpose.named,checkAge_stamped sound.writable,if_neg (Nat.not_lt.mpr young),
    state]
  rfl

/-- A login that comes back with its own state, in time, ends with a session. -/
theorem oauthCallback_completes {provider : Provider} {failed invalid login : String}
    {groups : List String} (sound : e.Sound py cfg) (state : e.purpose = .state nextPath)
    (young : r.now ≤ (seconds e.issuedAt + stateMaxAge) * microseconds)
    (returned : r.state = some (String.ofList e.value))
    (same : r.stateCookie = String.ofList e.value) (code : r.code.getD "" ≠ "")
    (error : r.error.getD "" = "") (writable : Decimal.Writable (seconds r.now)) :
    oauthCallback py cfg provider failed invalid (.ok (login,groups)) r =
      .ok (.loggedIn (safeNextPath (some nextPath)) ⟨.session provider login groups,r.now,
        py.signData (stampedPayload sessionKey login r.now) cfg.authSecret.toList⟩) := by
  have payload : nextOf (stampedPayload stateKey nextPath e.issuedAt) =
      .ok (safeNextPath (some nextPath)) := by
    simp [nextOf,stampedPayload,stateKey,Json.get]
  unfold oauthCallback
  rw [statePayload_sound sound state young returned same]
  dsimp only
  rw [Option.map_some,Option.getD_some,payload]
  dsimp only
  rw [if_neg (not_not.mpr error),if_neg (by simp [code]),buildOauthSession,signStamped,
    if_pos writable]
  rfl

end Login

/-- Over a run in which no signature is forged, the OAuth cookie admits nothing but sessions of
the last seven days exactly when it is never a state of the last seven days. -/
theorem only_sessions_iff (py : Python) (cfg : Settings) (requests : List Request)
    (unforged : Runs.Along (step py cfg) (Unforged py cfg) [] requests) :
    Runs.Along (step py cfg) (OnlySessions py cfg) [] requests ↔
      Runs.Along (step py cfg) (NoLiveState cfg) [] requests := by
  refine Runs.Along.congr (P := fun handedOut => ∀ e ∈ handedOut, Issued.Sound py cfg e) ?_ ?_ ?_
    unforged
  · intro handedOut r sound _
    exact step_sound sound
  · intro handedOut r sound genuine
    exact onlySessions_iff sound genuine
  · intro e found
    cases found

section Sample

def sampleSigner : Python := ⟨sampleMac,fun _ => none⟩

def sampleSettings : Settings := ⟨"","s","id","secret",["owner"],[],"","","",[],[]⟩

def sampleTime : Nat := 1700000000000000

/-- A request without cookies, for a page that is not served before somebody logs in, or for
one of the login's own. -/
def sampleRequest (path : String) : Request :=
  { method := "GET", path := path, query := "", accept := "", authorization := "",
    authCookie := "", oauthCookie := "", stateCookie := "", next := none, code := none,
    state := none, error := none, now := sampleTime, githubUser := .ok ⟨"owner",[]⟩,
    oidcEndpoint := false, userinfo := .error .raised }

def sampleIssued (purpose : Purpose) : Issued :=
  ⟨purpose,sampleTime,
    sampleSigner.signData (stampedPayload purpose.key purpose.text sampleTime) "s".toList⟩

def sampleState : Issued := sampleIssued (.state "/")

def sampleSession : Issued := sampleIssued (.session .github "owner" [])

def returned : Request :=
  { sampleRequest "/auth/github/callback" with
    state := some (String.ofList sampleState.value)
    stateCookie := String.ofList sampleState.value
    code := some "code" }

/-- The overview with this value in the OAuth cookie. -/
def overview (e : Issued) : Request :=
  { sampleRequest "/" with oauthCookie := String.ofList e.value }

theorem sampleIssued_sound {purpose : Purpose}
    (allowed : ∀ provider login groups, purpose = .session provider login groups →
      sampleSettings.allows login groups provider = true) :
    (sampleIssued purpose).Sound sampleSigner sampleSettings :=
  ⟨show Decimal.Writable (seconds sampleTime) by decide,rfl,allowed⟩

theorem sampleState_sound : sampleState.Sound sampleSigner sampleSettings :=
  sampleIssued_sound fun _ _ _ session => by cases session

theorem sampleSession_sound : sampleSession.Sound sampleSigner sampleSettings :=
  sampleIssued_sound fun _ _ _ session => by cases session; decide

theorem overview_cookie (e : Issued) : (overview e).oauthCookie.toList = e.value :=
  String.toList_ofList

theorem overview_decided (e : Issued) : DecidedByCookie sampleSettings (overview e) :=
  ⟨by decide,show isStaticOrPublic "/" = false by decide,rfl,by decide⟩

theorem step_start (handedOut : List Issued) :
    step sampleSigner sampleSettings handedOut (sampleRequest "/auth/github") =
      handedOut ++ [sampleState] := by
  have built : buildOauthState sampleSigner (safeNextPath (sampleRequest "/auth/github").next)
      sampleSettings.authSecret.toList sampleTime = .ok sampleState.value := by
    rw [buildOauthState,signStamped,if_pos (by decide)]
    rfl
  have path : (sampleRequest "/auth/github").path = "/auth/github" := rfl
  have now : (sampleRequest "/auth/github").now = sampleTime := rfl
  have answered : route sampleSigner sampleSettings (sampleRequest "/auth/github") =
      .ok (.toProvider sampleState) := by
    rw [route,if_neg (by decide),path,if_pos rfl,githubOauthStart,if_neg (by decide),oauthStart,now,
      built]
    rfl
  exact step_public (by decide) answered

theorem step_returned :
    step sampleSigner sampleSettings [sampleState] returned = [sampleState,sampleSession] := by
  have method : returned.method = "GET" := rfl
  have path : returned.path = "/auth/github/callback" := rfl
  have state : returned.state = some (String.ofList sampleState.value) := by rw [returned]
  have cookie : returned.stateCookie = String.ofList sampleState.value := by rw [returned]
  have code : returned.code.getD "" ≠ "" := by
    rw [returned]
    decide
  have error : returned.error.getD "" = "" := by
    rw [returned]
    decide
  have now : returned.now = sampleTime := rfl
  have young : returned.now ≤ (seconds sampleState.issuedAt + stateMaxAge) * microseconds := by
    rw [now]
    decide
  have writable : Decimal.Writable (seconds returned.now) := by
    rw [now]
    decide
  have known : githubIdentity sampleSettings returned.githubUser = .ok ("owner",[]) := rfl
  have answered : route sampleSigner sampleSettings returned =
      .ok (.loggedIn "/" sampleSession) := by
    rw [route,method,path,if_neg (by decide),if_neg (by decide),if_pos rfl,githubOauthCallback,
      if_neg (by decide),known,
      oauthCallback_completes sampleState_sound rfl young state cookie code error writable]
    rfl
  exact step_public (by rw [path]; decide) answered

end Sample

/-- A login, and the page it leads to. -/
theorem login_run :
    Runs.Along (step sampleSigner sampleSettings) (OnlySessions sampleSigner sampleSettings) []
      [sampleRequest "/auth/github",returned,overview sampleSession] := by
  have outside : ∀ {r : Request} {handedOut : List Issued}, isStaticOrPublic r.path = true →
      NoLiveState sampleSettings handedOut r := by
    intro r handedOut open_ decided
    rw [decided.2.1] at open_
    cases open_
  have unforged : Runs.Along (step sampleSigner sampleSettings)
      (Unforged sampleSigner sampleSettings) []
      [sampleRequest "/auth/github",returned,overview sampleSession] := by
    refine ⟨unforged_blank rfl,unforged_blank rfl,?_,trivial⟩
    rw [step_start,List.nil_append,step_returned]
    exact unforged_of_mem (by simp) (overview_cookie sampleSession)
  refine (only_sessions_iff sampleSigner sampleSettings _ unforged).mpr ⟨?_,?_,?_,trivial⟩
  · exact outside (by decide)
  · exact outside (show isStaticOrPublic "/auth/github/callback" = true by decide)
  · rw [step_start,List.nil_append,step_returned]
    intro _ e found nextPath state presented
    simp only [List.mem_cons,List.not_mem_nil,or_false] at found
    rcases found with rfl | rfl
    · have keys := key_of_value sampleSession_sound sampleState_sound
        ((overview_cookie sampleSession).symm.trans presented)
      simp [sampleSession,sampleState,sampleIssued,Purpose.key,stateKey,sessionKey] at keys
    · cases state

/-- Whoever asks for a login gets a state, and the state admits to the overview. -/
theorem state_as_session : ¬ ∀ py : Python, Function.Injective2 py.mac →
    ∀ (cfg : Settings) (requests : List Request),
      Runs.Along (step py cfg) (Unforged py cfg) [] requests →
        Runs.Along (step py cfg) (OnlySessions py cfg) [] requests := by
  intro only
  have unforged : Runs.Along (step sampleSigner sampleSettings)
      (Unforged sampleSigner sampleSettings) []
      [sampleRequest "/auth/github",overview sampleState] := by
    refine ⟨unforged_blank rfl,?_,trivial⟩
    rw [step_start]
    exact unforged_of_mem (by simp) (overview_cookie sampleState)
  obtain ⟨-,entered,-⟩ := only sampleSigner sampleMac_injective sampleSettings _ unforged
  rw [step_start,List.nil_append] at entered
  have admitted := (admitted_iff sampleState_sound (overview_cookie sampleState)).mpr
    ⟨overview_decided sampleState,show sampleState.Lives sampleTime by decide⟩
  obtain ⟨e,found,-,⟨_,_,_,session,-⟩,-⟩ := entered admitted
  obtain rfl := List.mem_singleton.mp found
  cases session

end Ibctl.Dashboard
