import Ibctl.Dashboard.SignedData
import Ibctl.Dashboard.Subscription

/-! Who may use the dashboard: the auth middleware, the two OAuth logins behind it, and what
they hand out over a run of requests. -/
namespace Ibctl.Dashboard

structure Settings where
  token : String
  authSecret : String
  githubClientId : String
  githubClientSecret : String
  githubAllowedUsers : List String
  githubAllowedOrgs : List String
  oidcIssuer : String
  oidcClientId : String
  oidcClientSecret : String
  oidcAllowedUsers : List String
  oidcAllowedGroups : List String

inductive Provider where
  | github
  | oidc
deriving DecidableEq, Repr

/-- A login that the callback answers with its page, or one that fails the request. -/
inductive Failure where
  | caught (text : String)
  | raised
deriving DecidableEq, Repr

structure GithubUser where
  login : String
  orgs : List String

/-- What the OIDC provider says; a name that is missing is empty. -/
structure Userinfo where
  preferredUsername : String
  email : String
  sub : String
  groups : List String

/-- A request, with the time and with what the providers answer while it is served. -/
structure Request where
  method : String
  path : String
  query : String
  accept : String
  authorization : String
  authCookie : String
  oauthCookie : String
  stateCookie : String
  next : Option String
  code : Option String
  state : Option String
  error : Option String
  now : Nat
  githubUser : Except Failure GithubUser
  oidcEndpoint : Bool
  userinfo : Except Failure Userinfo

def startsWith (s start : String) : Bool := start.toList.isPrefixOf s.toList

/-- Some name is on the list, or there is no list. -/
def listed (allowed names : List String) : Bool :=
  allowed.isEmpty || names.any (fun name => name ∈ allowed)

namespace Settings

variable (cfg : Settings)

def githubOauthEnabled : Bool := cfg.githubClientId ≠ "" && cfg.githubClientSecret ≠ ""

def oidcEnabled : Bool :=
  cfg.oidcIssuer ≠ "" && cfg.oidcClientId ≠ "" && cfg.oidcClientSecret ≠ ""

def authEnabled : Bool := cfg.token ≠ "" || cfg.githubOauthEnabled || cfg.oidcEnabled

def githubUserAllowed (login : String) (orgs : List String) : Bool :=
  if ¬ listed cfg.githubAllowedUsers [login] then false
  else if ¬ listed cfg.githubAllowedOrgs orgs then false
  else true

/-- The allow lists of the two callbacks. Only GitHub's asks for a name. -/
def allows (login : String) (groups : List String) : Provider → Bool
  | .github => login ≠ "" && cfg.githubUserAllowed login groups
  | .oidc => listed cfg.oidcAllowedUsers [login] && listed cfg.oidcAllowedGroups groups

end Settings

section Middleware

/-- What lets a request pass. -/
inductive Means where
  | bearer
  | basic
  | cookie
  | oauthCookie
deriving DecidableEq, Repr

inductive Dispatched where
  | passed (means : Option Means)
  | toLogin (nextPath : String)
  | unauthorized
deriving DecidableEq, Repr

def publicPaths : List String :=
  ["/login","/logout","/auth/github","/auth/github/callback","/auth/oidc","/auth/oidc/callback",
    "/api/twofa/callback"]

def isStaticOrPublic (path : String) : Bool := startsWith path "/static" || path ∈ publicPaths

def Request.isApiRequest (r : Request) : Bool :=
  startsWith r.path "/api/" || Text.containsText r.accept "application/json"

def validBearer (authHeader token : String) : Except AuthError Bool :=
  compareDigest authHeader.toList ("Bearer ".toList ++ token.toList)

/-- `base64.b64decode`: here the two URL-safe digits are skipped like anything else that is not
in the alphabet. -/
def b64decode (encoded : List Char) : Option (List UInt8) :=
  Base64.decodeLoop (encoded.filter (fun c => c ≠ '-' ∧ c ≠ '_')) 0 0 0

def passwordOf (decoded : List Char) : List Char :=
  match Text.splitOnce ':' decoded with
  | some (_,password) => password
  | none => []

def validBasic (authHeader token : String) : Except AuthError Bool :=
  if ¬ startsWith authHeader "Basic " then .ok false
  else
    let encoded := Text.trimChars Text.isPythonSpace (authHeader.toList.drop 6)
    -- not a `binascii.Error`
    if ¬ isAscii encoded then .error .valueError
    else
      match (b64decode encoded).bind decode with
      | none => .ok false
      | some decoded => compareDigest (passwordOf decoded.toList) token.toList

def validCookie (cookie token : String) : Except AuthError Bool :=
  if cookie = "" then .ok false else compareDigest cookie.toList token.toList

variable (py : Python) (cfg : Settings)

def validOauthCookie (cookie signingSecret : String) (now : Nat) : Except AuthError Bool :=
  if signingSecret = "" then .ok false
  else (parseOauthSession py cookie.toList signingSecret.toList now).map Option.isSome

/-- The `or` of checks that may raise. -/
def firstValid : List (Means × Except AuthError Bool) → Except AuthError (Option Means)
  | [] => .ok none
  | (_,.error raised) :: _ => .error raised
  | (means,.ok true) :: _ => .ok (some means)
  | (_,.ok false) :: rest => firstValid rest

def tokenChecks (token : String) (r : Request) : List (Means × Except AuthError Bool) :=
  if token = "" then []
  else
    [(.bearer,validBearer r.authorization token),(.basic,validBasic r.authorization token),
      (.cookie,validCookie r.authCookie token)]

def isAuthorized (r : Request) : Except AuthError (Option Means) :=
  firstValid (tokenChecks cfg.token r ++
    [(.oauthCookie,validOauthCookie py r.oauthCookie cfg.authSecret r.now)])

def dispatch (r : Request) : Except AuthError Dispatched :=
  if ¬ cfg.authEnabled then .ok (.passed none)
  else if isStaticOrPublic r.path then .ok (.passed none)
  else
    match isAuthorized py cfg r with
    | .error raised => .error raised
    | .ok (some means) => .ok (.passed (some means))
    | .ok none =>
      if ¬ r.isApiRequest ∧ r.method = "GET" then
        .ok (.toLogin (if r.query = "" then r.path else r.path ++ "?" ++ r.query))
      else .ok .unauthorized

end Middleware

section Logins

def safeNextPath : Option String → String
  | none => "/"
  | some nextPath =>
    if nextPath = "" then "/"
    else if ¬ startsWith nextPath "/" then "/"
    else if startsWith nextPath "//" then "/"
    else if startsWith nextPath "/login" then "/"
    else nextPath

/-- What a signed value was made for. -/
inductive Purpose where
  | state (nextPath : String)
  | session (provider : Provider) (login : String) (groups : List String)
deriving DecidableEq, Repr

/-- A value that was handed out. -/
structure Issued where
  purpose : Purpose
  issuedAt : Nat
  value : List Char
deriving DecidableEq, Repr

inductive Answer where
  | toLogin
  | toProvider (state : Issued)
  | refused (nextPath error : String)
  | loggedIn (nextPath : String) (session : Issued)
  | other
deriving DecidableEq, Repr

def Answer.issued : Answer → List Issued
  | .toProvider state => [state]
  | .loggedIn _ session => [session]
  | _ => []

variable (py : Python) (cfg : Settings)

/-- A login starts with a state, for whoever asks. -/
def oauthStart (r : Request) : Except AuthError Answer :=
  (buildOauthState py (safeNextPath r.next) cfg.authSecret.toList r.now).map fun value =>
    .toProvider ⟨.state (safeNextPath r.next),r.now,value⟩

def githubOauthStart (r : Request) : Except AuthError Answer :=
  if ¬ cfg.githubOauthEnabled then .ok .toLogin else oauthStart py cfg r

def oidcStart (r : Request) : Except AuthError Answer :=
  if ¬ cfg.oidcEnabled then .ok .toLogin
  else if ¬ r.oidcEndpoint then .error .provider
  else oauthStart py cfg r

/-- `_safe_next_path` of the payload's `next`: what is not a text passes only where Python takes
it for false. -/
def nextOf (payload : Json) : Except AuthError String :=
  match payload.get "next" with
  | none => .error .keyError
  | some (.string nextPath) => .ok (safeNextPath (some nextPath))
  | some .null | some (.bool false) | some (.array []) | some (.object []) => .ok "/"
  | some (.number text) =>
    if Decimal.readInt text.toList = some 0 then .ok "/" else .error .attributeError
  | some _ => .error .attributeError

/-- The state of a callback counts when it is the one in the cookie. -/
def statePayload (r : Request) : Except AuthError (Option Json) :=
  match r.state with
  | none => .ok none
  | some state =>
    if state ≠ "" ∧ state = r.stateCookie then
      parseOauthState py state.toList cfg.authSecret.toList r.now
    else .ok none

/-- A callback, with what its provider is called and who logs in there. -/
def oauthCallback (provider : Provider) (failed invalid : String)
    (identity : Except Failure (String × List String)) (r : Request) : Except AuthError Answer :=
  match statePayload py cfg r with
  | .error raised => .error raised
  | .ok payload =>
    match (payload.map nextOf).getD (.ok "/") with
    | .error raised => .error raised
    | .ok nextPath =>
      if r.error.getD "" ≠ "" then .ok (.refused nextPath (failed ++ r.error.getD ""))
      else if payload.isNone ∨ r.code.getD "" = "" then .ok (.refused "/" invalid)
      else
        match identity with
        | .error (.caught text) => .ok (.refused nextPath text)
        | .error .raised => .error .provider
        | .ok (login,groups) =>
          (buildOauthSession py login cfg.authSecret.toList r.now).map fun value =>
            .loggedIn nextPath ⟨.session provider login groups,r.now,value⟩

def githubIdentity (user : Except Failure GithubUser) : Except Failure (String × List String) :=
  match user with
  | .error failure => .error failure
  | .ok user =>
    let orgs := if cfg.githubAllowedOrgs = [] then [] else user.orgs
    if user.login = "" ∨ ¬ cfg.githubUserAllowed user.login orgs then
      .error (.caught "GitHub account is not authorized for this dashboard")
    else .ok (user.login,orgs)

def githubOauthCallback (r : Request) : Except AuthError Answer :=
  if ¬ cfg.githubOauthEnabled then .ok .toLogin
  else
    oauthCallback py cfg .github "GitHub login failed: " "Invalid GitHub OAuth callback"
      (githubIdentity cfg r.githubUser) r

def Userinfo.username (info : Userinfo) : String :=
  if info.preferredUsername ≠ "" then info.preferredUsername
  else if info.email ≠ "" then info.email
  else info.sub

def oidcIdentity (userinfo : Except Failure Userinfo) : Except Failure (String × List String) :=
  match userinfo with
  | .error failure => .error failure
  | .ok info =>
    if ¬ listed cfg.oidcAllowedUsers [info.username] then
      .error (.caught "User is not authorized for this dashboard")
    else if ¬ listed cfg.oidcAllowedGroups info.groups then
      .error (.caught "User's groups are not authorized for this dashboard")
    else .ok (info.username,info.groups)

def oidcCallback (r : Request) : Except AuthError Answer :=
  if ¬ cfg.oidcEnabled then .ok .toLogin
  else
    oauthCallback py cfg .oidc "OIDC login failed: " "Invalid OIDC callback"
      (oidcIdentity cfg r.userinfo) r

/-- The routes that hand something out. -/
def route (r : Request) : Except AuthError Answer :=
  if r.method ≠ "GET" then .ok .other
  else if r.path = "/auth/github" then githubOauthStart py cfg r
  else if r.path = "/auth/github/callback" then githubOauthCallback py cfg r
  else if r.path = "/auth/oidc" then oidcStart py cfg r
  else if r.path = "/auth/oidc/callback" then oidcCallback py cfg r
  else .ok .other

def serve (r : Request) : Except AuthError Answer :=
  match dispatch py cfg r with
  | .error raised => .error raised
  | .ok (.passed _) => route py cfg r
  | .ok _ => .ok .other

/-- What has been handed out so far, and what a request adds to it. -/
def step (handedOut : List Issued) (r : Request) : List Issued :=
  match serve py cfg r with
  | .error _ => handedOut
  | .ok answer => handedOut ++ answer.issued

end Logins

end Ibctl.Dashboard
