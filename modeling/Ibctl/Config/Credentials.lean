import Mathlib.Logic.Function.Basic
import Ibctl.Lib.Text

/-! Credentials in dual mode. They are resolved three times: by the preflight check in
Python, by the entrypoint's shell defaults for the second instance, and by each instance's
own `Config::load`, where a secret file has precedence over an inherited variable. -/
namespace Ibctl.Config

abbrev Env := String → Option String

inductive SecretFile where
  | text (content : String)
  | osError (error : String)
  | notUtf8
deriving DecidableEq, Repr

inductive TradingMode where
  | live
  | paper
  | both
deriving DecidableEq, Repr

def TradingMode.text : TradingMode → String
  | .live => "live"
  | .paper => "paper"
  | .both => "both"

/-- The `[auth]` table of the TOML file, with the defaults for what it leaves out. -/
structure AuthToml where
  twsUserid : String := ""
  tradingMode : TradingMode := .paper
  paperTwsUserid : String := ""
deriving DecidableEq, Repr

structure Deployment where
  env : Env
  file : String → SecretFile
  toml : AuthToml

structure PaperAuthConfig where
  username : String
  password : String
deriving DecidableEq, Repr

structure AuthConfig where
  username : String
  password : String
  tradingMode : TradingMode
  paper : PaperAuthConfig
deriving DecidableEq, Repr

inductive ConfigError where
  | missing (what : String)
deriving DecidableEq, Repr

/-- The empty path names no file. -/
def Deployment.readFile (d : Deployment) (path : String) : SecretFile :=
  if path = "" then .osError "No such file or directory (os error 2)" else d.file path

def secret (d : Deployment) (var : String) : Option String :=
  match d.env (var ++ "_FILE") with
  | some path =>
    match d.readFile path with
    | .text contents => some (Text.trim contents)
    | _ => none
  | none => none

def direct (d : Deployment) (var : String) : Option String := (d.env var).filter (· ≠ "")

def envOrFile (d : Deployment) (var : String) : Option String :=
  match secret d var with
  | some contents => some contents
  | none => direct d var

def AuthToml.toAuth (toml : AuthToml) : AuthConfig where
  username := toml.twsUserid
  password := ""
  tradingMode := toml.tradingMode
  paper := ⟨toml.paperTwsUserid,""⟩

def tradingModeOf (current : TradingMode) (value : Option String) : TradingMode :=
  match value.map Text.toLowercase with
  | some "live" => .live
  | some "paper" => .paper
  | some "both" => .both
  | _ => current

def applyEnvOverrides (d : Deployment) (auth : AuthConfig) : AuthConfig where
  username := (envOrFile d "TWS_USERID").getD auth.username
  password := (envOrFile d "TWS_PASSWORD").getD auth.password
  tradingMode := tradingModeOf auth.tradingMode (envOrFile d "TRADING_MODE")
  paper := ⟨(envOrFile d "TWS_USERID_PAPER").getD auth.paper.username,
    (envOrFile d "TWS_PASSWORD_PAPER").getD auth.paper.password⟩

def validate (auth : AuthConfig) : Except ConfigError Unit :=
  if auth.username = "" then
    .error (.missing "tws_userid (set TWS_USERID env var or tws_userid in TOML)")
  else if auth.password = "" then
    .error (.missing "TWS_PASSWORD or TWS_PASSWORD_FILE env var")
  else if auth.tradingMode = .both ∧ auth.paper.username = "" then
    .error (.missing ("paper tws_userid (set TWS_USERID_PAPER env var) — " ++
      "required for trading_mode=both"))
  else if auth.tradingMode = .both ∧ auth.paper.password = "" then
    .error (.missing ("TWS_PASSWORD_PAPER or TWS_PASSWORD_PAPER_FILE env var — " ++
      "required for trading_mode=both"))
  else .ok ()

def load (d : Deployment) : Except ConfigError AuthConfig :=
  let auth := applyEnvOverrides d d.toml.toAuth
  match validate auth with
  | .error e => .error e
  | .ok () => .ok auth

/-- What `LoginHandler` types into the two fields of the login window. -/
structure Credentials where
  username : String
  password : String
deriving DecidableEq, Repr

/-- The registry builds the handler from `auth`, whatever the mode. -/
def AuthConfig.loginHandler (auth : AuthConfig) : Credentials := ⟨auth.username,auth.password⟩

/-- `"${A:-$B}"` under `set -u`: none is an unbound variable, which ends the script. -/
def shellDefault (env : Env) (a b : String) : Option String :=
  match env a with
  | some v => if v ≠ "" then some v else env b
  | none => env b

def settingsPath (env : Env) : String :=
  match env "TWS_SETTINGS_PATH" with
  | some v => if v ≠ "" then v else "/home/ibgateway/Jts"
  | none => "/home/ibgateway/Jts"

def liveEnv (env : Env) : Env := fun var =>
  if var = "TRADING_MODE" then some "live"
  else if var = "TWS_SETTINGS_PATH" then some (settingsPath env ++ "_live")
  else if var = "IBCTL_AGENT_SOCKET" then some "/run/ibctl/agent-live.sock"
  else env var

/-- The script starts the second instance with its own user and password in the variables
of the first, and reads the command port from the text of the TOML file. -/
def paperEnv (env : Env) (paperUser paperPass paperCmdPort : String) : Env := fun var =>
  if var = "TRADING_MODE" then some "paper"
  else if var = "TWS_USERID" then some paperUser
  else if var = "TWS_PASSWORD" then some paperPass
  else if var = "TWS_SETTINGS_PATH" then some (settingsPath env ++ "_paper")
  else if var = "IBCTL_AGENT_SOCKET" then some "/run/ibctl/agent-paper.sock"
  else if var = "IBCTL_COMMAND_PORT" then some paperCmdPort
  else env var

def liveInstance (d : Deployment) : Deployment := { d with env := liveEnv d.env }

def paperInstance (d : Deployment) (paperCmdPort : String) : Option Deployment :=
  match shellDefault d.env "TWS_USERID_PAPER" "TWS_USERID",
      shellDefault d.env "TWS_PASSWORD_PAPER" "TWS_PASSWORD" with
  | some paperUser,some paperPass =>
    some { d with env := paperEnv d.env paperUser paperPass paperCmdPort }
  | _,_ => none

def types (d : Deployment) : Option Credentials :=
  match load d with
  | .ok auth => some auth.loginHandler
  | .error _ => none

def paperTypes (d : Deployment) (paperCmdPort : String) : Option Credentials :=
  (paperInstance d paperCmdPort).bind types

def liveTypes (d : Deployment) : Option Credentials := types (liveInstance d)

namespace Preflight

/-- Python's `env_or_file`. A file that is not UTF-8 raises an error nobody catches. -/
def envOrFile (d : Deployment) (var : String) : Option (Option String) :=
  match d.env (var ++ "_FILE") with
  | some path =>
    if path = "" then some (d.env var)
    else
      match d.readFile path with
      | .text contents => some (some (Text.trimWith Text.isPythonSpace contents))
      | .osError _ => some (d.env var)
      | .notUtf8 => none
  | none => some (d.env var)

structure PreflightError where
  field : String
  message : String
  envVar : String
deriving DecidableEq, Repr

/-- The truth of a value in Python: unset and empty are both false. -/
def truthy (value : Option String) : Bool := value.getD "" ≠ ""

/-- An override that is unset or empty leaves the TOML value. -/
def override (value : Option String) (current : String) : String :=
  if truthy value then value.getD "" else current

def checkCredentials (d : Deployment) (mode : String)
    (user password paperUser paperPassword : Option String) : List PreflightError :=
  (if override user d.toml.twsUserid = "" ∧ ¬ truthy user then
    [⟨"auth.tws_userid","required — set TWS_USERID or tws_userid in TOML","TWS_USERID"⟩] else []) ++
  (if ¬ truthy password then
    [⟨"<env>","required — set TWS_PASSWORD or TWS_PASSWORD_FILE","TWS_PASSWORD"⟩] else []) ++
  (if mode = "both" then
    (if override paperUser d.toml.paperTwsUserid = "" ∧ ¬ truthy paperUser then
      [⟨"auth.paper.tws_userid","required for trading_mode=both — set TWS_USERID_PAPER",
        "TWS_USERID_PAPER"⟩] else []) ++
    (if ¬ truthy paperPassword then
      [⟨"<env>","required for trading_mode=both — set TWS_PASSWORD_PAPER or " ++
        "TWS_PASSWORD_PAPER_FILE","TWS_PASSWORD_PAPER"⟩] else [])
  else [])

/-- The part of the preflight that looks at the mode and the credentials lets the script go
on: no read raises, the mode is one of the three words and no check fails. -/
def accepts (d : Deployment) : Bool :=
  match envOrFile d "TRADING_MODE",envOrFile d "TWS_USERID",envOrFile d "TWS_PASSWORD",
      envOrFile d "TWS_USERID_PAPER",envOrFile d "TWS_PASSWORD_PAPER" with
  | some mode,some user,some password,some paperUser,some paperPassword =>
    let mode := override mode (TradingMode.text d.toml.tradingMode)
    mode ∈ ["live","paper","both"] ∧ checkCredentials d mode user password paperUser paperPassword = []
  | _,_,_,_,_ => false

end Preflight

/-- What `env_or_file` and the TOML resolve for the live account. -/
def liveOwn (d : Deployment) : Credentials :=
  ⟨(envOrFile d "TWS_USERID").getD d.toml.twsUserid,(envOrFile d "TWS_PASSWORD").getD ""⟩

def paperOwn (d : Deployment) : Credentials :=
  ⟨(envOrFile d "TWS_USERID_PAPER").getD d.toml.paperTwsUserid,
    (envOrFile d "TWS_PASSWORD_PAPER").getD ""⟩

/-- Each instance that comes up types the credentials of its own account. -/
def TypesOwn (d : Deployment) (paperCmdPort : String) : Prop :=
  (∀ typed, paperTypes d paperCmdPort = some typed → typed = paperOwn d) ∧
    ∀ typed, liveTypes d = some typed → typed = liveOwn d

/-- A paper credential gets past the live one: no live secret file with another value is
readable, and the paper value is given directly, with no secret file of its own that says
otherwise; where it is not given directly, the live value that stands in for it is the same. -/
def Unshadowed (d : Deployment) (live paper fallback own : String) : Prop :=
  match secret d live,direct d paper with
  | some shadow,_ => shadow = own
  | none,some given => ∀ text, secret d paper = some text → text = given
  | none,none => (direct d live).getD fallback = own

def Emptied (d : Deployment) (live paper fallback : String) : Prop :=
  secret d live = some "" ∨
    (secret d live = none ∧ direct d paper = none ∧ (direct d live).getD fallback = "")

/-- The paper instance does not come up: the script stops at an unbound variable, or the
configuration refuses an empty credential. -/
def PaperIdle (d : Deployment) : Prop :=
  shellDefault d.env "TWS_USERID_PAPER" "TWS_USERID" = none ∨
  shellDefault d.env "TWS_PASSWORD_PAPER" "TWS_PASSWORD" = none ∨
  Emptied d "TWS_USERID" "TWS_USERID_PAPER" d.toml.twsUserid ∨
  Emptied d "TWS_PASSWORD" "TWS_PASSWORD_PAPER" "" ∨
  (tradingModeOf d.toml.tradingMode (some ((secret d "TRADING_MODE").getD "paper")) = .both ∧
    ((paperOwn d).username = "" ∨ (paperOwn d).password = ""))

def Separated (d : Deployment) : Prop :=
  PaperIdle d ∨
    (Unshadowed d "TWS_USERID" "TWS_USERID_PAPER" d.toml.twsUserid (paperOwn d).username ∧
      Unshadowed d "TWS_PASSWORD" "TWS_PASSWORD_PAPER" "" (paperOwn d).password)

theorem validate_ok_iff (auth : AuthConfig) :
    validate auth = .ok () ↔ auth.username ≠ "" ∧ auth.password ≠ "" ∧
      (auth.tradingMode = .both → auth.paper.username ≠ "" ∧ auth.paper.password ≠ "") := by
  unfold validate
  by_cases user : auth.username = "" <;> by_cases password : auth.password = "" <;>
    by_cases mode : auth.tradingMode = .both <;>
    by_cases paperUser : auth.paper.username = "" <;>
    by_cases paperPassword : auth.paper.password = "" <;>
    simp [user,password,mode,paperUser,paperPassword]

theorem types_eq_some_iff (d : Deployment) (typed : Credentials) :
    types d = some typed ↔
      validate (applyEnvOverrides d d.toml.toAuth) = .ok () ∧
        typed = (applyEnvOverrides d d.toml.toAuth).loginHandler := by
  cases valid : validate (applyEnvOverrides d d.toml.toAuth) with
  | error e => simp [types,load,valid]
  | ok u => simp [types,load,valid,eq_comm]

/-- What reaches the paper instance for a credential: the secret file of the live account
first, then the paper variable, then whatever stands in for it. -/
def reaching (d : Deployment) (live paper fallback : String) : String :=
  match secret d live,direct d paper with
  | some shadow,_ => shadow
  | none,some given => given
  | none,none => (direct d live).getD fallback

theorem unshadowed_iff (d : Deployment) (live paper fallback otherwise : String) :
    Unshadowed d live paper fallback ((envOrFile d paper).getD otherwise) ↔
      reaching d live paper fallback = (envOrFile d paper).getD otherwise := by
  unfold Unshadowed reaching envOrFile
  cases secret d live with
  | some shadow => rfl
  | none =>
    cases direct d paper with
    | none => rfl
    | some given => cases secret d paper <;> simp [eq_comm]

theorem emptied_iff (d : Deployment) (live paper fallback : String) :
    Emptied d live paper fallback ↔ reaching d live paper fallback = "" := by
  unfold Emptied reaching
  cases secret d live with
  | some shadow => simp
  | none =>
    cases given : direct d paper with
    | none => simp
    | some value =>
      have nonempty : value ≠ "" := by
        have := (Option.filter_eq_some_iff.mp given).2
        simpa using this
      simp [nonempty]

private theorem shellDefault_filter {env : Env} {a b value : String}
    (bound : shellDefault env a b = some value) :
    (some value).filter (· ≠ "") =
      match (env a).filter (· ≠ "") with
      | some v => some v
      | none => (env b).filter (· ≠ "") := by
  unfold shellDefault at bound
  cases given : env a with
  | none =>
    rw [given] at bound
    simp only at bound
    simp [bound]
  | some v =>
    rw [given] at bound
    by_cases empty : v = ""
    · simp only [empty,ne_eq,not_true_eq_false,if_false] at bound
      simp [empty,bound,Option.filter]
    · simp only [empty,ne_eq,not_false_eq_true,if_true,Option.some.injEq] at bound
      simp [← bound,empty,Option.filter]

section PaperInstance

variable (d : Deployment) (user pass port : String)

private theorem secret_paperEnv {var : String}
    (kept : (var ++ "_FILE") ∉ ["TRADING_MODE","TWS_USERID","TWS_PASSWORD","TWS_SETTINGS_PATH",
      "IBCTL_AGENT_SOCKET","IBCTL_COMMAND_PORT"]) :
    secret { d with env := paperEnv d.env user pass port } var = secret d var := by
  simp only [List.mem_cons,List.not_mem_nil,or_false,not_or] at kept
  obtain ⟨h1,h2,h3,h4,h5,h6⟩ := kept
  simp only [secret,paperEnv,h1,h2,h3,h4,h5,h6,if_false]
  rfl

private theorem envOrFile_paperEnv {var : String} (secrets : (var ++ "_FILE") ∉
      ["TRADING_MODE","TWS_USERID","TWS_PASSWORD","TWS_SETTINGS_PATH","IBCTL_AGENT_SOCKET",
        "IBCTL_COMMAND_PORT"])
    (kept : var ∉ ["TRADING_MODE","TWS_USERID","TWS_PASSWORD","TWS_SETTINGS_PATH",
      "IBCTL_AGENT_SOCKET","IBCTL_COMMAND_PORT"]) :
    envOrFile { d with env := paperEnv d.env user pass port } var = envOrFile d var := by
  have directs : direct { d with env := paperEnv d.env user pass port } var = direct d var := by
    simp only [List.mem_cons,List.not_mem_nil,or_false,not_or] at kept
    obtain ⟨h1,h2,h3,h4,h5,h6⟩ := kept
    simp only [direct,paperEnv,h1,h2,h3,h4,h5,h6,if_false]
  simp only [envOrFile,secret_paperEnv d user pass port secrets,directs]

private theorem envOrFile_reaching {live paper value fallback : String} (secrets : (live ++ "_FILE") ∉
      ["TRADING_MODE","TWS_USERID","TWS_PASSWORD","TWS_SETTINGS_PATH","IBCTL_AGENT_SOCKET",
        "IBCTL_COMMAND_PORT"])
    (handed : paperEnv d.env user pass port live = some value)
    (bound : shellDefault d.env paper live = some value) :
    (envOrFile { d with env := paperEnv d.env user pass port } live).getD fallback =
      reaching d live paper fallback := by
  have passed := shellDefault_filter bound
  simp only [envOrFile,secret_paperEnv d user pass port secrets,reaching,direct,handed,passed]
  cases secret d live with
  | some shadow => rfl
  | none => cases (d.env paper).filter (· ≠ "") <;> rfl

end PaperInstance

theorem paperInstance_eq_some {d e : Deployment} {port : String}
    (started : paperInstance d port = some e) : ∃ user pass,
      shellDefault d.env "TWS_USERID_PAPER" "TWS_USERID" = some user ∧
      shellDefault d.env "TWS_PASSWORD_PAPER" "TWS_PASSWORD" = some pass ∧
      e = { d with env := paperEnv d.env user pass port } := by
  unfold paperInstance at started
  split at started
  next user pass first second => exact ⟨user,pass,first,second,(Option.some.inj started).symm⟩
  next => cases started

theorem paperInstance_auth {d e : Deployment} {port : String}
    (started : paperInstance d port = some e) : applyEnvOverrides e e.toml.toAuth =
      { username := reaching d "TWS_USERID" "TWS_USERID_PAPER" d.toml.twsUserid
        password := reaching d "TWS_PASSWORD" "TWS_PASSWORD_PAPER" ""
        tradingMode :=
          tradingModeOf d.toml.tradingMode (some ((secret d "TRADING_MODE").getD "paper"))
        paper := ⟨(paperOwn d).username,(paperOwn d).password⟩ } := by
  obtain ⟨user,pass,first,second,rfl⟩ := paperInstance_eq_some started
  have mode : envOrFile { d with env := paperEnv d.env user pass port } "TRADING_MODE" =
      some ((secret d "TRADING_MODE").getD "paper") := by
    simp only [envOrFile,secret_paperEnv d user pass port
      (show ("TRADING_MODE" ++ "_FILE") ∉ _ by decide)]
    cases secret d "TRADING_MODE" <;> rfl
  simp only [applyEnvOverrides,AuthToml.toAuth,paperOwn,mode]
  rw [envOrFile_reaching d user pass port (by decide) rfl first,
    envOrFile_reaching d user pass port (by decide) rfl second,
    envOrFile_paperEnv d user pass port (by decide) (by decide),
    envOrFile_paperEnv d user pass port (by decide) (by decide)]

private theorem liveInstance_types {d : Deployment} {typed : Credentials}
    (live : liveTypes d = some typed) : typed = liveOwn d := by
  rw [((types_eq_some_iff _ _).mp live).2]
  rfl

theorem paperTypes_eq_some_iff (d : Deployment) (port : String) (typed : Credentials) :
    paperTypes d port = some typed ↔ ¬ PaperIdle d ∧
      typed = ⟨reaching d "TWS_USERID" "TWS_USERID_PAPER" d.toml.twsUserid,
        reaching d "TWS_PASSWORD" "TWS_PASSWORD_PAPER" ""⟩ := by
  unfold paperTypes PaperIdle
  rw [emptied_iff,emptied_iff]
  cases first : shellDefault d.env "TWS_USERID_PAPER" "TWS_USERID" with
  | none => simp [paperInstance,first]
  | some user =>
    cases second : shellDefault d.env "TWS_PASSWORD_PAPER" "TWS_PASSWORD" with
    | none => simp [paperInstance,first,second]
    | some pass =>
      have started : paperInstance d port = some { d with env := paperEnv d.env user pass port } := by
        simp [paperInstance,first,second]
      rw [started,Option.bind_some,types_eq_some_iff,paperInstance_auth started,validate_ok_iff]
      simp only [AuthConfig.loginHandler,reduceCtorEq,false_or]
      refine and_congr_left fun _ => ?_
      simp only [not_or,not_and,ne_eq]

/-- The inputs of the paper account are the same: its variables, its secret files and its
user in the TOML. Everything that belongs to the live account may differ. -/
structure SamePaperInputs (d e : Deployment) : Prop where
  vars : ∀ var ∈ ["TWS_USERID_PAPER","TWS_USERID_PAPER_FILE","TWS_PASSWORD_PAPER",
    "TWS_PASSWORD_PAPER_FILE"],d.env var = e.env var
  files : ∀ path, d.env "TWS_USERID_PAPER_FILE" = some path ∨
    d.env "TWS_PASSWORD_PAPER_FILE" = some path → d.file path = e.file path
  toml : d.toml.paperTwsUserid = e.toml.paperTwsUserid

private theorem envOrFile_congr {d e : Deployment} {var : String} (value : d.env var = e.env var)
    (named : d.env (var ++ "_FILE") = e.env (var ++ "_FILE"))
    (files : ∀ path, d.env (var ++ "_FILE") = some path → d.file path = e.file path) :
    envOrFile d var = envOrFile e var := by
  unfold envOrFile secret direct Deployment.readFile
  rw [value,← named]
  cases set : d.env (var ++ "_FILE") with
  | none => rfl
  | some path => simp only [files path set]

theorem paperOwn_congr {d e : Deployment} (same : SamePaperInputs d e) :
    paperOwn d = paperOwn e := by
  have user : envOrFile d "TWS_USERID_PAPER" = envOrFile e "TWS_USERID_PAPER" :=
    envOrFile_congr (same.vars _ (by simp)) (same.vars _ (by simp))
      (fun path named => same.files path (.inl named))
  have password : envOrFile d "TWS_PASSWORD_PAPER" = envOrFile e "TWS_PASSWORD_PAPER" :=
    envOrFile_congr (same.vars _ (by simp)) (same.vars _ (by simp))
      (fun path named => same.files path (.inr named))
  simp only [paperOwn,user,password,same.toml]

private theorem typesOwn_iff (d : Deployment) (port : String) :
    TypesOwn d port ↔ Separated d := by
  unfold TypesOwn Separated paperOwn
  rw [unshadowed_iff,unshadowed_iff]
  constructor
  · intro ⟨own,_⟩
    by_cases idle : PaperIdle d
    · exact .inl idle
    · have typed := own _ ((paperTypes_eq_some_iff d port _).mpr ⟨idle,rfl⟩)
      exact .inr (Credentials.mk.inj typed)
  · intro separated
    refine ⟨fun typed started => ?_,fun typed live => liveInstance_types live⟩
    obtain ⟨up,rfl⟩ := (paperTypes_eq_some_iff d port typed).mp started
    rcases separated with idle | ⟨user,pass⟩
    · exact absurd idle up
    · rw [user,pass]

/-- Each instance types its own credentials exactly when the paper ones are not shadowed by
the live ones on their way, or the paper instance does not come up; and between two such
deployments a change of the live account does not change what the paper instance types. -/
theorem types_own_iff_separated (port : String) :
    (∀ d, TypesOwn d port ↔ Separated d) ∧
    ∀ d e, Separated d → Separated e → SamePaperInputs d e →
      ∀ typed other, paperTypes d port = some typed → paperTypes e port = some other →
        typed = other := by
  refine ⟨fun d => typesOwn_iff d port,fun d e first second same typed other up up' => ?_⟩
  rw [((typesOwn_iff d port).mpr first).1 typed up,
    ((typesOwn_iff e port).mpr second).1 other up',paperOwn_congr same]

def secretFiles : Deployment where
  env := fun
    | "TRADING_MODE" => some "both"
    | "TWS_USERID_FILE" => some "/run/secrets/tws_userid"
    | "TWS_PASSWORD_FILE" => some "/run/secrets/tws_password"
    | "TWS_USERID_PAPER" => some "paperuser"
    | "TWS_PASSWORD_PAPER" => some "paperpass"
    | _ => none
  file := fun
    | "/run/secrets/tws_userid" => .text "liveuser\n"
    | "/run/secrets/tws_password" => .text "livepass\n"
    | _ => .osError "No such file or directory (os error 2)"
  toml := {}

/-- The preflight accepts it, and the paper instance types the live credentials. -/
theorem types_own_fails_secret_files :
    Preflight.accepts secretFiles = true ∧
    paperTypes secretFiles "7463" = some ⟨"liveuser","livepass"⟩ ∧
    paperOwn secretFiles = ⟨"paperuser","paperpass"⟩ ∧ ¬ TypesOwn secretFiles "7463" := by
  have typed : paperTypes secretFiles "7463" = some ⟨"liveuser","livepass"⟩ := by decide +kernel
  have own : paperOwn secretFiles = ⟨"paperuser","paperpass"⟩ := by decide +kernel
  refine ⟨by decide +kernel,typed,own,fun faithful => ?_⟩
  have same := faithful.1 _ typed
  rw [own] at same
  exact absurd same (by decide)

theorem types_own_iff_separated_direct :
    TypesOwn { secretFiles with env := fun
      | "TRADING_MODE" => some "both"
      | "TWS_USERID" => some "liveuser"
      | "TWS_PASSWORD" => some "livepass"
      | "TWS_USERID_PAPER" => some "paperuser"
      | "TWS_PASSWORD_PAPER" => some "paperpass"
      | _ => none } "7463" :=
  ((types_own_iff_separated "7463").1 _).mpr
    (.inr ⟨fun _ missing => (by cases missing),fun _ missing => (by cases missing)⟩)

end Ibctl.Config
