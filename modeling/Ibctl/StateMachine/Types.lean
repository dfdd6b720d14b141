import Ibctl.Lib.Json
import Ibctl.Recovery.Coordinator

/-! The states of the lifecycle, the commands and signals that reach it, and the settings
its steps look at. Fields that are only logged or shown are left out. -/
namespace Ibctl.Machine

inductive State where
  | waitingForLaunch
  | init
  | launching
  | waitingForAgent
  | waitingForLogin
  | authenticating
  | waitingFor2fa
  | handlingSessionConflict
  | dismissingPopups
  | waitingForApiReady
  | configuringApi
  | connected
  | reconnectingSession
  | restarting
  | waitingForIB
  | waitingForHitl2fa
  | shutdown
  | error (message : String)
deriving DecidableEq, Repr

namespace State

def display : State → String
  | waitingForLaunch => "WaitingForLaunch"
  | init => "Init"
  | launching => "Launching"
  | waitingForAgent => "WaitingForAgent"
  | waitingForLogin => "WaitingForLogin"
  | authenticating => "Authenticating"
  | waitingFor2fa => "WaitingFor2fa"
  | handlingSessionConflict => "HandlingSessionConflict"
  | dismissingPopups => "DismissingPopups"
  | waitingForApiReady => "WaitingForApiReady"
  | configuringApi => "ConfiguringApi"
  | connected => "Connected"
  | reconnectingSession => "ReconnectingSession"
  | restarting => "Restarting"
  | waitingForIB => "WaitingForIB"
  | waitingForHitl2fa => "WaitingForHitl2fa"
  | shutdown => "Shutdown"
  | error message => "Error(" ++ message ++ ")"

def named : List State :=
  [waitingForLaunch,init,launching,waitingForAgent,waitingForLogin,authenticating,waitingFor2fa,
    handlingSessionConflict,dismissingPopups,waitingForApiReady,configuringApi,connected,
    reconnectingSession,restarting,waitingForIB,waitingForHitl2fa,shutdown]

def fromName (name : String) : Option State := named.find? (fun state => state.display = name)

def isCredentialGathering (state : State) : Bool :=
  state ∈ [waitingForLogin,authenticating,waitingFor2fa,waitingForHitl2fa,dismissingPopups,
    waitingForApiReady,configuringApi,restarting,launching]

/-- The states in which `tick_recovery` runs the coordinator. -/
def activeRecovery (state : State) : Bool :=
  state ∈ [init,launching,waitingForAgent,waitingForLogin,authenticating,waitingFor2fa,
    handlingSessionConflict,dismissingPopups,waitingForApiReady,configuringApi,connected,
    reconnectingSession,restarting]

end State

inductive AgentError where
  | connectionFailed (path source : String)
  | requestFailed (reason : String)
  | agent (reason : String)
  | parseError (reason : String)
  | timeout
deriving DecidableEq, Repr

inductive HandlerError where
  | agentError (error : AgentError)
  | failed (handler reason : String)
deriving DecidableEq, Repr

inductive HandlerResult where
  | handled
  | notApplicable
  | error (message : String)
deriving DecidableEq, Repr

inductive StateMachineError where
  | supervisor (reason : String)
  | agent (error : AgentError)
  | handler (error : HandlerError)
deriving DecidableEq, Repr

inductive Command where
  | stop
  | start
  | restart
  | reconnectData
  | reconnectAccount
  | enableApi
  | exit
  | restartSocat
  | pause
  | pauseAt (name : String)
  | resume
  | setState (name : String)
  | ibStatus (status reason : String)
  | setRestartTime (time : String)
  | saveSettings
  | hitlResume
  | resumeReconnect (token : String)
deriving DecidableEq, Repr

inductive Signal where
  | terminate
  | interrupt
  | recoveryGaveUp (mode : String) (phaseEnteredAt : Zoned)
deriving DecidableEq, Repr

inductive ColdRestartSkipReason where
  | freshAuthToday (at_ : Zoned)
  | dormantSite
deriving DecidableEq, Repr

inductive ColdRestartSignal where
  | fire
  | skipped (reason : ColdRestartSkipReason)
deriving DecidableEq, Repr

structure ColdRestartSkipRecord where
  recordedAt : Zoned
  reason : ColdRestartSkipReason
deriving DecidableEq, Repr

/-- An entry of the history; the timestamp is in seconds since the epoch. -/
structure Transition where
  timestamp : Int
  fromState : String
  toState : String
deriving DecidableEq, Repr

structure IbSystemStatus where
  available : Bool
  status : String
  reason : String
  lastUpdated : Option Instant
deriving DecidableEq, Repr

structure PauseControl where
  paused : Bool
  ceilingState : Option State
deriving DecidableEq, Repr

structure Stats where
  precautionLabelsNotFound : Nat
  readOnlyApiLabelNotFound : Nat
deriving DecidableEq, Repr

inductive TradingMode where
  | live
  | paper
  | both
deriving DecidableEq, Repr

inductive TwoFaTimeoutAction where
  | exit
  | restart
deriving DecidableEq, Repr

inductive TwoFaOnTimeout where
  | restartForever
  | hitlImmediately
  | restartThenHitl
deriving DecidableEq, Repr

inductive HitlStrategy where
  | disabled
  | periodic
  | ntfyCallback
  | both
deriving DecidableEq, Repr

inductive CounterResetScope where
  | anyReach
  | stable
deriving DecidableEq, Repr

inductive ReloginFailureAction where
  | restart
  | reauth
deriving DecidableEq, Repr

structure TwoFaBackoff where
  onTimeout : TwoFaOnTimeout
  maxImmediateAttempts : Nat
  strategy : HitlStrategy
  intervalsMinutes : List Nat
  counterReset : CounterResetScope
  stableSecs : Nat
  coldRestartPreemptsHitl : Bool
deriving DecidableEq, Repr

structure TwoFaConfig where
  device : String
  hasSecret : Bool
  timeoutSeconds : Nat
  reloginAfterTimeout : Bool
  timeoutAction : TwoFaTimeoutAction
  backoff : TwoFaBackoff
deriving DecidableEq, Repr

structure TimingConfig where
  restartDelaySecs : Nat
  loginDialogTimeoutSecs : Nat
  reloginMaxAttempts : Nat
  reloginFailureAction : ReloginFailureAction
  apiPortProbeIntervalSecs : Nat
  minSuccessDwellSecs : Nat
deriving DecidableEq, Repr

/-- The configuration as far as the steps look at it, with the environment variables they
read at run time. -/
structure Config where
  autoLaunch : Bool
  twsPath : String
  tradingMode : TradingMode
  kickActiveSession : Bool
  twofa : TwoFaConfig
  timing : TimingConfig
  env : String → Option String

/-- An environment variable that parses as an unsigned integer, or the default. -/
def Config.envUnsigned (config : Config) (bits : Nat) (name : String) (default : Nat) : Nat :=
  ((config.env name).bind (fun value => Text.parseUnsigned bits value.toList)).getD default

end Ibctl.Machine
