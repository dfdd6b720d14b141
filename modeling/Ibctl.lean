import Ibctl.Lib.Runs
import Ibctl.Lib.Debounce
import Ibctl.Lib.Text
import Ibctl.Lib.Words
import Ibctl.Lib.Decimal
import Ibctl.Lib.Base64
import Ibctl.Lib.Files
import Ibctl.Lib.SipHash
import Ibctl.Lib.Task
import Ibctl.Lib.Calendar
import Ibctl.Lib.Json
import Ibctl.Lib.JsonText
import Ibctl.Time
import Ibctl.Recovery.Decision
import Ibctl.Recovery.Marker
import Ibctl.Recovery.Reading
import Ibctl.Recovery.CrashSafety
import Ibctl.Recovery.Coordinator
import Ibctl.Recovery.Reporting
import Ibctl.Recovery.Escalation
import Ibctl.Config.Credentials
import Ibctl.ColdRestart.Markers
import Ibctl.ColdRestart.Scheduler
import Ibctl.ColdRestart.Firing
import Ibctl.Container.Settings
import Ibctl.Container.Recycle
import Ibctl.StateMachine.TimeSync
import Ibctl.StateMachine.Types
import Ibctl.StateMachine.Observation
import Ibctl.StateMachine.Revocation
import Ibctl.StateMachine.Session
import Ibctl.Handlers.Registry
import Ibctl.StateMachine.Login
import Ibctl.StateMachine.Established
import Ibctl.StateMachine.Machine
import Ibctl.StateMachine.Successors
import Ibctl.StateMachine.Loop
import Ibctl.StateMachine.Moves
import Ibctl.StateMachine.Stable
import Ibctl.StateMachine.Lasting
import Ibctl.StateMachine.Exits
import Ibctl.StateMachine.Carry
import Ibctl.StateMachine.Parked
import Ibctl.StateMachine.SingleUse
import Ibctl.StateMachine.EventOrder
import Ibctl.StateMachine.Cleanup
import Ibctl.StateMachine.Iteration
import Ibctl.StateMachine.Standby
import Ibctl.StateMachine.Stepping
import Ibctl.StateMachine.WarmRestart
import Ibctl.StateMachine.Relaunch
import Ibctl.StateMachine.Cancelled
import Ibctl.StateMachine.Backoff
import Ibctl.StateMachine.GiveUp
import Ibctl.StateMachine.Dormancy
import Ibctl.StateMachine.Dwell
import Ibctl.StateMachine.DwellCredit
import Ibctl.StateMachine.HitlEpisodes
import Ibctl.StateMachine.HitlSchedule
import Ibctl.StateMachine.HitlPreemption
import Ibctl.StateMachine.Confirmation
import Ibctl.StateMachine.EquivalentMarker
import Ibctl.StateMachine.RetryDeadline
import Ibctl.StateMachine.Within
import Ibctl.StateMachine.AgentFailures
import Ibctl.StateMachine.Episodes
import Ibctl.StateMachine.Autonomous
import Ibctl.StateMachine.Blindness
import Ibctl.StateMachine.Distrust
import Ibctl.StateMachine.EventStream
import Ibctl.StateMachine.Paused
import Ibctl.StateMachine.Ceiling
import Ibctl.Handlers.IbcCompat
import Ibctl.Handlers.Dialogs
import Ibctl.Handlers.ApiConfig
import Ibctl.Handlers.OrderDecisions
import Ibctl.Container.KnownGood
import Ibctl.CommandServer
import Ibctl.Dashboard.IbStatus
import Ibctl.Dashboard.Subscription
import Ibctl.Dashboard.CallbackTokens
import Ibctl.Dashboard.SignedData
import Ibctl.Dashboard.UsedTokens
import Ibctl.Dashboard.Reconnect
import Ibctl.Dashboard.TwofaCallback
import Ibctl.Dashboard.HitlLinks
import Ibctl.Dashboard.Sessions
import Ibctl.Dashboard.SessionRuns
import Ibctl.Dashboard.Notifications
import Ibctl.Dashboard.Monitors
import Ibctl.Dashboard.HitlAlerts
import Ibctl.Dashboard.GiveUpAlerts
import Ibctl.Dashboard.MonitorManager
import Ibctl.Lib.FirstSeen
import Ibctl.StateMachine.RevocationLaw
import Ibctl.Recovery.Timing
import Ibctl.StateMachine.Countdown
import Ibctl.Lib.Ring
import Ibctl.StateMachine.HistoryPath
import Ibctl.StateMachine.Contradiction
import Ibctl.Totp.Generate
import Ibctl.StateMachine.TwofaTimeouts
import Ibctl.StateMachine.TimeoutLimit
import Ibctl.Agent.FieldInverse
import Ibctl.Handlers.ConfigPages
import Ibctl.Dashboard.ResumeButton
import Ibctl.Lib.Window
import Ibctl.Dashboard.UsedTokenHistory
import Ibctl.Dashboard.RateLimits
import Ibctl.Handlers.TotpSecret
import Ibctl.Recovery.NextRetry
import Ibctl.Supervisor
import Ibctl.Lib.Utf8
import Ibctl.EventReader
import Ibctl.Lib.Spacing
import Ibctl.CommandSpelling
import Ibctl.SaveSettings.Schedule
import Ibctl.SaveSettings.Firing
import Ibctl.Lib.JsonGrammar
import Ibctl.Agent.ActionResults
import Ibctl.Agent.Envelope
import Ibctl.Lib.IpAddr
import Ibctl.AccessControl
import Ibctl.Dashboard.Scraper
import Ibctl.Agent.RequestReader
import Ibctl.Agent.RequestArrival
import Ibctl.Dashboard.TransitionAlerts
import Ibctl.Lib.Bursts
import Ibctl.Dashboard.GiveUpCadence
import Ibctl.Lib.Debts
import Ibctl.Lib.Rosters
import Ibctl.Agent.EventBroadcast
import Ibctl.Agent.WindowStreams
import Ibctl.Lib.Scan
import Ibctl.Dashboard.ResetTables
import Ibctl.Agent.Documents
import Ibctl.Agent.EventLines
import Ibctl.Agent.EventSchema
import Ibctl.Agent.LineDocuments
import Ibctl.Agent.EventReading
import Ibctl.Lib.Neighbours
import Ibctl.Agent.ComponentDump
import Ibctl.Agent.WindowView
import Ibctl.Dashboard.FeedLines
import Ibctl.Dashboard.StatusFeed
import Ibctl.Dashboard.FeedOrder
import Ibctl.Dashboard.CommandApi
import Ibctl.Lib.Median
import Ibctl.Lib.Median
import Ibctl.Totp.CorrectedClock
import Ibctl.Lib.Streaks
import Ibctl.StateMachine.ApiProbe
import Ibctl.Dashboard.NotificationSettings
