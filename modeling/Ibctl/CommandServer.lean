import Ibctl.Lib.Words
import Ibctl.StateMachine.Types

/-! The command server: one line from a client, parsed into an action for the state machine
or a query for its snapshot. -/
namespace Ibctl.CommandServer

open Machine (Command)

inductive QueryType where
  | status
  | state
  | config
  | logs (limit : Nat)
  | windows
  | subscribe
deriving DecidableEq, Repr

inductive ParsedCommand where
  | action (command : Command)
  | query (query : QueryType)
deriving DecidableEq, Repr

/-- The closed set of IBSTATUS. -/
def isIbStatus (status : String) : Bool :=
  status ∈ ["available","unavailable","maintenance","degraded"]

def isQuote (c : Char) : Bool := c = '"'

/-- Control characters would corrupt the log, and the length is bounded. -/
def cleanReason (raw : List Char) : List Char := (raw.filter (fun c => !Text.isControl c)).take 256

def parseIbStatus (trimmed : List Char) : Option ParsedCommand :=
  let origParts := Text.splitN 3 ' ' trimmed
  let statusRaw := String.ofList (origParts[1]?.getD "available".toList)
  let reasonRaw := (origParts[2]?.map (Text.trimMatches isQuote)).getD []
  if isIbStatus statusRaw then
    some (.action (.ibStatus statusRaw (String.ofList (cleanReason reasonRaw))))
  else none

/-- The rest of the line behind the first blank, in its own case; there must be one. -/
def parseArgument (command : String → Command) (trimmed : List Char) : Option ParsedCommand :=
  let argument := Text.trimChars Text.isWhitespace ((Text.splitN 2 ' ' trimmed)[1]?.getD [])
  if argument = [] then none else some (.action (command (String.ofList argument)))

def parseCommand (input : List Char) : Option ParsedCommand :=
  let trimmed := Text.trimChars Text.isWhitespace input
  let parts := Text.splitWhitespace (Text.upperChars trimmed)
  let origParts := Text.splitWhitespace trimmed
  match parts.head?.map String.ofList with
  | some "STOP" => some (.action .stop)
  | some "START" => some (.action .start)
  | some "RESTART" => some (.action .restart)
  | some "RECONNECTDATA" => some (.action .reconnectData)
  | some "RECONNECTACCOUNT" => some (.action .reconnectAccount)
  | some "ENABLEAPI" => some (.action .enableApi)
  | some "EXIT" => some (.action .exit)
  | some "RESTARTSOCAT" => some (.action .restartSocat)
  | some "SAVESETTINGS" => some (.action .saveSettings)
  | some "SAVETWSSETTINGS" => some (.action .saveSettings)
  | some "PAUSE" =>
    match origParts[1]? with
    | some stateName => some (.action (.pauseAt (String.ofList stateName)))
    | none => some (.action .pause)
  | some "RESUME" => some (.action .resume)
  | some "HITL_RESUME" => some (.action .hitlResume)
  | some "RESUME_RECONNECT" => parseArgument .resumeReconnect trimmed
  | some "SETSTATE" =>
    (origParts[1]?).map (fun stateName => .action (.setState (String.ofList stateName)))
  | some "IBSTATUS" => parseIbStatus trimmed
  | some "SETRESTART" => parseArgument .setRestartTime trimmed
  | some "STATUS" => some (.query .status)
  | some "STATE" => some (.query .state)
  | some "CONFIG" => some (.query .config)
  | some "LOGS" => some (.query (.logs ((parts[1]?.bind (Text.parseUnsigned 64)).getD 100)))
  | some "WINDOWS" => some (.query .windows)
  | some "SUBSCRIBE" => some (.query .subscribe)
  | _ => none

/-- What `handle_connection` makes of the bytes a client sends. -/
def received (sent : List Char) : Option ParsedCommand :=
  parseCommand (Text.trimChars Text.isWhitespace (Text.readLine sent))

section IbStatus

private theorem upperChars_keyword (rest : List Char) :
    Text.upperChars ("IBSTATUS ".toList ++ rest) =
      "IBSTATUS".toList ++ ' ' :: Text.upperChars rest := by
  unfold Text.upperChars
  rw [List.flatMap_append]
  rfl

/-- A line of IBSTATUS goes to the parser of its two arguments, trimmed. -/
theorem parseCommand_ibStatus {line rest : List Char}
    (starts : Text.trimChars Text.isWhitespace line = "IBSTATUS ".toList ++ rest) :
    parseCommand line = parseIbStatus ("IBSTATUS ".toList ++ rest) := by
  have word := @Text.splitWhitespace_head "IBSTATUS".toList ' ' (by decide)
    (Text.solid_of_all (by decide)) (by decide) (Text.upperChars rest)
  dsimp only [parseCommand]
  rw [starts,upperChars_keyword,word]
  rfl

/-- The status is the second word, and the reason is all that follows it. -/
theorem parseIbStatus_reason {status : List Char} (word : ' ' ∉ status) (text : List Char) :
    parseIbStatus ("IBSTATUS ".toList ++ (status ++ ' ' :: text)) =
      if isIbStatus (String.ofList status) then
        some (.action (.ibStatus (String.ofList status)
          (String.ofList (cleanReason (Text.trimMatches isQuote text)))))
      else none := by
  have pieces : Text.splitN 3 ' ' ("IBSTATUS".toList ++ ' ' :: (status ++ ' ' :: text)) =
      ["IBSTATUS".toList,status,text] := by
    rw [Text.splitN_found 1 (by decide),Text.splitN_found 0 word]
    rfl
  have shape : "IBSTATUS ".toList ++ (status ++ ' ' :: text) =
      "IBSTATUS".toList ++ ' ' :: (status ++ ' ' :: text) := rfl
  unfold parseIbStatus
  rw [shape,pieces]
  rfl

theorem parseIbStatus_bare {status : List Char} (word : ' ' ∉ status) :
    parseIbStatus ("IBSTATUS ".toList ++ status) =
      if isIbStatus (String.ofList status) then
        some (.action (.ibStatus (String.ofList status) ""))
      else none := by
  have pieces : Text.splitN 3 ' ' ("IBSTATUS".toList ++ ' ' :: status) =
      ["IBSTATUS".toList,status] := by
    rw [Text.splitN_found 1 (by decide),Text.splitN_single 1 word]
  have shape : "IBSTATUS ".toList ++ status = "IBSTATUS".toList ++ ' ' :: status := rfl
  unfold parseIbStatus
  rw [shape,pieces]
  rfl

end IbStatus

section Connection

/-- The commands that only the machine itself may send. -/
def isPrivilegedCommand : Command → Bool
  | .setState _ => true
  | .pause => true
  | .pauseAt _ => true
  | .exit => true
  | .hitlResume => true
  | .resumeReconnect _ => true
  | _ => false

/-- Who connects: on the list of the configuration, and from the loopback. -/
structure Peer where
  allowed : Bool
  localhost : Bool

/-- What a connection comes to: nothing is read, a query goes its own way, or a line is
written and perhaps a command queued for the state machine. -/
inductive Handled where
  | silent
  | queried (query : QueryType)
  | replied (line : List Char) (queued : Option Command)

/-- The reply to an action is written when the command is in the channel. -/
def handleConnection (peer : Peer) (channelOpen : Bool) (sent : List Char) : Handled :=
  if peer.allowed = false then .replied "ERROR not authorized\n".toList none
  else if sent = [] then .silent
  else
    let trimmed := Text.trimChars Text.isWhitespace (Text.readLine sent)
    match parseCommand trimmed with
    | some (.action command) =>
      if isPrivilegedCommand command ∧ peer.localhost = false then
        .replied "ERROR privileged command requires localhost\n".toList none
      else if channelOpen then
        .replied ("OK ".toList ++ Text.upperChars trimmed ++ ['\n']) (some command)
      else .replied "ERROR command channel closed\n".toList none
    | some (.query query) => .queried query
    | none => .replied ("ERROR unknown command: ".toList ++ trimmed ++ ['\n']) none

theorem received_hitlResume : received "HITL_RESUME\n".toList = some (.action .hitlResume) := by
  decide +kernel

/-- RESUME_RECONNECT of a text that begins with a letter carries a token, though perhaps not
all of the text. -/
theorem received_resumeReconnect (rest : List Char) :
    ∃ shown token,
      Text.trimChars Text.isWhitespace
        (Text.readLine ("RESUME_RECONNECT ".toList ++ 'v' :: rest ++ ['\n'])) =
          "RESUME_RECONNECT".toList ++ ' ' :: 'v' :: shown ∧
      received ("RESUME_RECONNECT ".toList ++ 'v' :: rest ++ ['\n']) =
        some (.action (.resumeReconnect token)) := by
  obtain ⟨tail,line⟩ : ∃ tail,
      Text.readLine ("RESUME_RECONNECT ".toList ++ 'v' :: rest ++ ['\n']) =
        "RESUME_RECONNECT v".toList ++ tail ++ ['\n'] := by
    obtain ⟨piece,after,split,free⟩ := @Text.splitOnce_mem '\n' (rest ++ ['\n']) (by simp)
    refine ⟨piece,?_⟩
    rw [show "RESUME_RECONNECT ".toList ++ 'v' :: rest ++ ['\n'] =
        "RESUME_RECONNECT v".toList ++ (rest ++ ['\n']) by simp,split,← List.append_assoc]
    exact Text.readLine_found (by simp [free]) after
  have trimmed : Text.trimChars Text.isWhitespace ("RESUME_RECONNECT v".toList ++ tail) =
      "RESUME_RECONNECT".toList ++ ' ' :: 'v' :: tail.rdropWhile Text.isWhitespace := by
    have ends := @Text.trimChars_of_ends Text.isWhitespace 'R' 'v' (by decide) (by decide)
      "ESUME_RECONNECT ".toList tail
    simpa using ends
  have word := @Text.splitWhitespace_head "RESUME_RECONNECT".toList ' ' (by decide)
    (Text.solid_of_all (by decide)) (by decide)
    (Text.upperChars ('v' :: tail.rdropWhile Text.isWhitespace))
  have upper : Text.upperChars
      ("RESUME_RECONNECT".toList ++ ' ' :: 'v' :: tail.rdropWhile Text.isWhitespace) =
      "RESUME_RECONNECT".toList ++ ' ' ::
        Text.upperChars ('v' :: tail.rdropWhile Text.isWhitespace) := by
    unfold Text.upperChars
    rw [List.flatMap_append]
    rfl
  have shown : Text.trimChars Text.isWhitespace
      (Text.readLine ("RESUME_RECONNECT ".toList ++ 'v' :: rest ++ ['\n'])) =
        "RESUME_RECONNECT".toList ++ ' ' :: 'v' :: tail.rdropWhile Text.isWhitespace := by
    rw [line,Text.trimChars_concat (by decide),trimmed]
  refine ⟨tail.rdropWhile Text.isWhitespace,?_⟩
  refine exists_and_left.mpr ⟨shown,?_⟩
  rw [received]
  dsimp only [parseCommand]
  rw [Text.trimChars_idem,shown,upper,word]
  change ∃ token, parseArgument .resumeReconnect _ = _
  unfold parseArgument
  rw [Text.splitN_found 0 (by decide)]
  simp only [Text.splitN,List.getElem?_cons_succ,List.getElem?_cons_zero,Option.getD_some,
    @Text.trimChars_of_first Text.isWhitespace 'v' (by decide)]
  exact ⟨_,rfl⟩

end Connection

end Ibctl.CommandServer
