import Ibctl.CommandServer
import Ibctl.Dashboard.Reconnect
import Ibctl.StateMachine.GiveUp

/-! The callback of a wait for the operator, and what a confirmation page of either callback is
worth. The endpoint waits for the line of the command server, which is written as soon as the
command is in the channel; the state machine decides later, and answers nobody. -/
namespace Ibctl.Dashboard
open CommandServer (Peer QueryType Handled handleConnection)
open Machine (Command StateMachine Turn)

section Client

def commandFailed (command error : List Char) : List Char :=
  "Command '".toList ++ command ++ "' failed: ".toList ++ error

/-- What `_send` makes of the line that was read. -/
def readReply (command response : List Char) : Reply :=
  let line := Text.trimChars Text.isPythonSpace response
  if "OK ".toList.isPrefixOf line then .returned (some (line.drop 3))
  else if "ERROR ".toList.isPrefixOf line then
    .dashboardError (commandFailed command (line.drop 6))
  else if line = "OK".toList then .returned (some [])
  else .dashboardError (commandFailed command ("Unexpected response: ".toList ++ line))

/-- How a command fares: no line comes back, whether or not the command was queued; or the server
reads it and answers. -/
inductive Delivery where
  | refused (message : List Char) (queued : Option Command)
  | raised (exception : List Char) (queued : Option Command)
  | reached (peer : Peer) (channelOpen : Bool) (answer : QueryType → List Char)

/-- The reply the endpoint gets, and the command the state machine gets. -/
def Delivery.send (d : Delivery) (command : List Char) : Reply × Option Command :=
  match d with
  | .refused message queued => (.dashboardError message,queued)
  | .raised exception queued => (.raised exception,queued)
  | .reached peer channelOpen answer =>
    match handleConnection peer channelOpen (command ++ ['\n']) with
    | .silent => (readReply command [],none)
    | .queried query => (readReply command (answer query),none)
    | .replied line queued => (readReply command line,queued)

/-- The server is reached from an allowed loopback address and its channel is open. -/
def Delivery.Acknowledges : Delivery → Prop
  | .reached peer channelOpen _ =>
    peer.allowed = true ∧ peer.localhost = true ∧ channelOpen = true
  | _ => False

end Client

section Endpoint

variable {δ : Type} (site : Site δ)

def hitlIntent : List Char := "hitl".toList

def refusal (reason : String) : Response := .error 400 [("error",reason.toList)]

def refusedToken (reason : List Char) : Response :=
  .error 400 [("error","invalid_token".toList),("reason",reason)]

/-- `twofa_callback` up to its wait: the mode, or the response it ends with. -/
def twofaUntilSent (limiter : RateLimiter) (get : Post) (at_ : Readings) :
    Except Response (List Char) × RateLimiter :=
  let mode := modeOf get.mode
  match limiter.check (get.ip.getD "unknown") at_.limited with
  | (none,checked) => (.error .crashed,checked)
  | (some false,checked) => (.error (.error 429 [("error","rate_limited".toList)]),checked)
  | (some true,checked) =>
    (if site.signingKey = [] then
        .error (.error 503 [("error","signing_key_not_configured".toList)])
      else if mode ∉ validModes then .error (refusal "invalid_mode")
      else
        match validateToken site.mac site.signingKey get.t hitlIntent (seconds at_.validated) with
        | .ok =>
          if (extractMode get.t).any (fun tokenMode => tokenMode ≠ mode) then
            .error (refusedToken "mode_mismatch".toList)
          else if site.hasInstance mode then .ok mode
          else .error (refusal "invalid_mode")
        | reason => .error (refusedToken reason.text),
      checked)

def hitlCommand : List Char := "HITL_RESUME".toList

/-- `twofa_callback` from its wait on: whatever is returned confirms. -/
def twofaAnswered (mode : List Char) : Reply → Response
  | .returned _ => .confirmation mode
  | .dashboardError message =>
    .error 502 [("error","ibctl_unreachable".toList),("detail",message)]
  | .raised _ => .crashed

def Response.status : Response → Nat
  | .error status _ => status
  | .prompt _ _ => 200
  | .confirmation _ => 200
  | .crashed => 500

end Endpoint

section Truth

/-- The command does what its callback promises in the machine that handles it. -/
def Effective (sm : StateMachine) (turn : Turn) : Command → Prop
  | .hitlResume =>
    sm.state = .waitingForHitl2fa ∧ (sm.handleCommand .hitlResume turn).state ≠ .waitingForHitl2fa
  | .resumeReconnect _ => sm.resumable = true
  | _ => False

/-- The command was queued, and was handled where it had its effect. A process may also end
before it handles the command. -/
def Took (queued : Option Command) (handled : Option (StateMachine × Turn)) : Prop :=
  ∃ command sm turn, queued = some command ∧ handled = some (sm,turn) ∧ Effective sm turn command

/-- A page of success means that the command took effect, and one that did not is answered with
an error. -/
def Truthful (response : Response) (queued : Option Command)
    (handled : Option (StateMachine × Turn)) : Prop :=
  (response.status = 200 → Took queued handled) ∧
    (¬ Took queued handled → 400 ≤ response.status)

variable {queued : Option Command} {handled : Option (StateMachine × Turn)} {response : Response}

theorem truthful_of_error (error : 400 ≤ response.status) : Truthful response queued handled :=
  ⟨fun success => absurd (success ▸ error) (by decide),fun _ => error⟩

theorem truthful_of_success (success : response.status = 200) :
    Truthful response queued handled ↔ Took queued handled := by
  refine ⟨fun truthful => truthful.1 success,fun took => ⟨fun _ => took,fun untook => ?_⟩⟩
  exact absurd took untook

theorem took_hitlResume_iff :
    Took (some .hitlResume) handled ↔
      ∃ sm turn, handled = some (sm,turn) ∧ sm.state = .waitingForHitl2fa := by
  constructor
  · rintro ⟨command,sm,turn,same,there,effective⟩
    cases same
    exact ⟨sm,turn,there,effective.1⟩
  · rintro ⟨sm,turn,there,waits⟩
    refine ⟨.hitlResume,sm,turn,rfl,there,waits,?_⟩
    simp only [StateMachine.handleCommand,waits,if_true,StateMachine.moveTo_state]
    decide

theorem took_resumeReconnect_iff (token : String) :
    Took (some (.resumeReconnect token)) handled ↔
      ∃ sm turn, handled = some (sm,turn) ∧ sm.resumable = true := by
  constructor
  · rintro ⟨command,sm,turn,same,there,effective⟩
    cases same
    exact ⟨sm,turn,there,effective⟩
  · rintro ⟨sm,turn,there,resumable⟩
    exact ⟨.resumeReconnect token,sm,turn,rfl,there,resumable⟩

end Truth

section Replies

variable {command : Command} {line : List Char} {d : Delivery}

/-- A line of success is handed on without its first word. -/
theorem readReply_ok (command : List Char) {first : Char} (solid : Text.isPythonSpace first = false)
    (rest : List Char) : ∃ shown,
    readReply command ("OK ".toList ++ first :: rest) = .returned (some (first :: shown)) := by
  have trimmed : Text.trimChars Text.isPythonSpace ("OK ".toList ++ first :: rest) =
      "OK ".toList ++ first :: rest.rdropWhile Text.isPythonSpace :=
    @Text.trimChars_of_ends Text.isPythonSpace 'O' first (by decide) solid ['K',' '] rest
  refine ⟨rest.rdropWhile Text.isPythonSpace,?_⟩
  unfold readReply
  rw [trimmed]
  rfl

/-- A line that begins with ERROR is an error. -/
theorem readReply_error (command : List Char) {first : Char}
    (solid : Text.isPythonSpace first = false) (rest : List Char) : ∃ shown,
    readReply command ("ERROR ".toList ++ first :: rest) =
      .dashboardError (commandFailed command (first :: shown)) := by
  have trimmed : Text.trimChars Text.isPythonSpace ("ERROR ".toList ++ first :: rest) =
      "ERROR ".toList ++ first :: rest.rdropWhile Text.isPythonSpace :=
    @Text.trimChars_of_ends Text.isPythonSpace 'E' first (by decide) solid "RROR ".toList rest
  refine ⟨rest.rdropWhile Text.isPythonSpace,?_⟩
  unfold readReply
  rw [trimmed]
  rfl

/-- A privileged command that is acknowledged is in the channel. -/
theorem send_acknowledged (acknowledges : d.Acknowledges)
    (parsed : CommandServer.received (line ++ ['\n']) = some (.action command)) :
    d.send line = (readReply line ("OK ".toList ++
        Text.upperChars (Text.trimChars Text.isWhitespace (Text.readLine (line ++ ['\n']))) ++
          ['\n']),some command) := by
  cases d with
  | refused message queued => exact absurd acknowledges id
  | raised exception queued => exact absurd acknowledges id
  | reached peer channelOpen answer =>
    obtain ⟨allowed,here,open_⟩ := acknowledges
    rw [CommandServer.received] at parsed
    unfold Delivery.send handleConnection
    simp [allowed,here,open_,parsed]

/-- What is not acknowledged is an error, if the command is a privileged one. -/
theorem send_unacknowledged (silent : ¬ d.Acknowledges)
    (parsed : CommandServer.received (line ++ ['\n']) = some (.action command))
    (privileged : CommandServer.isPrivilegedCommand command = true) :
    (∃ message, (d.send line).1 = .dashboardError message) ∨
      ∃ exception, (d.send line).1 = .raised exception := by
  cases d with
  | refused message queued => exact .inl ⟨_,rfl⟩
  | raised exception queued => exact .inr ⟨_,rfl⟩
  | reached peer channelOpen answer =>
    left
    rw [CommandServer.received] at parsed
    unfold Delivery.send handleConnection
    by_cases allowed : peer.allowed = true
    · by_cases here : peer.localhost = true
      · have closed : channelOpen = false := by
          cases channelOpen with
          | false => rfl
          | true => exact absurd ⟨allowed,here,rfl⟩ silent
        obtain ⟨shown,reply⟩ := @readReply_error line 'c' (by decide) "ommand channel closed\n".toList
        exact ⟨_,by simpa [allowed,here,closed,parsed] using reply⟩
      · obtain ⟨shown,reply⟩ :=
          @readReply_error line 'p' (by decide) "rivileged command requires localhost\n".toList
        exact ⟨_,by simpa [allowed,here,parsed,privileged] using reply⟩
    · obtain ⟨shown,reply⟩ := @readReply_error line 'n' (by decide) "ot authorized\n".toList
      exact ⟨_,by simpa [allowed] using reply⟩

end Replies

section Callbacks

variable {δ : Type} [DecidableEq δ] {site : Site δ}

omit [DecidableEq δ] in
/-- A token that validates begins with its version. -/
theorem token_of_validates {token : List Char} {now : Nat} (valid : Validates site token now) :
    ∃ rest, token = 'v' :: rest := by
  obtain ⟨f,⟨issuedStr,expiresStr,segments,-,-⟩,-⟩ := spells_of_ok valid
  have joined : ['.'].intercalate (token.splitOn '.') = token := List.intercalate_splitOn '.'
  rw [segments] at joined
  exact ⟨_,joined.symm⟩

theorem looksLikeNack_resume (shown : List Char) :
    looksLikeNack (Reply.returned (some ('R' :: shown))).text = false := by
  have trimmed : (Reply.returned (some ('R' :: shown))).text =
      'R' :: shown.rdropWhile Text.isPythonSpace := Text.trimChars_of_first (by decide) shown
  rw [trimmed]
  simp only [looksLikeNack,List.flatMap_cons]
  rfl

theorem upperChars_resume (shown : List Char) :
    Text.upperChars ("RESUME_RECONNECT".toList ++ ' ' :: 'v' :: shown) =
      'R' :: ("ESUME_RECONNECT V".toList ++ Text.upperChars shown) := by
  unfold Text.upperChars
  rw [List.flatMap_append]
  rfl

/-- The line a reconnect sends is parsed into the command it names, and the answer to it is taken
for an acknowledgement. -/
theorem flight_command {c : Callbacks δ} {post : Post} {at_ : Readings} {flight : Flight}
    (sent : (dispatchUntilSent site c post at_).1 = .ok flight) :
    ∃ token shown, CommandServer.received (flight.command ++ ['\n']) =
        some (.action (.resumeReconnect token)) ∧
      readReply flight.command ("OK ".toList ++ Text.upperChars
        (Text.trimChars Text.isWhitespace (Text.readLine (flight.command ++ ['\n']))) ++ ['\n']) =
          .returned (some ('R' :: shown)) := by
  rcases dispatchUntilSent_cases site c post at_ with
    ⟨response,ended,-,-⟩ | ⟨other,same,carries,valid,-,-,-⟩
  · rw [ended] at sent
    cases sent
  · rw [same] at sent
    obtain rfl := Except.ok.inj sent
    obtain ⟨rest,begins⟩ := token_of_validates valid
    obtain ⟨shown,token,trimmed,received⟩ := CommandServer.received_resumeReconnect rest
    have line : other.command ++ ['\n'] = "RESUME_RECONNECT ".toList ++ 'v' :: rest ++ ['\n'] := by
      unfold Flight.command
      rw [carries,begins]
    obtain ⟨tail,reply⟩ := readReply_ok other.command (by decide : Text.isPythonSpace 'R' = false)
      ("ESUME_RECONNECT V".toList ++ Text.upperChars shown ++ ['\n'])
    refine ⟨token,tail,line ▸ received,?_⟩
    rw [line,trimmed,upperChars_resume,← reply,List.append_assoc,List.cons_append]

theorem twofaAnswered_error {mode : List Char} {reply : Reply}
    (error : (∃ message, reply = .dashboardError message) ∨ ∃ exception, reply = .raised exception) :
    400 ≤ (twofaAnswered mode reply).status := by
  rcases error with ⟨message,rfl⟩ | ⟨exception,rfl⟩
  · exact (by decide : 400 ≤ 502)
  · exact (by decide : 400 ≤ 500)

theorem dispatchAnswered_error {c : Callbacks δ} {flight : Flight} {reply : Reply} {now : Nat}
    (error : (∃ message, reply = .dashboardError message) ∨ ∃ exception, reply = .raised exception) :
    400 ≤ (dispatchAnswered site c flight reply now).1.status := by
  rcases error with ⟨message,rfl⟩ | ⟨exception,rfl⟩
  · exact (by decide : 400 ≤ 502)
  · exact (by decide : 400 ≤ 502)

/-- Of a request for the wait of the operator that passes the checks, the answer is truthful
unless the server acknowledges a command that finds the machine elsewhere. -/
theorem twofa_truthful_iff (mode : List Char) (d : Delivery)
    (handled : Option (StateMachine × Turn)) :
    Truthful (twofaAnswered mode (d.send hitlCommand).1) (d.send hitlCommand).2 handled ↔
      (d.Acknowledges → ∃ sm turn, handled = some (sm,turn) ∧ sm.state = .waitingForHitl2fa) := by
  have parsed : CommandServer.received (hitlCommand ++ ['\n']) = some (.action .hitlResume) :=
    CommandServer.received_hitlResume
  by_cases acknowledges : d.Acknowledges
  · have confirms : (twofaAnswered mode (readReply hitlCommand "OK HITL_RESUME\n".toList)).status =
        200 := rfl
    have line : "OK ".toList ++ Text.upperChars (Text.trimChars Text.isWhitespace
        (Text.readLine (hitlCommand ++ ['\n']))) ++ ['\n'] = "OK HITL_RESUME\n".toList := by
      decide +kernel
    rw [send_acknowledged acknowledges parsed,line,truthful_of_success confirms,took_hitlResume_iff]
    simp [acknowledges]
  · have error := send_unacknowledged acknowledges parsed rfl
    exact iff_of_true (truthful_of_error (twofaAnswered_error error))
      fun reached => absurd reached acknowledges

theorem reconnect_truthful_iff {c : Callbacks δ} {post : Post} {at_ : Readings} {flight : Flight}
    (sent : (dispatchUntilSent site c post at_).1 = .ok flight) (c' : Callbacks δ) (d : Delivery)
    (now : Nat) (handled : Option (StateMachine × Turn)) :
    Truthful (dispatchAnswered site c' flight (d.send flight.command).1 now).1
        (d.send flight.command).2 handled ↔
      (d.Acknowledges → ∃ sm turn, handled = some (sm,turn) ∧ sm.resumable = true) := by
  obtain ⟨token,shown,parsed,reply⟩ := flight_command sent
  by_cases acknowledges : d.Acknowledges
  · have confirms : (dispatchAnswered site c' flight (.returned (some ('R' :: shown))) now).1.status =
        200 := by
      simp only [dispatchAnswered,looksLikeNack_resume]
      rfl
    rw [send_acknowledged acknowledges parsed,reply,truthful_of_success confirms,
      took_resumeReconnect_iff]
    simp [acknowledges]
  · have error := send_unacknowledged acknowledges parsed rfl
    exact iff_of_true (truthful_of_error (dispatchAnswered_error error))
      fun reached => absurd reached acknowledges

end Callbacks

/-- Both callbacks, of every request that passes their checks and whatever becomes of the command:
the answer is truthful exactly when a command that is acknowledged is handled in a state that
takes it. -/
theorem confirmations_truthful_iff {δ : Type} [DecidableEq δ] (site : Site δ) (at_ : Readings)
    (d : Delivery) (handled : Option (StateMachine × Turn)) :
    (∀ limiter get mode, (twofaUntilSent site limiter get at_).1 = .ok mode →
      (Truthful (twofaAnswered mode (d.send hitlCommand).1) (d.send hitlCommand).2 handled ↔
        (d.Acknowledges →
          ∃ sm turn, handled = some (sm,turn) ∧ sm.state = .waitingForHitl2fa))) ∧
    ∀ c post flight now, (dispatchUntilSent site c post at_).1 = .ok flight →
      ∀ waited, (Truthful (dispatchAnswered site waited flight (d.send flight.command).1 now).1
          (d.send flight.command).2 handled ↔
        (d.Acknowledges → ∃ sm turn, handled = some (sm,turn) ∧ sm.resumable = true)) :=
  ⟨fun _ _ mode _ => twofa_truthful_iff mode d handled,
    fun _ _ _ now sent waited => reconnect_truthful_iff sent waited d now handled⟩

/-- A link of a wait for the operator that is valid for a day. -/
def hitlToken : List Char := "v2.hitl.1700000000.1700086400.paper.AA".toList

def linkOpened (token : List Char) : Post := ⟨some "10.0.0.1",token,"paper".toList⟩

def readNow : Readings := ⟨hoursLater 1,hoursLater 1,hoursLater 1⟩

/-- The dashboard beside its instance. -/
def nearby : Delivery := .reached ⟨true,true⟩ true fun _ => []

theorem links_pass :
    (twofaUntilSent linkSite ⟨60 * microseconds,10,1024,[]⟩ (linkOpened hitlToken) readNow).1 =
        .ok "paper".toList ∧
      (dispatchUntilSent linkSite .start (linkOpened linkToken) readNow).1 =
        .ok ⟨linkToken,"paper".toList⟩ := by
  decide +kernel

/-- A site that has just booted. -/
def idle : StateMachine :=
  (Machine.Process.start Recovery.sampleCodec Machine.paperConfig .default Files.empty
    "/home/ibgateway/Jts" (Recovery.sampleClocks 60)).machine

/-- Both links are answered with a page of success by a site that ignores both commands. -/
theorem confirmations_untruthful :
    let turn := Machine.command .pause
    let resume := nearby.send hitlCommand
    let reconnect := nearby.send (Flight.command ⟨linkToken,"paper".toList⟩)
    ((twofaAnswered "paper".toList resume.1).status = 200 ∧
        (idle.handleCommand .hitlResume turn).state = idle.state ∧
        ¬ Truthful (twofaAnswered "paper".toList resume.1) resume.2 (some (idle,turn))) ∧
      ((dispatchAnswered linkSite .start ⟨linkToken,"paper".toList⟩ reconnect.1 (hoursLater 1)).1.status
          = 200 ∧ idle.resumable = false ∧
        ¬ Truthful (dispatchAnswered linkSite .start ⟨linkToken,"paper".toList⟩ reconnect.1
          (hoursLater 1)).1 reconnect.2 (some (idle,turn))) := by
  intro turn resume reconnect
  have ignored : (twofaAnswered "paper".toList resume.1).status = 200 ∧
      (idle.handleCommand .hitlResume turn).state = idle.state ∧
      idle.state ≠ .waitingForHitl2fa ∧
      (dispatchAnswered linkSite .start ⟨linkToken,"paper".toList⟩ reconnect.1
        (hoursLater 1)).1.status = 200 ∧ idle.resumable = false := by decide +kernel
  obtain ⟨confirmed,same,elsewhere,resumed,unresumable⟩ := ignored
  refine ⟨⟨confirmed,same,fun truthful => ?_⟩,resumed,unresumable,fun truthful => ?_⟩
  · obtain ⟨sm,_,there,waits⟩ := (twofa_truthful_iff _ _ _).mp truthful ⟨rfl,rfl,rfl⟩
    cases there
    exact elsewhere waits
  · obtain ⟨sm,_,there,resumable⟩ :=
      (reconnect_truthful_iff links_pass.2 _ _ _ _).mp truthful ⟨rfl,rfl,rfl⟩
    cases there
    exact absurd (unresumable.symm.trans resumable) (by decide)

/-- A site that has given up and waits for the operator takes both. -/
theorem confirmations_truthful_waiting :
    let sm : StateMachine := { Machine.halted.machine with state := .waitingForHitl2fa }
    let turn := Machine.command .pause
    let resume := nearby.send hitlCommand
    let reconnect := nearby.send (Flight.command ⟨linkToken,"paper".toList⟩)
    Truthful (twofaAnswered "paper".toList resume.1) resume.2 (some (sm,turn)) ∧
      Truthful (dispatchAnswered linkSite .start ⟨linkToken,"paper".toList⟩ reconnect.1
        (hoursLater 1)).1 reconnect.2 (some (sm,turn)) := by
  intro sm turn resume reconnect
  obtain ⟨twofa,recovery⟩ := confirmations_truthful_iff linkSite readNow nearby (some (sm,turn))
  refine ⟨(twofa _ _ _ links_pass.1).mpr fun _ => ⟨sm,turn,rfl,rfl⟩,
    (recovery _ _ _ _ links_pass.2 _).mpr fun _ => ⟨sm,turn,rfl,?_⟩⟩
  have given := Machine.halted_parked.2.2
  simp only [sm,StateMachine.resumable,given]
  rfl

end Ibctl.Dashboard
