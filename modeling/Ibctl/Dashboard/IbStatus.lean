import Ibctl.CommandServer
import Ibctl.StateMachine.Parked

/-! The dashboard's IB status: scraped or overridden by hand, and pushed to each instance as
an IBSTATUS line. -/
namespace Ibctl.Dashboard

open Machine (StateMachine Turn)
open CommandServer (isIbStatus isQuote cleanReason received)

inductive SystemStatus where
  | available
  | maintenance
  | outage
  | scheduledMaintenance
  | noInternet
  | unknown
deriving DecidableEq, Repr

def SystemStatus.value : SystemStatus → String
  | .available => "available"
  | .maintenance => "maintenance"
  | .outage => "outage"
  | .scheduledMaintenance => "scheduled"
  | .noInternet => "no_internet"
  | .unknown => "unknown"

structure DayTime where
  hour : Nat
  minute : Nat
deriving DecidableEq, Repr

def twoDigits (n : Nat) : String := if n < 10 then "0" ++ toString n else toString n

def DayTime.hm (t : DayTime) : String := twoDigits t.hour ++ ":" ++ twoDigits t.minute

structure ResetWindow where
  region : String
  startTime : DayTime
  endTime : DayTime
  timezone : String
deriving DecidableEq, Repr

/-- What `_check_and_push` reads of a scrape: the messages of its blocking alerts, and the
reset window the time of the check lies in. -/
structure IBSystemStatus where
  status : SystemStatus
  blocking : List String
  window : Option ResetWindow
  fetchError : Option String
deriving DecidableEq, Repr

/-- Python's `or` on an optional text: the empty one counts as none. -/
def textOr (text : Option String) (fallback : String) : String :=
  (text.filter (· ≠ "")).getD fallback

def IBSystemStatus.reason (scrape : IBSystemStatus) : String :=
  match scrape.status with
  | .maintenance =>
    match scrape.window with
    | some window =>
      "Daily reset " ++ window.region ++ " " ++ window.startTime.hm ++ "-" ++ window.endTime.hm ++
        " " ++ window.timezone
    | none => "Scheduled maintenance"
  | .outage =>
    if scrape.blocking ≠ [] then
      String.intercalate "; "
        ((scrape.blocking.take 3).map (fun message => String.ofList (message.toList.take 100)))
    else "System outage (no specific blocking alerts)"
  | .noInternet => textOr scrape.fetchError "Internet connectivity lost"
  | .unknown => textOr scrape.fetchError "IB status page unreachable"
  | _ => ""

/-- The endpoint refuses every other status. -/
abbrev OverrideStatus := {status : String // status ∈ ["available","maintenance"]}

structure StatusEvent where
  timestamp : Nat
  fromStatus : String
  toStatus : String
  reason : String
  source : String
deriving DecidableEq, Repr

structure IBStatusMonitor where
  overrideStatus : Option OverrideStatus
  overrideReason : String
  lastPushedStatus : String
  auditLog : List StatusEvent
deriving DecidableEq

namespace IBStatusMonitor

variable (m : IBStatusMonitor)

def recordEvent (now : Nat) (fromStatus toStatus reason source : String) : IBStatusMonitor :=
  if fromStatus = toStatus then m
  else
    let event : StatusEvent := ⟨now,fromStatus,toStatus,reason,source⟩
    { m with auditLog := (m.auditLog ++ [event]).rtake 200 }

def setOverride (status : OverrideStatus) (reason : String) (now : Nat) : IBStatusMonitor :=
  let shown := textOr (some reason) ("Manual override: " ++ status.1)
  ({ m with overrideStatus := some status, overrideReason := shown }).recordEvent now
    m.lastPushedStatus status.1 shown "manual_override"

def clearOverride (now : Nat) : IBStatusMonitor :=
  if m.overrideStatus.isSome then
    ({ m with overrideStatus := none, overrideReason := "" }).recordEvent now
      ((m.overrideStatus.map Subtype.val).getD "") "unknown"
      "Override cleared — scraper re-enabled" "manual_override"
  else m

/-- The status and the reason that go to every instance, if the scrape did not raise. -/
def checkAndPush (scrape : Except String IBSystemStatus) (now : Nat) :
    IBStatusMonitor × Option (String × String) :=
  match m.overrideStatus,scrape with
  | some status,_ => ({ m with lastPushedStatus := status.1 },some (status.1,m.overrideReason))
  | none,.error _ => (m,none)
  | none,.ok scrape =>
    let status := scrape.status.value
    ({ m.recordEvent now m.lastPushedStatus status scrape.reason "scraper" with
        lastPushedStatus := status },some (status,scrape.reason))

def setIbStatusOverride (status reason : String) (scrape : Except String IBSystemStatus)
    (now : Nat) : IBStatusMonitor × Option (String × String) :=
  if admitted : status ∈ ["available","maintenance"] then
    (m.setOverride ⟨status,admitted⟩ reason now).checkAndPush scrape now
  else (m,none)

def clearIbStatusOverride (scrape : Except String IBSystemStatus) (now : Nat) :
    IBStatusMonitor × Option (String × String) := (m.clearOverride now).checkAndPush scrape now

end IBStatusMonitor

/-- The line `_push_to_all` has its client send. -/
def pushLine (status reason : String) : List Char :=
  (if reason ≠ "" then
    "IBSTATUS ".toList ++ (status.toList ++ ' ' :: '"' :: (reason.toList ++ ['"']))
  else "IBSTATUS ".toList ++ status.toList) ++ ['\n']

/-- Where a verdict comes from. -/
inductive Verdict where
  | scraped (status : SystemStatus)
  | overridden (status : OverrideStatus)

def Verdict.status : Verdict → String
  | scraped status => status.value
  | overridden status => status.1

namespace IBStatusMonitor

theorem checkAndPush_verdict {m : IBStatusMonitor} {scrape : Except String IBSystemStatus}
    {now : Nat} {status reason : String}
    (pushed : (m.checkAndPush scrape now).2 = some (status,reason)) :
    ∃ v : Verdict, v.status = status := by
  unfold checkAndPush at pushed
  split at pushed
  · rename_i override _
    cases pushed
    exact ⟨.overridden override,rfl⟩
  · cases pushed
  · rename_i scrape _
    cases pushed
    exact ⟨.scraped scrape.status,rfl⟩

/-- Whatever the operator posts, what is pushed is a verdict. -/
theorem setIbStatusOverride_verdict {m : IBStatusMonitor}
    {scrape : Except String IBSystemStatus} {now : Nat} {posted text status reason : String}
    (pushed : (m.setIbStatusOverride posted text scrape now).2 = some (status,reason)) :
    ∃ v : Verdict, v.status = status := by
  unfold setIbStatusOverride at pushed
  split at pushed
  · exact checkAndPush_verdict pushed
  · cases pushed

end IBStatusMonitor

/-- The reason up to the outer quotes, the control characters and the length. -/
def shownReason (reason : String) : String :=
  String.ofList (cleanReason (Text.trimMatches isQuote reason.toList))

/-- The line is taken as IBSTATUS, and ibctl then has the verdict and the reason. -/
def Reaches (sm : StateMachine) (turn : Turn) (status reason : String) : Prop :=
  ∃ sentStatus text,
    received (pushLine status reason) = some (.action (.ibStatus sentStatus text)) ∧
    ((sm.handleCommand (.ibStatus sentStatus text) turn).ibStatus.available = true ↔
      status = "available") ∧
    (sm.handleCommand (.ibStatus sentStatus text) turn).ibStatus.reason = shownReason reason

section Framing

def isPrinted (c : Char) : Bool := !Text.isControl c

/-- What the reader keeps of the first line of a reason. -/
def keptPart (line : List Char) : List Char :=
  ((line.dropWhile isQuote).rdropWhile Text.isWhitespace).rdropWhile isQuote

/-- A newline cuts off nothing that would be shown: what is lost with it are control
characters and outer quotes, or stands behind 256 characters that are shown. -/
def Unbroken (reason : List Char) : Prop :=
  match Text.splitOnce '\n' reason with
  | none => True
  | some (line,rest) =>
    256 ≤ ((keptPart line).filter isPrinted).length ∨
      ((line.dropWhile isQuote).drop (keptPart line).length).all Text.isControl = true ∧
        (rest.rdropWhile isQuote).all Text.isControl = true

instance (reason : List Char) : Decidable (Unbroken reason) := by
  unfold Unbroken
  split <;> infer_instance

theorem filter_isPrinted_eq_nil {cs : List Char} :
    cs.filter isPrinted = [] ↔ cs.all Text.isControl = true := by
  simp [isPrinted,List.filter_eq_nil_iff]

theorem take_append_self_iff {α : Type} (n : Nat) (front back : List α) :
    front.take n = (front ++ back).take n ↔ n ≤ front.length ∨ back = [] := by
  rw [List.take_append]
  constructor
  · intro same
    have nothing : back.take (n - front.length) = [] :=
      List.append_cancel_left (same.symm.trans (List.append_nil _).symm)
    rcases List.take_eq_nil_iff.mp nothing with full | empty
    · exact .inl (by omega)
    · exact .inr empty
  · rintro (full | rfl)
    · rw [Nat.sub_eq_zero_of_le full,List.take_zero,List.append_nil]
    · simp

theorem keptPart_append (line : List Char) :
    keptPart line ++ (line.dropWhile isQuote).drop (keptPart line).length =
      line.dropWhile isQuote := by
  have front : keptPart line <+: line.dropWhile isQuote :=
    (List.rdropWhile_prefix _ _).trans (List.rdropWhile_prefix _ _)
  obtain ⟨lost,whole⟩ := front
  rw [← whole,List.drop_left]

theorem cleanReason_cut_iff (line rest : List Char) :
    cleanReason (Text.trimMatches isQuote (line.rdropWhile Text.isWhitespace)) =
        cleanReason (Text.trimMatches isQuote (line ++ '\n' :: rest)) ↔
      256 ≤ ((keptPart line).filter isPrinted).length ∨
        ((line.dropWhile isQuote).drop (keptPart line).length).all Text.isControl = true ∧
          (rest.rdropWhile isQuote).all Text.isControl = true := by
  have kept : Text.trimMatches isQuote (line.rdropWhile Text.isWhitespace) = keptPart line := by
    rw [Text.trimMatches,Text.trimChars_eq,Text.dropWhile_rdropWhile]
    rfl
  have whole : Text.trimMatches isQuote (line ++ '\n' :: rest) =
      keptPart line ++ ((line.dropWhile isQuote).drop (keptPart line).length ++
        '\n' :: rest.rdropWhile isQuote) := by
    rw [Text.trimMatches,Text.trimChars_eq,← Text.dropWhile_rdropWhile,
      Text.rdropWhile_append_of_last (by decide),List.dropWhile_append,← List.append_assoc,
      keptPart_append]
    split
    · rename_i nothing
      rw [List.isEmpty_iff.mp nothing]
      rfl
    · rfl
  have cut : ((line.dropWhile isQuote).drop (keptPart line).length ++
      '\n' :: rest.rdropWhile isQuote).filter isPrinted = [] ↔
        ((line.dropWhile isQuote).drop (keptPart line).length).all Text.isControl = true ∧
          (rest.rdropWhile isQuote).all Text.isControl = true := by
    rw [filter_isPrinted_eq_nil,List.all_append,List.all_cons,Bool.and_eq_true,Bool.and_eq_true]
    simp only [show Text.isControl '\n' = true from rfl,true_and]
  rw [kept,whole,← cut]
  unfold cleanReason
  rw [List.filter_append]
  exact take_append_self_iff 256 _ _

end Framing

section Wire

variable {status : List Char}

theorem not_mem_of_solid (solid : ∀ c ∈ status, Text.isWhitespace c = false) :
    ' ' ∉ status ∧ '\n' ∉ status :=
  ⟨fun blank => Bool.noConfusion (solid ' ' blank),
    fun newline => Bool.noConfusion (solid '\n' newline)⟩

/-- A line with a reason whose shown part has no newline. -/
theorem received_shown (solid : ∀ c ∈ status, Text.isWhitespace c = false) {shown : List Char}
    (cut : '\n' ∉ shown) (rest : List Char) :
    received ("IBSTATUS ".toList ++ (status ++ ' ' :: '"' :: (shown ++ '\n' :: rest))) =
      if isIbStatus (String.ofList status) then
        some (.action (.ibStatus (String.ofList status) (String.ofList
          (cleanReason (Text.trimMatches isQuote (shown.rdropWhile Text.isWhitespace))))))
      else none := by
  obtain ⟨word,single⟩ := not_mem_of_solid solid
  have line :
      Text.readLine ("IBSTATUS ".toList ++ (status ++ ' ' :: '"' :: (shown ++ '\n' :: rest))) =
        "IBSTATUS ".toList ++ (status ++ ' ' :: '"' :: shown) ++ ['\n'] := by
    rw [← Text.readLine_found (by simp [single,cut]) rest]
    simp
  have trimmed : Text.trimChars Text.isWhitespace
      ("IBSTATUS ".toList ++ (status ++ ' ' :: '"' :: shown)) =
        "IBSTATUS ".toList ++ (status ++ ' ' :: '"' :: shown.rdropWhile Text.isWhitespace) := by
    have ends := @Text.trimChars_of_ends Text.isWhitespace 'I' '"' (by decide) (by decide)
      ("BSTATUS ".toList ++ status ++ [' ']) shown
    simpa using ends
  rw [received,line,Text.trimChars_concat (by decide),CommandServer.parseCommand_ibStatus
    ((Text.trimChars_idem _ _).trans trimmed),CommandServer.parseIbStatus_reason word,
    Text.trimMatches,Text.trimChars_cons (by decide)]
  rfl

theorem received_bare (solid : ∀ c ∈ status, Text.isWhitespace c = false)
    (nonempty : status ≠ []) :
    received ("IBSTATUS ".toList ++ status ++ ['\n']) =
      if isIbStatus (String.ofList status) then
        some (.action (.ibStatus (String.ofList status) ""))
      else none := by
  obtain ⟨word,single⟩ := not_mem_of_solid solid
  have line : Text.readLine ("IBSTATUS ".toList ++ status ++ ['\n']) =
      "IBSTATUS ".toList ++ status ++ ['\n'] := Text.readLine_found (by simp [single]) []
  have trimmed : Text.trimChars Text.isWhitespace ("IBSTATUS ".toList ++ status) =
      "IBSTATUS ".toList ++ status := by
    obtain ⟨middle,last,rfl⟩ := (List.eq_nil_or_concat status).resolve_left nonempty
    have ends := @Text.trimChars_of_ends Text.isWhitespace 'I' last (by decide)
      (solid last (by simp)) ("BSTATUS ".toList ++ middle) []
    simpa using ends
  rw [received,line,Text.trimChars_concat (by decide),CommandServer.parseCommand_ibStatus
    ((Text.trimChars_idem _ _).trans trimmed),CommandServer.parseIbStatus_bare word]

end Wire

theorem Verdict.solid (v : Verdict) :
    (∀ c ∈ v.status.toList, Text.isWhitespace c = false) ∧ v.status.toList ≠ [] := by
  have words : ∀ status ∈ ["available","maintenance","outage","scheduled","no_internet","unknown"],
      status.toList.all (fun c => !Text.isWhitespace c) = true ∧ status.toList ≠ [] := by decide
  have solid := fun status known =>
    And.intro (Text.solid_of_all (words status known).1) (words status known).2
  rcases v with status | ⟨status,admitted⟩
  · cases status <;> exact solid _ (by decide)
  · simp only [List.mem_cons,List.not_mem_nil,or_false] at admitted
    rcases admitted with rfl | rfl
    · exact solid "available" (by decide)
    · exact solid "maintenance" (by decide)

variable (sm : StateMachine) (turn : Turn)

/-- Once the line is taken or refused for its status, the reason alone decides. -/
theorem reaches_iff {v : Verdict} {reason : String} {text : List Char}
    (taken : received (pushLine v.status reason) =
      if isIbStatus v.status then some (.action (.ibStatus v.status (String.ofList text)))
      else none) :
    Reaches sm turn v.status reason ↔ isIbStatus v.status = true ∧
      text = cleanReason (Text.trimMatches isQuote reason.toList) := by
  constructor
  · rintro ⟨sentStatus,shown,parsed,-,arrives⟩
    rw [taken] at parsed
    split at parsed
    · rename_i known
      cases parsed
      exact ⟨known,String.ofList_injective arrives⟩
    · cases parsed
  · rintro ⟨known,same⟩
    rw [if_pos known] at taken
    refine ⟨v.status,_,taken,decide_eq_true_iff,?_⟩
    rw [same]
    rfl

/-- The verdict arrives exactly when ibctl knows its status and no newline cuts its reason. -/
theorem verdict_reaches_iff (v : Verdict) (reason : String) :
    Reaches sm turn v.status reason ↔
      isIbStatus v.status = true ∧ Unbroken reason.toList := by
  obtain ⟨solid,nonempty⟩ := v.solid
  have status := @String.ofList_toList v.status
  by_cases bare : reason = ""
  · subst bare
    have sent := received_bare solid nonempty
    rw [status] at sent
    rw [@reaches_iff sm turn v "" [] sent]
    exact and_congr_right fun _ => iff_of_true rfl trivial
  have push : pushLine v.status reason =
      "IBSTATUS ".toList ++ (v.status.toList ++ ' ' :: '"' :: (reason.toList ++ ['"','\n'])) := by
    simp [pushLine,bare]
  by_cases broken : '\n' ∈ reason.toList
  · obtain ⟨line,rest,parts,free⟩ := List.eq_append_cons_of_mem broken
    have sent := received_shown solid free (rest ++ ['"','\n'])
    have whole : line ++ '\n' :: (rest ++ ['"','\n']) = reason.toList ++ ['"','\n'] := by
      rw [parts,List.append_assoc,List.cons_append]
    rw [status,whole,← push] at sent
    rw [reaches_iff sm turn sent,parts,cleanReason_cut_iff,Unbroken,Text.splitOnce_found free]
  · have sent := @received_shown v.status.toList solid (reason.toList ++ ['"']) (by simp [broken]) []
    rw [status,List.append_assoc,List.cons_append,List.nil_append,← push,
      List.rdropWhile_concat_neg _ _ _ (by decide),Text.trimMatches,
      Text.trimChars_concat (by decide)] at sent
    rw [reaches_iff sm turn sent,Unbroken,Text.splitOnce,if_neg broken]
    exact and_congr_right fun _ => iff_of_true rfl trivial

/-- ibctl as it starts. -/
def started : StateMachine :=
  (Machine.Process.start Recovery.sampleCodec Machine.paperConfig .default Files.empty
    "/home/ibgateway/Jts" (Recovery.sampleClocks 14400)).machine

/-- An outage is dropped for its status, and a maintenance loses its second line. -/
theorem outage_lost :
    ¬ Reaches started (Machine.turnAt (Recovery.sampleClocks 14401) none) SystemStatus.outage.value
        "System outage (no specific blocking alerts)" ∧
      ¬ Reaches started (Machine.turnAt (Recovery.sampleClocks 14401) none)
        SystemStatus.maintenance.value "weekend\nreset" := by
  constructor
  · rintro ⟨_,_,parsed,-⟩
    have refused : received (pushLine SystemStatus.outage.value
        "System outage (no specific blocking alerts)") = none := by decide +kernel
    rw [refused] at parsed
    cases parsed
  · rintro ⟨status,text,parsed,-,arrives⟩
    have cut : received (pushLine SystemStatus.maintenance.value "weekend\nreset") =
        some (.action (.ibStatus "maintenance" "weekend")) := by decide +kernel
    rw [cut] at parsed
    cases parsed
    exact absurd arrives (by decide +kernel)

end Ibctl.Dashboard
