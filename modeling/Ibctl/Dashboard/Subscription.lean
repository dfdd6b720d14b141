import Mathlib.Logic.Function.Basic
import Ibctl.Lib.Json
import Ibctl.Lib.Runs
import Ibctl.Lib.Text

/-! The dashboard's status cache: one subscription task for each instance, and a watchdog
that looks once and may start a polling loop. -/
namespace Ibctl.Dashboard

/-- What ends a task when nothing catches it. -/
inductive Raised where
  | valueError
  | unicodeDecodeError
  | attributeError
  | recursionError
deriving DecidableEq, Repr

inductive LoadsError where
  | jsonDecodeError
  | raised (what : Raised)
deriving DecidableEq, Repr

/-- The `json` module: `loads` may raise more than the decode error, and `dumps` may not
return. -/
structure PythonJson where
  loads : String → Except LoadsError Json
  dumpsRaises : Json → Option Raised

/-- `bytes.decode` of Python, which is strict. -/
def decode (bytes : List UInt8) : Option String := String.fromUTF8? ⟨bytes.toArray⟩

def strip (s : String) : String := Text.trimWith Text.isPythonSpace s

def streamLimit : Nat := 65536

/-- `StreamReader.readline`: up to the newline or the end of the stream, unless that is longer
than the limit. -/
def readline (content : List UInt8) (newline : Bool) : Except Raised (List UInt8) :=
  if streamLimit < content.length then .error .valueError
  else .ok (content ++ if newline then [10] else [])

def maxSubscribeFailures : Nat := 3

def initialBackoff : Nat := 1

def maxBackoff : Nat := 15

/-- Where the task waits, or how it ended. -/
inductive Phase where
  | connecting
  | greeting
  | reading
  | sleeping (secs : Nat)
  | returned
  | raised (what : Raised)
deriving DecidableEq, Repr

/-- What an awaited call of the task gives. -/
inductive Outcome where
  | connected
  | connectFailed
  | line (content : List UInt8) (newline : Bool)
  | timedOut
  | connectionLost
  | slept
deriving DecidableEq, Repr

/-- The status of an event that carries one. -/
def eventStatus (event : Json) : Option Json :=
  if (event.get "type").bind Json.asStr ∈ [some "snapshot",some "status"] then
    match event.get "status" with
    | some (.object status) => some (.object status)
    | _ => none
  else none

/-- `_handle_line` with the callback of the registry: the status that is cached, and what is
raised. The cache is written before the status is published. -/
def handleLine (py : PythonJson) (publishes : Bool) (line : String) :
    Option Json × Option Raised :=
  if line = "" then (none,none)
  else
    match py.loads line with
    | .error .jsonDecodeError => (none,none)
    | .error (.raised what) => (none,some what)
    | .ok (.object members) =>
      match eventStatus (.object members) with
      | some status => (some status,if publishes then py.dumpsRaises status else none)
      | none => (none,none)
    | .ok _ => (none,some .attributeError)

structure SubscribeClient where
  phase : Phase
  backoff : Nat
  consecutiveFailures : Nat
  subscribeSupported : Bool
deriving DecidableEq, Repr

namespace SubscribeClient

def start : SubscribeClient := ⟨.connecting,initialBackoff,0,true⟩

variable (c : SubscribeClient)

def running : Bool :=
  match c.phase with
  | .returned | .raised _ => false
  | _ => true

/-- The sleep before the next attempt, after which the pause has doubled. -/
def retry : SubscribeClient :=
  { c with phase := .sleeping c.backoff, backoff := min (c.backoff * 2) maxBackoff }

def unsupported : SubscribeClient := { c with phase := .returned, subscribeSupported := false }

def connectFailed : SubscribeClient :=
  let failed := { c with consecutiveFailures := c.consecutiveFailures + 1 }
  if failed.consecutiveFailures ≥ maxSubscribeFailures then failed.unsupported else failed.retry

variable (py : PythonJson) (publishes : Bool)

def takeEvent (line : String) (next : SubscribeClient) : SubscribeClient × Option Json :=
  match handleLine py publishes line with
  | (status,some what) => ({ c with phase := .raised what },status)
  | (status,none) => (next,status)

/-- A line that was read: the end of the stream, or bytes that are decoded and stripped. -/
def takeLine (content : List UInt8) (newline : Bool)
    (handle : String → SubscribeClient × Option Json) : SubscribeClient × Option Json :=
  match readline content newline with
  | .error what => ({ c with phase := .raised what },none)
  | .ok [] => (c.retry,none)
  | .ok bytes =>
    match decode bytes with
    | none => ({ c with phase := .raised .unicodeDecodeError },none)
    | some text => handle (strip text)

/-- The first line tells whether SUBSCRIBE is known. -/
def takeFirst (first : String) : SubscribeClient × Option Json :=
  if first.startsWith "ERROR" then (c.unsupported,none)
  else c.takeEvent py publishes first
    { c with phase := .reading, consecutiveFailures := 0, backoff := initialBackoff }

def step : Outcome → SubscribeClient × Option Json
  | .connected => (if c.phase = .connecting then { c with phase := .greeting } else c,none)
  | .connectFailed => (if c.phase = .connecting then c.connectFailed else c,none)
  | .line content newline =>
    match c.phase with
    | .greeting => c.takeLine content newline (c.takeFirst py publishes)
    | .reading => c.takeLine content newline (fun line => c.takeEvent py publishes line c)
    | _ => (c,none)
  | .timedOut | .connectionLost =>
    match c.phase with
    | .greeting | .reading => (c.retry,none)
    | _ => (c,none)
  | .slept =>
    match c.phase with
    | .sleeping _ => ({ c with phase := .connecting },none)
    | _ => (c,none)

end SubscribeClient

inductive Watchdog where
  | sleeping
  | ended
  | polling
deriving DecidableEq, Repr

structure InstanceRegistry where
  modes : List String
  clients : String → SubscribeClient
  watchdog : Watchdog
  cache : String → Option Json

inductive RegistryEvent where
  | client (mode : String) (outcome : Outcome)
  | look
  | poll (answers : String → Option Json)

namespace InstanceRegistry

def start (modes : List String) (cache : String → Option Json) : InstanceRegistry :=
  ⟨modes,fun _ => .start,.sleeping,cache⟩

variable (py : PythonJson) (publishes : Bool) (r : InstanceRegistry)

def needsPolling : Bool := r.modes.any (fun mode => !(r.clients mode).subscribeSupported)

/-- The only look of the watchdog, ten seconds after the start. -/
def look : InstanceRegistry :=
  if r.watchdog = .sleeping then
    { r with watchdog := if r.needsPolling then .polling else .ended }
  else r

/-- One round of the polling loop: the instances that answer are cached. -/
def poll (answers : String → Option Json) : InstanceRegistry :=
  if r.watchdog = .polling then
    { r with cache := fun mode =>
        if mode ∈ r.modes then (answers mode).orElse (fun _ => r.cache mode) else r.cache mode }
  else r

def takeOutcome (mode : String) (outcome : Outcome) : InstanceRegistry :=
  if mode ∈ r.modes then
    let (client,status) := (r.clients mode).step py publishes outcome
    { r with
      clients := Function.update r.clients mode client
      cache := if status.isSome then Function.update r.cache mode status else r.cache }
  else r

def step : RegistryEvent → InstanceRegistry
  | .client mode outcome => r.takeOutcome py publishes mode outcome
  | .look => r.look
  | .poll answers => r.poll answers

/-- Nothing that was registered is left without someone who keeps its status up to date. -/
def Followed : Prop :=
  ∀ mode ∈ r.modes, (r.clients mode).running = true ∨ r.watchdog = .polling

end InstanceRegistry

section Endings

variable (py : PythonJson) (publishes : Bool)

/-- A line that `_handle_line` does not survive: `loads` raises something else than its decode
error, what it gives is not an object, or it carries a status that cannot be published. -/
def EventFails (line : String) : Prop :=
  line ≠ "" ∧
    match py.loads line with
    | .error .jsonDecodeError => False
    | .error (.raised _) => True
    | .ok (.object members) =>
      publishes = true ∧
        ∃ status, eventStatus (.object members) = some status ∧ py.dumpsRaises status ≠ none
    | .ok _ => True

/-- A line the task does not survive: too long, not UTF-8, a refusal of SUBSCRIBE, or one that
`_handle_line` does not survive. The end of the stream is survived. -/
def LineEnds (first : Bool) (content : List UInt8) (newline : Bool) : Prop :=
  streamLimit < content.length ∨
    (content ≠ [] ∨ newline = true) ∧
      match decode (content ++ if newline then [10] else []) with
      | none => True
      | some text =>
        first = true ∧ (strip text).startsWith "ERROR" = true ∨ EventFails py publishes (strip text)

theorem handleLine_raises_iff (line : String) :
    (handleLine py publishes line).2 ≠ none ↔ EventFails py publishes line := by
  unfold handleLine EventFails
  by_cases empty : line = ""
  · simp [empty]
  rw [if_neg empty]
  cases py.loads line with
  | error e => cases e <;> simp [empty]
  | ok event =>
    cases event with
    | object members =>
      cases carried : eventStatus (.object members) <;> simp [empty,carried]
    | _ => simp [empty]

namespace SubscribeClient

/-- What ends the task in the phase it is in. -/
def Ends (c : SubscribeClient) (outcome : Outcome) : Prop :=
  match c.phase,outcome with
  | .connecting,.connectFailed => maxSubscribeFailures ≤ c.consecutiveFailures + 1
  | .greeting,.line content newline => LineEnds py publishes true content newline
  | .reading,.line content newline => LineEnds py publishes false content newline
  | _,_ => False

variable (c : SubscribeClient)

theorem retry_running : c.retry.running = true := rfl

theorem takeEvent_running_iff {line : String} {next : SubscribeClient}
    (goes : next.running = true) :
    (c.takeEvent py publishes line next).1.running = true ↔ ¬ EventFails py publishes line := by
  rw [← handleLine_raises_iff,not_not]
  unfold takeEvent
  cases handled : handleLine py publishes line with
  | mk status what =>
    cases what with
    | none => exact iff_of_true goes rfl
    | some what => exact iff_of_false Bool.false_ne_true (Option.some_ne_none what)

theorem takeLine_running_iff {content : List UInt8} {newline : Bool} {first : Bool}
    {handle : String → SubscribeClient × Option Json}
    (handles : ∀ line, (handle line).1.running = true ↔
      ¬ (first = true ∧ line.startsWith "ERROR" = true ∨ EventFails py publishes line)) :
    (c.takeLine content newline handle).1.running = true ↔
      ¬ LineEnds py publishes first content newline := by
  unfold takeLine LineEnds readline
  by_cases long : streamLimit < content.length
  · simp [long,running]
  rw [if_neg long]
  cases read : content ++ (if newline = true then [10] else []) with
  | nil =>
    have ended : content = [] ∧ newline = false := by simpa using read
    simp [ended.1,ended.2,retry_running]
  | cons byte bytes =>
    have some : content ≠ [] ∨ newline = true := by
      by_contra nothing
      obtain ⟨empty,last⟩ := not_or.mp nothing
      rw [not_not.mp empty,if_neg last] at read
      cases read
    dsimp only
    cases decode (byte :: bytes) with
    | none => simp [some,running]
    | some text => simpa [long,some] using handles (strip text)

/-- A running task goes on exactly when nothing ends it. -/
theorem step_running_iff (goes : c.running = true) (outcome : Outcome) :
    (c.step py publishes outcome).1.running = true ↔ ¬ c.Ends py publishes outcome := by
  cases phase : c.phase with
  | connecting =>
    cases outcome with
    | connectFailed =>
      simp only [step,Ends,phase,if_true,connectFailed]
      by_cases last : maxSubscribeFailures ≤ c.consecutiveFailures + 1
      · simp [last,unsupported,running]
      · simp [last,retry_running]
    | connected => simp [step,Ends,phase,running]
    | _ => simpa [step,Ends,phase] using goes
  | greeting =>
    cases outcome with
    | line content newline =>
      simp only [step,Ends,phase]
      refine c.takeLine_running_iff py publishes fun line => ?_
      unfold takeFirst
      by_cases refused : line.startsWith "ERROR" = true
      · simp [refused,unsupported,running]
      · simpa [refused] using c.takeEvent_running_iff py publishes rfl
    | timedOut => simp [step,Ends,phase,retry_running]
    | connectionLost => simp [step,Ends,phase,retry_running]
    | _ => simpa [step,Ends,phase] using goes
  | reading =>
    cases outcome with
    | line content newline =>
      simp only [step,Ends,phase]
      refine c.takeLine_running_iff py publishes fun line => ?_
      simpa using c.takeEvent_running_iff py publishes goes
    | timedOut => simp [step,Ends,phase,retry_running]
    | connectionLost => simp [step,Ends,phase,retry_running]
    | _ => simpa [step,Ends,phase] using goes
  | sleeping secs =>
    cases outcome with
    | slept => simp [step,Ends,phase,running]
    | _ => simpa [step,Ends,phase] using goes
  | returned => simp [running,phase] at goes
  | raised what => simp [running,phase] at goes

theorem step_ended (ended : c.running = false) (outcome : Outcome) :
    c.step py publishes outcome = (c,none) := by
  cases phase : c.phase with
  | returned => cases outcome <;> simp [step,phase]
  | raised what => cases outcome <;> simp [step,phase]
  | _ => simp [running,phase] at ended

end SubscribeClient

end Endings

namespace InstanceRegistry

variable (py : PythonJson) (publishes : Bool) (r : InstanceRegistry)

/-- While nothing polls, no task meets its end. -/
def Keeps : RegistryEvent → Prop
  | .client mode outcome =>
    mode ∈ r.modes → r.watchdog = .polling ∨ ¬ (r.clients mode).Ends py publishes outcome
  | _ => True

/-- The look finds a task that was marked unsupported or else all of them running, and after a
look that started no polling no task meets its end. -/
def KeepsFromLook : RegistryEvent → Prop
  | .client mode outcome =>
    mode ∈ r.modes → r.watchdog ≠ .ended ∨ ¬ (r.clients mode).Ends py publishes outcome
  | .look =>
    r.watchdog = .sleeping → r.needsPolling = true ∨ ∀ mode ∈ r.modes,(r.clients mode).running = true
  | .poll _ => True

variable {r}

theorem followed_of_polling (polls : r.watchdog = .polling) : r.Followed := fun _ _ => .inr polls

theorem Followed.running (followed : r.Followed) (idle : r.watchdog ≠ .polling) :
    ∀ mode ∈ r.modes, (r.clients mode).running = true :=
  fun mode known => (followed mode known).resolve_right idle

theorem takeOutcome_watchdog (mode : String) (outcome : Outcome) :
    (r.takeOutcome py publishes mode outcome).watchdog = r.watchdog := by
  unfold takeOutcome
  split <;> rfl

theorem takeOutcome_modes (mode : String) (outcome : Outcome) :
    (r.takeOutcome py publishes mode outcome).modes = r.modes := by
  unfold takeOutcome
  split <;> rfl

theorem takeOutcome_clients (mode : String) (known : mode ∈ r.modes) (outcome : Outcome)
    (other : String) :
    (r.takeOutcome py publishes mode outcome).clients other =
      if other = mode then ((r.clients mode).step py publishes outcome).1 else r.clients other := by
  unfold takeOutcome
  rw [if_pos known]
  exact Function.update_apply ..

theorem takeOutcome_cache (mode : String) (known : mode ∈ r.modes) (outcome : Outcome)
    (other : String) :
    (r.takeOutcome py publishes mode outcome).cache other =
      if other = mode ∧ ((r.clients mode).step py publishes outcome).2.isSome = true then
        ((r.clients mode).step py publishes outcome).2
      else r.cache other := by
  unfold takeOutcome
  rw [if_pos known]
  dsimp only
  split
  · rename_i pushed
    rw [Function.update_apply]
    simp [pushed]
  · rename_i silent
    simp [silent]

/-- What an outcome does to the tasks when all of them run and nothing polls. -/
theorem takeOutcome_followed_iff (run : ∀ mode ∈ r.modes, (r.clients mode).running = true)
    (idle : r.watchdog ≠ .polling) {mode : String} (known : mode ∈ r.modes) (outcome : Outcome) :
    (r.takeOutcome py publishes mode outcome).Followed ↔
      ¬ (r.clients mode).Ends py publishes outcome := by
  have same := (r.clients mode).step_running_iff py publishes (run mode known) outcome
  unfold Followed
  rw [takeOutcome_modes,takeOutcome_watchdog,← same]
  constructor
  · intro followed
    have left := (followed mode known).resolve_right idle
    rwa [takeOutcome_clients py publishes mode known,if_pos rfl] at left
  · intro goes other registered
    rw [takeOutcome_clients py publishes mode known]
    split
    · exact .inl goes
    · exact .inl (run other registered)

theorem takeOutcome_unknown {mode : String} (unknown : mode ∉ r.modes) (outcome : Outcome) :
    r.takeOutcome py publishes mode outcome = r := if_neg unknown

theorem poll_followed_iff (answers : String → Option Json) :
    (r.poll answers).Followed ↔ r.Followed := by
  unfold poll
  split <;> exact Iff.rfl

theorem poll_watchdog (answers : String → Option Json) :
    (r.poll answers).watchdog = r.watchdog := by
  unfold poll
  split <;> rfl

/-- The look changes nothing for tasks that all run. -/
theorem look_followed (followed : r.Followed) : r.look.Followed := by
  unfold look
  split
  · rename_i asleep
    intro mode known
    exact .inl (followed.running (by simp [asleep]) mode known)
  · exact followed

theorem look_followed_iff (asleep : r.watchdog = .sleeping) :
    r.look.Followed ↔
      r.needsPolling = true ∨ ∀ mode ∈ r.modes, (r.clients mode).running = true := by
  unfold look
  rw [if_pos asleep]
  cases needs : r.needsPolling with
  | true => exact iff_of_true (followed_of_polling rfl) (.inl rfl)
  | false => simp [Followed]

/-- One step keeps the instances followed exactly under its condition. -/
theorem step_followed_iff (followed : r.Followed) (e : RegistryEvent) :
    (r.step py publishes e).Followed ↔ r.Keeps py publishes e := by
  cases e with
  | client mode outcome =>
    by_cases known : mode ∈ r.modes
    · by_cases polls : r.watchdog = .polling
      · refine iff_of_true (followed_of_polling ?_) fun _ => .inl polls
        exact (takeOutcome_watchdog py publishes mode outcome).trans polls
      · have ends := takeOutcome_followed_iff py publishes (followed.running polls) polls known outcome
        exact ends.trans ⟨fun goes _ => .inr goes,fun goes => (goes known).resolve_left polls⟩
    · refine iff_of_true ?_ fun registered => absurd registered known
      change (r.takeOutcome py publishes mode outcome).Followed
      rwa [takeOutcome_unknown py publishes known]
  | look => exact iff_of_true (look_followed followed) trivial
  | poll answers => exact iff_of_true ((poll_followed_iff answers).mpr followed) trivial

theorem look_awake : r.look.watchdog ≠ .sleeping := by
  unfold look
  split
  · cases r.needsPolling <;> simp
  · assumption

/-- The same from the look on. -/
theorem step_followedFromLook_iff (followed : r.watchdog = .sleeping ∨ r.Followed)
    (e : RegistryEvent) :
    ((r.step py publishes e).watchdog = .sleeping ∨ (r.step py publishes e).Followed) ↔
      r.KeepsFromLook py publishes e := by
  by_cases asleep : r.watchdog = .sleeping
  · cases e with
    | client mode outcome =>
      have still := (takeOutcome_watchdog py publishes mode outcome).trans asleep
      exact iff_of_true (.inl still) fun _ => .inl (by simp [asleep])
    | look =>
      refine (or_iff_right look_awake).trans ((look_followed_iff asleep).trans ?_)
      exact ⟨fun holds _ => holds,fun holds => holds asleep⟩
    | poll answers => exact iff_of_true (.inl ((poll_watchdog answers).trans asleep)) trivial
  · have kept := step_followed_iff py publishes (followed.resolve_left asleep) e
    cases e with
    | client mode outcome =>
      have awake := (takeOutcome_watchdog py publishes mode outcome).symm ▸ asleep
      have polls : r.watchdog ≠ .ended ↔ r.watchdog = .polling := by
        cases on : r.watchdog <;> simp [on] at asleep ⊢
      refine (or_iff_right awake).trans (kept.trans ?_)
      exact forall_congr' fun _ => or_congr_left polls.symm
    | look => exact iff_of_true (.inr (kept.mpr trivial)) fun again => absurd again asleep
    | poll answers => exact iff_of_true (.inr (kept.mpr trivial)) trivial

theorem start_followed (modes : List String) (cache : String → Option Json) :
    (start modes cache).Followed := fun _ _ => .inl rfl

instance (r : InstanceRegistry) : Decidable r.Followed :=
  inferInstanceAs (Decidable (∀ mode ∈ r.modes,
    (r.clients mode).running = true ∨ r.watchdog = .polling))

/-- Every registered instance stays followed exactly as long as no task ends unpolled; and from
the look on, exactly when the look finds an unsupported task or none that has ended, and
without polling none ends later. -/
theorem cache_followed_iff (modes : List String) (cache : String → Option Json)
    (events : List RegistryEvent) :
    (Runs.Along (step py publishes) (fun r e => (r.step py publishes e).Followed)
        (start modes cache) events ↔
      Runs.Along (step py publishes) (Keeps py publishes) (start modes cache) events) ∧
    (Runs.Along (step py publishes)
        (fun r e => (r.step py publishes e).watchdog = .sleeping ∨ (r.step py publishes e).Followed)
        (start modes cache) events ↔
      Runs.Along (step py publishes) (KeepsFromLook py publishes) (start modes cache) events) := by
  constructor
  · exact Runs.along_iff (fun _ e followed => step_followed_iff py publishes followed e)
      (fun _ _ _ holds => holds) (start_followed modes cache)
  · exact Runs.along_iff (fun _ e followed => step_followedFromLook_iff py publishes followed e)
      (fun _ _ _ holds => holds) (.inl rfl)

/-- What a mode is left with when its task has ended and the watchdog too. -/
def Frozen (mode : String) (status : Option Json) (r : InstanceRegistry) : Prop :=
  (r.clients mode).running = false ∧ r.watchdog = .ended ∧ r.cache mode = status

theorem step_frozen {mode : String} {status : Option Json} (frozen : r.Frozen mode status)
    (e : RegistryEvent) : (r.step py publishes e).Frozen mode status := by
  obtain ⟨ended,looked,cached⟩ := frozen
  cases e with
  | client other outcome =>
    change (r.takeOutcome py publishes other outcome).Frozen mode status
    by_cases known : other ∈ r.modes
    · unfold Frozen
      rw [takeOutcome_clients py publishes other known,takeOutcome_cache py publishes other known,
        takeOutcome_watchdog]
      by_cases same : mode = other
      · subst same
        rw [(r.clients mode).step_ended py publishes ended]
        simpa using ⟨ended,looked,cached⟩
      · rw [if_neg same,if_neg (fun both => same both.1)]
        exact ⟨ended,looked,cached⟩
    · rw [takeOutcome_unknown py publishes known]
      exact ⟨ended,looked,cached⟩
  | look =>
    have still : r.look = r := if_neg (by simp [looked])
    change r.look.Frozen mode status
    rw [still]
    exact ⟨ended,looked,cached⟩
  | poll answers =>
    have still : r.poll answers = r := if_neg (by simp [looked])
    change (r.poll answers).Frozen mode status
    rw [still]
    exact ⟨ended,looked,cached⟩

/-- From then on its status is what it was, whatever happens. -/
theorem frozen_forever {mode : String} {status : Option Json} (frozen : r.Frozen mode status)
    (events : List RegistryEvent) :
    (Runs.run (step py publishes) r events).Frozen mode status :=
  Runs.Along.invariant (G := fun _ _ => True) (P := fun r => r.Frozen mode status)
    (fun _ e before _ => step_frozen py publishes before e) frozen
    (Runs.along_of_forall r events fun _ _ _ => trivial)

end InstanceRegistry

def helloLine : List UInt8 := "\x7b\"type\":\"snapshot\",\"version\":1,\"status\":\x7b\x7d\x7d".toUTF8.data.toList

def samplePython : PythonJson where
  loads line :=
    if line = "\x7b\"type\":\"snapshot\",\"version\":1,\"status\":\x7b\x7d\x7d" then
      .ok (.object [("type",.string "snapshot"),("version",.number "1"),("status",.object [])])
    else .error .jsonDecodeError
  dumpsRaises _ := none

/-- ibctl answers, the watchdog looks, and later ibctl is gone for a quarter of a minute. -/
def outage : List RegistryEvent :=
  [.client "live" .connected,.client "live" (.line helloLine true),.look,
    .client "live" (.line [] false),.client "live" .slept,.client "live" .connectFailed,
    .client "live" .slept,.client "live" .connectFailed,.client "live" .slept,
    .client "live" .connectFailed]

/-- The task gives up, nothing polls, and what was cached stays for ever. -/
theorem outage_freezes :
    ¬ Runs.Along (InstanceRegistry.step samplePython true)
        (fun r e => (r.step samplePython true e).watchdog = .sleeping ∨
          (r.step samplePython true e).Followed)
        (.start ["live"] (fun _ => none)) outage ∧
      ∀ later, (Runs.run (InstanceRegistry.step samplePython true)
        (.start ["live"] (fun _ => none)) (outage ++ later)).Frozen "live"
          ((Runs.run (InstanceRegistry.step samplePython true)
            (.start ["live"] (fun _ => none)) outage).cache "live") := by
  refine ⟨by decide +kernel,fun later => ?_⟩
  rw [Runs.run_append]
  exact InstanceRegistry.frozen_forever _ _ ⟨by decide +kernel,by decide +kernel,rfl⟩ later

end Ibctl.Dashboard
