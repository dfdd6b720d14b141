import Ibctl.Dashboard.CallbackTokens
import Ibctl.Dashboard.SignedData
import Ibctl.Dashboard.UsedTokens
import Ibctl.Lib.Runs

/-! The callback of a notification that a mode gave up. Its handler waits once, for the answer
of `ibctl`; what it does before and after that wait is two steps, and those of many requests
can come in any order. -/
namespace Ibctl.Dashboard
open Runs

section Limiter

/-- A dict from an address to the times of its requests, in the order of insertion. -/
structure RateLimiter where
  window : Nat
  maxRequests : Nat
  tableMaxSize : Nat
  ipTimestamps : List (String × List Nat)

def lastHit (entry : String × List Nat) : Nat := entry.2.getLast?.getD 0

/-- The first entry whose last request is the oldest. -/
def oldestEntry : List (String × List Nat) → Option (String × List Nat)
  | [] => none
  | entry :: rest =>
    match oldestEntry rest with
    | none => some entry
    | some other => if lastHit other < lastHit entry then some other else some entry

namespace RateLimiter

variable (self : RateLimiter)

def evictIfNeeded : RateLimiter :=
  if self.ipTimestamps.length ≤ self.tableMaxSize then self
  else
    match oldestEntry self.ipTimestamps with
    | none => self
    | some oldest =>
      { self with ipTimestamps := self.ipTimestamps.filter (fun entry => entry.1 ≠ oldest.1) }

/-- False when the address is over its limit; nothing where its own entry was evicted, which
raises a `KeyError`. -/
def check (ip : String) (now : Nat) : Option Bool × RateLimiter :=
  let entered :=
    if self.ipTimestamps.any (fun entry => entry.1 = ip) then self
    else { self with ipTimestamps := self.ipTimestamps ++ [(ip,[])] }.evictIfNeeded
  match entered.ipTimestamps.lookup ip with
  | none => (none,entered)
  | some bucket =>
    let recent := bucket.dropWhile (fun time => decide (time < now - self.window))
    let put (times : List Nat) :=
      entered.ipTimestamps.map (fun entry => if entry.1 = ip then (ip,times) else entry)
    let last (times : List Nat) :=
      entered.ipTimestamps.filter (fun entry => entry.1 ≠ ip) ++ [(ip,times)]
    let moved := recent = [] ∧ self.tableMaxSize < entered.ipTimestamps.length
    let times := if self.maxRequests ≤ recent.length then recent else recent ++ [now]
    (some (decide (recent.length < self.maxRequests)),
      { entered with ipTimestamps := if moved then last times else put times })

end RateLimiter

end Limiter

section Endpoint

def Reason.text : Reason → List Char
  | .ok => "ok".toList
  | .malformed => "malformed".toList
  | .badVersion => "bad_version".toList
  | .badIntent => "bad_intent".toList
  | .expired => "expired".toList
  | .badSignature => "bad_signature".toList

def reconnectIntent : List Char := "reconnect".toList

def extractMode (token : List Char) : Option (List Char) :=
  match token.splitOn '.' with
  | [_,_,_,_,mode,_] => if mode = [] then none else some mode
  | _ => none

inductive Response where
  | error (status : Nat) (payload : List (String × List Char))
  | prompt (mode token : List Char)
  | confirmation (mode : List Char)
  /-- An exception the handler does not catch. -/
  | crashed
deriving DecidableEq

/-- What the endpoint is deployed with: the signatures, the digests, the key of the environment
and the modes that have an instance. -/
structure Site (δ : Type) where
  mac : Mac
  sha256 : List Char → δ
  signingKey : List Char
  hasInstance : List Char → Bool

structure Post where
  ip : Option String
  t : List Char
  mode : List Char

/-- The clock at the limiter, at the validation and at the cache. -/
structure Readings where
  limited : Nat
  validated : Nat
  tested : Nat

def invalidToken (reason : String) : Response :=
  .error 403 [("error","invalid_token".toList),("reason",reason.toList)]

variable {δ : Type} [DecidableEq δ] (site : Site δ)

/-- The token validates at this time. -/
def Validates (token : List Char) (now : Nat) : Prop :=
  validateToken site.mac site.signingKey token reconnectIntent (seconds now) = .ok

instance (token : List Char) (now : Nat) : Decidable (Validates site token now) :=
  inferInstanceAs (Decidable (_ = _))

def modeOf (mode : List Char) : List Char :=
  (Text.trimChars Text.isPythonSpace mode).flatMap Text.lowerChar

/-- What `_validate_common` makes of a request: the mode, or the response it ends with. -/
def validateCommon (limiter : RateLimiter) (post : Post) (at_ : Readings) :
    Except Response (List Char) × RateLimiter :=
  let mode := modeOf post.mode
  match limiter.check (post.ip.getD "unknown") at_.limited with
  | (none,checked) => (.error .crashed,checked)
  | (some false,checked) => (.error (.error 429 [("error","rate_limited".toList)]),checked)
  | (some true,checked) =>
    (if site.signingKey = [] then
        .error (.error 500 [("error","signing_key_not_configured".toList)])
      else if mode ∉ validModes ∨ '.' ∈ mode then .error (.error 403 [("error","invalid_mode".toList)])
      else
        match validateToken site.mac site.signingKey post.t reconnectIntent (seconds at_.validated) with
        | .ok =>
          match extractMode post.t with
          | some tokenMode =>
            if tokenMode ≠ mode then .error (invalidToken "mode_mismatch") else .ok mode
          | none => .ok mode
        | reason => .error (.error 403 [("error","invalid_token".toList),("reason",reason.text)]),
      checked)

/-- A request that waits for the answer of its instance. -/
structure Flight where
  token : List Char
  mode : List Char
deriving DecidableEq

structure Callbacks (δ : Type) where
  limiter : RateLimiter
  used : UsedTokenCache δ
  inFlight : List Flight

def usedTokenTtlSecs : Nat := 12 * 3600

def usedTokenCacheMax : Nat := 4096

def Callbacks.start : Callbacks δ where
  limiter := ⟨60 * microseconds,10,1024,[]⟩
  used := .new (usedTokenTtlSecs * microseconds) usedTokenCacheMax
  inFlight := []

/-- `reconnect_callback_prompt`. -/
def reconnectCallbackPrompt (c : Callbacks δ) (post : Post) (at_ : Readings) : Response × Callbacks δ :=
  match validateCommon site c.limiter post at_ with
  | (.error response,limiter) => (response,{ c with limiter })
  | (.ok mode,limiter) => (.prompt mode post.t,{ c with limiter })

/-- `reconnect_callback_dispatch` up to its wait. -/
def dispatchUntilSent (c : Callbacks δ) (post : Post) (at_ : Readings) :
    Except Response Flight × Callbacks δ :=
  match validateCommon site c.limiter post at_ with
  | (.error response,limiter) => (.error response,{ c with limiter })
  | (.ok mode,limiter) =>
    match c.used.contains (site.sha256 post.t) at_.tested with
    | (true,used) => (.error (invalidToken "replay"),{ c with limiter, used })
    | (false,used) =>
      if site.hasInstance mode then
        let flight : Flight := ⟨post.t,mode⟩
        (.ok flight,{ limiter, used, inFlight := c.inFlight ++ [flight] })
      else (.error (.error 403 [("error","invalid_mode".toList)]),{ c with limiter, used })

/-- The line that is sent to the instance. -/
def Flight.command (flight : Flight) : List Char := "RESUME_RECONNECT ".toList ++ flight.token

/-- How `send_command` ends. -/
inductive Reply where
  | returned (result : Option (List Char))
  | dashboardError (message : List Char)
  | raised (exception : List Char)

def isTokenChar (c : Char) : Bool :=
  Text.isAsciiAlphanumeric c || c = '_' || c = '.' || c = '-'

/-- What looks like a token is cut out of a detail, and the rest cut short. -/
def redact : Nat → List Char → List Char
  | 0,_ => []
  | _,[] => []
  | n + 1,c :: rest =>
    let body := (rest.drop 2).takeWhile isTokenChar
    if c = 'v' ∧ "2.".toList.isPrefixOf rest ∧ 20 ≤ body.length then
      "v2.<redacted>".toList ++ redact n ((rest.drop 2).drop body.length)
    else c :: redact n rest

def sanitizeDetail (msg : List Char) : List Char := (redact msg.length msg).take 200

def looksLikeNack (result : List Char) : Bool :=
  let lower := result.flatMap Text.lowerChar
  result = [] || "error".toList.isPrefixOf lower || "nack".toList.isPrefixOf lower

def Reply.text : Reply → List Char
  | returned result => Text.trimChars Text.isPythonSpace (result.getD [])
  | _ => []

/-- The reply that is taken for an acknowledgement. -/
def Reply.accepts : Reply → Bool
  | reply@(returned _) => !looksLikeNack reply.text
  | _ => false

/-- `reconnect_callback_dispatch` from its wait on. -/
def dispatchAnswered (c : Callbacks δ) (flight : Flight) (reply : Reply) (now : Nat) :
    Response × Callbacks δ :=
  match reply with
  | .dashboardError message =>
    (.error 502 [("error","ibctl_unreachable".toList),("detail",sanitizeDetail message)],c)
  | .raised exception =>
    (.error 502 [("error","ibctl_dispatch_failed".toList),("detail",exception)],c)
  | .returned _ =>
    if looksLikeNack reply.text then
      (.error 502 [("error","ibctl_command_rejected".toList),("detail",sanitizeDetail reply.text)],c)
    else (.confirmation flight.mode,{ c with used := c.used.add (site.sha256 flight.token) now })

end Endpoint

section Runs

variable {δ : Type} [DecidableEq δ] (site : Site δ)

/-- What happens at the endpoint: a request up to its wait or its response, the end of a wait,
and a request that is given up while it waits. -/
inductive CallbackEvent where
  | prompted (post : Post) (at_ : Readings)
  | posted (post : Post) (at_ : Readings)
  | answered (n : Nat) (reply : Reply) (now : Nat)
  | abandoned (n : Nat)

/-- The endpoint, the tokens whose requests were answered with success, and the time. -/
structure CallbackWatch (δ : Type) where
  callbacks : Callbacks δ
  accepted : List (List Char × Nat)
  clock : Nat

namespace CallbackWatch

def start : CallbackWatch δ := ⟨.start,[],0⟩

variable (w : CallbackWatch δ)

/-- The token that the event sends to an instance. -/
def sends : CallbackEvent → Option (List Char)
  | .posted post at_ =>
    match (dispatchUntilSent site w.callbacks post at_).1 with
    | .ok flight => some flight.token
    | .error _ => none
  | _ => none

/-- The token whose request the event answers with success. -/
def accepts : CallbackEvent → Option (List Char)
  | .answered n reply now =>
    match w.callbacks.inFlight[n]? with
    | none => none
    | some flight =>
      match (dispatchAnswered site w.callbacks flight reply now).1 with
      | .confirmation _ => some flight.token
      | _ => none
  | _ => none

def step (event : CallbackEvent) : CallbackWatch δ :=
  match event with
  | .prompted post at_ =>
    { w with callbacks := (reconnectCallbackPrompt site w.callbacks post at_).2, clock := at_.validated }
  | .posted post at_ =>
    { w with callbacks := (dispatchUntilSent site w.callbacks post at_).2, clock := at_.tested }
  | .answered n reply now =>
    match w.callbacks.inFlight[n]? with
    | none => { w with clock := now }
    | some flight =>
      let answered := (dispatchAnswered site w.callbacks flight reply now).2
      { callbacks := { answered with inFlight := answered.inFlight.eraseIdx n }
        accepted := w.accepted ++ ((w.accepts site event).map fun token => (token,now)).toList
        clock := now }
  | .abandoned n =>
    { w with callbacks := { w.callbacks with inFlight := w.callbacks.inFlight.eraseIdx n } }

/-- The clock does not run backwards. -/
def Ticks : CallbackEvent → Prop
  | .prompted _ at_ => w.clock ≤ at_.limited ∧ at_.limited ≤ at_.validated
  | .posted _ at_ => w.clock ≤ at_.limited ∧ at_.limited ≤ at_.validated ∧ at_.validated ≤ at_.tested
  | .answered _ _ now => w.clock ≤ now
  | .abandoned _ => True

instance decidableTicks : ∀ event, Decidable (w.Ticks event)
  | .prompted _ _ => inferInstanceAs (Decidable (_ ∧ _))
  | .posted _ _ => inferInstanceAs (Decidable (_ ∧ _ ∧ _))
  | .answered _ _ _ => inferInstanceAs (Decidable (_ ≤ _))
  | .abandoned _ => isTrue trivial

/-- While a token validates, it is accepted once, and not sent again after that. -/
def DispatchedOnce (event : CallbackEvent) : Prop :=
  (∀ token, w.sends site event = some token → ∀ time, (token,time) ∉ w.accepted) ∧
    ∀ token, w.accepts site event = some token →
      Validates site token (w.step site event).clock → ∀ time, (token,time) ∉ w.accepted

/-- A token that validates comes back soon enough after it was accepted: within the time the cache
keeps it, and before too many others were accepted. One that is acknowledged waits in no other
request, and shares its digest with no other token that was accepted. -/
def SingleFile : CallbackEvent → Prop
  | .posted post at_ => Validates site post.t at_.validated →
      ∀ before time after, w.accepted = before ++ (post.t,time) :: after →
        at_.tested < time + usedTokenTtlSecs * microseconds ∧ after.length < usedTokenCacheMax
  | .answered n reply _ => reply.accepts = true → ∀ flight, w.callbacks.inFlight[n]? = some flight →
      (∀ m other, m ≠ n → w.callbacks.inFlight[m]? = some other → other.token ≠ flight.token) ∧
        ∀ token time, (token,time) ∈ w.accepted →
          site.sha256 token = site.sha256 flight.token → token = flight.token
  | _ => True

end CallbackWatch

variable {site}

/-- A token's entry in the cache. -/
def stamp (site : Site δ) (ttl : Nat) (accepted : List Char × Nat) : δ × Nat :=
  (site.sha256 accepted.1,accepted.2 + ttl)

/-- The cache holds what was accepted last; of what it holds no more, each has expired or has too
many others behind it. -/
def Remembers (site : Site δ) (used : UsedTokenCache δ) (accepted : List (List Char × Nat)) (clock : Nat) :
    Prop :=
  (∀ entry ∈ accepted, entry.2 ≤ clock) ∧
    ∃ gone kept, accepted = gone ++ kept ∧ used.Keeps (kept.map (stamp site used.ttl)) ∧
      ∀ before entry after, gone = before ++ entry :: after →
        entry.2 + used.ttl ≤ clock ∨ used.max ≤ (after ++ kept).length

variable {used : UsedTokenCache δ} {accepted : List (List Char × Nat)} {clock now : Nat}

omit [DecidableEq δ] in
theorem Remembers.later (remembers : Remembers site used accepted clock) (later : clock ≤ now) :
    Remembers site used accepted now := by
  obtain ⟨past,gone,kept,split,keeps,lost⟩ := remembers
  refine ⟨fun entry among => (past entry among).trans later,gone,kept,split,keeps,?_⟩
  intro before entry after here
  exact (lost before entry after here).imp_left fun expired => expired.trans later

/-- A sweep gives up some more of the oldest, and what it keeps has not expired. -/
theorem Remembers.swept (remembers : Remembers site used accepted clock) :
    ∃ gone kept, accepted = gone ++ kept ∧
      (used.sweep clock).Keeps (kept.map (stamp site used.ttl)) ∧
      (∀ entry ∈ kept, clock < entry.2 + used.ttl) ∧
      ∀ before entry after, gone = before ++ entry :: after →
        entry.2 + used.ttl ≤ clock ∨ used.max ≤ (after ++ kept).length := by
  obtain ⟨past,gone,kept,split,keeps,lost⟩ := remembers
  obtain ⟨swept,parts,forgets⟩ :=
    UsedTokenCache.swept_split clock used.max (kept.map (stamp site used.ttl))
  have reached := keeps.sweep clock
  have live : ∀ entry ∈ UsedTokenCache.swept clock used.max (kept.map (stamp site used.ttl)),
      clock < entry.2 :=
    fun entry => UsedTokenCache.lt_of_mem_swept keeps.sorted
  obtain ⟨more,rest,rfl,rfl,stamped⟩ := List.map_eq_append_iff.mp parts
  rw [← stamped] at reached forgets live
  refine ⟨gone ++ more,rest,by rw [split,List.append_assoc],reached,?_,?_⟩
  · intro entry among
    exact live _ (List.mem_map_of_mem among)
  intro before entry after here
  rcases List.append_eq_append_iff.mp here with ⟨between,rfl,rfl⟩ | ⟨between,rfl,tail⟩
  · have forgotten := forgets _ _ _ (by rw [List.map_append,List.map_cons])
    simpa [stamp] using forgotten
  · cases between with
    | nil =>
      obtain rfl : more = entry :: after := by simpa using tail.symm
      have forgotten := forgets [] _ _ rfl
      simpa [stamp] using forgotten
    | cons first between =>
      rw [List.cons_append] at tail
      obtain ⟨rfl,rfl⟩ := List.cons_eq_cons.mp tail
      exact (lost before entry between rfl).imp_right fun many => by
        simp only [List.length_append] at many ⊢
        omega

theorem Remembers.contains (remembers : Remembers site used accepted clock) (digest : δ) :
    Remembers site (used.contains digest clock).2 accepted clock := by
  obtain ⟨gone,kept,split,keeps,live,lost⟩ := remembers.swept
  have same := (keeps.contains (List.forall_mem_map.mpr live) digest).2
  rw [same]
  exact ⟨remembers.1,gone,kept,split,keeps,lost⟩

/-- What was accepted a short time ago, with few others after it, is still known. -/
theorem Remembers.known (remembers : Remembers site used accepted clock) {before after : List (List Char × Nat)}
    {token : List Char} {time : Nat} (here : accepted = before ++ (token,time) :: after)
    (recent : clock < time + used.ttl) (few : after.length < used.max) :
    (used.contains (site.sha256 token) clock).1 = true := by
  obtain ⟨gone,kept,split,keeps,live,lost⟩ := remembers.swept
  refine (keeps.contains (List.forall_mem_map.mpr live) _).1.mpr ?_
  suffices among : (token,time) ∈ kept from
    List.mem_map.mpr ⟨_,List.mem_map_of_mem among,rfl⟩
  rcases List.append_eq_append_iff.mp (split.symm.trans here) with ⟨between,rfl,tail⟩ | ⟨between,rfl,tail⟩
  · rw [tail]
    exact List.mem_append_right _ List.mem_cons_self
  · cases between with
    | nil =>
      rw [List.nil_append] at tail
      rw [← tail]
      exact List.mem_cons_self
    | cons first between =>
      rw [List.cons_append] at tail
      obtain ⟨rfl,rfl⟩ := List.cons_eq_cons.mp tail
      have forgotten := lost before _ between rfl
      dsimp only at forgotten
      omega

/-- One more is accepted now, whose digest is new. -/
theorem Remembers.add (remembers : Remembers site used accepted clock) {token : List Char}
    (fresh : ∀ entry ∈ accepted, site.sha256 entry.1 ≠ site.sha256 token) :
    Remembers site (used.add (site.sha256 token) clock) (accepted ++ [(token,clock)]) clock := by
  obtain ⟨gone,kept,split,keeps,live,lost⟩ := remembers.swept
  have absent : site.sha256 token ∉ (kept.map (stamp site used.ttl)).map Prod.fst := by
    intro among
    obtain ⟨_,stamped,same⟩ := List.mem_map.mp among
    obtain ⟨entry,old,rfl⟩ := List.mem_map.mp stamped
    exact fresh entry (split ▸ List.mem_append_right _ old) same
  have late : ∀ entry ∈ kept.map (stamp site used.ttl), entry.2 ≤ clock + used.ttl := by
    intro _ stamped
    obtain ⟨entry,old,rfl⟩ := List.mem_map.mp stamped
    exact Nat.add_le_add_right (remembers.1 entry (split ▸ List.mem_append_right _ old)) _
  have added := keeps.add absent late
  have fields : (used.add (site.sha256 token) clock).ttl = used.ttl ∧
      (used.add (site.sha256 token) clock).max = used.max := used.add_fields _ _
  refine ⟨?_,gone,kept ++ [(token,clock)],by rw [split,List.append_assoc],?_,?_⟩
  · intro entry among
    rcases List.mem_append.mp among with old | last
    · exact remembers.1 entry old
    · rw [List.mem_singleton.mp last]
  · rw [fields.1,List.map_append]
    exact added
  · intro before entry after here
    rw [fields.1,fields.2]
    refine (lost before entry after here).imp_right fun many => ?_
    simp only [List.length_append] at many ⊢
    omega

omit [DecidableEq δ] in
theorem validates_of_validateCommon {limiter : RateLimiter} {post : Post} {at_ : Readings} {mode : List Char}
    (passed : (validateCommon site limiter post at_).1 = .ok mode) : Validates site post.t at_.validated := by
  unfold validateCommon at passed
  dsimp only at passed
  split at passed
  · cases passed
  · cases passed
  · dsimp only at passed
    split at passed
    · cases passed
    · split at passed
      · cases passed
      · split at passed
        · assumption
        · cases passed

/-- A request is answered at once, and then no more than a sweep happens, or it waits. -/
theorem dispatchUntilSent_cases (site : Site δ) (c : Callbacks δ) (post : Post) (at_ : Readings) :
    let sent := dispatchUntilSent site c post at_
    let asked := c.used.contains (site.sha256 post.t) at_.tested
    (∃ response, sent.1 = .error response ∧ sent.2.inFlight = c.inFlight ∧
      (sent.2.used = c.used ∨ sent.2.used = asked.2)) ∨
    ∃ flight, sent.1 = .ok flight ∧ flight.token = post.t ∧ Validates site post.t at_.validated ∧
      asked.1 = false ∧ sent.2.inFlight = c.inFlight ++ [flight] ∧ sent.2.used = asked.2 := by
  unfold dispatchUntilSent
  dsimp only
  rcases common : validateCommon site c.limiter post at_ with ⟨response | mode,limiter⟩
  · exact .inl ⟨_,rfl,rfl,.inl rfl⟩
  · have valid : Validates site post.t at_.validated :=
      validates_of_validateCommon (congrArg Prod.fst common)
    rcases asked : c.used.contains (site.sha256 post.t) at_.tested with ⟨_ | _,used⟩
    · dsimp only
      split
      · exact .inr ⟨_,rfl,rfl,valid,rfl,rfl,rfl⟩
      · exact .inl ⟨_,rfl,rfl,.inr rfl⟩
    · exact .inl ⟨_,rfl,rfl,.inr rfl⟩

omit [DecidableEq δ] in
theorem reconnectCallbackPrompt_keeps (site : Site δ) (c : Callbacks δ) (post : Post) (at_ : Readings) :
    (reconnectCallbackPrompt site c post at_).2.used = c.used ∧
      (reconnectCallbackPrompt site c post at_).2.inFlight = c.inFlight := by
  unfold reconnectCallbackPrompt
  split
  · exact ⟨rfl,rfl⟩
  · exact ⟨rfl,rfl⟩

/-- A reply that acknowledges adds the digest; another changes nothing. -/
theorem dispatchAnswered_cases (site : Site δ) (c : Callbacks δ) (flight : Flight) (reply : Reply) (now : Nat) :
    let answered := dispatchAnswered site c flight reply now
    (reply.accepts = true ∧ answered.1 = .confirmation flight.mode ∧
      answered.2 = { c with used := c.used.add (site.sha256 flight.token) now }) ∨
    (∃ status payload, answered.1 = .error status payload) ∧ answered.2 = c := by
  unfold dispatchAnswered
  cases reply with
  | returned result =>
    dsimp only
    by_cases nack : looksLikeNack (Reply.returned result).text
    · rw [if_pos nack]
      exact .inr ⟨⟨_,_,rfl⟩,rfl⟩
    · rw [if_neg nack]
      exact .inl ⟨by simp [Reply.accepts,nack],rfl,rfl⟩
  | dashboardError message => exact .inr ⟨⟨_,_,rfl⟩,rfl⟩
  | raised exception => exact .inr ⟨⟨_,_,rfl⟩,rfl⟩

namespace CallbackWatch

/-- The cache knows what was accepted last, and nothing that waits was accepted. -/
structure Tracks (site : Site δ) (w : CallbackWatch δ) : Prop where
  remembers : Remembers site w.callbacks.used w.accepted w.clock
  ttl : w.callbacks.used.ttl = usedTokenTtlSecs * microseconds
  max : w.callbacks.used.max = usedTokenCacheMax
  waiting : ∀ flight ∈ w.callbacks.inFlight, ∀ time, (flight.token,time) ∉ w.accepted

omit [DecidableEq δ] in
theorem tracks_start : Tracks site (start : CallbackWatch δ) where
  remembers := ⟨nofun,[],[],rfl,UsedTokenCache.holds_empty,fun before entry after none => by simp at none⟩
  ttl := rfl
  max := rfl
  waiting := nofun

variable {w : CallbackWatch δ}

theorem Tracks.prompted (tracks : Tracks site w) {post : Post} {at_ : Readings}
    (ticks : w.Ticks (.prompted post at_)) : Tracks site (w.step site (.prompted post at_)) := by
  obtain ⟨used,inFlight⟩ := reconnectCallbackPrompt_keeps site w.callbacks post at_
  refine ⟨?_,?_,?_,?_⟩
  · simp only [step,used]
    exact tracks.remembers.later (ticks.1.trans ticks.2)
  · simpa only [step,used] using tracks.ttl
  · simpa only [step,used] using tracks.max
  · simpa only [step,inFlight] using tracks.waiting

/-- A token that is sent has not been accepted, for the cache would know it. -/
theorem Tracks.posted (tracks : Tracks site w) {post : Post} {at_ : Readings}
    (ticks : w.Ticks (.posted post at_)) (single : w.SingleFile site (.posted post at_)) :
    Tracks site (w.step site (.posted post at_)) ∧ w.DispatchedOnce site (.posted post at_) := by
  have later : w.clock ≤ at_.tested := ticks.1.trans (ticks.2.1.trans ticks.2.2)
  have remembers := tracks.remembers.later later
  obtain ⟨ttl,max⟩ := w.callbacks.used.contains_fields (site.sha256 post.t) at_.tested
  rcases dispatchUntilSent_cases site w.callbacks post at_ with
    ⟨response,ended,inFlight,kept | asked⟩ | ⟨flight,sent,carries,valid,unknown,inFlight,asked⟩
  · refine ⟨⟨?_,?_,?_,?_⟩,by simp [DispatchedOnce,sends,accepts,ended]⟩
    · simpa only [step,kept] using remembers
    · simpa only [step,kept] using tracks.ttl
    · simpa only [step,kept] using tracks.max
    · simpa only [step,inFlight] using tracks.waiting
  · refine ⟨⟨?_,?_,?_,?_⟩,by simp [DispatchedOnce,sends,accepts,ended]⟩
    · simpa only [step,asked] using remembers.contains _
    · simpa only [step,asked,ttl] using tracks.ttl
    · simpa only [step,asked,max] using tracks.max
    · simpa only [step,inFlight] using tracks.waiting
  · have unaccepted : ∀ time, (post.t,time) ∉ w.accepted := by
      intro time among
      obtain ⟨before,after,here⟩ := List.append_of_mem among
      obtain ⟨recent,few⟩ := single valid before time after here
      rw [← tracks.ttl] at recent
      rw [← tracks.max] at few
      rw [remembers.known here recent few] at unknown
      cases unknown
    refine ⟨⟨?_,?_,?_,?_⟩,?_,by simp [accepts]⟩
    · simpa only [step,asked] using remembers.contains _
    · simpa only [step,asked,ttl] using tracks.ttl
    · simpa only [step,asked,max] using tracks.max
    · intro waiting among
      simp only [step,inFlight,List.mem_append,List.mem_singleton] at among
      rcases among with old | rfl
      · exact tracks.waiting waiting old
      · rw [carries]
        exact unaccepted
    · intro token sends
      simp only [CallbackWatch.sends,sent,Option.some.injEq] at sends
      rw [← sends,carries]
      exact unaccepted

/-- A token that is acknowledged had waited, so it was not accepted, and no other request with it
waits on. -/
theorem Tracks.answered (tracks : Tracks site w) {n : Nat} {reply : Reply} {now : Nat}
    (ticks : w.Ticks (.answered n reply now)) (single : w.SingleFile site (.answered n reply now)) :
    Tracks site (w.step site (.answered n reply now)) ∧ w.DispatchedOnce site (.answered n reply now) := by
  have remembers := tracks.remembers.later ticks
  cases found : w.callbacks.inFlight[n]? with
  | none =>
    refine ⟨⟨?_,?_,?_,?_⟩,by simp [DispatchedOnce,sends,accepts,found]⟩
    · simpa only [step,found] using remembers
    · simpa only [step,found] using tracks.ttl
    · simpa only [step,found] using tracks.max
    · simpa only [step,found] using tracks.waiting
  | some flight =>
    have waits : flight ∈ w.callbacks.inFlight := List.mem_of_getElem? found
    have unaccepted := tracks.waiting flight waits
    obtain ⟨ttl,max⟩ := w.callbacks.used.add_fields (site.sha256 flight.token) now
    rcases dispatchAnswered_cases site w.callbacks flight reply now with
      ⟨acknowledged,confirmed,added⟩ | ⟨⟨status,payload,refused⟩,same⟩
    · obtain ⟨alone,distinct⟩ := single acknowledged flight found
      have fresh : ∀ entry ∈ w.accepted, site.sha256 entry.1 ≠ site.sha256 flight.token := by
        rintro ⟨token,time⟩ among digest
        obtain rfl := distinct token time among digest
        exact unaccepted time among
      have accepts : w.accepts site (.answered n reply now) = some flight.token := by
        simp only [CallbackWatch.accepts,found,confirmed]
      refine ⟨⟨?_,?_,?_,?_⟩,by simp [sends],?_⟩
      · simpa [step,found,added,accepts] using remembers.add fresh
      · simpa only [step,found,added,ttl] using tracks.ttl
      · simpa only [step,found,added,max] using tracks.max
      · intro other among time
        simp only [step,found,added,accepts,Option.map_some,Option.toList_some] at among ⊢
        rw [List.mem_append,List.mem_singleton]
        rintro (old | last)
        · exact tracks.waiting other (List.mem_of_mem_eraseIdx among) time old
        · obtain ⟨m,elsewhere,here⟩ := List.mem_eraseIdx_iff_getElem?.mp among
          exact alone m other elsewhere here (congrArg Prod.fst last)
      · intro token same _
        rw [accepts] at same
        cases same
        exact unaccepted
    · have accepts : w.accepts site (.answered n reply now) = none := by
        simp only [CallbackWatch.accepts,found,refused]
      refine ⟨⟨?_,?_,?_,?_⟩,by simp [DispatchedOnce,sends,accepts]⟩
      · simpa [step,found,same,accepts] using remembers
      · simpa only [step,found,same] using tracks.ttl
      · simpa only [step,found,same] using tracks.max
      · intro other among time
        simp only [step,found,same,accepts,Option.map_none,Option.toList_none,List.append_nil] at among ⊢
        exact tracks.waiting other (List.mem_of_mem_eraseIdx among) time

theorem Tracks.abandoned (tracks : Tracks site w) {n : Nat} : Tracks site (w.step site (.abandoned n)) where
  remembers := tracks.remembers
  ttl := tracks.ttl
  max := tracks.max
  waiting := fun other among => tracks.waiting other (List.mem_of_mem_eraseIdx among)

theorem Tracks.step (tracks : Tracks site w) {event : CallbackEvent} (ticks : w.Ticks event)
    (single : w.SingleFile site event) : Tracks site (w.step site event) ∧ w.DispatchedOnce site event := by
  cases event with
  | prompted post at_ => exact ⟨tracks.prompted ticks,nofun,nofun⟩
  | posted post at_ => exact tracks.posted ticks single
  | answered n reply now => exact tracks.answered ticks single
  | abandoned n => exact ⟨tracks.abandoned,nofun,nofun⟩

end CallbackWatch

/-- A link is dispatched once while requests with one token are served one after another, and a
token that was accepted comes back before the cache forgets it. -/
theorem reconnect_dispatched_once (site : Site δ) (events : List CallbackEvent)
    (along : Along (CallbackWatch.step site) (fun w event => w.Ticks event ∧ w.SingleFile site event)
      .start events) :
    Along (CallbackWatch.step site) (CallbackWatch.DispatchedOnce site) .start events := by
  refine Along.strengthen (P := CallbackWatch.Tracks site) ?_ ?_ CallbackWatch.tracks_start along
  · rintro w event tracks ⟨ticks,single⟩
    exact (tracks.step ticks single).1
  · rintro w event tracks ⟨ticks,single⟩
    exact (tracks.step ticks single).2

def linkSite : Site (List Char) where
  mac := fun _ _ => [0]
  sha256 := id
  signingKey := "k".toList
  hasInstance := fun _ => true

def linkIssued : Nat := 1700000000

/-- A link that is valid for a day. -/
def linkToken : List Char := "v2.reconnect.1700000000.1700086400.paper.AA".toList

def hoursLater (hours : Nat) : Nat := (linkIssued + hours * 3600) * microseconds

def linkPosted (hours : Nat) : CallbackEvent :=
  .posted ⟨some "10.0.0.1",linkToken,"paper".toList⟩ ⟨hoursLater hours,hoursLater hours,hoursLater hours⟩

def linkAnswered (hours : Nat) : CallbackEvent :=
  .answered 0 (.returned (some "OK".toList)) (hoursLater hours)

abbrev linkWatch (events : List CallbackEvent) : CallbackWatch (List Char) :=
  run (CallbackWatch.step linkSite) .start events

theorem link_minted :
    mintToken linkSite.mac linkSite.signingKey "paper".toList 24 reconnectIntent linkIssued = .ok linkToken := by
  decide +kernel

theorem reconnect_dispatched_within_hours :
    Along (CallbackWatch.step linkSite) (CallbackWatch.DispatchedOnce linkSite) .start
      [linkPosted 0,linkAnswered 0,linkPosted 11] := by
  have ticks : Along (CallbackWatch.step linkSite) CallbackWatch.Ticks .start
      [linkPosted 0,linkAnswered 0,linkPosted 11] := by
    decide +kernel
  obtain ⟨first,second,third,-⟩ := ticks
  refine reconnect_dispatched_once linkSite _ ⟨⟨first,?_⟩,⟨second,?_⟩,⟨third,?_⟩,trivial⟩
  · intro _ before time after here
    simp [CallbackWatch.start] at here
  · have waiting : (linkWatch [linkPosted 0]).callbacks.inFlight = [⟨linkToken,"paper".toList⟩] ∧
        (linkWatch [linkPosted 0]).accepted = [] := by
      decide +kernel
    refine fun _ flight _ => ⟨fun m other elsewhere found => ?_,fun token time among => ?_⟩
    · rw [show CallbackWatch.step linkSite .start (linkPosted 0) = linkWatch [linkPosted 0] from rfl,
        waiting.1] at found
      exact absurd (List.getElem?_eq_some_iff.mp found).1 (by simpa using elsewhere)
    · rw [show CallbackWatch.step linkSite .start (linkPosted 0) = linkWatch [linkPosted 0] from rfl,
        waiting.2] at among
      cases among
  · have accepted : (linkWatch [linkPosted 0,linkAnswered 0]).accepted = [(linkToken,hoursLater 0)] := by
      decide +kernel
    intro _ before time after here
    rcases List.singleton_eq_append_iff.mp (accepted.symm.trans here) with ⟨-,last⟩ | ⟨-,none⟩
    · obtain ⟨found,rfl⟩ := List.cons_eq_cons.mp last
      obtain rfl : time = hoursLater 0 := congrArg Prod.snd found
      decide
    · cases none

/-- The link is dispatched twice when two requests come at the same time, and again when the cache
has forgotten it. -/
theorem reconnect_dispatched_again :
    let race := [linkPosted 0,linkPosted 0,linkAnswered 0,linkAnswered 0]
    let replay := [linkPosted 0,linkAnswered 0,linkPosted 13]
    (Along (CallbackWatch.step linkSite) CallbackWatch.Ticks .start race ∧
      ¬ Along (CallbackWatch.step linkSite) (CallbackWatch.DispatchedOnce linkSite) .start race) ∧
    Along (CallbackWatch.step linkSite) CallbackWatch.Ticks .start replay ∧
      ¬ Along (CallbackWatch.step linkSite) (CallbackWatch.DispatchedOnce linkSite) .start replay := by
  refine ⟨⟨by decide +kernel,?_⟩,by decide +kernel,?_⟩
  · rintro ⟨-,-,-,once,-⟩
    have twice : (linkWatch [linkPosted 0,linkPosted 0,linkAnswered 0]).accepted =
          [(linkToken,hoursLater 0)] ∧
        (linkWatch [linkPosted 0,linkPosted 0,linkAnswered 0]).accepts linkSite (linkAnswered 0) =
          some linkToken ∧
        Validates linkSite linkToken (hoursLater 0) := by
      decide +kernel
    refine once.2 linkToken twice.2.1 twice.2.2 (hoursLater 0) ?_
    exact twice.1 ▸ List.mem_singleton_self _
  · rintro ⟨-,-,once,-⟩
    have again : (linkWatch [linkPosted 0,linkAnswered 0]).accepted = [(linkToken,hoursLater 0)] ∧
        (linkWatch [linkPosted 0,linkAnswered 0]).sends linkSite (linkPosted 13) = some linkToken := by
      decide +kernel
    refine once.1 linkToken again.2 (hoursLater 0) ?_
    exact again.1 ▸ List.mem_singleton_self _

end Runs

end Ibctl.Dashboard
