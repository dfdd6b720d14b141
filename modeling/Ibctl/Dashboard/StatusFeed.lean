import Ibctl.Agent.LineDocuments
import Ibctl.Dashboard.FeedLines

/-! The status feed from end to end: ibctl publishes its status, a connection of SUBSCRIBE writes it line by
line, and the dashboard's task reads the lines. Connections end at any time and at any byte, and ibctl may
start anew. -/
namespace Ibctl.Dashboard
open Agent (document Readable number)

section Lines

/-- A snapshot of the status, the only part of it that the feed reads. When it was published is told by how
many were published before, over all lives of ibctl. -/
structure QuerySnapshot where
  status : List (String × Json)
  version : Nat
  publishedAt : Nat

/-- Before the state machine has started. -/
def initializingStatus : List (String × Json) := [("state",.string "Initializing"),("ready",.bool false)]

/-- A line of the server, of which the first may refuse the connection. -/
inductive FeedLine where
  | snapshot (s : QuerySnapshot)
  | status (s : QuerySnapshot)
  | keepalive
  | refusal

namespace FeedLine

def text : FeedLine → List Char
  | snapshot s =>
    "\x7b\"type\":\"snapshot\",\"version\":".toList ++ Decimal.write s.version ++ ",\"status\":".toList ++
      document (.object s.status) ++ "\x7d".toList
  | status s =>
    "\x7b\"type\":\"status\",\"version\":".toList ++ Decimal.write s.version ++ ",\"status\":".toList ++
      document (.object s.status) ++ "\x7d".toList
  | keepalive => "\x7b\"type\":\"keepalive\"\x7d".toList
  | refusal => "ERROR not authorized".toList

/-- The document in the line. -/
def members : FeedLine → Option (List (String × Json))
  | snapshot s => some [("type",.string "snapshot"),("version",number s.version),("status",.object s.status)]
  | status s => some [("type",.string "status"),("version",number s.version),("status",.object s.status)]
  | keepalive => some [("type",.string "keepalive")]
  | refusal => none

def carried : FeedLine → Option QuerySnapshot
  | snapshot s | status s => some s
  | _ => none

/-- What the line carries can be read: the status as a JSON document, and the version in 64 bits. -/
def Sound (line : FeedLine) : Prop :=
  ∀ s ∈ line.carried, Readable 126 (.object s.status) ∧ s.version < 2 ^ 64

variable {line : FeedLine} {doc : List (String × Json)}

theorem text_members (known : line.members = some doc) : line.text = document (.object doc) := by
  have shape (n : Nat) : document (number n) = Decimal.write n := by
    rw [number,document,String.toList_ofList]
    rfl
  have brace : "\x7d".toList = ['}'] := rfl
  have status : ",\"status\":".toList = ',' :: (Agent.quote "status" ++ [':']) := by decide
  have version {kind : String} {literal : List Char}
      (same : literal = '{' :: (Agent.quote "type" ++ ':' :: Agent.quote kind ++ ',' :: Agent.quote "version" ++ [':']))
      (s : QuerySnapshot) : literal ++ Decimal.write s.version ++ ",\"status\":".toList ++ document (.object s.status) ++
        "\x7d".toList = document (.object [("type",.string kind),("version",number s.version),
          ("status",.object s.status)]) := by
    rw [same,status,brace,document,document,Agent.documentMembers,shape,Agent.documentMembers,Agent.documentMembers]
    simp only [List.append_assoc,List.cons_append,List.nil_append]
  cases line with
  | snapshot s =>
    cases known
    exact version (by decide) s
  | status s =>
    cases known
    exact version (by decide) s
  | keepalive =>
    cases known
    rfl
  | refusal => cases known

theorem readable_members (sound : line.Sound) (known : line.members = some doc) : Readable 127 (.object doc) := by
  cases line with
  | snapshot s | status s =>
    cases known
    obtain ⟨status,version⟩ := sound s rfl
    have counted : Readable 126 (number s.version) := Agent.readable_number (by omega) (by omega)
    refine Agent.readable_object rfl ?_
    simp only [List.forall_mem_cons,Agent.readable_string,counted,status,true_and,List.not_mem_nil,false_implies,
      implies_true]
  | keepalive =>
    cases known
    exact Agent.readable_object rfl (List.forall_mem_singleton.mpr (Agent.readable_string "keepalive"))
  | refusal => cases known

theorem eventStatus_members (known : line.members = some doc) :
    eventStatus (.object doc) = line.carried.map fun s => .object s.status := by
  cases line with
  | snapshot s | status s | keepalive =>
    cases known
    rfl
  | refusal => cases known

variable {py : PythonJson} {publishes : Bool} {c : SubscribeClient} {content : List UInt8} {newline : Bool}

/-- What is handed over of a line, or of a part of it, is the status that the line carries. -/
theorem handed_of_part (reads : ReadsLines py) (sound : line.Sound) (waits : c.Waits)
    (within : content <+: lineBytes line.text) (last : newline = true → content = lineBytes line.text)
    {status : Json}
    (handed : (c.step py publishes (.line content newline)).2 = some status) :
    ∃ s, line.carried = some s ∧ status = .object s.status := by
  cases known : line.members with
  | none =>
    cases line with
    | refusal =>
      rw [c.step_letter reads waits within last] at handed
      cases handed
    | snapshot | status | keepalive => cases known
  | some doc =>
    rw [text_members known] at within last
    obtain ⟨-,carried⟩ := c.step_part_status reads (readable_members sound known) waits ⟨within,last⟩ handed
    rw [eventStatus_members known,Option.map_eq_some_iff] at carried
    obtain ⟨s,found,same⟩ := carried
    exact ⟨s,found,same.symm⟩

/-- A whole line that is no refusal is handed over, or the task is over. -/
theorem handed_or_over (reads : ReadsLines py) (sound : line.Sound) (waits : c.Waits) (event : line ≠ .refusal) :
    (c.step py publishes (.line (lineBytes line.text) newline)).2 = line.carried.map (fun s => .object s.status) ∨
      (c.step py publishes (.line (lineBytes line.text) newline)).1.running = false := by
  cases known : line.members with
  | none =>
    cases line with
    | refusal => exact absurd rfl event
    | snapshot | status | keepalive => cases known
  | some doc =>
    rw [text_members known,← eventStatus_members known]
    exact c.step_whole reads (readable_members sound known) waits newline

/-- The line fits the buffer of the reader, and its status can be published. -/
def Fits (py : PythonJson) (publishes : Bool) (line : FeedLine) : Prop :=
  (lineBytes line.text).length ≤ streamLimit ∧
    ∀ s ∈ line.carried, publishes = true → py.dumpsRaises (.object s.status) = none

theorem reads_on (reads : ReadsLines py) (sound : line.Sound) (waits : c.Waits) (event : line ≠ .refusal)
    (fits : line.Fits py publishes) :
    (c.step py publishes (.line (lineBytes line.text) newline)).2 = line.carried.map (fun s => .object s.status) ∧
      (c.step py publishes (.line (lineBytes line.text) newline)).1.phase = .reading := by
  cases known : line.members with
  | none =>
    cases line with
    | refusal => exact absurd rfl event
    | snapshot | status | keepalive => cases known
  | some doc =>
    have short := fits.1
    rw [text_members known] at short ⊢
    rw [← eventStatus_members known]
    refine c.step_fits reads (readable_members sound known) waits newline short fun status carried publishing => ?_
    rw [eventStatus_members known,Option.map_eq_some_iff] at carried
    obtain ⟨s,found,rfl⟩ := carried
    exact fits.2 s found publishing

end FeedLine

end Lines

section Feed

/-- What the server's task of a subscription remembers: the change of the channel it has seen last, and the
version it has written last. -/
structure Subscription where
  seen : Nat
  lastVersion : Nat

/-- The connection of the dashboard's task. The server has not answered a connection that still asks. -/
structure Connection where
  wire : List FeedLine
  asks : Bool
  closed : Bool

structure SubscriptionFeed where
  published : List (List (String × Json))
  latest : QuerySnapshot
  changes : Nat
  subscription : Option Subscription
  connection : Option Connection
  client : SubscribeClient
  handed : List Json

/-- A step of one of the parties or of the network. The end of a connection may cut the next line after any
byte. -/
inductive SubscriptionEvent where
  | publish (status : List (String × Json))
  | restart
  | subscribe
  | refuse
  | changed
  | keepalive
  | close
  | read
  | readEnd (bytes : Nat)
  | connected
  | connectFailed
  | timedOut
  | connectionLost
  | slept

namespace SubscriptionFeed

/-- Both programs have just started. -/
def start : SubscriptionFeed where
  published := [initializingStatus]
  latest := ⟨initializingStatus,0,0⟩
  changes := 0
  subscription := none
  connection := none
  client := .start
  handed := []

variable (py : PythonJson) (publishes : Bool) (f : SubscriptionFeed)

def publish (status : List (String × Json)) : SubscriptionFeed :=
  { f with published := f.published ++ [status], latest := ⟨status,f.latest.version + 1,f.published.length⟩
           changes := f.changes + 1 }

/-- The process is gone, and with it its end of the connection. -/
def close : SubscriptionFeed :=
  { f with subscription := none, connection := f.connection.map fun c => { c with closed := true, asks := false } }

/-- Another process, with its own channel. -/
def restart : SubscriptionFeed :=
  { f.close with published := f.published ++ [initializingStatus], changes := 0
                 latest := ⟨initializingStatus,0,f.published.length⟩ }

def write (line : FeedLine) (c : Connection) : Option Connection := some { c with wire := c.wire ++ [line] }

/-- The server answers SUBSCRIBE with the snapshot in the channel. -/
def subscribe : SubscriptionFeed :=
  match f.connection with
  | some ⟨wire,true,closed⟩ =>
    { f with connection := write (.snapshot f.latest) ⟨wire,false,closed⟩
             subscription := some ⟨f.changes,f.latest.version⟩ }
  | _ => f

def refuse : SubscriptionFeed :=
  match f.connection with
  | some ⟨wire,true,_⟩ => { f with connection := write .refusal ⟨wire,false,true⟩ }
  | _ => f

/-- The channel has changed since the task of the subscription looked at it. -/
def changed : SubscriptionFeed :=
  match f.subscription,f.connection with
  | some h,some c =>
    if h.seen = f.changes then f
    else if f.latest.version = h.lastVersion then { f with subscription := some { h with seen := f.changes } }
    else { f with connection := write (.status f.latest) c, subscription := some ⟨f.changes,f.latest.version⟩ }
  | _,_ => f

def keepalive : SubscriptionFeed :=
  match f.subscription,f.connection with
  | some _,some c => { f with connection := write .keepalive c }
  | _,_ => f

/-- The client's task takes a step, and drops a connection that it does not wait for any more. -/
def await (outcome : Outcome) (c : Option Connection) : SubscriptionFeed :=
  let (client,status) := f.client.step py publishes outcome
  if client.Waits then { f with client, handed := f.handed ++ status.toList, connection := c }
  else { f with client, handed := f.handed ++ status.toList, connection := none, subscription := none }

/-- The client reads a line. -/
def read : SubscriptionFeed :=
  match f.connection with
  | some ⟨line :: wire,asks,closed⟩ => f.await py publishes (.line (lineBytes line.text) true)
    (some ⟨wire,asks,closed⟩)
  | _ => f

/-- The client reads what there is at the end of a connection. -/
def readEnd (bytes : Nat) : SubscriptionFeed :=
  match f.connection with
  | some ⟨line :: _,asks,true⟩ =>
    f.await py publishes (.line ((lineBytes line.text).take bytes) false) (some ⟨[],asks,true⟩)
  | some ⟨[],asks,true⟩ => f.await py publishes (.line [] false) (some ⟨[],asks,true⟩)
  | _ => f

/-- A new connection, on which the client sends SUBSCRIBE. -/
def connect : SubscriptionFeed :=
  if f.client.phase = .connecting then
    { f with client := (f.client.step py publishes .connected).1, connection := some ⟨[],true,false⟩
             subscription := none }
  else f

def step : SubscriptionEvent → SubscriptionFeed
  | .publish status => f.publish status
  | .restart => f.restart
  | .subscribe => f.subscribe
  | .refuse => f.refuse
  | .changed => f.changed
  | .keepalive => f.keepalive
  | .close => f.close
  | .read => f.read py publishes
  | .readEnd bytes => f.readEnd py publishes bytes
  | .connected => f.connect py publishes
  | .connectFailed => f.await py publishes .connectFailed f.connection
  | .timedOut => f.await py publishes .timedOut f.connection
  | .connectionLost => f.await py publishes .connectionLost f.connection
  | .slept => f.await py publishes .slept f.connection

end SubscriptionFeed

end Feed

end Ibctl.Dashboard
