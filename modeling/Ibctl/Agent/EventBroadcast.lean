import Ibctl.Lib.Debts
import Ibctl.Lib.Runs

/-! The event streams of the agent under load. The AWT thread enqueues the events of windows and the
status monitor those of the connection; the broadcaster drains the queue, and each subscriber has a
thread of its own beside it. -/
namespace Ibctl.Agent
open Runs

section Model

inductive StreamLine where
  | hello
  | snapshot
  | overflow
  | keepalive
  | event (seq : Nat)
deriving DecidableEq, Repr

/-- What a subscriber is written while it is connected, and what happens beside that: a change of the
connection status, and an event that is discarded. -/
inductive StreamEntry where
  | written (line : StreamLine)
  | changed (seq : Nat)
  | discarded (seq : Nat)
deriving DecidableEq, Repr

/-- How far `handleEventStream` is: before each of its first two lines, before its look at the flag,
before it clears the flag, before its third line, and in its loop. -/
inductive StreamStage where
  | registered
  | greeted
  | shown
  | clearing
  | announcing
  | looping
deriving DecidableEq, Repr

/-- A subscriber with its thread. Behind a disconnection the thread runs on to its next line. -/
structure Subscriber where
  stage : StreamStage
  connected : Bool
  log : List StreamEntry
deriving DecidableEq, Repr

def Subscriber.add (sub : Subscriber) (entry : StreamEntry) : Subscriber :=
  { sub with log := sub.log ++ [entry] }

/-- `writeLine`, and where the thread is then; on a closed channel it throws. -/
def Subscriber.writeLine (sub : Subscriber) (line : StreamLine) (stage : StreamStage) : Option Subscriber :=
  if sub.connected then some { sub.add (.written line) with stage } else none

/-- The next statement of a subscriber's thread: the lines of `handleEventStream`, then keepalives. -/
def Subscriber.advance (overflowed : Bool) (sub : Subscriber) : Option Subscriber :=
  match sub.stage with
  | .registered => sub.writeLine .hello .greeted
  | .greeted => sub.writeLine .snapshot .shown
  | .shown => some { sub with stage := if overflowed then .clearing else .looping }
  | .clearing => some { sub with stage := .announcing }
  | .announcing => sub.writeLine .overflow .looping
  | .looping => sub.writeLine .keepalive .looping

/-- How far `enqueue` is: before its offer, refused by it, behind the removal of the oldest event and
before its second offer. -/
inductive EnqueueStage where
  | idle
  | offering (seq : Nat)
  | refused (seq : Nat)
  | removed (seq : Nat)
  | flagged (seq : Nat)
deriving DecidableEq, Repr

/-- How far `broadcastLoop` is: it goes on to write its event to those still to be visited. -/
inductive BroadcastStage where
  | waiting
  | polled (seq : Nat)
  | writing (seq : Nat) (visits : List Nat) (batch : List Nat)
deriving DecidableEq, Repr

/-- An event goes by its number; the numbers that other lines take are left out. -/
structure EventServer where
  sequence : Nat
  queue : List Nat
  overflowed : Bool
  awt : EnqueueStage
  broadcaster : BroadcastStage
  clientCounter : Nat
  subscribers : List (Nat × Subscriber)
deriving DecidableEq, Repr

def queueCapacity : Nat := 256

/-- A step of one of the threads. Whom a traversal of the subscribers visits beside those that are
connected when it starts is left open. -/
inductive ServerAction where
  | windowEvent
  | enqueue
  | statusChanged
  | poll
  | drain (visits : List Nat)
  | write (visits : List Nat)
  | connect
  | advance (id : Nat)
  | disconnect (id : Nat)
deriving DecidableEq, Repr

namespace EventServer

def start : EventServer := ⟨0,[],false,.idle,.waiting,0,[]⟩

variable (server : EventServer)

/-- A change to one subscriber, or its end. -/
def change (id : Nat) (f : Subscriber → Option Subscriber) : EventServer :=
  { server with
    subscribers := server.subscribers.filterMap fun entry =>
      if entry.1 = id then (f entry.2).map (id,·) else some entry }

/-- Something that happens while there are these subscribers. -/
def note (entry : StreamEntry) : EventServer :=
  { server with subscribers := server.subscribers.map fun known => (known.1,known.2.add entry) }

def connected : List Nat := (server.subscribers.filter fun entry => entry.2.connected).map Prod.fst

/-- The traversal for the next event of a batch. -/
def traverse (visits : List Nat) : List Nat → EventServer
  | [] => { server with broadcaster := .waiting }
  | event :: batch =>
    if visits.Nodup ∧ server.connected ⊆ visits then
      { server with broadcaster := .writing event visits batch }
    else server

/-- The next statement of `enqueue`. -/
def enqueueStep : EventServer :=
  match server.awt with
  | .idle => server
  | .offering seq =>
    if server.queue.length < queueCapacity then
      { server with queue := server.queue ++ [seq], awt := .idle }
    else { server with awt := .refused seq }
  | .refused seq =>
    match server.queue with
    | [] => { server with awt := .removed seq }
    | oldest :: rest => { server.note (.discarded oldest) with queue := rest, awt := .removed seq }
  | .removed seq => { server with overflowed := true, awt := .flagged seq }
  | .flagged seq =>
    if server.queue.length < queueCapacity then
      { server with queue := server.queue ++ [seq], awt := .idle }
    else { server.note (.discarded seq) with awt := .idle }

/-- The offer of the status monitor, whose result it ignores. -/
def offerStatus : EventServer :=
  let seq := server.sequence + 1
  let changed := { server.note (.changed seq) with sequence := seq }
  if server.queue.length < queueCapacity then { changed with queue := server.queue ++ [seq] }
  else changed.note (.discarded seq)

/-- Some thread of this name is about to clear the flag. -/
def clears (id : Nat) : Bool := server.subscribers.any fun entry => entry.1 = id && entry.2.stage = .clearing

def step : ServerAction → EventServer
  | .windowEvent =>
    if server.awt = .idle then
      { server with sequence := server.sequence + 1, awt := .offering (server.sequence + 1) }
    else server
  | .enqueue => server.enqueueStep
  | .statusChanged => server.offerStatus
  | .poll =>
    match server.broadcaster,server.queue with
    | .waiting,event :: rest => { server with queue := rest, broadcaster := .polled event }
    | _,_ => server
  | .drain visits =>
    match server.broadcaster with
    | .polled event =>
      if visits.Nodup ∧ server.connected ⊆ visits then
        { server with queue := [], broadcaster := .writing event visits server.queue }
      else server
    | _ => server
  | .write visits =>
    match server.broadcaster with
    | .writing _ [] batch => server.traverse visits batch
    | .writing event (id :: later) batch =>
      { server.change id (fun sub => (sub.writeLine (.event event) sub.stage).orElse fun _ => some sub) with
        broadcaster := .writing event later batch }
    | _ => server
  | .connect =>
    { server with
      clientCounter := server.clientCounter + 1
      subscribers := server.subscribers ++ [(server.clientCounter + 1,⟨.registered,true,[]⟩)] }
  | .advance id =>
    { server.change id (Subscriber.advance server.overflowed) with
      overflowed := server.overflowed && !server.clears id }
  | .disconnect id => server.change id fun sub => some { sub with connected := false }

/-- The flag is up, or goes up with the next statement of `enqueue`. -/
def Raised : Prop := server.overflowed = true ∨ ∃ seq, server.awt = .removed seq

end EventServer

end Model

section Promise

def StreamEntry.isDiscarded : StreamEntry → Bool
  | discarded _ => true
  | _ => false

/-- An event was discarded since the last overflow line. -/
def Owes (log : List StreamEntry) : Prop :=
  Debts.Owed StreamEntry.isDiscarded (· = .written .overflow) log

/-- Behind a discarded event an overflow line comes before any keepalive. -/
def Announced (log : List StreamEntry) : Prop :=
  Debts.Settled StreamEntry.isDiscarded (· = .written .overflow) (· = .written .keepalive) log

def StreamEntry.change? : StreamEntry → Option Nat
  | changed seq => some seq
  | _ => none

/-- What a change of the connection status comes to. -/
def Told (seq : Nat) (entry : StreamEntry) : Prop :=
  entry = .written (.event seq) ∨ entry = .discarded seq

/-- The event is still on its way to the subscriber. -/
def EventServer.UnderWay (server : EventServer) (id seq : Nat) : Prop :=
  seq ∈ server.queue ∨
    match server.broadcaster with
    | .waiting => False
    | .polled event => event = seq
    | .writing event visits batch => event = seq ∧ id ∈ visits ∨ seq ∈ batch

/-- A change of the connection status was told or is on its way. -/
def EventServer.Tells (server : EventServer) (id : Nat) (log : List StreamEntry) : Prop :=
  Debts.Answered StreamEntry.change? Told (server.UnderWay id) log

/-- The thread of the subscriber is still to write its overflow line, if the flag stays up until it
looks. -/
def Subscriber.Hears (raised : Prop) (sub : Subscriber) : Prop :=
  sub.connected = true →
  match sub.stage with
  | .registered | .greeted | .shown => raised
  | .clearing | .announcing => True
  | .looping => False

/-- Whenever an event is discarded, every connected subscriber is still before its look at the flag,
and the flag is up when it looks: a status that is refused does not raise it, and no other subscriber
takes it down first. -/
def EventServer.Heeds (server : EventServer) : ServerAction → Prop
  | .enqueue =>
    match server.awt with
    | .refused _ => server.queue ≠ [] → ∀ entry ∈ server.subscribers, entry.2.Hears True
    | .flagged _ => queueCapacity ≤ server.queue.length → ∀ entry ∈ server.subscribers, entry.2.Hears server.Raised
    | _ => True
  | .statusChanged =>
    queueCapacity ≤ server.queue.length → ∀ entry ∈ server.subscribers, entry.2.Hears server.Raised
  | .advance id =>
    ∀ entry ∈ server.subscribers, Owes entry.2.log →
      (entry.1 = id → entry.2.stage = .shown → server.overflowed = true) ∧
        (server.clears id = true → entry.2.Hears (∃ seq, server.awt = .removed seq))
  | _ => True

end Promise

section Invariant

/-- What holds of a subscriber. -/
structure Subscriber.Kept (raised : Prop) (pending : Nat → Prop) (sub : Subscriber) : Prop where
  announced : Announced sub.log
  hears : Owes sub.log → sub.Hears raised
  tells : sub.connected = true → Debts.Answered StreamEntry.change? Told pending sub.log

namespace Subscriber

variable {raised later : Prop} {pending pending' : Nat → Prop} {sub : Subscriber}

theorem Hears.mono (goes_on : raised → later) (hears : sub.Hears raised) : sub.Hears later := by
  intro connected
  have here := hears connected
  cases stage : sub.stage with
  | registered | greeted | shown =>
    rw [stage] at here
    exact goes_on here
  | clearing | announcing => trivial
  | looping =>
    rw [stage] at here
    exact here

theorem kept_new : (Subscriber.mk .registered true []).Kept raised pending where
  announced := Debts.settled_nil
  hears owes := absurd owes Debts.not_owed_nil
  tells _ := Debts.answered_nil

theorem Kept.mono (kept : sub.Kept raised pending)
    (hears : Owes sub.log → sub.Hears raised → sub.Hears later)
    (goes_on : sub.connected = true → ∀ seq, pending seq → pending' seq) : sub.Kept later pending' where
  announced := kept.announced
  hears owes := hears owes (kept.hears owes)
  tells connected := (kept.tells connected).mono (goes_on connected)

theorem owes_add {entry : StreamEntry} :
    Owes (sub.add entry).log ↔ entry ≠ .written .overflow ∧ (entry.isDiscarded = true ∨ Owes sub.log) := by
  unfold Owes add
  rw [Debts.owed_concat,decide_eq_false_iff_not]

/-- A line that is neither a keepalive nor about an overflow changes nothing. -/
theorem Kept.add (kept : sub.Kept raised pending) (entry : StreamEntry)
    (timely : entry = .written .keepalive → ¬ Owes sub.log)
    (hears : Owes (sub.add entry).log → sub.Hears later)
    (goes_on : ∀ seq, pending seq → pending' seq ∨ Told seq entry)
    (asked : ∀ seq, entry.change? = some seq → pending' seq) : (sub.add entry).Kept later pending' where
  announced := kept.announced.concat fun isDue => timely (of_decide_eq_true isDue)
  hears := hears
  tells connected := (kept.tells connected).concat goes_on asked

theorem Kept.line (kept : sub.Kept raised pending) (line : StreamLine)
    (timely : line = .keepalive → ¬ Owes sub.log)
    (goes_on : ∀ seq, pending seq → pending' seq ∨ line = .event seq) :
    (sub.add (.written line)).Kept raised pending' := by
  refine kept.add _ (fun same => timely (StreamEntry.written.inj same)) (fun owes => ?_) (fun seq waits => ?_) ?_
  · exact kept.hears ((owes_add.mp owes).2.resolve_left Bool.false_ne_true)
  · exact (goes_on seq waits).imp_right fun same => .inl (congrArg _ same)
  · rintro seq ⟨⟩

theorem Kept.changed (kept : sub.Kept raised pending) {seq : Nat} (goes_on : ∀ other, pending other → pending' other)
    (waits : pending' seq) : (sub.add (.changed seq)).Kept raised pending' := by
  refine kept.add _ (by rintro ⟨⟩) (fun owes => ?_) (fun other asked => .inl (goes_on other asked)) ?_
  · exact kept.hears ((owes_add.mp owes).2.resolve_left Bool.false_ne_true)
  · rintro other ⟨⟩
    exact waits

theorem Kept.discarded (kept : sub.Kept raised pending) {event : Nat} (hears : sub.Hears later)
    (goes_on : ∀ seq, pending seq → pending' seq ∨ event = seq) :
    (sub.add (.discarded event)).Kept later pending' := by
  refine kept.add _ (by rintro ⟨⟩) (fun _ => hears) (fun seq waits => ?_) (by rintro seq ⟨⟩)
  exact (goes_on seq waits).imp_right fun same => .inr (congrArg _ same)

/-- A stage may change where it makes no difference to what the subscriber hears. -/
theorem Kept.setStage (kept : sub.Kept raised pending) (stage : StreamStage)
    (hears : Owes sub.log → Subscriber.Hears later { sub with stage }) :
    Subscriber.Kept later pending { sub with stage } where
  announced := kept.announced
  hears := hears
  tells := kept.tells

end Subscriber

namespace EventServer

variable {server : EventServer}

/-- No keepalive was written to a subscriber that is owed an overflow line, and each that is owed one
hears of it. -/
def Kept (server : EventServer) : Prop :=
  ∀ entry ∈ server.subscribers, entry.2.Kept server.Raised (server.UnderWay entry.1)

theorem kept_start : start.Kept := List.forall_mem_nil _

theorem kept_note {after : EventServer} {what : StreamEntry} (same : after.subscribers = (server.note what).subscribers)
    (kept : ∀ entry ∈ server.subscribers, (entry.2.add what).Kept after.Raised (after.UnderWay entry.1)) :
    after.Kept := by
  intro entry among
  rw [same] at among
  obtain ⟨known,there,rfl⟩ := List.mem_map.mp among
  exact kept known there

theorem kept_change {after : EventServer} {id : Nat} {f : Subscriber → Option Subscriber}
    (same : after.subscribers = (server.change id f).subscribers)
    (changed : ∀ entry ∈ server.subscribers, entry.1 = id → ∀ sub, f entry.2 = some sub →
      sub.Kept after.Raised (after.UnderWay id))
    (others : ∀ entry ∈ server.subscribers, entry.1 ≠ id →
      entry.2.Kept after.Raised (after.UnderWay entry.1)) : after.Kept := by
  intro entry among
  rw [same] at among
  obtain ⟨known,there,kept⟩ := List.mem_filterMap.mp among
  by_cases own : known.1 = id
  · rw [if_pos own] at kept
    obtain ⟨sub,result,rfl⟩ := Option.map_eq_some_iff.mp kept
    exact changed known there own sub result
  · rw [if_neg own] at kept
    cases kept
    exact others entry there own

/-- The same subscribers, with no less raised and no less under way. -/
theorem Kept.mono {after : EventServer} (kept : server.Kept) (same : after.subscribers = server.subscribers)
    (raised : server.Raised → after.Raised)
    (goes_on : ∀ id ∈ server.connected, ∀ seq, server.UnderWay id seq → after.UnderWay id seq) : after.Kept := by
  intro entry among
  rw [same] at among
  refine (kept entry among).mono (fun _ => Subscriber.Hears.mono raised) fun connected => ?_
  exact goes_on entry.1 (List.mem_map_of_mem (List.mem_filter.mpr ⟨among,connected⟩))

/-- While an event that `enqueue` has removed is noted, the flag is about to go up. -/
theorem kept_enqueue (kept : server.Kept) (heeds : server.Heeds .enqueue) : server.enqueueStep.Kept := by
  unfold enqueueStep
  unfold Heeds at heeds
  cases stage : server.awt with
  | idle => exact kept
  | offering seq =>
    dsimp only
    split
    · refine kept.mono rfl (Or.imp_right ?_) fun id _ seq => Or.imp_left (List.mem_append_left _)
      rintro ⟨other,same⟩
      cases stage.symm.trans same
    · refine kept.mono rfl (Or.imp_right ?_) fun _ _ _ => id
      rintro ⟨other,same⟩
      cases stage.symm.trans same
  | refused seq =>
    rw [stage] at heeds
    dsimp only at heeds ⊢
    cases queued : server.queue with
    | nil =>
      refine kept.mono rfl (fun _ => .inr ⟨seq,rfl⟩) fun _ _ event waits => ?_
      unfold UnderWay at waits
      rw [queued] at waits
      exact waits
    | cons oldest rest =>
      refine kept_note rfl fun entry among => ?_
      have hears := heeds (by rw [queued]; exact List.cons_ne_nil _ _) entry among
      refine (kept entry among).discarded (hears.mono fun _ => .inr ⟨seq,rfl⟩) fun event => ?_
      unfold UnderWay
      rw [queued,List.mem_cons]
      rintro ((rfl | later) | sent)
      · exact .inr rfl
      · exact .inl (.inl later)
      · exact .inl (.inr sent)
  | removed seq => exact kept.mono rfl (fun _ => .inl rfl) fun _ _ _ => id
  | flagged seq =>
    rw [stage] at heeds
    dsimp only at heeds ⊢
    have same : server.Raised → server.overflowed = true := by
      rintro (up | ⟨other,same⟩)
      · exact up
      · cases stage.symm.trans same
    split
    · exact kept.mono rfl (fun raised => .inl (same raised)) fun id _ seq => Or.imp_left (List.mem_append_left _)
    · next full =>
      refine kept_note rfl fun entry among => ?_
      have hears := heeds (Nat.le_of_not_lt full) entry among
      exact (kept entry among).discarded (hears.mono fun raised => .inl (same raised)) fun event => .inl

theorem kept_status (kept : server.Kept) (heeds : server.Heeds .statusChanged) : server.offerStatus.Kept := by
  unfold offerStatus
  dsimp only
  split
  · refine kept_note rfl fun entry among => ?_
    exact (kept entry among).changed (fun other => Or.imp_left (List.mem_append_left _))
      (.inl (List.mem_append_right _ List.mem_cons_self))
  · next full =>
    have noted := heeds (Nat.le_of_not_lt full)
    intro entry among
    obtain ⟨middle,between,rfl⟩ := List.mem_map.mp among
    obtain ⟨known,there,rfl⟩ := List.mem_map.mp between
    -- Between the two entries the change waits for the second one.
    have changed : (known.2.add (.changed (server.sequence + 1))).Kept server.Raised
        fun seq => server.UnderWay known.1 seq ∨ server.sequence + 1 = seq :=
      (kept known there).changed (fun _ => .inl) (.inr rfl)
    exact changed.discarded (noted known there) fun _ => id

theorem kept_poll (kept : server.Kept) : (server.step .poll).Kept := by
  dsimp only [step]
  split
  · next event rest sending queued =>
    refine kept.mono rfl id fun _ _ seq => ?_
    unfold UnderWay
    rw [sending,queued,List.mem_cons]
    rintro ((rfl | later) | never)
    · exact .inr rfl
    · exact .inl later
    · exact never.elim
  · exact kept

theorem kept_drain (visits : List Nat) (kept : server.Kept) : (server.step (.drain visits)).Kept := by
  dsimp only [step]
  split
  · next event sending =>
    split
    · next all =>
      refine kept.mono rfl id fun id connected seq => ?_
      unfold UnderWay
      rw [sending]
      rintro (waits | rfl)
      · exact .inr (.inr waits)
      · exact .inr (.inl ⟨rfl,all.2 connected⟩)
    · exact kept
  · exact kept

theorem kept_write (visits : List Nat) (kept : server.Kept) : (server.step (.write visits)).Kept := by
  dsimp only [step]
  split
  · next event batch sending =>
    cases batch with
    | nil =>
      refine kept.mono rfl id fun id _ seq => ?_
      unfold UnderWay
      rw [sending]
      rintro (waits | ⟨-,never⟩ | never)
      · exact .inl waits
      · exact absurd never List.not_mem_nil
      · exact absurd never List.not_mem_nil
    | cons next batch =>
      dsimp only [traverse]
      by_cases all : visits.Nodup ∧ server.connected ⊆ visits
      · rw [if_pos all]
        refine kept.mono rfl id fun id connected seq => ?_
        unfold UnderWay
        rw [sending]
        rintro (waits | ⟨-,never⟩ | later)
        · exact .inl waits
        · exact absurd never List.not_mem_nil
        · rcases List.mem_cons.mp later with rfl | later
          · exact .inr (.inl ⟨rfl,all.2 connected⟩)
          · exact .inr (.inr later)
      · rw [if_neg all]
        exact kept
  · next event visited later batch sending =>
    have goes_on (id seq : Nat) (waits : server.UnderWay id seq) : seq ∈ server.queue ∨
        (event = seq ∧ id ∈ later ∨ seq ∈ batch) ∨ event = seq ∧ id = visited := by
      unfold UnderWay at waits
      rw [sending] at waits
      rcases waits with waits | ⟨same,among⟩ | waits
      · exact .inl waits
      · rcases List.mem_cons.mp among with rfl | among
        · exact .inr (.inr ⟨same,rfl⟩)
        · exact .inr (.inl (.inl ⟨same,among⟩))
      · exact .inr (.inl (.inr waits))
    refine @kept_change _ _ visited (fun sub => (sub.writeLine (.event event) sub.stage).orElse fun _ => some sub) rfl
      (fun entry among own sub result => ?_) fun entry among other => ?_
    · unfold Subscriber.writeLine at result
      split at result
      · cases result
        refine (kept entry among).line _ (by rintro ⟨⟩) fun seq waits => ?_
        rcases goes_on entry.1 seq waits with waits | waits | ⟨rfl,-⟩
        · exact .inl (.inl waits)
        · exact .inl (.inr (own ▸ waits))
        · exact .inr rfl
      · next closed =>
        cases result
        exact (kept entry among).mono (fun _ hears => hears) fun connected => absurd connected closed
    · refine (kept entry among).mono (fun _ hears => hears) fun _ seq waits => ?_
      rcases goes_on entry.1 seq waits with waits | waits | ⟨-,own⟩
      · exact .inl waits
      · exact .inr waits
      · exact absurd own other
  · exact kept

theorem kept_writeLine {raised : Prop} {pending : Nat → Prop} {sub after : Subscriber} {line : StreamLine}
    {stage : StreamStage} (kept : sub.Kept raised pending) (timely : line = .keepalive → ¬ Owes sub.log)
    (hears : sub.connected = true → Owes (sub.add (.written line)).log →
      Subscriber.Hears raised { sub.add (.written line) with stage })
    (written : sub.writeLine line stage = some after) : after.Kept raised pending := by
  unfold Subscriber.writeLine at written
  split at written
  · next connected =>
    cases written
    exact (kept.line line timely fun _ => .inl).setStage stage (hears connected)
  · cases written

/-- What the next statement of its thread does to a subscriber. -/
theorem kept_advanced {overflowed : Bool} {raised : Prop} {pending : Nat → Prop} {sub after : Subscriber}
    (kept : sub.Kept raised pending) (shown : Owes sub.log → sub.stage = .shown → overflowed = true)
    (advanced : sub.advance overflowed = some after) : after.Kept raised pending := by
  obtain ⟨stage,connected,log⟩ := sub
  have owed {line : StreamLine} (owes : Owes (Subscriber.add ⟨stage,connected,log⟩ (.written line)).log) :
      Owes log := (Subscriber.owes_add.mp owes).2.resolve_left Bool.false_ne_true
  cases stage with
  | registered => exact kept_writeLine kept (by rintro ⟨⟩) (fun _ owes => kept.hears (owed owes)) advanced
  | greeted => exact kept_writeLine kept (by rintro ⟨⟩) (fun _ owes => kept.hears (owed owes)) advanced
  | shown =>
    cases advanced
    refine kept.setStage _ fun owes => ?_
    rw [shown owes rfl]
    exact fun _ => trivial
  | clearing =>
    cases advanced
    exact kept.setStage .announcing fun _ _ => trivial
  | announcing =>
    refine kept_writeLine kept (by rintro ⟨⟩) (fun _ owes => ?_) advanced
    exact absurd rfl (Subscriber.owes_add.mp owes).1
  | looping =>
    cases connected with
    | false => cases advanced
    | true => exact kept_writeLine kept (fun _ owes => kept.hears owes rfl) (fun _ owes => kept.hears (owed owes)) advanced

theorem kept_advance (id : Nat) (kept : server.Kept) (heeds : server.Heeds (.advance id)) :
    (server.step (.advance id)).Kept := by
  have still : ∀ entry ∈ server.subscribers,
      entry.2.Kept (server.step (.advance id)).Raised (server.UnderWay entry.1) := by
    intro entry among
    refine (kept entry among).mono (fun owes hears => ?_) fun _ _ waits => waits
    by_cases cleared : server.clears id = true
    · exact ((heeds entry among owes).2 cleared).mono .inr
    · refine hears.mono (Or.imp_left fun up => ?_)
      have down : server.clears id = false := eq_false_of_ne_true cleared
      dsimp only [step]
      rw [up,down]
      rfl
  refine @kept_change server _ id (Subscriber.advance server.overflowed) rfl
    (fun entry among own sub advanced => ?_) fun entry among _ => still entry among
  exact kept_advanced (own ▸ still entry among) (fun owes => (heeds entry among owes).1 own) advanced

/-- The step lemma. -/
theorem kept_step (action : ServerAction) (kept : server.Kept) (heeds : server.Heeds action) :
    (server.step action).Kept := by
  cases action with
  | windowEvent =>
    dsimp only [step]
    split
    · next idle =>
      refine kept.mono rfl (Or.imp_right ?_) fun _ _ _ => id
      rintro ⟨seq,same⟩
      cases idle.symm.trans same
    · exact kept
  | enqueue => exact kept_enqueue kept heeds
  | statusChanged => exact kept_status kept heeds
  | poll => exact kept_poll kept
  | drain visits => exact kept_drain visits kept
  | write visits => exact kept_write visits kept
  | connect =>
    intro entry among
    rcases List.mem_append.mp among with among | among
    · exact kept entry among
    · rw [List.mem_singleton.mp among]
      exact Subscriber.kept_new
  | advance id => exact kept_advance id kept heeds
  | disconnect id =>
    refine kept_change rfl (fun entry among own sub gone => ?_) fun entry among _ => kept entry among
    cases gone
    exact ⟨(kept entry among).announced,fun _ connected => absurd connected Bool.false_ne_true,
      fun connected => absurd connected Bool.false_ne_true⟩

end EventServer

end Invariant

section Runs

instance (server : EventServer) : Decidable (∃ seq, server.awt = .removed seq) :=
  match server.awt with
  | .removed seq => isTrue ⟨seq,rfl⟩
  | .idle => isFalse (by simp)
  | .offering _ => isFalse (by simp)
  | .refused _ => isFalse (by simp)
  | .flagged _ => isFalse (by simp)

instance (server : EventServer) : Decidable server.Raised := inferInstanceAs (Decidable (_ ∨ _))

instance (raised : Prop) [Decidable raised] : ∀ sub : Subscriber, Decidable (sub.Hears raised)
  | ⟨.registered,connected,_⟩ | ⟨.greeted,connected,_⟩ | ⟨.shown,connected,_⟩ =>
    inferInstanceAs (Decidable (connected = true → raised))
  | ⟨.clearing,_,_⟩ | ⟨.announcing,_,_⟩ => isTrue fun _ => trivial
  | ⟨.looping,connected,_⟩ => inferInstanceAs (Decidable (connected = true → False))

instance (log : List StreamEntry) : Decidable (Owes log) := inferInstanceAs (Decidable (Debts.Owed _ _ log))

instance (server : EventServer) : ∀ action, Decidable (server.Heeds action)
  | .enqueue =>
    match stage : server.awt with
    | .refused _ => decidable_of_iff (server.queue ≠ [] → ∀ entry ∈ server.subscribers, entry.2.Hears True)
        (by rw [EventServer.Heeds,stage])
    | .flagged _ => decidable_of_iff
        (queueCapacity ≤ server.queue.length → ∀ entry ∈ server.subscribers, entry.2.Hears server.Raised)
        (by rw [EventServer.Heeds,stage])
    | .idle | .offering _ | .removed _ => decidable_of_iff True (by rw [EventServer.Heeds,stage])
  | .statusChanged => inferInstanceAs (Decidable (_ → _))
  | .advance _ => inferInstanceAs (Decidable (∀ _ ∈ _, _))
  | .windowEvent | .poll | .drain _ | .write _ | .connect | .disconnect _ => isTrue trivial

/-- Where every discarded event is heeded, no subscriber is sent a keepalive while an overflow line is
owed to it, and a change of the connection status is told, discarded so, or on its way. -/
theorem dropped_announced (actions : List ServerAction)
    (heeds : Along EventServer.step EventServer.Heeds .start actions) :
    ∀ entry ∈ (run EventServer.step .start actions).subscribers, entry.2.connected = true →
      Announced entry.2.log ∧ (run EventServer.step .start actions).Tells entry.1 entry.2.log := by
  have kept := heeds.invariant (fun server action kept meets => EventServer.kept_step action kept meets)
    EventServer.kept_start
  exact fun entry among connected => ⟨(kept entry among).announced,(kept entry among).tells connected⟩

/-- A burst of window events that no broadcaster drains: one more than the queue holds. -/
def burst : List ServerAction :=
  (List.replicate queueCapacity [ServerAction.windowEvent,.enqueue]).flatten ++
    [.windowEvent,.enqueue,.enqueue,.enqueue,.enqueue]

theorem opening_announced :
    Announced [.written .hello,.discarded 1,.written .snapshot,.written .overflow,.written .keepalive] := by
  have told := dropped_announced
    ([.connect,.advance 1] ++ burst ++ [.advance 1,.advance 1,.advance 1,.advance 1,.advance 1]) (by decide +kernel)
    (1,⟨.looping,true,[.written .hello,.discarded 1,.written .snapshot,.written .overflow,.written .keepalive]⟩)
    (by decide +kernel)
  exact (told rfl).1

/-- A subscriber in its loop is told of no burst: its next line is a keepalive. -/
theorem silent_keepalive :
    ¬ ∀ entry ∈ (run EventServer.step .start
        ([.connect,.advance 1,.advance 1,.advance 1] ++ burst ++ [.advance 1])).subscribers, entry.2.connected = true →
          Announced entry.2.log := by
  intro announced
  have log : (1,⟨.looping,true,[.written .hello,.written .snapshot,.discarded 1,.written .keepalive]⟩) ∈
      (run EventServer.step .start ([.connect,.advance 1,.advance 1,.advance 1] ++ burst ++ [.advance 1])).subscribers := by
    decide +kernel
  exact announced _ log rfl [.written .hello,.written .snapshot,.discarded 1] _ [] rfl rfl (by decide)
end Runs

end Ibctl.Agent
