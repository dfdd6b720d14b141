import Ibctl.Lib.Rosters
import Ibctl.StateMachine.EventOrder

/-! The windows of the agent and the caches of its subscribers. The AWT thread keeps the list of open
windows and enqueues what happens to them; a subscriber is told of the list by its own thread and of
the changes by the broadcaster. No event is dropped, so the queue has no bound and raises no flag. -/
namespace Ibctl.Agent
open Runs
open Machine (AgentEvent ObservedWindow StateMachine)

section Model

def protocolVersion : Nat := 2

/-- A window of AWT and its `System.identityHashCode`, which need not be its own. -/
structure Window where
  reference : Nat
  identityHash : Nat
deriving DecidableEq, Repr

/-- What a line reads of a window while it is built. -/
structure WindowLook where
  title : String
  windowClass : String
  hasLoginButton : Bool
deriving DecidableEq, Repr

/-- The lines that go through the queue. -/
def isQueued : AgentEvent → Bool
  | .windowOpened .. | .windowClosed .. | .loginFormReady .. | .twofaPrompt .. | .errorDialog ..
  | .connectionStatusChanged .. => true
  | .hello _ | .snapshot .. | .overflow | .keepalive => false

abbrev QueuedEvent := { event : AgentEvent // isQueued event = true }

/-- Which window a line tells of, and whether it is open. -/
def news? : AgentEvent → Option (Nat × Bool)
  | .windowOpened _ windowId .. => some (windowId,true)
  | .windowClosed _ windowId _ => some (windowId,false)
  | _ => none

/-- How far the listener of `install` is: behind the change of the list, and before the offer. -/
inductive ListenerStage where
  | idle
  | opened (window : Window)
  | closed (window : Window)
  | enqueuing (event : QueuedEvent)
deriving DecidableEq, Repr

inductive WindowBroadcast where
  | waiting
  | polled (event : QueuedEvent)
  | writing (event : QueuedEvent) (visits : List Nat) (batch : List QueuedEvent)
deriving DecidableEq, Repr

/-- How far `handleEventStream` is: before its first line, before `buildSnapshot`, between the two
statements of `getOpenWindows`, before the line of the snapshot, and in its loop. -/
inductive SnapshotStage where
  | registered
  | greeted
  | pruned (seq : Nat)
  | built (seq : Nat) (windows : List ObservedWindow)
  | looping
deriving DecidableEq, Repr

/-- A subscriber with its thread and the lines that were written to it. -/
structure WindowSubscriber where
  stage : SnapshotStage
  connected : Bool
  log : List AgentEvent
deriving DecidableEq, Repr

structure WindowServer where
  sequence : Nat
  openWindows : List Window
  showing : List Window
  listener : ListenerStage
  queue : List QueuedEvent
  broadcaster : WindowBroadcast
  clientCounter : Nat
  subscribers : List (Nat × WindowSubscriber)
deriving DecidableEq, Repr

/-- A step of one of the threads, or of the windows themselves. An offer is one of the lines that tell
of no window in the list: the semantic events and the connection status. -/
inductive WindowAction where
  | shown (windows : List Window)
  | windowOpened (window : Window)
  | windowClosed (window : Window)
  | announce
  | enqueue
  | offer (event : QueuedEvent)
  | getOpenWindows
  | poll
  | drain (visits : List Nat)
  | write (visits : List Nat)
  | connect
  | advance (id : Nat)
  | disconnect (id : Nat)
deriving DecidableEq, Repr

variable (look : Nat → Window → WindowLook)

/-- A window in the line of this number. -/
def observed (seq : Nat) (window : Window) : ObservedWindow :=
  let seen := look seq window
  ⟨window.identityHash,seen.title,seen.windowClass,seen.hasLoginButton⟩

def windowOpened (seq : Nat) (window : Window) : QueuedEvent :=
  let seen := look seq window
  ⟨.windowOpened seq window.identityHash seen.title seen.windowClass seen.hasLoginButton,rfl⟩

def windowClosed (seq : Nat) (window : Window) : QueuedEvent :=
  ⟨.windowClosed seq window.identityHash (look seq window).title,rfl⟩

namespace WindowSubscriber

variable (sub : WindowSubscriber)

/-- `writeLine`, and where the thread is then; on a closed channel it throws. -/
def writeLine (line : AgentEvent) (stage : SnapshotStage) : Option WindowSubscriber :=
  if sub.connected then some { sub with stage, log := sub.log ++ [line] } else none

/-- The next statement of a subscriber's thread. -/
def advance (sequence : Nat) (openWindows : List Window) : Option WindowSubscriber :=
  match sub.stage with
  | .registered => sub.writeLine (.hello protocolVersion) .greeted
  | .greeted => some { sub with stage := .pruned sequence }
  | .pruned seq => some { sub with stage := .built seq (openWindows.map (observed look seq)) }
  | .built seq windows => sub.writeLine (.snapshot seq windows) .looping
  | .looping => sub.writeLine .keepalive .looping

end WindowSubscriber

namespace WindowServer

/-- The windows that `install` captures. -/
def start (windows : List Window) : WindowServer := ⟨0,windows,windows,.idle,[],.waiting,0,[]⟩

variable (server : WindowServer)

/-- A change to one subscriber, or its end. -/
def change (id : Nat) (f : WindowSubscriber → Option WindowSubscriber) : WindowServer :=
  { server with
    subscribers := server.subscribers.filterMap fun entry =>
      if entry.1 = id then (f entry.2).map (id,·) else some entry }

def connected : List Nat := (server.subscribers.filter fun entry => entry.2.connected).map Prod.fst

/-- `getOpenWindows` prunes the windows that are not showing. -/
def prune : WindowServer :=
  { server with openWindows := server.openWindows.filter fun window => window ∈ server.showing }

/-- Some thread of this name is about to build its snapshot. -/
def builds (id : Nat) : Bool := server.subscribers.any fun entry => entry.1 = id && entry.2.stage = .greeted

/-- The traversal for the next event of a batch. -/
def traverse (visits : List Nat) : List QueuedEvent → WindowServer
  | [] => { server with broadcaster := .waiting }
  | event :: batch =>
    if visits.Nodup ∧ server.connected ⊆ visits then
      { server with broadcaster := .writing event visits batch }
    else server

def step : WindowAction → WindowServer
  | .shown windows => { server with showing := windows }
  | .windowOpened window =>
    if server.listener = .idle then
      { server with
        openWindows := if window ∈ server.openWindows then server.openWindows else server.openWindows ++ [window]
        listener := .opened window }
    else server
  | .windowClosed window =>
    if server.listener = .idle then
      { server with openWindows := server.openWindows.erase window, listener := .closed window }
    else server
  | .announce =>
    let seq := server.sequence + 1
    match server.listener with
    | .opened window => { server with sequence := seq, listener := .enqueuing (windowOpened look seq window) }
    | .closed window => { server with sequence := seq, listener := .enqueuing (windowClosed look seq window) }
    | _ => server
  | .enqueue =>
    match server.listener with
    | .enqueuing event => { server with queue := server.queue ++ [event], listener := .idle }
    | _ => server
  | .offer event =>
    if news? event = none then { server with sequence := server.sequence + 1, queue := server.queue ++ [event] }
    else server
  | .getOpenWindows => server.prune
  | .poll =>
    match server.broadcaster,server.queue with
    | .waiting,event :: rest => { server with queue := rest, broadcaster := .polled event }
    | _,_ => server
  | .drain visits =>
    match server.broadcaster with
    | .polled event =>
      if visits.Nodup ∧ server.connected ⊆ visits then
        { server with queue := [], broadcaster := .writing event visits server.queue }
      else server
    | _ => server
  | .write visits =>
    match server.broadcaster with
    | .writing _ [] batch => server.traverse visits batch
    | .writing event (id :: later) batch =>
      { server.change id (fun sub => (sub.writeLine event sub.stage).orElse fun _ => some sub) with
        broadcaster := .writing event later batch }
    | _ => server
  | .connect =>
    { server with
      clientCounter := server.clientCounter + 1
      subscribers := server.subscribers ++ [(server.clientCounter + 1,⟨.registered,true,[]⟩)] }
  | .advance id =>
    let ready := if server.builds id then { server.prune with sequence := server.sequence + 1 } else server
    ready.change id fun sub => sub.advance look ready.sequence ready.openWindows
  | .disconnect id => server.change id fun sub => some { sub with connected := false }

end WindowServer

end Model

section Promise

/-- The ids that the cache of the client has, or is to get from the snapshot that is built for it. -/
def WindowSubscriber.told? (before : List ObservedWindow) (sub : WindowSubscriber) : Option (List Nat) :=
  match sub.stage with
  | .built _ windows => some (windows.map (·.id))
  | .looping => some ((run AgentEvent.replay before sub.log).map (·.id))
  | _ => none

def SnapshotStage.hasCopied : SnapshotStage → Bool
  | .built .. | .looping => true
  | _ => false

def newsOf (events : List QueuedEvent) : List (Nat × Bool) := events.filterMap fun event => news? event.1

def ListenerStage.news : ListenerStage → List (Nat × Bool)
  | .idle => []
  | .opened window => [(window.identityHash,true)]
  | .closed window => [(window.identityHash,false)]
  | .enqueuing event => newsOf [event]

/-- What the broadcaster is still to write to a subscriber. -/
def WindowBroadcast.events (id : Nat) : WindowBroadcast → List QueuedEvent
  | .waiting => []
  | .polled event => [event]
  | .writing event visits batch => if id ∈ visits then event :: batch else batch

namespace WindowServer

variable (server : WindowServer)

/-- The agent has an open window of this id. -/
def Lists (id : Nat) : Prop := id ∈ server.openWindows.map Window.identityHash

/-- The news that are on their way to a subscriber. -/
def news (id : Nat) : List (Nat × Bool) :=
  newsOf (server.broadcaster.events id ++ server.queue) ++ server.listener.news

/-- All that happened was told. -/
def Quiet : Prop := server.listener = .idle ∧ server.queue = [] ∧ server.broadcaster = .waiting

/-- When nothing is on its way any more, every subscriber whose snapshot was written has the windows of
the agent in its cache, whatever the client started from. -/
def Converged : Prop :=
  server.Quiet → ∀ entry ∈ server.subscribers, entry.2.connected = true → entry.2.stage = .looping →
    ∀ (sm : StateMachine) (at_ : Clocks) (id : Nat),
      id ∈ (StateMachine.handleAgentEvents at_ entry.2.log sm).1.session.observation.windows.map (·.id) ↔
        server.Lists id

/-- An id that goes with the windows that are not showing is in no news, and no subscriber has copied
the list. -/
def PrunesUntold : Prop :=
  ∀ id, server.Lists id → ¬ server.prune.Lists id →
    (∀ other, Rosters.said id (server.news other) = none) ∧
      ∀ entry ∈ server.subscribers, entry.2.connected = true → entry.2.stage.hasCopied = false

/-- No other open window has the id of one that is closed, no prune is noticed, and an event that is
written between the copy of the list and the line of the snapshot is in the copy already, or there is
later news of its window. -/
def Orderly : WindowAction → Prop
  | .windowClosed window =>
    server.listener = .idle →
      window.identityHash ∉ (server.openWindows.erase window).map Window.identityHash
  | .getOpenWindows => server.PrunesUntold
  | .advance id => server.builds id = true → server.PrunesUntold
  | .write _ =>
    match server.broadcaster with
    | .writing event (id :: _) batch =>
      ∀ entry ∈ server.subscribers, entry.1 = id → entry.2.connected = true →
        ∀ seq windows, entry.2.stage = .built seq windows →
          ∀ told ∈ news? event, Rosters.Passed (· ∈ windows.map (·.id)) told
            (newsOf (batch ++ server.queue) ++ server.listener.news)
    | _ => True
  | _ => True

end WindowServer

end Promise

section Invariant

variable {before : List ObservedWindow}

theorem newsOf_append {first second : List QueuedEvent} : newsOf (first ++ second) = newsOf first ++ newsOf second :=
  List.filterMap_append

theorem newsOf_told {event : QueuedEvent} {told : Nat × Bool} {rest : List QueuedEvent} (tells : news? event = some told) :
    newsOf (event :: rest) = told :: newsOf rest := List.filterMap_cons_some tells

theorem newsOf_untold {event : QueuedEvent} {rest : List QueuedEvent} (untold : news? event = none) :
    newsOf (event :: rest) = newsOf rest := List.filterMap_cons_none untold

theorem mem_without {windows : List ObservedWindow} {windowId id : Nat} :
    id ∈ (windows.filter fun window => window.id ≠ windowId).map (·.id) ↔
      id ≠ windowId ∧ id ∈ windows.map (·.id) := by
  simp only [List.mem_map,List.mem_filter,decide_eq_true_eq]
  constructor
  · rintro ⟨window,⟨among,ne⟩,rfl⟩
    exact ⟨ne,window,among,rfl⟩
  · rintro ⟨ne,window,among,rfl⟩
    exact ⟨window,⟨among,ne⟩,rfl⟩

/-- What an event makes of the ids in the cache. -/
theorem mem_replay {event : QueuedEvent} {told : Nat × Bool} (tells : news? event = some told)
    (windows : List ObservedWindow) (id : Nat) :
    id ∈ (event.1.replay windows).map (·.id) ↔ if told.1 = id then told.2 = true else id ∈ windows.map (·.id) := by
  obtain ⟨event,queued⟩ := event
  cases event with
  | windowOpened seq windowId title windowClass hasLoginButton =>
    cases tells
    dsimp only [AgentEvent.replay]
    rw [List.map_append,List.mem_append,mem_without]
    split
    · next own => simp [own]
    · next other => simp [Ne.symm other]
  | windowClosed seq windowId title =>
    cases tells
    dsimp only [AgentEvent.replay]
    rw [mem_without]
    split
    · next own => simp [own]
    · next other => simp [Ne.symm other]
  | _ => cases tells

theorem replay_untold {event : QueuedEvent} (untold : news? event = none) (windows : List ObservedWindow) :
    event.1.replay windows = windows := by
  obtain ⟨event,queued⟩ := event
  cases event with
  | windowOpened | windowClosed => cases untold
  | hello | snapshot | overflow | keepalive => cases queued
  | _ => rfl

/-- The news that are on their way to the subscriber lead its client to the windows of the agent. -/
def WindowSubscriber.Follows (before : List ObservedWindow) (news : List (Nat × Bool)) (lists : Nat → Prop)
    (sub : WindowSubscriber) : Prop :=
  sub.connected = true → ∀ ids ∈ sub.told? before, Rosters.Leads (· ∈ ids) news lists

namespace WindowServer

variable {server after : WindowServer}

/-- What is on its way agrees with the list of open windows, and leads every client there. -/
structure Kept (before : List ObservedWindow) (server : WindowServer) : Prop where
  agrees : ∀ id, Rosters.Agrees (server.news id) server.Lists
  follows : ∀ entry ∈ server.subscribers, entry.2.Follows before (server.news entry.1) server.Lists

theorem kept_start (windows : List Window) : (start windows).Kept before where
  agrees id i present told := by cases told
  follows := List.forall_mem_nil _

/-- The same windows and subscribers, and no connected one loses news. -/
theorem Kept.told (kept : server.Kept before) (windows : after.openWindows = server.openWindows)
    (same : after.subscribers = server.subscribers) (suffix : ∀ id, after.news id <:+ server.news id)
    (all : ∀ id ∈ server.connected, after.news id = server.news id) : after.Kept before := by
  have lists : after.Lists = server.Lists := by
    unfold Lists
    rw [windows]
  constructor
  · intro id
    rw [lists]
    exact (kept.agrees id).suffix (suffix id)
  · intro entry among connected ids told
    rw [same] at among
    rw [lists,all entry.1 (List.mem_map_of_mem (List.mem_filter.mpr ⟨among,connected⟩))]
    exact kept.follows entry among connected ids told

theorem Kept.same (kept : server.Kept before) (windows : after.openWindows = server.openWindows)
    (same : after.subscribers = server.subscribers) (news : ∀ id, after.news id = server.news id) :
    after.Kept before :=
  kept.told windows same (fun id => news id ▸ List.suffix_refl _) fun id _ => news id

/-- The list changes, and the listener is to tell of it. -/
theorem Kept.listed {id : Nat} {present : Bool} (kept : server.Kept before)
    (same : after.subscribers = server.subscribers)
    (news : ∀ other, after.news other = server.news other ++ [(id,present)])
    (others : ∀ other, other ≠ id → (after.Lists other ↔ server.Lists other)) (own : present = true ↔ after.Lists id) :
    after.Kept before := by
  constructor
  · intro other
    rw [news]
    exact (kept.agrees other).concat others own
  · intro entry among connected ids told
    rw [same] at among
    rw [news]
    exact (kept.follows entry among connected ids told).concat others own

/-- One subscriber changes, and the others lose no news. -/
theorem Kept.changed {id : Nat} {f : WindowSubscriber → Option WindowSubscriber} (kept : server.Kept before)
    (windows : after.openWindows = server.openWindows)
    (same : after.subscribers = (server.change id f).subscribers)
    (suffix : ∀ id, after.news id <:+ server.news id) (all : ∀ other, other ≠ id → after.news other = server.news other)
    (own : ∀ entry ∈ server.subscribers, entry.1 = id → ∀ sub, f entry.2 = some sub →
      sub.Follows before (after.news id) server.Lists) : after.Kept before := by
  have lists : after.Lists = server.Lists := by
    unfold Lists
    rw [windows]
  constructor
  · intro other
    rw [lists]
    exact (kept.agrees other).suffix (suffix other)
  · intro entry among
    rw [same] at among
    rw [lists]
    obtain ⟨known,there,changed⟩ := List.mem_filterMap.mp among
    by_cases named : known.1 = id
    · rw [if_pos named] at changed
      obtain ⟨sub,result,rfl⟩ := Option.map_eq_some_iff.mp changed
      exact own known there named sub result
    · rw [if_neg named] at changed
      cases changed
      rw [all entry.1 named]
      exact kept.follows entry there

theorem lists_prune {id : Nat} (listed : server.prune.Lists id) : server.Lists id := by
  obtain ⟨window,among,rfl⟩ := List.mem_map.mp listed
  exact List.mem_map_of_mem (List.mem_of_mem_filter among)

theorem kept_prune (kept : server.Kept before) (untold : server.PrunesUntold) : server.prune.Kept before := by
  constructor
  · intro other
    refine (kept.agrees other).retarget fun id said => ⟨lists_prune,fun listed => ?_⟩
    by_contra dropped
    exact said ((untold id listed dropped).1 other)
  · intro entry among connected ids told id
    refine Iff.trans ⟨lists_prune,fun listed => ?_⟩ (kept.follows entry among connected ids told id)
    by_contra dropped
    have early := (untold id listed dropped).2 entry among connected
    unfold WindowSubscriber.told? at told
    cases stage : entry.2.stage with
    | built seq windows =>
      rw [stage] at early
      cases early
    | looping =>
      rw [stage] at early
      cases early
    | registered | greeted | pruned =>
      rw [stage] at told
      cases told

theorem kept_windowOpened (look : Nat → Window → WindowLook) (window : Window) (kept : server.Kept before) :
    (server.step look (.windowOpened window)).Kept before := by
  dsimp only [step]
  split
  · next idle =>
    refine @Kept.listed before server _ window.identityHash true kept rfl (fun other => ?_) (fun other ne => ?_) ?_
    · simp only [news,ListenerStage.news,idle,List.append_nil]
    · unfold Lists
      dsimp only
      split
      · rfl
      · simp [ne]
    · unfold Lists
      dsimp only
      split
      · next listed => exact iff_of_true rfl (List.mem_map_of_mem listed)
      · simp
  · exact kept

theorem kept_windowClosed (look : Nat → Window → WindowLook) (window : Window) (kept : server.Kept before)
    (orderly : server.Orderly (.windowClosed window)) : (server.step look (.windowClosed window)).Kept before := by
  dsimp only [step]
  split
  · next idle =>
    refine @Kept.listed before server _ window.identityHash false kept rfl (fun other => ?_) (fun other ne => ?_) ?_
    · simp only [news,ListenerStage.news,idle,List.append_nil]
    · unfold Lists
      simp only [List.mem_map]
      constructor
      · rintro ⟨open_,among,named⟩
        exact ⟨open_,List.mem_of_mem_erase among,named⟩
      · rintro ⟨open_,among,rfl⟩
        have distinct : open_ ≠ window := fun same => ne (congrArg Window.identityHash same)
        exact ⟨open_,(List.mem_erase_of_ne distinct).mpr among,rfl⟩
    · exact iff_of_false Bool.false_ne_true (orderly idle)
  · exact kept

/-- A line says what its listener was about to tell. -/
theorem kept_announce (look : Nat → Window → WindowLook) (kept : server.Kept before) :
    (server.step look .announce).Kept before := by
  dsimp only [step]
  split
  · next window stage =>
    refine kept.same rfl rfl fun id => ?_
    simp only [news,stage]
    rfl
  · next window stage =>
    refine kept.same rfl rfl fun id => ?_
    simp only [news,stage]
    rfl
  · exact kept

theorem kept_enqueue (look : Nat → Window → WindowLook) (kept : server.Kept before) :
    (server.step look .enqueue).Kept before := by
  dsimp only [step]
  split
  · next event stage =>
    refine kept.same rfl rfl fun id => ?_
    simp only [news,stage,ListenerStage.news,newsOf_append,List.append_assoc,List.append_nil]
  · exact kept

theorem kept_offer (look : Nat → Window → WindowLook) (event : QueuedEvent) (kept : server.Kept before) :
    (server.step look (.offer event)).Kept before := by
  dsimp only [step]
  split
  · next untold =>
    refine kept.same rfl rfl fun id => ?_
    simp only [news,newsOf_append,newsOf_untold untold]
    rw [show newsOf [] = [] from rfl,List.append_nil]
  · exact kept

theorem kept_poll (look : Nat → Window → WindowLook) (kept : server.Kept before) :
    (server.step look .poll).Kept before := by
  dsimp only [step]
  split
  · next event rest waiting queued =>
    refine kept.same rfl rfl fun id => ?_
    simp only [news,waiting,queued]
    rfl
  · exact kept

/-- A traversal visits whoever is connected. -/
theorem events_writing {event : QueuedEvent} {visits : List Nat} {batch : List QueuedEvent} {id : Nat} :
    (WindowBroadcast.writing event visits batch).events id <:+ event :: batch ∧
      (id ∈ visits → (WindowBroadcast.writing event visits batch).events id = event :: batch) := by
  unfold WindowBroadcast.events
  dsimp only
  split
  · next visited => exact ⟨List.suffix_rfl,fun _ => rfl⟩
  · next passed => exact ⟨List.suffix_cons _ _,fun visited => absurd visited passed⟩

theorem news_suffix {id : Nat} (listener : after.listener = server.listener)
    (ends : after.broadcaster.events id ++ after.queue <:+ server.broadcaster.events id ++ server.queue) :
    after.news id <:+ server.news id := by
  obtain ⟨first,split⟩ := ends
  refine ⟨newsOf first,?_⟩
  unfold news
  rw [listener,← List.append_assoc,← newsOf_append,split]

theorem news_eq {id : Nat} (listener : after.listener = server.listener)
    (same : after.broadcaster.events id ++ after.queue = server.broadcaster.events id ++ server.queue) :
    after.news id = server.news id := by
  unfold news
  rw [listener,same]

theorem kept_drain (look : Nat → Window → WindowLook) (visits : List Nat) (kept : server.Kept before) :
    (server.step look (.drain visits)).Kept before := by
  dsimp only [step]
  split
  · next event polled =>
    split
    · next all =>
      refine kept.told rfl rfl (fun id => news_suffix rfl ?_) fun id connected => news_eq rfl ?_
      · rw [List.append_nil,polled]
        exact events_writing.1
      · rw [List.append_nil,polled]
        exact events_writing.2 (all.2 connected)
    · exact kept
  · exact kept

theorem kept_traverse (visits : List Nat) {event : QueuedEvent} {batch : List QueuedEvent}
    (sending : server.broadcaster = .writing event [] batch) (kept : server.Kept before) :
    (server.traverse visits batch).Kept before := by
  have rest (id : Nat) : server.broadcaster.events id = batch := by
    rw [sending]
    rfl
  cases batch with
  | nil =>
    refine kept.same rfl rfl fun id => news_eq rfl ?_
    rw [rest]
    rfl
  | cons next batch =>
    dsimp only [traverse]
    split
    · next all =>
      refine kept.told rfl rfl (fun id => news_suffix rfl ?_) fun id connected => news_eq rfl ?_
      · rw [rest,List.suffix_append_self_iff]
        exact events_writing.1
      · rw [rest]
        exact congrArg (· ++ _) (events_writing.2 (all.2 connected))
    · exact kept

theorem told_untold {sub : WindowSubscriber} {event : QueuedEvent} (untold : news? event = none) :
    WindowSubscriber.told? before { sub with log := sub.log ++ [event.1] } = sub.told? before := by
  unfold WindowSubscriber.told?
  cases sub.stage with
  | looping =>
    dsimp only
    rw [run_concat,replay_untold untold]
  | _ => rfl

/-- An event is entered by a client that has its snapshot, and missed by one that has not. -/
theorem follows_written {sub : WindowSubscriber} {event : QueuedEvent} {events : List QueuedEvent}
    {rest later : List (Nat × Bool)} {lists : Nat → Prop}
    (follows : sub.Follows before (newsOf (event :: events) ++ rest) lists)
    (passed : sub.connected = true → ∀ seq windows, sub.stage = .built seq windows →
      ∀ told ∈ news? event, Rosters.Passed (· ∈ windows.map (·.id)) told (newsOf events ++ rest))
    (goes_on : later = newsOf events ++ rest ∨ later = newsOf (event :: events) ++ rest) :
    WindowSubscriber.Follows before later lists { sub with log := sub.log ++ [event.1] } := by
  cases tells : news? event with
  | none =>
    rw [newsOf_untold tells,or_self] at goes_on
    rw [newsOf_untold tells,← goes_on] at follows
    unfold WindowSubscriber.Follows
    rw [told_untold tells]
    exact follows
  | some told =>
    rw [newsOf_told tells,List.cons_append] at follows goes_on
    intro connected ids has
    unfold WindowSubscriber.told? at has
    unfold WindowSubscriber.Follows WindowSubscriber.told? at follows
    cases stage : sub.stage with
    | built seq windows =>
      rw [stage] at has follows
      cases has
      have leads := follows connected _ rfl
      rcases goes_on with rfl | rfl
      · exact leads.miss (passed connected seq windows stage told tells)
      · exact leads
    | looping =>
      rw [stage] at has follows
      cases has
      have leads := follows connected _ rfl
      have entered (id : Nat) := mem_replay tells (run AgentEvent.replay before sub.log) id
      rw [← run_concat AgentEvent.replay] at entered
      rcases goes_on with rfl | rfl
      · exact leads.enter entered
      · exact leads.enter_again entered
    | registered | greeted | pruned =>
      rw [stage] at has
      cases has

/-- What is left to write to those that are visited later, and to the one that is visited now. -/
theorem events_visited {event : QueuedEvent} {later : List Nat} {batch : List QueuedEvent} (id : Nat) :
    (WindowBroadcast.writing event (id :: later) batch).events id = event :: batch ∧
      ((WindowBroadcast.writing event later batch).events id = batch ∨
        (WindowBroadcast.writing event later batch).events id = event :: batch) ∧
      ∀ other, other ≠ id → (WindowBroadcast.writing event later batch).events other =
        (WindowBroadcast.writing event (id :: later) batch).events other := by
  unfold WindowBroadcast.events
  refine ⟨if_pos List.mem_cons_self,(ite_eq_or_eq _ _ _).symm,fun other ne => ?_⟩
  simp only [List.mem_cons,ne,false_or]

theorem kept_write (look : Nat → Window → WindowLook) (visits : List Nat) (kept : server.Kept before)
    (orderly : server.Orderly (.write visits)) : (server.step look (.write visits)).Kept before := by
  unfold Orderly at orderly
  dsimp only [step] at orderly ⊢
  split
  · next event batch sending => exact kept_traverse visits sending kept
  · next event id later batch sending =>
    rw [sending] at orderly
    obtain ⟨own,goes_on,others⟩ := @events_visited event later batch id
    have same (other : Nat) (ne : other ≠ id) :
        (WindowBroadcast.writing event later batch).events other ++ server.queue =
          server.broadcaster.events other ++ server.queue := by
      rw [sending,others other ne]
    have first : server.broadcaster.events id ++ server.queue = event :: (batch ++ server.queue) := by
      rw [sending,own]
      rfl
    refine @Kept.changed before server _ id (fun sub => (sub.writeLine event sub.stage).orElse fun _ => some sub)
      kept rfl rfl (fun other => news_suffix rfl ?_) (fun other ne => news_eq rfl (same other ne))
      fun entry among named sub result => ?_
    · by_cases ne : other = id
      · subst ne
        dsimp only [change]
        rw [first]
        rcases goes_on with passed | again
        · rw [passed]
          exact List.suffix_cons _ _
        · rw [again]
          exact List.suffix_rfl
      · exact same other ne ▸ List.suffix_refl _
    · have follows := kept.follows entry among
      rw [named] at follows
      unfold news at follows
      rw [first] at follows
      unfold WindowSubscriber.writeLine at result
      split at result
      · cases result
        refine follows_written follows (orderly entry among named) ?_
        unfold news
        dsimp only [change]
        exact goes_on.imp (fun passed => by rw [passed]) fun again => by rw [again]; rfl
      · next closed =>
        cases result
        exact fun connected => absurd connected closed
  · exact kept

theorem writeLine_eq_some {sub next : WindowSubscriber} {line : AgentEvent} {stage : SnapshotStage}
    (written : sub.writeLine line stage = some next) :
    sub.connected = true ∧ next = { sub with stage, log := sub.log ++ [line] } := by
  unfold WindowSubscriber.writeLine at written
  split at written
  · next connected => exact ⟨connected,(Option.some.inj written).symm⟩
  · cases written

/-- What the next statement of its thread does to a subscriber, whose copy is of the list as it is. -/
theorem follows_advanced (look : Nat → Window → WindowLook) {sequence : Nat} {news : List (Nat × Bool)}
    {sub after : WindowSubscriber} (agrees : Rosters.Agrees news server.Lists)
    (follows : sub.Follows before news server.Lists)
    (advanced : sub.advance look sequence server.openWindows = some after) :
    after.Follows before news server.Lists := by
  unfold WindowSubscriber.advance at advanced
  unfold WindowSubscriber.Follows WindowSubscriber.told? at follows ⊢
  cases stage : sub.stage with
  | registered =>
    rw [stage] at advanced
    obtain ⟨-,rfl⟩ := writeLine_eq_some advanced
    rintro - ids ⟨⟩
  | greeted =>
    rw [stage] at advanced
    cases advanced
    rintro - ids ⟨⟩
  | pruned seq =>
    rw [stage] at advanced
    cases advanced
    rintro - ids ⟨⟩
    rw [List.map_map]
    exact Rosters.leads_of_agrees agrees
  | built seq windows =>
    rw [stage] at advanced follows
    obtain ⟨connected,rfl⟩ := writeLine_eq_some advanced
    rintro - ids ⟨⟩
    rw [run_concat]
    exact follows connected _ rfl
  | looping =>
    rw [stage] at advanced follows
    obtain ⟨connected,rfl⟩ := writeLine_eq_some advanced
    rintro - ids ⟨⟩
    rw [run_concat]
    exact follows connected _ rfl

theorem kept_advance (look : Nat → Window → WindowLook) (id : Nat) (kept : server.Kept before)
    (orderly : server.Orderly (.advance id)) : (server.step look (.advance id)).Kept before := by
  dsimp only [step]
  generalize readied : (if server.builds id then { server.prune with sequence := server.sequence + 1 } else server) = ready
  have ready_kept : ready.Kept before := by
    subst readied
    split
    · next builds =>
      have pruned := kept_prune kept (orderly builds)
      exact ⟨pruned.agrees,pruned.follows⟩
    · exact kept
  refine ready_kept.changed rfl rfl (fun other => List.suffix_rfl) (fun _ _ => rfl) fun entry among named sub advanced => ?_
  subst named
  exact follows_advanced look (ready_kept.agrees entry.1) (ready_kept.follows entry among) advanced

/-- The step lemma. -/
theorem kept_step (look : Nat → Window → WindowLook) (action : WindowAction) (kept : server.Kept before)
    (orderly : server.Orderly action) : (server.step look action).Kept before := by
  cases action with
  | shown windows => exact ⟨kept.agrees,kept.follows⟩
  | windowOpened window => exact kept_windowOpened look window kept
  | windowClosed window => exact kept_windowClosed look window kept orderly
  | announce => exact kept_announce look kept
  | enqueue => exact kept_enqueue look kept
  | offer event => exact kept_offer look event kept
  | getOpenWindows => exact kept_prune kept orderly
  | poll => exact kept_poll look kept
  | drain visits => exact kept_drain look visits kept
  | write visits => exact kept_write look visits kept orderly
  | connect =>
    refine ⟨kept.agrees,fun entry among => ?_⟩
    rcases List.mem_append.mp among with among | among
    · exact kept.follows entry among
    · rw [List.mem_singleton.mp among]
      rintro - ids ⟨⟩
  | advance id => exact kept_advance look id kept orderly
  | disconnect id =>
    refine kept.changed rfl rfl (fun other => List.suffix_rfl) (fun _ _ => rfl) fun entry among named sub gone => ?_
    cases gone
    exact fun connected => absurd connected Bool.false_ne_true

end WindowServer

end Invariant

section Runs

instance (server : WindowServer) (id : Nat) : Decidable (server.Lists id) := inferInstanceAs (Decidable (_ ∈ _))

instance (server : WindowServer) : Decidable server.Quiet := inferInstanceAs (Decidable (_ ∧ _))

theorem handleAgentEvents_windows (sm : StateMachine) (events : List AgentEvent) (at_ : Clocks) :
    (StateMachine.handleAgentEvents at_ events sm).1.session.observation.windows =
      run AgentEvent.replay sm.session.observation.windows events := by
  have heard := congrArg (fun heard => heard.1.windows) (Machine.handleAgentEvents_heard sm events at_)
  rw [Machine.run_hear] at heard
  exact heard

def loginWindow : Window := ⟨1,7⟩

def loginLook : Nat → Window → WindowLook := fun _ _ => ⟨"IBKR Gateway","login",true⟩

/-- What happens to a window is told to the one subscriber. -/
def toldOf (change : WindowAction) : List WindowAction :=
  [change,.announce,.enqueue,.poll,.drain [1],.write [],.write []]

end Runs

end Ibctl.Agent
