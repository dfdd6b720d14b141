import Ibctl.StateMachine.Parked

/-! The order of agent events. The select takes the first event of the channel, the drain
handles the ones behind it, and the taken one is handled last. -/
namespace Ibctl.Machine
open Runs Recovery

namespace AgentEvent

def seq? : AgentEvent → Option Nat
  | .snapshot seq _ => some seq
  | .windowOpened seq _ _ _ _ => some seq
  | .windowClosed seq _ _ => some seq
  | _ => none

def synced? : AgentEvent → Option Bool
  | .snapshot .. => some true
  | .overflow => some false
  | _ => none

/-- What an event says about the connection to a machine that is connected. -/
def disconnected? (connected : Bool) : AgentEvent → Option Bool
  | .connectionStatusChanged _ status =>
    if connected = false then none
    else if Text.toAsciiLowercase status = "disconnected" then some true
    else if Text.toAsciiLowercase status = "connected" then some false
    else none
  | _ => none

def replay (windows : List ObservedWindow) : AgentEvent → List ObservedWindow
  | .snapshot _ taken => taken
  | .windowOpened _ windowId title windowClass hasLoginButton =>
    windows.filter (fun w => w.id ≠ windowId) ++ [⟨windowId,title,windowClass,hasLoginButton⟩]
  | .windowClosed _ windowId _ => windows.filter (fun w => w.id ≠ windowId)
  | _ => windows

/-- The events behind it leave of the windows what the event itself makes of them. -/
def KeepsWindows (rest : List AgentEvent) : AgentEvent → Prop
  | .snapshot _ taken => run replay taken rest = taken
  | .windowOpened _ windowId title windowClass hasLoginButton =>
    let window : ObservedWindow := ⟨windowId,title,windowClass,hasLoginButton⟩
    ∃ others, run replay [window] rest = others ++ [window] ∧ ∀ w ∈ others, w.id ≠ windowId
  | .windowClosed _ windowId _ => ∀ w ∈ run replay [] rest, w.id ≠ windowId
  | _ => True

/-- The events behind it say nothing else than the event about anything it speaks of. -/
structure Undisturbed (connected : Bool) (rest : List AgentEvent) (event : AgentEvent) : Prop where
  windows : event.KeepsWindows rest
  seq : ∀ seq, event.seq? = some seq → LastWrites seq? seq rest
  synced : ∀ synced, event.synced? = some synced → LastWrites synced? synced rest
  status : ∀ status, event.disconnected? connected = some status →
    LastWrites (disconnected? connected) status rest

end AgentEvent

/-- What the events are heard into: the cache and the flag of a lost connection. -/
def StateMachine.heard (sm : StateMachine) : AgentObservation × Bool :=
  (sm.session.observation,sm.connectionEventDisconnected)

section Hearing

variable (connected : Bool) (at_ : Instant)

/-- Every field that an event overwrites is a register of its own. -/
def hear (heard : AgentObservation × Bool) (event : AgentEvent) : AgentObservation × Bool :=
  ({ windows := event.replay heard.1.windows
     lastUpdated := register (fun e : AgentEvent => e.seq?.map fun _ => at_) heard.1.lastUpdated event
     lastEventSeq := register AgentEvent.seq? heard.1.lastEventSeq event
     synced := register AgentEvent.synced? heard.1.synced event },
    register (AgentEvent.disconnected? connected) heard.2 event)

theorem handleAgentEvent_heard (sm : StateMachine) (event : AgentEvent) (at_ : Clocks) :
    (sm.handleAgentEvent event at_).1.heard =
      hear (decide (sm.state = .connected)) at_.mono sm.heard event := by
  cases event with
  | errorDialog title message buttons =>
    simp only [StateMachine.handleAgentEvent,StateMachine.noteTwofaFailure]
    split
    · split <;> rfl
    · rfl
  | connectionStatusChanged fromStatus status =>
    by_cases here : sm.state = .connected
    · by_cases lost : Text.toAsciiLowercase status = "disconnected"
      · simp [StateMachine.handleAgentEvent,StateMachine.noteConnectionStatus,StateMachine.heard,hear,
          AgentEvent.replay,AgentEvent.seq?,AgentEvent.synced?,AgentEvent.disconnected?,register,here,lost]
      · by_cases back : Text.toAsciiLowercase status = "connected"
        · simp [StateMachine.handleAgentEvent,StateMachine.noteConnectionStatus,StateMachine.heard,hear,
            AgentEvent.replay,AgentEvent.seq?,AgentEvent.synced?,AgentEvent.disconnected?,register,here,back]
        · simp [StateMachine.handleAgentEvent,StateMachine.noteConnectionStatus,StateMachine.heard,hear,
            AgentEvent.replay,AgentEvent.seq?,AgentEvent.synced?,AgentEvent.disconnected?,register,here,
            lost,back]
    · simp [StateMachine.handleAgentEvent,StateMachine.noteConnectionStatus,StateMachine.heard,hear,
        AgentEvent.replay,AgentEvent.seq?,AgentEvent.synced?,AgentEvent.disconnected?,register,here]
  | _ => rfl

theorem handleAgentEvents_heard (sm : StateMachine) (events : List AgentEvent) (at_ : Clocks) :
    (StateMachine.handleAgentEvents at_ events sm).1.heard =
      run (hear (decide (sm.state = .connected)) at_.mono) sm.heard events := by
  induction events generalizing sm with
  | nil => rfl
  | cons event rest ih =>
    have state := StateMachine.state_of_standing
      (StateMachine.handleAgentEvent_standing sm event at_)
    simp only [StateMachine.handleAgentEvents]
    rw [ih,handleAgentEvent_heard,state,run_cons]

/-- The fields are heard one by one. -/
theorem run_hear (heard : AgentObservation × Bool) (events : List AgentEvent) :
    run (hear connected at_) heard events =
      ({ windows := run AgentEvent.replay heard.1.windows events
         lastUpdated := run (register fun e : AgentEvent => e.seq?.map fun _ => at_)
           heard.1.lastUpdated events
         lastEventSeq := run (register AgentEvent.seq?) heard.1.lastEventSeq events
         synced := run (register AgentEvent.synced?) heard.1.synced events },
        run (register (AgentEvent.disconnected? connected)) heard.2 events) := by
  induction events generalizing heard with
  | nil => rfl
  | cons event rest ih => exact ih (hear connected at_ heard event)

end Hearing

section Windows

/-- What the events make of a list of windows: of its first part they keep some, and the
second is as if it had been there alone. A snapshot keeps none. -/
theorem run_replay_append (events : List AgentEvent) :
    ∃ keeps : ObservedWindow → Bool, ∀ first second,
      run AgentEvent.replay (first ++ second) events =
        first.filter keeps ++ run AgentEvent.replay second events := by
  induction events with
  | nil => exact ⟨fun _ => true,fun first second => by simp⟩
  | cons event rest ih =>
    obtain ⟨keeps,kept⟩ := ih
    cases event with
    | snapshot seq taken => exact ⟨fun _ => false,fun first second => by simp [AgentEvent.replay]⟩
    | windowOpened seq windowId title windowClass hasLoginButton =>
      refine ⟨fun w => keeps w && decide (w.id ≠ windowId),fun first second => ?_⟩
      simp only [run_cons,AgentEvent.replay,List.filter_append,List.append_assoc]
      rw [kept,List.filter_filter]
    | windowClosed seq windowId title =>
      refine ⟨fun w => keeps w && decide (w.id ≠ windowId),fun first second => ?_⟩
      simp only [run_cons,AgentEvent.replay,List.filter_append]
      rw [kept,List.filter_filter]
    | _ => exact ⟨keeps,kept⟩

theorem filter_absent {windowId : Nat} {windows : List ObservedWindow} :
    windows.filter (fun w => w.id ≠ windowId) = windows ↔ ∀ w ∈ windows, w.id ≠ windowId := by
  rw [List.filter_eq_self]
  simp

theorem filter_ends {window : ObservedWindow} {windows : List ObservedWindow} :
    windows.filter (fun w => w.id ≠ window.id) ++ [window] = windows ↔
      ∃ others, windows = others ++ [window] ∧ ∀ w ∈ others, w.id ≠ window.id := by
  constructor
  · intro ends
    exact ⟨_,ends.symm,fun w member => by simpa using (List.mem_filter.mp member).2⟩
  · rintro ⟨others,rfl,absent⟩
    rw [List.filter_append,filter_absent.mpr absent]
    simp

/-- An event that is replayed after the rest leaves the windows as in the channel's order
exactly when the rest keeps what it makes of them. -/
theorem replay_late_iff (windows : List ObservedWindow) (event : AgentEvent)
    (rest : List AgentEvent) :
    AgentEvent.replay (run AgentEvent.replay windows rest) event =
        run AgentEvent.replay (AgentEvent.replay windows event) rest ↔
      event.KeepsWindows rest := by
  obtain ⟨keeps,kept⟩ := run_replay_append rest
  have alone : ∀ windows, run AgentEvent.replay windows rest =
      windows.filter keeps ++ run AgentEvent.replay [] rest := by
    intro windows
    rw [← kept,List.append_nil]
  cases event with
  | snapshot seq taken => exact eq_comm
  | windowOpened seq windowId title windowClass hasLoginButton =>
    let window : ObservedWindow := ⟨windowId,title,windowClass,hasLoginButton⟩
    simp only [AgentEvent.replay,AgentEvent.KeepsWindows]
    rw [← @filter_ends window,kept,alone windows,alone [window],List.filter_append,List.filter_append,
      List.append_assoc,List.filter_comm,List.append_cancel_left_eq]
    have own : ([window].filter keeps).filter (fun w => w.id ≠ window.id) = [] := by
      rw [List.filter_eq_nil_iff]
      intro w member
      rw [List.mem_singleton.mp (List.mem_filter.mp member).1]
      simp
    rw [own,List.nil_append]
  | windowClosed seq windowId title =>
    simp only [AgentEvent.replay,AgentEvent.KeepsWindows]
    rw [← filter_absent,alone windows,alone (windows.filter _),List.filter_append,List.filter_comm,
      List.append_cancel_left_eq]
  | _ => exact iff_of_true rfl trivial

end Windows

/-- An event that is heard after the rest leaves the cache and the flag as in the channel's
order exactly when the rest does not disturb it. -/
theorem hear_late_iff (connected : Bool) (at_ : Instant) (heard : AgentObservation × Bool)
    (event : AgentEvent) (rest : List AgentEvent) :
    hear connected at_ (run (hear connected at_) heard rest) event =
        run (hear connected at_) heard (event :: rest) ↔
      event.Undisturbed connected rest := by
  have updated : ∀ new, (event.seq?.map fun _ => at_) = some new →
      LastWrites (fun e : AgentEvent => e.seq?.map fun _ => at_) new rest := by
    intro new written last found
    obtain ⟨-,-,rfl⟩ := Option.map_eq_some_iff.mp written
    obtain ⟨other,-,stamped⟩ := List.mem_filterMap.mp (List.mem_of_getLast? found)
    obtain ⟨-,-,rfl⟩ := Option.map_eq_some_iff.mp stamped
    rfl
  rw [run_cons,run_hear,run_hear]
  simp only [hear,Prod.mk.injEq,AgentObservation.mk.injEq,replay_late_iff,register_late_iff]
  constructor
  · rintro ⟨⟨windows,-,seq,synced⟩,status⟩
    exact ⟨windows,seq,synced,status⟩
  · rintro ⟨windows,seq,synced,status⟩
    exact ⟨⟨windows,updated,seq,synced⟩,status⟩

namespace StateMachine

variable (sm : StateMachine) (turn : Turn)

/-- The iteration that handles the events in the order of the channel: the one the select
took, the ones behind it, then the outcome of the select if it is no event. -/
def inOrder : StateMachine :=
  let (outcome,selected,_) := sm.select turn
  let fired := selected.fireDwell turn.dwellFiresLater
  let pending := turn.pendingEvents sm.state
  match outcome with
  | .interrupted (.agentEvent event) => (handleAgentEvents turn.later (event :: pending) fired).1
  | other => ((handleAgentEvents turn.later pending fired).1.settle other turn).process.machine

def HeardInOrder (codec : MarkerCodec) : Prop :=
  ∀ ready effects, sm.prelude codec turn = some (ready,effects) →
    (sm.iterate codec turn).process.machine.heard = (ready.inOrder turn).heard

/-- The event that the select takes is not disturbed by the ones behind it. -/
def TakesUndisturbed (codec : MarkerCodec) : Prop :=
  ∀ ready effects, sm.prelude codec turn = some (ready,effects) →
    ∀ event, (ready.select turn).1 = .interrupted (.agentEvent event) →
      event.Undisturbed (decide (ready.state = .connected)) (turn.pendingEvents ready.state)

variable {sm turn}

/-- An event changes no state, so the taken one is only heard. -/
theorem settle_event (event : AgentEvent) :
    (sm.settle (.interrupted (.agentEvent event)) turn).process.machine.heard =
      hear (decide (sm.state = .connected)) turn.later.mono sm.heard event := by
  rw [← handleAgentEvent_heard]
  simp only [settle]
  split
  · rfl
  · rfl

theorem afterPrelude_heard_iff :
    (sm.afterPrelude turn).process.machine.heard = (sm.inOrder turn).heard ↔
      ∀ event, (sm.select turn).1 = .interrupted (.agentEvent event) →
        event.Undisturbed (decide (sm.state = .connected)) (turn.pendingEvents sm.state) := by
  have kept := select_standing sm turn
  unfold afterPrelude inOrder
  rcases selected : sm.select turn with ⟨outcome,after,effects⟩
  rw [selected] at kept
  have fired := (fireDwell_standing after turn.dwellFiresLater).trans kept
  have state := state_of_standing fired
  simp only
  generalize after.fireDwell turn.dwellFiresLater = fired at state ⊢
  cases outcome with
  | interrupted interrupt =>
    cases interrupt with
    | agentEvent event =>
      have drained := state_of_standing
        (handleAgentEvents_standing fired turn.later (turn.pendingEvents sm.state))
      rw [settle_event,handleAgentEvents_heard,handleAgentEvents_heard,drained,state,hear_late_iff]
      simp
    | _ => simp
  | transitioned result => simp

end StateMachine

/-- An iteration hears the events as they were received exactly when the one that its select
takes is not disturbed by the ones behind it. -/
theorem heard_in_order_iff (codec : MarkerCodec) (sm : StateMachine) (turn : Turn) :
    sm.HeardInOrder turn codec ↔ sm.TakesUndisturbed turn codec := by
  unfold StateMachine.HeardInOrder StateMachine.TakesUndisturbed
  refine forall_congr' fun ready => forall_congr' fun effects => forall_congr' fun preluded => ?_
  rw [StateMachine.iterate,preluded]
  exact StateMachine.afterPrelude_heard_iff

/-- A login window opens and is closed again before the loop looks at the channel. -/
def openedAndClosed : Turn :=
  { turnAt (sampleClocks 14401) (some (.agentEvent (.windowOpened 1 7 "IB Gateway" "login" true))) with
    events := [.windowClosed 2 7 "IB Gateway"] }

def waitingSite : StateMachine :=
  { StateMachine.new sampleCodec paperConfig .default Files.empty "/home/ibgateway/Jts"
      (sampleClocks 14400) with
    state := .waitingForLogin }

/-- The closed window stays in the cache. -/
theorem opened_after_closed : ¬ waitingSite.HeardInOrder openedAndClosed sampleCodec := by
  have preludes : (waitingSite.prelude sampleCodec openedAndClosed).isSome = true := by decide +kernel
  intro ordered
  have heard := ordered _ _ (Option.some_get preludes).symm
  revert heard
  decide +kernel

end Ibctl.Machine
