import Ibctl.StateMachine.Distrust
import Ibctl.StateMachine.EventOrder

/-! The machine and the task that reads the agent's event stream for it. The task sends on what
it can parse and connects again when the stream ends; of the end it sends nothing. -/
namespace Ibctl.Machine
open Tasks Task Recovery Runs

/-- What the reader finds when it waits for the next line. -/
inductive StreamItem where
  | blank
  | parsed (event : AgentEvent)
  | unparsed
  | ended
  | readError
deriving DecidableEq, Repr

namespace StreamItem

/-- What `spawn_event_reader` sends on. -/
def sent : StreamItem → Option AgentEvent
  | parsed event => some event
  | _ => none

/-- The inner loop is left, and the stream with it. -/
def loses : StreamItem → Bool
  | ended => true
  | readError => true
  | _ => false

end StreamItem

def AgentEvent.isSnapshot : AgentEvent → Bool
  | snapshot _ _ => true
  | _ => false

theorem AgentEvent.synced?_of_update {event : AgentEvent} (update : event.isSnapshot = false) :
    event.synced? ≠ some true := by
  cases event with
  | snapshot seq windows => cases update
  | _ => nofun

namespace StateMachine

variable {codec : MarkerCodec} {sm : StateMachine} {turn : Turn}

/-- The events an iteration takes out of the channel after its prelude. The one that interrupts
the handler is taken out first, and handled last. -/
def takenEvents (sm : StateMachine) (turn : Turn) : List AgentEvent :=
  match (sm.select turn).1 with
  | .interrupted (.agentEvent event) => event :: turn.pendingEvents sm.state
  | _ => turn.pendingEvents sm.state

/-- The cache does not count as synchronised. -/
def Desynced (sm : StateMachine) : Prop := sm.session.observation.synced = false

instance : Decidable sm.Desynced := inferInstanceAs (Decidable (_ = _))

theorem desynced_of_untold {other : StateMachine} (same : other.session.untold = sm.session.untold)
    (desynced : sm.Desynced) : other.Desynced := by
  have observations : other.session.untold.observation = sm.session.untold.observation :=
    congrArg Session.observation same
  change other.session.observation = sm.session.observation at observations
  unfold Desynced
  rw [observations]
  exact desynced

theorem select_desynced (desynced : sm.Desynced) : (sm.select turn).2.1.Desynced := by
  unfold Desynced
  cases polled : sm.polls turn with
  | false =>
    rw [select_unpolled polled]
    exact desynced
  | true =>
    rw [select_session polled]
    exact (transition_synced sm _ _).trans desynced

theorem handleAgentEvent_desynced {event : AgentEvent} (at_ : Clocks)
    (update : event.isSnapshot = false) (desynced : sm.Desynced) :
    (sm.handleAgentEvent event at_).1.Desynced := by
  have heard := congrArg (fun heard => heard.1.synced) (handleAgentEvent_heard sm event at_)
  refine heard.trans ?_
  simp only [hear,register]
  cases known : event.synced? with
  | none => exact desynced
  | some synced =>
    cases synced with
    | false => rfl
    | true => exact absurd known (AgentEvent.synced?_of_update update)

theorem handleAgentEvents_desynced (at_ : Clocks) {events : List AgentEvent}
    (updates : ∀ event ∈ events, event.isSnapshot = false) {sm : StateMachine} (desynced : sm.Desynced) :
    (handleAgentEvents at_ events sm).1.Desynced := by
  induction events generalizing sm with
  | nil => exact desynced
  | cons event rest ih =>
    refine ih (fun other among => updates other (List.mem_cons_of_mem _ among)) ?_
    exact handleAgentEvent_desynced at_ (updates event List.mem_cons_self) desynced

theorem handleInterrupt_desynced {interrupt : Interrupt}
    (updates : ∀ event, interrupt = .agentEvent event → event.isSnapshot = false)
    (desynced : sm.Desynced) : (sm.handleInterrupt interrupt turn).1.Desynced := by
  cases interrupt with
  | agentEvent event => exact handleAgentEvent_desynced turn.later (updates event rfl) desynced
  | _ => exact desynced_of_untold (handleInterrupt_untold turn fun _ => nofun) desynced

theorem freshFor_desynced (next : State) (at_ : Clocks) {s : Session} (desynced : s.observation.synced = false) :
    (freshFor next at_ s).observation.synced = false := by
  unfold freshFor
  extract_lets selected forgotten entered
  have first : selected.observation.synced = false := by
    unfold selected
    split <;> exact desynced
  have second : forgotten.observation.synced = false := by
    unfold forgotten
    split <;> exact first
  have third : entered.observation.synced = false := by
    unfold entered
    cases next with
    | restarting => rfl
    | launching => rfl
    | _ => exact second
  split <;> exact third

theorem applyTransition_desynced (next : State) (desynced : sm.Desynced) :
    (sm.applyTransition next turn).1.Desynced := by
  have crossed : ∀ sm : StateMachine, (sm.crossConnected next turn.later).1.session.observation =
      sm.session.observation := by
    intro sm
    unfold crossConnected
    split
    · rfl
    · split
      · rfl
      · split <;> rfl
  have left : ∀ sm : StateMachine, (sm.leaveHitl next).session.observation = sm.session.observation := by
    intro sm
    unfold leaveHitl
    split <;> rfl
  refine applyTransition_of_prepared (C := Desynced) (fun _ _ => id) (fun _ => id) ?_
  rw [prepare_eq]
  refine freshFor_desynced next turn.later ?_
  have readied : (sm.readied next turn.later).session.observation = sm.session.observation := by
    rw [readied_session]
  have reached : (sm.crossed next turn.later).session.observation = sm.session.observation :=
    (left _).trans ((crossed _).trans readied)
  rw [reached]
  exact desynced

/-- Only a snapshot synchronises the cache. -/
theorem Stepped.desynced {q : Process} (stepped : sm.Stepped turn q)
    (updates : ∀ event ∈ sm.takenEvents turn, event.isSnapshot = false) (desynced : sm.Desynced) :
    q.machine.Desynced := by
  have drained : ∀ event ∈ turn.pendingEvents sm.state, event.isSnapshot = false := by
    intro event among
    refine updates event ?_
    unfold takenEvents
    split
    · exact List.mem_cons_of_mem _ among
    · exact among
  have after : (sm.afterSelect turn).Desynced := by
    refine handleAgentEvents_desynced turn.later drained ?_
    unfold Desynced
    rw [fireDwell_session]
    exact select_desynced desynced
  have interrupts : ∀ interrupt, (sm.select turn).1 = .interrupted interrupt →
      ((sm.afterSelect turn).handleInterrupt interrupt turn).1.Desynced := by
    intro interrupt taken
    refine handleInterrupt_desynced (fun event same => updates event ?_) after
    unfold takenEvents
    rw [taken,same]
    exact List.mem_cons_self
  cases stepped with
  | handled interrupt taken apart => exact interrupts interrupt taken
  | ended interrupt taken ends => exact interrupts interrupt taken
  | failed error taken => exact after
  | stayed taken status => exact after
  | moved next apart taken status => exact applyTransition_desynced next after

end StateMachine

/-- The events an iteration of a process takes out of the channel. -/
def Process.takenEvents (codec : MarkerCodec) (p : Process) (t : Turn) : List AgentEvent :=
  match p.status,p.machine.prelude codec t with
  | .running,some (ready,_) => ready.takenEvents t
  | _,_ => []

theorem Process.step_desynced {codec : MarkerCodec} {p : Process} {t : Turn}
    (updates : ∀ event ∈ p.takenEvents codec t, event.isSnapshot = false)
    (desynced : p.machine.Desynced) : (p.step codec t).machine.Desynced := by
  obtain ⟨same,-⟩ | ⟨ready,effects,running,preluded,stepped⟩ := @Process.step_cases codec p t
  · rw [same]
    exact desynced
  · unfold takenEvents at updates
    simp only [running,preluded] at updates
    exact stepped.desynced updates
      (StateMachine.desynced_of_untold (StateMachine.prelude_untold preluded) desynced)

/-- A process with the events on their way to it, and whether its stream was lost since the last
snapshot it was given. -/
structure StreamWatch where
  process : Process
  channel : List AgentEvent
  lost : Bool

inductive Happening where
  | read (item : StreamItem)
  | iterated (turn : Turn)

namespace StreamWatch

variable (codec : MarkerCodec) (w : StreamWatch)

def step (happening : Happening) : StreamWatch :=
  match happening with
  | .read item => { w with channel := w.channel ++ item.sent.toList, lost := w.lost || item.loses }
  | .iterated turn =>
    let taken := w.process.takenEvents codec turn
    { process := w.process.step codec turn
      channel := w.channel.drop taken.length
      lost := w.lost && !taken.any AgentEvent.isSnapshot }

/-- What an iteration takes out of the channel is at its front. -/
def Fed (happening : Happening) : Prop :=
  match happening with
  | .read _ => True
  | .iterated turn => w.process.takenEvents codec turn <+: w.channel

/-- Once the stream is lost, the cache does not count as synchronised. -/
def Distrusts : Prop := w.lost = true → w.process.machine.Desynced

/-- The stream is lost while the cache does not count as synchronised anyway. -/
def LosesDesynced (happening : Happening) : Prop :=
  match happening with
  | .read item => item.loses = true → w.process.machine.Desynced
  | .iterated _ => True

instance (happening : Happening) : Decidable (w.Fed codec happening) :=
  match happening with
  | .read _ => isTrue trivial
  | .iterated _ => inferInstanceAs (Decidable (_ <+: _))

instance : Decidable w.Distrusts := inferInstanceAs (Decidable (_ → _))

instance (happening : Happening) : Decidable (w.LosesDesynced happening) :=
  match happening with
  | .read _ => inferInstanceAs (Decidable (_ → _))
  | .iterated _ => isTrue trivial

variable {codec w}

theorem Distrusts.step {happening : Happening} (kept : w.Distrusts) (loses : w.LosesDesynced happening) :
    (w.step codec happening).Distrusts := by
  cases happening with
  | read item =>
    intro lost
    rcases Bool.or_eq_true_iff.mp lost with lost | lost
    · exact kept lost
    · exact loses lost
  | iterated turn =>
    intro lost
    obtain ⟨lost,none⟩ := Bool.and_eq_true_iff.mp lost
    refine Process.step_desynced (fun event among => ?_) (kept lost)
    simp only [Bool.not_eq_true',List.any_eq_false] at none
    simpa using none event among

/-- A process before its stream is there. -/
def start (codec : MarkerCodec) (config : Config) (recoveryConfig : RecoveryConfig)
    (files : Files.Directory) (settingsDir : String) (now : Clocks) : StreamWatch :=
  ⟨Process.start codec config recoveryConfig files settingsDir now,[],true⟩

theorem distrusts_start (codec : MarkerCodec) (config : Config) (recoveryConfig : RecoveryConfig)
    (files : Files.Directory) (settingsDir : String) (now : Clocks) :
    (start codec config recoveryConfig files settingsDir now).Distrusts := by
  intro _
  have session := StateMachine.gates_session
    (StateMachine.new codec config recoveryConfig files settingsDir now) now
  exact congrArg (fun s : Session => s.observation.synced) session

end StreamWatch

/-- A handler tells two contents of a cache that is not synchronised apart exactly by the first
dialog that it looks for in it, the connected one besides by a main window, its login button and
a second window of the Gateway's name. A stream that is lost only while its cache does not count
as synchronised leaves none behind that does. -/
theorem desynced_cache (w w' : List ObservedWindow) (codec : MarkerCodec) (config : Config)
    (recoveryConfig : RecoveryConfig) (files : Files.Directory) (settingsDir : String) (now : Clocks)
    (happenings : List Happening) :
    (((∀ frame, Indifferent (doWaitFor2fa frame) w w') ↔
        firstTrue (listing w).twofaTests = firstTrue (listing w').twofaTests) ∧
      (Indifferent doDismissPopups w w' ↔
        firstTrue (listing w).popupTests = firstTrue (listing w').popupTests) ∧
      ((∀ frame, Indifferent (doWaitForApiReady frame) w w') ↔
        firstTrue (listing w).readyTests = firstTrue (listing w').readyTests) ∧
      ((∀ frame, Indifferent (doConnected frame) w w') ↔
        (listing w).connectionTests = (listing w').connectionTests)) ∧
    (Along (StreamWatch.step codec) (fun w happening => w.LosesDesynced happening)
        (StreamWatch.start codec config recoveryConfig files settingsDir now) happenings →
      Along (StreamWatch.step codec) (fun w happening => (w.step codec happening).Distrusts)
        (StreamWatch.start codec config recoveryConfig files settingsDir now) happenings) := by
  refine ⟨⟨doWaitFor2fa_indifferent,doDismissPopups_indifferent,
    doWaitForApiReady_indifferent,doConnected_indifferent⟩,fun loses => ?_⟩
  exact loses.strengthen (fun w happening kept loses => StreamWatch.Distrusts.step kept loses)
    (fun w happening kept loses => StreamWatch.Distrusts.step kept loses)
    (StreamWatch.distrusts_start codec config recoveryConfig files settingsDir now)

/-- A stream that ends after its first snapshot was taken in by a launched machine. -/
def endedStream : List Happening :=
  let shown : AgentEvent := .snapshot 1 [gateway 1 false]
  [.iterated (turnAt (sampleClocks 14401) none),.iterated (turnAt (sampleClocks 14402) none),
    .read (.parsed (.hello 2)),.read (.parsed shown),
    .iterated { turnAt (sampleClocks 14403) none with events := [.hello 2,shown] },.read .ended]

/-- A second factor's dialog in a cache that is not synchronised decides, and a cache whose stream
has ended counts as synchronised. -/
theorem desynced_cache_trusted :
    ¬ Indifferent doDismissPopups [twofaDialog] [] ∧
      Along (StreamWatch.step sampleCodec) (StreamWatch.Fed sampleCodec) ⟨paperStart,[],true⟩ endedStream ∧
      ¬ Along (StreamWatch.step sampleCodec) (fun w happening => (w.step sampleCodec happening).Distrusts)
        ⟨paperStart,[],true⟩ endedStream := by
  refine ⟨?_,by decide +kernel⟩
  rw [doDismissPopups_indifferent]
  decide +kernel

/-- A stream that cannot be read before its first snapshot arrives. -/
def failedStream : List Happening :=
  [.read (.parsed (.hello 2)),.read .readError,
    .iterated { turnAt (sampleClocks 14401) none with events := [.hello 2] },
    .iterated (turnAt (sampleClocks 14402) none)]

theorem desynced_cache_failed :
    Along (StreamWatch.step sampleCodec) (fun w happening => (w.step sampleCodec happening).Distrusts)
      (StreamWatch.start sampleCodec paperConfig .default Files.empty "/home/ibgateway/Jts"
        (sampleClocks 14400)) failedStream :=
  (desynced_cache [] [] sampleCodec paperConfig .default Files.empty "/home/ibgateway/Jts"
    (sampleClocks 14400) failedStream).2 (by decide +kernel)

end Ibctl.Machine
