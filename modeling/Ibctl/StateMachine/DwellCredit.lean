import Ibctl.StateMachine.Stepping
import Ibctl.StateMachine.Dormancy

/-! Which entry into Connected a recorded success belongs to. A watch beside the process holds
the entry of the present connection, if a transition made it and no iteration has found the
machine elsewhere since, and whether its dwell was credited. The timer that is guarded is that
entry's, and so is every message in the channel. -/
namespace Ibctl.Machine
open Recovery

variable (codec : MarkerCodec)

namespace StateMachine

/-- The dwell messages that are recorded as successes, each with the number of its write. -/
def dwellCredits (io : Nat → SaveIo) : Nat → List Clocks → StateMachine → List (Nat × Clocks)
  | _,[],_ => []
  | n,dwell :: rest,sm =>
    if sm.state ≠ .connected then dwellCredits io (n + 1) rest sm
    else if sm.recovery.phase = .givenUp then
      dwellCredits io (n + 1) rest { sm with dwellGuard := none }
    else
      let effect := sm.recovery.recordSuccess codec sm.files dwell (io n)
      (n,dwell) :: dwellCredits io (n + 1) rest
        { sm with recovery := effect.coord, files := effect.files }

/-- The calls of the drain to `recordSuccess`, one after another. -/
def recordCredits (io : Nat → SaveIo) (credits : List (Nat × Clocks)) (coord : RecoveryCoordinator)
    (files : Files.Directory) : RecoveryCoordinator × Files.Directory :=
  credits.foldl (fun at_ credit =>
    ((at_.1.recordSuccess codec at_.2 credit.2 (io credit.1)).coord,
      (at_.1.recordSuccess codec at_.2 credit.2 (io credit.1)).files)) (coord,files)

variable {codec} {sm : StateMachine} {turn : Turn}

/-- The credits are all the drain tells the coordinator. -/
theorem drainDwell_records (io : Nat → SaveIo) (n : Nat) (messages : List Clocks)
    (sm : StateMachine) :
    ((drainDwell codec io n messages sm).recovery,(drainDwell codec io n messages sm).files) =
      recordCredits codec io (dwellCredits codec io n messages sm) sm.recovery sm.files := by
  induction messages generalizing n sm with
  | nil => rfl
  | cons dwell rest ih =>
    simp only [drainDwell,dwellCredits]
    split
    · exact ih (n + 1) sm
    · split
      · exact ih (n + 1) _
      · exact ih (n + 1) _

theorem dwellCredits_dormant (io : Nat → SaveIo) (n : Nat) (messages : List Clocks)
    (dormant : sm.state ≠ .connected) : dwellCredits codec io n messages sm = [] := by
  induction messages generalizing n with
  | nil => rfl
  | cons dwell rest ih =>
    rw [dwellCredits,if_pos dormant]
    exact ih (n + 1)

theorem dwellCredits_sublist (io : Nat → SaveIo) (n : Nat) (messages : List Clocks)
    (sm : StateMachine) : ((dwellCredits codec io n messages sm).map Prod.snd).Sublist messages := by
  induction messages generalizing n sm with
  | nil => exact .slnil
  | cons dwell rest ih =>
    simp only [dwellCredits]
    split
    · exact (ih (n + 1) sm).cons dwell
    · split
      · exact (ih (n + 1) _).cons dwell
      · exact (ih (n + 1) _).cons_cons dwell

theorem drainDwell_dwell (io : Nat → SaveIo) (n : Nat) (messages : List Clocks)
    (sm : StateMachine) :
    (drainDwell codec io n messages sm).dwell = (none,[]) ∨
      (drainDwell codec io n messages sm).dwell = (sm.dwellGuard,[]) := by
  induction messages generalizing n sm with
  | nil => exact .inr rfl
  | cons dwell rest ih =>
    simp only [drainDwell]
    split
    · exact ih (n + 1) sm
    · split
      · exact .inl ((ih (n + 1) { sm with dwellGuard := none }).elim id id)
      · exact ih (n + 1) _

variable (codec) in
def tickCredits (sm : StateMachine) (turn : Turn) : List (Nat × Clocks) :=
  dwellCredits codec turn.dwellIo 0 sm.dwellQueue sm

theorem takeDwellSuccesses_records (turn : Turn) :
    ((sm.takeDwellSuccesses codec turn).recovery,(sm.takeDwellSuccesses codec turn).files) =
      recordCredits codec turn.dwellIo (sm.tickCredits codec turn) sm.recovery sm.files := by
  unfold takeDwellSuccesses tickCredits
  split
  next dormant =>
    have none_credited : dwellCredits codec turn.dwellIo 0 sm.dwellQueue
        { sm with dwellGuard := none } = [] := dwellCredits_dormant _ _ _ dormant
    rw [dwellCredits_dormant _ _ _ dormant,← none_credited]
    exact drainDwell_records _ _ _ _
  next => exact drainDwell_records _ _ _ _

theorem takeDwellSuccesses_dwell (turn : Turn) :
    (sm.takeDwellSuccesses codec turn).dwell = (none,[]) ∨
      (sm.takeDwellSuccesses codec turn).dwell = (sm.dwellGuard,[]) ∧ sm.state = .connected := by
  unfold takeDwellSuccesses
  split
  next dormant => exact .inl ((drainDwell_dwell _ _ _ _).elim id id)
  next connected => exact (drainDwell_dwell _ _ _ _).imp id fun kept => ⟨kept,not_not.mp connected⟩

theorem afterApply_dwell (applied : AppliedAction) (turn : Turn) :
    (sm.afterApply applied turn).1.dwell = (none,sm.dwellQueue) ∨
      (sm.afterApply applied turn).1.dwell = sm.dwell ∧
        ((sm.afterApply applied turn).1.state = sm.state ∨ sm.state = .waitingForLaunch) := by
  cases applied with
  | firedGiveUpAlert =>
    left
    simp only [afterApply,giveUpHalt]
    split
    · rfl
    · rfl
    · rfl
    · exact dwell_of_reserve (moveTo_reserve _ _)
  | resumedToAggressive =>
    right
    simp only [afterApply]
    split
    next parked => exact ⟨dwell_of_reserve (moveTo_reserve _ _),.inr parked⟩
    · exact ⟨rfl,.inl rfl⟩
  | _ => exact .inr ⟨rfl,.inl rfl⟩

/-- After the tick the channel is empty, and a guard is left only to a machine that is
connected. -/
theorem tickRecovery_dwell {ready : StateMachine} {effects : List LoopEffect}
    (ticked : sm.tickRecovery codec turn = some (ready,effects)) :
    ready.dwell = (none,[]) ∨
      ready.dwell = (sm.dwellGuard,[]) ∧ sm.state = .connected ∧ ready.state = .connected := by
  have drained := @takeDwellSuccesses_dwell codec sm turn
  have there := (@takeDwellSuccesses_rest codec sm turn).1
  unfold tickRecovery at ticked
  simp only at ticked
  generalize sm.takeDwellSuccesses codec turn = after at ticked drained there
  have stays : after.dwell = (none,[]) ∨
      after.dwell = (sm.dwellGuard,[]) ∧ sm.state = .connected ∧ after.state = .connected :=
    drained.imp id fun kept => ⟨kept.1,kept.2,there.trans kept.2⟩
  split at ticked
  · unfold driveRecovery at ticked
    split at ticked
    · cases ticked
    · simp only at ticked
      split at ticked
      · cases ticked
        exact stays
      next applied result =>
        cases ticked
        have emptied : after.dwellQueue = [] :=
          drained.elim (congrArg Prod.snd) fun kept => congrArg Prod.snd kept.1
        rcases afterApply_dwell applied turn with dropped | ⟨kept,same | parked⟩
        · exact .inl (dropped.trans (congrArg (fun queue => (none,queue)) emptied))
        · rcases stays with dropped | ⟨guarded,connected,still⟩
          · exact .inl (kept.trans dropped)
          · exact .inr ⟨kept.trans guarded,connected,same.trans still⟩
        · rcases stays with dropped | ⟨-,-,still⟩
          · exact .inl (kept.trans dropped)
          · have away : after.state = .waitingForLaunch := parked
            rw [still] at away
            cases away
  · cases ticked
    exact stays

end StateMachine

/-- An entry into Connected by a transition, and whether its dwell has been credited. -/
structure DwellEntry where
  enteredAt : Instant
  credited : Bool
deriving DecidableEq, Repr

/-- The entry has lasted for the dwell and was not credited before. -/
def DwellEntry.Earns (entry : DwellEntry) (minDwell : Nat) (at_ : Instant) : Prop :=
  entry.credited = false ∧ .fromSecs minDwell ≤ at_.durationSince entry.enteredAt

/-- The timer that is guarded is that of the entry, and so is the message in the channel. -/
structure DwellBacked (minDwell : Nat) (entry : Option DwellEntry)
    (dwell : Option DwellTimer × List Clocks) : Prop where
  single : dwell.2.length ≤ 1
  earned : ∀ message ∈ dwell.2, ∃ e, entry = some e ∧ e.Earns minDwell message.mono
  armed : ∀ timer, dwell.1 = some timer → ∃ e, entry = some e ∧ timer.armedAt = e.enteredAt ∧
    timer.dwellSecs = minDwell ∧ (timer.fired = false → dwell.2 = [] ∧ e.credited = false)

namespace DwellBacked

variable {minDwell : Nat} {entry : Option DwellEntry}

theorem idle : DwellBacked minDwell entry (none,[]) := ⟨by simp,by simp,by simp⟩

theorem entered (at_ : Instant) :
    DwellBacked minDwell (some ⟨at_,false⟩) (some ⟨at_,minDwell,false⟩,[]) := by
  refine ⟨by simp,by simp,fun timer guarded => ?_⟩
  cases guarded
  exact ⟨_,rfl,rfl,rfl,fun _ => ⟨rfl,rfl⟩⟩

theorem fires {sm : StateMachine} (backed : DwellBacked minDwell entry sm.dwell)
    (fires : Option Clocks) : DwellBacked minDwell entry (sm.fireDwell fires).dwell := by
  unfold StateMachine.fireDwell
  split
  next timer recorded guarded =>
    split
    next due =>
      obtain ⟨e,present,armedAt,dwells,unfired⟩ := backed.armed timer guarded
      obtain ⟨emptied,uncredited⟩ := unfired due.1
      have queue : sm.dwellQueue ++ [recorded] = [recorded] := by
        rw [show sm.dwellQueue = [] from emptied,List.nil_append]
      have earns : e.Earns minDwell recorded.mono := by
        refine ⟨uncredited,?_⟩
        rw [← dwells,← armedAt]
        exact due.2
      constructor
      · change (sm.dwellQueue ++ [recorded]).length ≤ 1
        rw [queue]
        exact le_rfl
      · intro message member
        change message ∈ sm.dwellQueue ++ [recorded] at member
        rw [queue,List.mem_singleton] at member
        subst member
        exact ⟨e,present,earns⟩
      · rintro _ ⟨⟩
        exact ⟨e,present,armedAt,dwells,fun unfired => absurd unfired (by simp)⟩
    · exact backed
  · exact backed

end DwellBacked

namespace StateMachine

variable {codec} {sm : StateMachine} {turn : Turn}

theorem select_dwell (sm : StateMachine) (turn : Turn) : (sm.select turn).2.1.dwell = sm.dwell := by
  unfold select
  split
  · simp only
    split <;> rfl
  · split <;> rfl

theorem checks_dwell (sm : StateMachine) (turn : Turn) :
    (sm.checks turn).dwell = (sm.fireDwell turn.dwellFires).dwell := by
  unfold checks
  generalize sm.fireDwell turn.dwellFires = fired
  have timed : (fired.checkIbStatusTtl turn.now).dwell = fired.dwell := by
    unfold checkIbStatusTtl
    split
    · rfl
    · split <;> rfl
  rw [← timed]
  unfold checkIbSystemAvailability
  split
  · rfl
  · split
    · rfl
    · split
      · rfl
      · exact (dwell_of_reserve (moveTo_reserve _ _)).trans rfl

theorem afterSelect_dwell (sm : StateMachine) (turn : Turn) :
    (sm.afterSelect turn).dwell = ((sm.select turn).2.1.fireDwell turn.dwellFiresLater).dwell :=
  dwell_of_reserve (handleAgentEvents_reserve _ _ _)

theorem noteTwofaAnswered_dwell (next : State) : (sm.noteTwofaAnswered next).dwell = sm.dwell := by
  unfold noteTwofaAnswered
  simp only
  split <;> rfl

theorem readied_dwell (sm : StateMachine) (next : State) (at_ : Clocks) :
    (sm.readied next at_).dwell = sm.dwell := by
  have recorded : ((sm.checkCeiling next).recordTransition sm.state next at_).dwell = sm.dwell := by
    refine (dwell_of_reserve (recordTransition_reserve _ _ _)).trans ?_
    unfold checkCeiling
    split <;> rfl
  exact noteTwofaAnswered_dwell next |>.trans recorded

theorem applyTransition_arms (apart : sm.state ≠ .connected) (turn : Turn) :
    (sm.applyTransition .connected turn).1.dwell =
      (some ⟨turn.later.mono,sm.recovery.config.minSuccessDwellSecs,false⟩,sm.dwellQueue) := by
  have standing := readied_standing sm .connected turn.later
  have there := state_of_standing standing
  have coord := recovery_of_core (core_of_standing standing)
  have queue : (sm.readied .connected turn.later).dwellQueue = sm.dwellQueue :=
    congrArg Prod.snd (readied_dwell sm .connected turn.later)
  have left : ((sm.readied .connected turn.later).crossConnected .connected
      turn.later).1.dwell =
        (some ⟨turn.later.mono,sm.recovery.config.minSuccessDwellSecs,false⟩,sm.dwellQueue) := by
    unfold crossConnected
    rw [if_pos ⟨rfl,there ▸ apart⟩,← coord,← queue]
    rfl
  rw [← left]
  have crossed : (sm.applyTransition .connected turn).1.dwell =
      (sm.crossed .connected turn.later).dwell := by
    refine applyTransition_of_prepared
      (C := fun left => left.dwell = (sm.crossed .connected turn.later).dwell)
      (fun _ _ => id) (fun _ => id) ?_
    simp only [prepare_eq,StateMachine.dwell]
  rw [crossed]
  unfold StateMachine.crossed leaveHitl
  split <;> rfl

end StateMachine

/-- A process and the entry of its present connection, if it has one. -/
structure DwellWatch where
  process : Process
  entry : Option DwellEntry

namespace DwellWatch

def credits (w : DwellWatch) (t : Turn) : List (Nat × Clocks) :=
  match w.process.status with
  | .running => (w.process.machine.checks t).tickCredits codec t
  | _ => []

/-- The entry is made by a transition into Connected, and over when an iteration finds or
leaves the machine elsewhere. -/
def step (w : DwellWatch) (t : Turn) : DwellWatch :=
  let after := w.process.step codec t
  let entry :=
    match w.process.status,w.process.machine.prelude codec t with
    | .running,some (ready,_) =>
      if ready.state = .connected then
        w.entry.map fun e => { e with credited := e.credited || !(w.credits codec t).isEmpty }
      else if (ready.select t).1 = .transitioned (.ok .connected) then some ⟨t.later.mono,false⟩
      else none
    | _,_ => w.entry
  ⟨after,if after.machine.state = .connected then entry else none⟩

/-- Each success that is recorded is the only one, and earned by an entry after which the
machine was connected in every iteration up to this one. -/
def CreditsEarned (minDwell : Nat) (w : DwellWatch) (t : Turn) : Prop :=
  (w.credits codec t).length ≤ 1 ∧ ∀ credit ∈ w.credits codec t,
    (w.process.machine.checks t).state = .connected ∧
      ∃ e, w.entry = some e ∧ e.Earns minDwell credit.2.mono

/-- While the machine is connected its timer and its messages are those of the entry. -/
structure Sound (minDwell : Nat) (w : DwellWatch) : Prop where
  config : w.process.machine.recovery.config.minSuccessDwellSecs = minDwell
  backed : w.process.machine.state = .connected →
    DwellBacked minDwell w.entry w.process.machine.dwell

variable {codec} {minDwell : Nat} {w : DwellWatch} {t : Turn}

theorem Sound.checked (sound : w.Sound minDwell)
    (connected : (w.process.machine.checks t).state = .connected) :
    DwellBacked minDwell w.entry (w.process.machine.checks t).dwell := by
  rw [StateMachine.checks_dwell]
  refine (sound.backed ?_).fires _
  rcases StateMachine.checks_aside w.process.machine t with ⟨-,same⟩ | ⟨-,away,-⟩
  · exact same.symm.trans connected
  · rw [connected] at away
    cases away

theorem Sound.earned (sound : w.Sound minDwell) (t : Turn) : w.CreditsEarned codec minDwell t := by
  unfold CreditsEarned credits
  cases w.process.status with
  | running =>
    dsimp only
    have among : (((w.process.machine.checks t).tickCredits codec t).map Prod.snd).Sublist
        (w.process.machine.checks t).dwellQueue :=
      StateMachine.dwellCredits_sublist t.dwellIo 0 _ _
    by_cases connected : (w.process.machine.checks t).state = .connected
    · have backed := sound.checked connected
      constructor
      · rw [← List.length_map Prod.snd]
        exact among.length_le.trans backed.single
      · intro credit member
        refine ⟨connected,backed.earned credit.2 (among.subset ?_)⟩
        exact List.mem_map_of_mem member
    · rw [StateMachine.tickCredits,StateMachine.dwellCredits_dormant _ _ _ connected]
      simp
  | _ => simp

/-- The tick credits the message of the entry, and keeps its timer where the machine stays
connected. -/
theorem Sound.ticked {ready : StateMachine} {effects : List LoopEffect} (sound : w.Sound minDwell)
    (running : w.process.status = .running)
    (preluded : w.process.machine.prelude codec t = some (ready,effects)) :
    DwellBacked minDwell
      (w.entry.map fun e => { e with credited := e.credited || !(w.credits codec t).isEmpty })
      ready.dwell := by
  rcases StateMachine.tickRecovery_dwell preluded with dropped | ⟨kept,connected,-⟩
  · rw [dropped]
    exact .idle
  · rw [kept]
    have backed := sound.checked connected
    refine ⟨by simp,by simp,fun timer guarded => ?_⟩
    obtain ⟨e,present,armedAt,dwells,unfired⟩ := backed.armed timer guarded
    refine ⟨_,congrArg (Option.map _) present,armedAt,dwells,fun first => ⟨rfl,?_⟩⟩
    obtain ⟨emptied,uncredited⟩ := unfired first
    have queue : (w.process.machine.checks t).dwellQueue = [] := emptied
    simp [uncredited,credits,running,StateMachine.tickCredits,queue,StateMachine.dwellCredits]

theorem idle_of_away {sm ready : StateMachine} {effects : List LoopEffect}
    (preluded : sm.prelude codec t = some (ready,effects)) (apart : ready.state ≠ .connected) :
    (ready.afterSelect t).dwell = (none,[]) := by
  have dropped : ready.dwell = (none,[]) :=
    (StateMachine.tickRecovery_dwell preluded).elim id fun kept => absurd kept.2.2 apart
  have selected := (StateMachine.select_dwell ready t).trans dropped
  have unguarded : (ready.select t).2.1.dwellGuard = none := congrArg Prod.fst selected
  rw [StateMachine.afterSelect_dwell]
  unfold StateMachine.fireDwell
  rw [unguarded]
  exact selected

theorem prelude_minDwell {sm ready : StateMachine} {effects : List LoopEffect}
    (preluded : sm.prelude codec t = some (ready,effects)) :
    ready.recovery.config = sm.recovery.config := by
  have checked := congrArg RecoveryCoordinator.config
    (StateMachine.recovery_of_core (@StateMachine.checks_moves sm t).1)
  have taken := (@StateMachine.takeDwellSuccesses_outcome codec (sm.checks t) t).2
  rcases StateMachine.tickRecovery_outcome preluded with same | ⟨-,-,entered⟩
  · rw [same]
    exact taken.trans checked
  · exact entered.trans (taken.trans checked)

/-- An iteration that ends in Connected either began there, and the timer may have fired, or
was led there by a transition, or was put there with no timer at all. -/
theorem stepped_dwell {sm ready : StateMachine} {effects : List LoopEffect} {after : Process}
    (preluded : sm.prelude codec t = some (ready,effects)) (stepped : ready.Stepped t after)
    (connected : after.machine.state = .connected) :
    if ready.state = .connected then
      after.machine.dwell = ((ready.select t).2.1.fireDwell t.dwellFiresLater).dwell
    else if (ready.select t).1 = .transitioned (.ok .connected) then
      after.machine.dwell =
        (some ⟨t.later.mono,ready.recovery.config.minSuccessDwellSecs,false⟩,[])
    else after.machine.dwell = (none,[]) := by
  have idle := @idle_of_away codec t _ _ _ preluded
  have kept := StateMachine.afterSelect_dwell ready t
  have there := StateMachine.afterSelect_state ready t
  have coord := StateMachine.recovery_of_core (StateMachine.core_of_standing
    (StateMachine.afterSelect_standing ready t))
  cases stepped with
  | handled interrupt taken apart =>
    have untouched := StateMachine.dwell_of_reserve
      (@StateMachine.handleInterrupt_reserve (ready.afterSelect t) interrupt t)
    rw [taken]
    split
    · exact untouched.trans kept
    next away => exact untouched.trans (idle away)
  | ended interrupt taken ends => cases ends.symm.trans connected
  | failed error taken =>
    rw [if_pos (there.symm.trans connected)]
    exact kept
  | stayed taken status =>
    rw [if_pos (there.symm.trans connected)]
    exact kept
  | moved next leaves taken status =>
    have enters := StateMachine.settled_connected
      ((StateMachine.applyTransition_moves next t).1.symm.trans connected)
    subst enters
    have away := leaves.symm
    rw [if_neg away,if_pos taken,← coord]
    refine (StateMachine.applyTransition_arms (there.trans_ne away) t).trans ?_
    rw [show (ready.afterSelect t).dwellQueue = [] from congrArg Prod.snd (idle away)]

theorem step_sound (sound : w.Sound minDwell) (t : Turn) : (w.step codec t).Sound minDwell := by
  by_cases stopped : ∀ ready effects, w.process.status = .running →
      w.process.machine.prelude codec t ≠ some (ready,effects)
  · have same := (Process.turn_of_stopped stopped).1
    have waits : w.step codec t = ⟨w.process.step codec t,
        if (w.process.step codec t).machine.state = .connected then w.entry else none⟩ := by
      unfold step
      cases running : w.process.status with
      | running =>
        cases preluded : w.process.machine.prelude codec t with
        | none => rfl
        | some ready => exact absurd preluded (stopped ready.1 ready.2 running)
      | _ => rfl
    rw [waits]
    constructor
    · exact (congrArg (fun sm : StateMachine => sm.recovery.config.minSuccessDwellSecs) same).trans
        sound.config
    · intro connected
      rw [if_pos connected]
      change DwellBacked minDwell w.entry (w.process.turn codec t).process.machine.dwell
      rw [same]
      exact sound.backed ((congrArg StateMachine.state same).symm.trans connected)
  · simp only [not_forall,not_not] at stopped
    obtain ⟨ready,effects,running,preluded⟩ := stopped
    have stepped := Process.stepped running preluded
    have config := (congrArg RecoveryConfig.minSuccessDwellSecs (prelude_minDwell preluded)).trans
      sound.config
    constructor
    · have coord : (w.process.step codec t).machine.recovery = ready.recovery := by
        rw [Process.step,Process.turn_of_prelude running preluded]
        exact (StateMachine.afterPrelude_moves ready t).1
      exact (congrArg (fun coord => coord.config.minSuccessDwellSecs) coord).trans config
    · intro (connected : (w.process.step codec t).machine.state = .connected)
      have dwell := stepped_dwell preluded stepped connected
      unfold step
      simp only [running,preluded]
      rw [if_pos connected]
      split at dwell
      next here =>
        rw [if_pos here,dwell]
        exact ((StateMachine.select_dwell ready t).symm ▸ sound.ticked running preluded).fires _
      next away =>
        rw [if_neg away]
        split at dwell
        next enters =>
          rw [if_pos enters,dwell,config]
          exact .entered _
        next elsewhere =>
          rw [if_neg elsewhere,dwell]
          exact .idle

end DwellWatch

end Ibctl.Machine
