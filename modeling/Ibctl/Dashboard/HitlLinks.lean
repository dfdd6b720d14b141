import Mathlib.Data.List.Perm.Basic
import Ibctl.Dashboard.TwofaCallback
import Ibctl.StateMachine.HitlEpisodes

/-! The links of a wait for the operator, from the request that opens one to the state machine
that handles its command. The dashboard and one instance run side by side: requests are under way,
commands wait in the channel, and iterations take them. Neither program remembers a link. -/
namespace Ibctl.Machine
open Recovery

/-- The state a command is taken in, when the select takes one. -/
def Process.takesCommand (codec : MarkerCodec) (p : Process) (t : Turn) : Option (State × Command) :=
  match p.status,p.machine.prelude codec t with
  | .running,some (ready,_) =>
    match (ready.select t).1 with
    | .interrupted (.command command) => some (ready.state,command)
    | _ => none
  | _,_ => none

/-- HITL_RESUME takes a machine that waits for the operator out of its wait. -/
theorem Process.step_resumed {codec : MarkerCodec} {p : Process} {t : Turn}
    (takes : p.takesCommand codec t = some (.waitingForHitl2fa,.hitlResume)) :
    (p.step codec t).machine.state ≠ .waitingForHitl2fa := by
  unfold takesCommand at takes
  split at takes
  next ready effects running preluded =>
    split at takes
    next command selected =>
      obtain ⟨waits,rfl⟩ := Prod.mk.inj (Option.some.inj takes)
      have moved : ((ready.afterSelect t).handleInterrupt (.command .hitlResume) t).1.state =
          .restarting := by
        have there := (StateMachine.afterSelect_state ready t).trans waits
        simp only [StateMachine.handleInterrupt,StateMachine.dispatchCommand,
          StateMachine.handleCommand,there,if_true,StateMachine.moveTo_state]
      have resumed : ∀ interrupt, (ready.select t).1 = .interrupted interrupt →
          ((ready.afterSelect t).handleInterrupt interrupt t).1.state = .restarting := by
        intro interrupt taken
        rw [selected] at taken
        cases taken
        exact moved
      have stepped := Process.stepped running preluded
      generalize p.step codec t = q at stepped ⊢
      cases stepped with
      | handled interrupt taken apart =>
        rw [resumed interrupt taken]
        decide
      | ended interrupt taken ends =>
        rw [resumed interrupt taken] at ends
        cases ends
      | failed error taken => rw [selected] at taken; cases taken
      | stayed taken status => rw [selected] at taken; cases taken
      | moved next apart taken status => rw [selected] at taken; cases taken
    · cases takes
  · cases takes

end Ibctl.Machine

namespace Ibctl.Dashboard
open Machine (Process Turn Command State)
open Recovery Runs

/-- A command in the channel, with the link whose request sent it. -/
structure Sent where
  command : Command
  link : Option (List Char)

/-- The dashboard and an instance, the links that were opened with success and those whose
command took the machine out of its wait. -/
structure LinkedInstance where
  limiter : RateLimiter
  inFlight : List (List Char)
  queue : List Sent
  process : Process
  opened : List (List Char)
  resumed : List (List Char)

/-- What happens: a request, a command of a request that gets into the channel or is lost, a
command of another client, and an iteration of the instance. -/
inductive LinkEvent where
  | opened (get : Post) (at_ : Readings)
  | delivered (n : Nat)
  | lost (n : Nat)
  | issued (command : Command)
  | iterated (turn : Turn)

namespace LinkedInstance

variable {δ : Type} (site : Site δ) (codec : MarkerCodec) (mode : List Char)

def start (process : Process) : LinkedInstance where
  limiter := ⟨60 * microseconds,10,1024,[]⟩
  inFlight := []
  queue := []
  process := process
  opened := []
  resumed := []

variable (w : LinkedInstance)

/-- The turn of an iteration: where a command comes first, it is the first of the channel. -/
def serves (turn : Turn) : Turn :=
  match turn.interrupt with
  | some (.command _) => { turn with interrupt := w.queue.head?.map fun sent => .command sent.command }
  | _ => turn

/-- The link whose command the event hands to a machine that waits for the operator. -/
def meetsWait : LinkEvent → Option (List Char)
  | .iterated turn =>
    if w.process.takesCommand codec (w.serves turn) = some (.waitingForHitl2fa,.hitlResume) then
      w.queue.head?.bind Sent.link
    else none
  | _ => none

/-- The link whose command takes the machine out of its wait. -/
def resumes : LinkEvent → Option (List Char)
  | .iterated turn =>
    if w.process.takesCommand codec (w.serves turn) = some (.waitingForHitl2fa,.hitlResume) ∧
        (w.process.step codec (w.serves turn)).machine.state ≠ .waitingForHitl2fa then
      w.queue.head?.bind Sent.link
    else none
  | _ => none

def step (event : LinkEvent) : LinkedInstance :=
  match event with
  | .opened get at_ =>
    match twofaUntilSent site w.limiter get at_ with
    | (.error _,limiter) => { w with limiter }
    | (.ok target,limiter) =>
      if target = mode then
        { w with limiter, inFlight := w.inFlight ++ [get.t], opened := w.opened ++ [get.t] }
      else { w with limiter }
  | .delivered n =>
    match w.inFlight[n]? with
    | none => w
    | some link =>
      { w with inFlight := w.inFlight.eraseIdx n, queue := w.queue ++ [⟨.hitlResume,some link⟩] }
  | .lost n => { w with inFlight := w.inFlight.eraseIdx n }
  | .issued command => { w with queue := w.queue ++ [⟨command,none⟩] }
  | .iterated turn =>
    let served := w.serves turn
    { w with
      queue := if (w.process.takesCommand codec served).isSome then w.queue.tail else w.queue
      process := w.process.step codec served
      resumed := w.resumed ++ (w.resumes codec event).toList }

/-- No link that resumed a wait before is handed to a machine that waits again. -/
def MeetsNewLink (event : LinkEvent) : Prop :=
  ∀ link, w.meetsWait codec event = some link → link ∉ w.resumed

variable {site codec mode w}

theorem resumes_eq (event : LinkEvent) : w.resumes codec event = w.meetsWait codec event := by
  cases event with
  | iterated turn =>
    simp only [resumes,meetsWait]
    by_cases takes : w.process.takesCommand codec (w.serves turn) =
        some (.waitingForHitl2fa,.hitlResume)
    · rw [if_pos takes,if_pos ⟨takes,Process.step_resumed takes⟩]
    · rw [if_neg takes,if_neg fun both => takes both.1]
  | _ => rfl

theorem step_resumed (event : LinkEvent) :
    (w.step site codec mode event).resumed = w.resumed ++ (w.resumes codec event).toList := by
  cases event with
  | opened get at_ =>
    simp only [step,resumes,Option.toList_none,List.append_nil]
    split
    · rfl
    · split <;> rfl
  | delivered n =>
    simp only [step,resumes,Option.toList_none,List.append_nil]
    split <;> rfl
  | iterated turn => rfl
  | _ => simp [step,resumes]

/-- How often a link stands in what is under way, in the channel and in the log. -/
def accounted (w : LinkedInstance) (link : List Char) : Nat :=
  w.inFlight.count link + (w.queue.filterMap Sent.link).count link + w.resumed.count link

theorem count_eraseIdx {l : List (List Char)} {n : Nat} {first : List Char}
    (here : l[n]? = some first) (link : List Char) :
    (l.eraseIdx n).count link + [first].count link = l.count link := by
  obtain ⟨inside,same⟩ := List.getElem?_eq_some_iff.mp here
  have perm := List.getElem_cons_eraseIdx_perm inside
  rw [same] at perm
  have split : first :: l.eraseIdx n = [first] ++ l.eraseIdx n := rfl
  rw [← perm.count_eq,split,List.count_append,Nat.add_comm]

/-- Every command that is sent was opened for, and is handled at most once. -/
theorem step_accounted (event : LinkEvent) (link : List Char)
    (covered : w.accounted link ≤ w.opened.count link) :
    (w.step site codec mode event).accounted link ≤
      (w.step site codec mode event).opened.count link := by
  unfold accounted at covered ⊢
  cases event with
  | opened get at_ =>
    simp only [step]
    split
    · exact covered
    · split
      · simp only [List.count_append]
        omega
      · exact covered
  | delivered n =>
    simp only [step]
    split
    · exact covered
    next first here =>
      have erased := count_eraseIdx here link
      have queued : (w.queue ++ [(⟨.hitlResume,some first⟩ : Sent)]).filterMap Sent.link =
          w.queue.filterMap Sent.link ++ [first] := by rw [List.filterMap_append]; rfl
      simp only [queued,List.count_append]
      omega
  | lost n =>
    have fewer := (List.eraseIdx_sublist w.inFlight n).count_le link
    simp only [step]
    omega
  | issued command => simpa [step] using covered
  | iterated turn =>
    -- Whoever is handed to the machine has left the channel.
    have handed : ∀ queue : List Sent, ∀ takes : Option (State × Command),
        (if takes = some (.waitingForHitl2fa,.hitlResume) then queue.head?.bind Sent.link
            else none).toList.count link +
          ((if takes.isSome then queue.tail else queue).filterMap Sent.link).count link ≤
        (queue.filterMap Sent.link).count link := by
      intro queue takes
      cases queue with
      | nil => simp
      | cons sent rest =>
        have first : (sent :: rest).filterMap Sent.link =
            sent.link.toList ++ rest.filterMap Sent.link := by
          cases held : sent.link with
          | none => rw [List.filterMap_cons_none held]; rfl
          | some link => rw [List.filterMap_cons_some held]; rfl
        rw [first,List.count_append]
        by_cases waits : takes = some (.waitingForHitl2fa,.hitlResume)
        · simp [waits]
        · by_cases taken : takes.isSome
          · simp [waits,taken]
          · rw [if_neg waits,if_neg taken,first,List.count_append]
            simp
    have held := handed w.queue (w.process.takesCommand codec (w.serves turn))
    simp only [step,resumes_eq,meetsWait,List.count_append]
    omega

end LinkedInstance

/-- Along every run of the dashboard and an instance, each link takes the machine out of its wait
at most once exactly when no link that has done so is handed to a machine that waits again. No
link does so more often than it was opened. -/
theorem link_resumes_once_iff {δ : Type} (site : Site δ) (codec : MarkerCodec) (mode : List Char)
    (p : Process) (events : List LinkEvent) :
    let ended := run (LinkedInstance.step site codec mode) (.start p) events
    ((∀ link, ended.resumed.count link ≤ 1) ↔
      Along (LinkedInstance.step site codec mode) (fun w event => w.MeetsNewLink codec event)
        (.start p) events) ∧
    ∀ link, ended.resumed.count link ≤ ended.opened.count link := by
  intro ended
  refine ⟨?_,fun link => ?_⟩
  · rw [← List.nodup_iff_count_le_one]
    refine (log_nodup_iff (fun w event => @LinkedInstance.step_resumed δ site codec mode w event)
      List.nodup_nil events).trans ?_
    refine along_congr (fun w event => ?_) _ events
    rw [LinkedInstance.resumes_eq]
    exact Iff.rfl
  · have nothing : (LinkedInstance.start p).accounted link ≤
        (LinkedInstance.start p).opened.count link := le_refl 0
    have covered := Along.invariant (G := fun _ _ => True) (P := fun w : LinkedInstance =>
        w.accounted link ≤ w.opened.count link)
      (fun w event covered _ => LinkedInstance.step_accounted event link covered) nothing
      (@along_of_forall _ _ (LinkedInstance.step site codec mode) _ _ events fun _ _ _ => trivial)
    exact le_trans (Nat.le_add_left _ _) covered

/-- A link that is valid for twelve hours from the start of the site. -/
def waitToken : List Char := "v2.hitl.1720014400.1720057600.paper.AA".toList

def waitOpened (secs : Nat) : LinkEvent :=
  .opened ⟨some "10.0.0.1",waitToken,"paper".toList⟩
    ⟨(1720000000 + secs) * microseconds,(1720000000 + secs) * microseconds,
      (1720000000 + secs) * microseconds⟩

/-- The next command of the channel is served. -/
def served (secs : Nat) : LinkEvent :=
  .iterated (Machine.turnAt (Recovery.sampleClocks secs) (some (.command .resume)))

/-- Two waits, five minutes apart; the link of the first is opened in both. -/
def openedTwice : List LinkEvent :=
  [.issued (.setState "WaitingForHitl2fa"),served 14401,waitOpened 14402,.delivered 0,served 14403,
    .issued (.setState "WaitingForHitl2fa"),served 14702,waitOpened 14703,.delivered 0,served 14704]

theorem link_resumes_twice :
    let ended := run (LinkedInstance.step linkSite Recovery.sampleCodec "paper".toList)
      (.start Machine.hitlStart.process) openedTwice
    (mintToken linkSite.mac linkSite.signingKey "paper".toList 12 hitlIntent 1720014400 =
        .ok waitToken ∧
      ended.resumed = [waitToken,waitToken]) ∧
      ¬ ∀ link, ended.resumed.count link ≤ 1 := by
  intro ended
  have twice : mintToken linkSite.mac linkSite.signingKey "paper".toList 12 hitlIntent 1720014400 =
      .ok waitToken ∧ ended.resumed = [waitToken,waitToken] := by decide +kernel
  refine ⟨twice,fun once => ?_⟩
  have first := once waitToken
  rw [twice.2] at first
  exact absurd first (by decide)

end Ibctl.Dashboard
