import Ibctl.StateMachine.Stable

/-! What outlasts a state: the pending contradictions, the hash of a warm restart, and the
counters of restarts and of re-logins. A handler that has no business with them leaves them
alone, wherever it is dropped, and none but that of Launching starts the Gateway. -/
namespace Ibctl.Machine
open Tasks Step Task

@[ext] structure Lasting where
  revocation : RevocationTracker
  warmRestartPending : Option String
  consecutiveJvmRestarts : Nat
  reloginAttempts : Nat

def Session.lasting (s : Session) : Lasting :=
  ⟨s.revocation,s.warmRestartPending,s.consecutiveJvmRestarts,s.reloginAttempts⟩

def Effect.isLaunch : Effect → Bool
  | .launched _ => true
  | _ => false

/-- The lasting fields satisfy the condition, and the Gateway was not launched. -/
def Steady (J : Lasting → Prop) : Session → List Effect → Prop :=
  All (fun s => J s.lasting) fun effect => effect.isLaunch = false

variable {J : Lasting → Prop} {schedule : Schedule Answers}

theorem steady_append {effect : Effect} (other : effect.isLaunch = false) (s : Session)
    (effects : List Effect) (steady : Steady J s effects) : Steady J s (effects ++ [effect]) := by
  apply all_append steady.2
  refine ⟨steady.1,fun e member => ?_⟩
  rw [List.mem_singleton.mp member]
  exact other

theorem steady_of_lasting {s s' : Session} (same : s'.lasting = s.lasting) (effects : List Effect)
    (steady : Steady J s effects) : Steady J s' effects := by
  have kept : J s'.lasting := by
    rw [same]
    exact steady.1
  exact ⟨kept,steady.2⟩

/-- The lasting fields as the ledger has them. -/
def SessionLedger.lasting (l : SessionLedger) : Lasting :=
  ⟨l.revocation,l.warmRestartPending,l.consecutiveJvmRestarts,l.reloginAttempts⟩

instance : Stable (Steady J) where
  write _ _ effects same := steady_of_lasting (congrArg SessionLedger.lasting same) effects
  emit s effects effect routine := steady_append (by cases effect <;> first | rfl | cases routine) s effects

instance : StableRetry (Steady J) where
  retries _ _ effects same := steady_of_lasting (congrArg SessionLedger.lasting same) effects

instance : StableHitl (Steady J) where
  waits _ _ effects same := steady_of_lasting (congrArg SessionLedger.lasting same) effects

instance : StableReturn (Steady J) where
  returns _ effects steady := steady_of_lasting rfl effects steady

instance : Dispatches schedule (Steady J) where
  dispatched _ _ _ _ _ := steady_append rfl

instance : Submits (Steady J) where
  submitted _ _ := steady_append rfl

end Ibctl.Machine
