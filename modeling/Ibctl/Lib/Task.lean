import Mathlib.Data.List.Basic

/-! Asynchronous tasks over a local state. A task asks its surroundings, whose answers are
given by the number of the call, and it can be dropped at any point where it waits; what it
has done to the local state by then stays done. -/
namespace Tasks

inductive Stop (ε : Type) where
  | dropped
  | failed (error : ε)
deriving DecidableEq, Repr

/-- The answers to the calls of one task, and the waiting call at which it is dropped. -/
structure Schedule (Ω : Type) where
  answers : Ω
  dropAt : Option Nat

/-- It is dropped at a call from one number up to another, if that call waits. -/
def Schedule.Cuts {Ω : Type} (schedule : Schedule Ω) (n m : Nat) : Prop :=
  ∃ k, schedule.dropAt = some k ∧ n ≤ k ∧ k < m

structure Local (σ φ : Type) where
  state : σ
  calls : Nat
  effects : List φ

abbrev Task (Ω φ ε σ : Type) := ReaderT (Schedule Ω) (ExceptT (Stop ε) (StateM (Local σ φ)))

namespace Task

variable {Ω φ ψ ε σ α β : Type}

/-- A call that is answered at once. -/
def ask (answer : Ω → Nat → α) : Task Ω φ ε σ α := fun schedule here =>
  (.ok (answer schedule.answers here.calls),{ here with calls := here.calls + 1 })

/-- A call that is waited for. -/
def await (answer : Ω → Nat → α) : Task Ω φ ε σ α := fun schedule here =>
  if schedule.dropAt = some here.calls then (.error .dropped,here)
  else (.ok (answer schedule.answers here.calls),{ here with calls := here.calls + 1 })

def sleep : Task Ω φ ε σ Unit := await (fun _ _ => ())

def emit (effect : φ) : Task Ω φ ε σ Unit := fun _ here =>
  (.ok (),{ here with effects := here.effects ++ [effect] })

def current : Task Ω φ ε σ σ := fun _ here => (.ok here.state,here)

def update (f : σ → σ) : Task Ω φ ε σ Unit := fun _ here =>
  (.ok (),{ here with state := f here.state })

def fail (error : ε) : Task Ω φ ε σ α := fun _ here => (.error (.failed error),here)

/-- The `?` of a result whose error the task can return. -/
def orFail {δ : Type} (embed : δ → ε) : Except δ α → Task Ω φ ε σ α
  | .ok a => pure a
  | .error e => fail (embed e)

/-- The failure of a task as a result; one that is dropped stays dropped. -/
def attempt {δ : Type} (t : Task Ω φ ε σ α) : Task Ω φ δ σ (Except ε α) := fun schedule here =>
  match t schedule here with
  | (.ok a,after) => (.ok (.ok a),after)
  | (.error (.failed error),after) => (.ok (.error error),after)
  | (.error .dropped,after) => (.error .dropped,after)

def mapEffects (rename : φ → ψ) (task : Task Ω φ ε σ α) : Task Ω ψ ε σ α :=
  fun schedule here =>
    let (result,after) := task schedule { here with effects := [] }
    (result,{ after with effects := here.effects ++ after.effects.map rename })

/-- What a task leaves: its result, the local state and the effects in order. -/
structure Outcome (φ ε σ α : Type) where
  result : Except (Stop ε) α
  state : σ
  effects : List φ

def start (task : Task Ω φ ε σ α) (schedule : Schedule Ω) (state : σ) : Outcome φ ε σ α :=
  let (result,after) := task schedule ⟨state,0,[]⟩
  ⟨result,after.state,after.effects⟩

/-- What the task has done when it waits with this call, if that is where it waits. -/
def waits (t : Task Ω φ ε σ α) (answers : Ω) (state : σ) (n : Nat) : Outcome φ ε σ α :=
  t.start ⟨answers,some n⟩ state

/-- The task waits with this call, and for the first time since it did the effect. -/
def WaitsAfter (t : Task Ω φ ε σ α) (answers : Ω) (state : σ) (effect : φ) (n : Nat) : Prop :=
  (t.waits answers state n).result = .error .dropped ∧
    (t.waits answers state n).effects.getLast? = some effect ∧
    ∀ k < n, (t.waits answers state k).result = .error .dropped →
      (t.waits answers state k).effects ≠ (t.waits answers state n).effects

instance [DecidableEq φ] [DecidableEq ε] [DecidableEq α] (t : Task Ω φ ε σ α) (answers : Ω)
    (state : σ) (effect : φ) (n : Nat) : Decidable (t.WaitsAfter answers state effect n) :=
  inferInstanceAs (Decidable (_ ∧ _ ∧ _))

section Laws

theorem pure_apply (a : α) (schedule : Schedule Ω) (here : Local σ φ) :
    (pure a : Task Ω φ ε σ α) schedule here = (.ok a,here) := rfl

theorem bind_apply (t : Task Ω φ ε σ α) (f : α → Task Ω φ ε σ β) (schedule : Schedule Ω)
    (here : Local σ φ) :
    (t >>= f) schedule here =
      match t schedule here with
      | (.ok a,after) => f a schedule after
      | (.error e,after) => (.error e,after) := by
  have unfolded : (t >>= f) schedule here =
      match t schedule here with
      | (result,after) => ExceptT.bindCont (fun a => f a schedule) result after := rfl
  rw [unfolded]
  rcases t schedule here with ⟨result,after⟩
  cases result <;> rfl

/-- A result that is given whatever came before leaves all as it is. -/
theorem bind_return_local (t : Task Ω φ ε σ β) (a : α) (schedule : Schedule Ω) (here : Local σ φ) :
    ((t >>= fun _ => pure a) schedule here).2 = (t schedule here).2 := by
  rw [bind_apply]
  rcases t schedule here with ⟨result,after⟩
  cases result <;> rfl

theorem await_cut {answer : Ω → Nat → α} {schedule : Schedule Ω} {here : Local σ φ}
    (cut : schedule.dropAt = some here.calls) :
    (await answer : Task Ω φ ε σ α) schedule here = (.error .dropped,here) := by
  unfold await
  rw [if_pos cut]

theorem await_uncut {answer : Ω → Nat → α} {schedule : Schedule Ω} {here : Local σ φ}
    (uncut : schedule.dropAt ≠ some here.calls) :
    (await answer : Task Ω φ ε σ α) schedule here =
      (.ok (answer schedule.answers here.calls),{ here with calls := here.calls + 1 }) := by
  unfold await
  rw [if_neg uncut]

theorem start_result (t : Task Ω φ ε σ α) (schedule : Schedule Ω) (state : σ) :
    (t.start schedule state).result = (t schedule ⟨state,0,[]⟩).1 := rfl

theorem start_state (t : Task Ω φ ε σ α) (schedule : Schedule Ω) (state : σ) :
    (t.start schedule state).state = (t schedule ⟨state,0,[]⟩).2.state := rfl

theorem start_mapEffects (rename : φ → ψ) (t : Task Ω φ ε σ α) (schedule : Schedule Ω)
    (state : σ) :
    (mapEffects rename t).start schedule state =
      ⟨(t.start schedule state).result,(t.start schedule state).state,
        (t.start schedule state).effects.map rename⟩ := by
  unfold start mapEffects
  rcases t schedule ⟨state,0,[]⟩ with ⟨result,after⟩
  simp

theorem start_sleep (a : α) (schedule : Schedule Ω) (state : σ) :
    (do sleep; return a : Task Ω φ ε σ α).start schedule state =
      ⟨if schedule.dropAt = some 0 then .error .dropped else .ok a,state,[]⟩ := by
  unfold start
  rw [bind_apply]
  unfold sleep await
  by_cases first : schedule.dropAt = some 0
  · simp [first]
  · simp [first,pure_apply]

end Laws

section Ensures

/-- Under the schedule, the task adds only effects of one kind, also where it is dropped,
and what it returns satisfies the postcondition. -/
def Ensures (schedule : Schedule Ω) (P : φ → Prop) (t : Task Ω φ ε σ α) (Q : α → Prop) : Prop :=
  ∀ here, (∃ more, (t schedule here).2.effects = here.effects ++ more ∧
      ∀ effect ∈ more, P effect) ∧
    ∀ a, (t schedule here).1 = .ok a → Q a

variable {schedule : Schedule Ω} {P : φ → Prop} {Q : α → Prop} {R : β → Prop}

theorem ensures_pure {a : α} (holds : Q a) :
    Ensures schedule P (pure a : Task Ω φ ε σ α) Q := by
  intro here
  rw [pure_apply]
  refine ⟨⟨[],(List.append_nil _).symm,by simp⟩,fun b same => ?_⟩
  cases same
  exact holds

theorem ensures_bind {t : Task Ω φ ε σ β} {f : β → Task Ω φ ε σ α}
    (first : Ensures schedule P t R) (second : ∀ b, R b → Ensures schedule P (f b) Q) :
    Ensures schedule P (t >>= f) Q := by
  intro here
  obtain ⟨⟨more,added,kind⟩,returned⟩ := first here
  rw [bind_apply]
  rcases outcome : t schedule here with ⟨result,after⟩
  rw [outcome] at added returned
  cases result with
  | error stop => exact ⟨⟨more,added,kind⟩,fun a same => by cases same⟩
  | ok b =>
    obtain ⟨⟨rest,addedRest,kindRest⟩,returnedRest⟩ := second b (returned b rfl) after
    refine ⟨⟨more ++ rest,?_,?_⟩,returnedRest⟩
    · simp only at added ⊢
      rw [addedRest,added,List.append_assoc]
    · intro effect member
      rcases List.mem_append.mp member with member | member
      · exact kind effect member
      · exact kindRest effect member

theorem ensures_ask {answer : Ω → Nat → α} (holds : ∀ n, Q (answer schedule.answers n)) :
    Ensures schedule P (ask answer : Task Ω φ ε σ α) Q := by
  intro here
  refine ⟨⟨[],(List.append_nil _).symm,by simp⟩,fun a same => ?_⟩
  cases same
  exact holds here.calls

theorem ensures_await {answer : Ω → Nat → α} (holds : ∀ n, Q (answer schedule.answers n)) :
    Ensures schedule P (await answer : Task Ω φ ε σ α) Q := by
  intro here
  unfold await
  split
  · exact ⟨⟨[],(List.append_nil _).symm,by simp⟩,fun a same => by cases same⟩
  · refine ⟨⟨[],(List.append_nil _).symm,by simp⟩,fun a same => ?_⟩
    cases same
    exact holds here.calls

theorem ensures_sleep : Ensures schedule P (sleep : Task Ω φ ε σ Unit) (fun _ => True) :=
  ensures_await fun _ => trivial

theorem ensures_emit {effect : φ} (kind : P effect) :
    Ensures schedule P (emit effect : Task Ω φ ε σ Unit) (fun _ => True) :=
  fun _ => ⟨⟨[effect],rfl,by simpa using kind⟩,fun _ _ => trivial⟩

theorem ensures_current : Ensures schedule P (current : Task Ω φ ε σ σ) (fun _ => True) :=
  fun _ => ⟨⟨[],(List.append_nil _).symm,by simp⟩,fun _ _ => trivial⟩

theorem ensures_update {f : σ → σ} :
    Ensures schedule P (update f : Task Ω φ ε σ Unit) (fun _ => True) :=
  fun _ => ⟨⟨[],(List.append_nil _).symm,by simp⟩,fun _ _ => trivial⟩

theorem ensures_fail {error : ε} : Ensures schedule P (fail error : Task Ω φ ε σ α) Q :=
  fun _ => ⟨⟨[],(List.append_nil _).symm,by simp⟩,nofun⟩

theorem ensures_orFail {δ : Type} {embed : δ → ε} {result : Except δ α} (holds : ∀ a, result = .ok a → Q a) :
    Ensures schedule P (orFail embed result : Task Ω φ ε σ α) Q := by
  cases result with
  | ok a => exact ensures_pure (holds a rfl)
  | error e => exact ensures_fail

theorem ensures_mapEffects {rename : ψ → φ} {t : Task Ω ψ ε σ α} (kind : ∀ effect, P (rename effect)) :
    Ensures schedule P (mapEffects rename t) (fun _ => True) := by
  intro here
  refine ⟨⟨_,rfl,?_⟩,fun _ _ => trivial⟩
  intro effect member
  obtain ⟨named,-,rfl⟩ := List.mem_map.mp member
  exact kind named

theorem Ensures.mono {G : φ → Prop} {t : Task Ω φ ε σ α} (ensured : Ensures schedule P t Q)
    (kinds : ∀ effect, P effect → G effect) : Ensures schedule G t Q := by
  intro here
  obtain ⟨⟨more,added,kind⟩,returned⟩ := ensured here
  exact ⟨⟨more,added,fun effect member => kinds effect (kind effect member)⟩,returned⟩

theorem Ensures.start {t : Task Ω φ ε σ α} (ensured : Ensures schedule P t Q) (state : σ) :
    ∀ effect ∈ (t.start schedule state).effects, P effect := by
  obtain ⟨⟨more,added,kind⟩,-⟩ := ensured ⟨state,0,[]⟩
  have all : (t.start schedule state).effects = more := added
  rw [all]
  exact kind

end Ensures

section Returning

/-- Whatever the task returns, wherever it is started, satisfies the postcondition. -/
def Returns (schedule : Schedule Ω) (t : Task Ω φ ε σ α) (Q : α → Prop) : Prop :=
  ∀ here a, (t schedule here).1 = .ok a → Q a

variable {schedule : Schedule Ω} {Q : α → Prop} {R : β → Prop}

theorem returns_pure {a : α} (holds : Q a) : Returns schedule (pure a : Task Ω φ ε σ α) Q := by
  intro here b same
  cases same
  exact holds

theorem returns_bind {t : Task Ω φ ε σ β} {f : β → Task Ω φ ε σ α} (first : Returns schedule t R)
    (second : ∀ b, R b → Returns schedule (f b) Q) : Returns schedule (t >>= f) Q := by
  intro here a
  have returned := first here
  rw [bind_apply]
  rcases outcome : t schedule here with ⟨result,after⟩
  rw [outcome] at returned
  cases result with
  | error stop => exact fun same => by cases same
  | ok b => exact second b (returned b rfl) after a

/-- Nothing needs to be known of what came before. -/
theorem returns_last {t : Task Ω φ ε σ β} {f : β → Task Ω φ ε σ α}
    (last : ∀ b, Returns schedule (f b) Q) : Returns schedule (t >>= f) Q :=
  returns_bind (fun _ _ _ => trivial) fun b (_ : True) => last b

theorem Returns.start {t : Task Ω φ ε σ α} (returns : Returns schedule t Q) (state : σ) :
    ∀ a, (t.start schedule state).result = .ok a → Q a :=
  returns ⟨state,0,[]⟩

theorem returns_mapEffects {rename : φ → ψ} {t : Task Ω φ ε σ α} (returns : Returns schedule t Q) :
    Returns schedule (mapEffects rename t) Q :=
  fun here => returns { here with effects := [] }

end Returning

section Triple

/-- From a local state and effects that satisfy the precondition, the task returns in ones
that satisfy the postcondition of its result, or stops in ones that satisfy the last. -/
def Triple (schedule : Schedule Ω) (P : σ → List φ → Prop) (t : Task Ω φ ε σ α)
    (Q : α → σ → List φ → Prop) (E : σ → List φ → Prop) : Prop :=
  ∀ here, P here.state here.effects →
    match t schedule here with
    | (.ok a,after) => Q a after.state after.effects
    | (.error _,after) => E after.state after.effects

variable {schedule : Schedule Ω} {P I E : σ → List φ → Prop} {Q : α → σ → List φ → Prop}
  {R : β → σ → List φ → Prop}

theorem triple_pure {a : α} (holds : ∀ s effects, P s effects → Q a s effects) :
    Triple schedule P (pure a : Task Ω φ ε σ α) Q E := by
  intro here before
  rw [pure_apply]
  exact holds _ _ before

theorem triple_bind {t : Task Ω φ ε σ β} {f : β → Task Ω φ ε σ α}
    (first : Triple schedule P t R E) (second : ∀ b, Triple schedule (R b) (f b) Q E) :
    Triple schedule P (t >>= f) Q E := by
  intro here before
  have reached := first here before
  rw [bind_apply]
  rcases outcome : t schedule here with ⟨result,after⟩
  rw [outcome] at reached
  cases result with
  | error stop => exact reached
  | ok b => exact second b after reached

theorem triple_ask {answer : Ω → Nat → α}
    (holds : ∀ n s effects, P s effects → Q (answer schedule.answers n) s effects) :
    Triple schedule P (ask answer : Task Ω φ ε σ α) Q E :=
  fun here before => holds here.calls _ _ before

theorem triple_await {answer : Ω → Nat → α} (dropped : ∀ s effects, P s effects → E s effects)
    (holds : ∀ n s effects, P s effects → Q (answer schedule.answers n) s effects) :
    Triple schedule P (await answer : Task Ω φ ε σ α) Q E := by
  intro here before
  unfold await
  by_cases here' : schedule.dropAt = some here.calls
  · rw [if_pos here']
    exact dropped _ _ before
  · rw [if_neg here']
    exact holds here.calls _ _ before

theorem triple_emit {effect : φ} {Q : Unit → σ → List φ → Prop}
    (holds : ∀ s effects, P s effects → Q () s (effects ++ [effect])) :
    Triple schedule P (emit effect : Task Ω φ ε σ Unit) Q E :=
  fun _ before => holds _ _ before

theorem triple_current {Q : σ → σ → List φ → Prop} (holds : ∀ s effects, P s effects → Q s s effects) :
    Triple schedule P (current : Task Ω φ ε σ σ) Q E :=
  fun _ before => holds _ _ before

theorem triple_update {f : σ → σ} {Q : Unit → σ → List φ → Prop}
    (holds : ∀ s effects, P s effects → Q () (f s) effects) :
    Triple schedule P (update f : Task Ω φ ε σ Unit) Q E :=
  fun _ before => holds _ _ before

theorem triple_fail {error : ε} (holds : ∀ s effects, P s effects → E s effects) :
    Triple schedule P (fail error : Task Ω φ ε σ α) Q E :=
  fun _ before => holds _ _ before

/-- A task that is never dropped gets its answer. -/
theorem triple_await_steady {answer : Ω → Nat → α} (steady : schedule.dropAt = none)
    (holds : ∀ n s effects, P s effects → Q (answer schedule.answers n) s effects) :
    Triple schedule P (await answer : Task Ω φ ε σ α) Q E := by
  intro here before
  unfold await
  rw [steady,if_neg nofun]
  exact holds here.calls _ _ before

theorem triple_answered {answer : Ω → Nat → β} {b : β} {f : β → Task Ω φ ε σ α}
    (steady : schedule.dropAt = none) (same : ∀ n, answer schedule.answers n = b)
    (rest : Triple schedule P (f b) Q E) : Triple schedule P (await answer >>= f) Q E := by
  refine triple_bind (R := fun answered s effects => answered = b ∧ P s effects)
    (triple_await_steady steady fun n s effects before => ⟨same n,before⟩) fun answered => ?_
  rintro here ⟨rfl,before⟩
  exact rest here before

theorem triple_asked {answer : Ω → Nat → β} {b : β} {f : β → Task Ω φ ε σ α}
    (same : ∀ n, answer schedule.answers n = b) (rest : Triple schedule P (f b) Q E) :
    Triple schedule P (ask answer >>= f) Q E := by
  refine triple_bind (R := fun answered s effects => answered = b ∧ P s effects)
    (triple_ask fun n s effects before => ⟨same n,before⟩) fun answered => ?_
  rintro here ⟨rfl,before⟩
  exact rest here before

/-- Nothing is claimed of what came before. -/
theorem triple_last {t : Task Ω φ ε σ β} {f : β → Task Ω φ ε σ α}
    (last : ∀ b, Triple schedule (fun _ _ => True) (f b) Q (fun _ _ => True)) :
    Triple schedule P (t >>= f) Q (fun _ _ => True) := by
  refine triple_bind (R := fun _ _ _ => True) (fun here _ => ?_) last
  rcases t schedule here with ⟨result,after⟩
  cases result with
  | ok b => trivial
  | error stop => trivial

theorem triple_attempt {δ : Type} {t : Task Ω φ ε σ α} (triple : Triple schedule P t Q E) :
    Triple schedule P (attempt t : Task Ω φ δ σ (Except ε α))
      (fun result s effects =>
        match result with
        | .ok a => Q a s effects
        | .error _ => E s effects) E := by
  intro here before
  have reached := triple here before
  unfold attempt
  rcases outcome : t schedule here with ⟨result,after⟩
  rw [outcome] at reached
  cases result with
  | ok a => exact reached
  | error stop =>
    cases stop with
    | dropped => exact reached
    | failed error => exact reached

theorem Triple.mono {t : Task Ω φ ε σ α} {P' E' : σ → List φ → Prop} {Q' : α → σ → List φ → Prop}
    (triple : Triple schedule P t Q E) (before : ∀ s effects, P' s effects → P s effects)
    (after : ∀ a s effects, Q a s effects → Q' a s effects)
    (stopped : ∀ s effects, E s effects → E' s effects) : Triple schedule P' t Q' E' := by
  intro here holds
  have reached := triple here (before _ _ holds)
  rcases outcome : t schedule here with ⟨result,local'⟩
  rw [outcome] at reached
  cases result with
  | error stop => exact stopped _ _ reached
  | ok a => exact after _ _ _ reached

theorem Triple.start {t : Task Ω φ ε σ α} (triple : Triple schedule P t Q E) (state : σ)
    (before : P state []) :
    match (t.start schedule state).result with
    | .ok a => Q a (t.start schedule state).state (t.start schedule state).effects
    | .error _ => E (t.start schedule state).state (t.start schedule state).effects := by
  have reached := triple ⟨state,0,[]⟩ before
  unfold Task.start
  rcases outcome : t schedule ⟨state,0,[]⟩ with ⟨result,after⟩
  rw [outcome] at reached
  cases result with
  | error stop => exact reached
  | ok a => exact reached

/-- A task whose first part is known to return goes on from where that leaves it. -/
theorem start_bind {t : Task Ω φ ε σ β} {f : β → Task Ω φ ε σ α} {b : β} {state : σ}
    {after : Local σ φ} (first : t schedule ⟨state,0,[]⟩ = (.ok b,after))
    (second : Triple schedule P (f b) Q E) (before : P after.state after.effects) :
    match ((t >>= f).start schedule state).result with
    | .ok a => Q a ((t >>= f).start schedule state).state ((t >>= f).start schedule state).effects
    | .error _ => E ((t >>= f).start schedule state).state ((t >>= f).start schedule state).effects := by
  have reached := second after before
  have same : (t >>= f) schedule ⟨state,0,[]⟩ = f b schedule after := by
    rw [bind_apply,first]
  unfold Task.start
  rw [same]
  rcases outcome : f b schedule after with ⟨result,last⟩
  rw [outcome] at reached
  cases result with
  | error stop => exact reached
  | ok a => exact reached

/-- The state satisfies one condition, and each of the effects another. -/
def All (S : σ → Prop) (p : φ → Prop) (s : σ) (effects : List φ) : Prop :=
  S s ∧ ∀ effect ∈ effects, p effect

theorem all_append {S : σ → Prop} {p : φ → Prop} {s : σ} {first second : List φ}
    (before : ∀ effect ∈ first, p effect) (after : All S p s second) : All S p s (first ++ second) := by
  refine ⟨after.1,fun effect member => ?_⟩
  rcases List.mem_append.mp member with member | member
  · exact before effect member
  · exact after.2 effect member

theorem triple_mapEffects {S E : σ → Prop} {Q : α → σ → Prop} {p : φ → Prop} {q : ψ → Prop}
    {rename : φ → ψ} {t : Task Ω φ ε σ α} (kind : ∀ effect, p effect → q (rename effect))
    (triple : Triple schedule (All S p) t (fun a => All (Q a) p) (All E p)) :
    Triple schedule (All S q) (mapEffects rename t) (fun a => All (Q a) q) (All E q) := by
  intro here before
  have reached := triple { here with effects := [] } ⟨before.1,by simp⟩
  have renamed : ∀ (T : σ → Prop) (after : Local σ φ), All T p after.state after.effects →
      All T q after.state (here.effects ++ after.effects.map rename) := by
    intro T after all
    refine all_append before.2 ⟨all.1,fun effect member => ?_⟩
    obtain ⟨named,among,rfl⟩ := List.mem_map.mp member
    exact kind named (all.2 named among)
  unfold mapEffects
  rcases outcome : t schedule { here with effects := [] } with ⟨result,after⟩
  rw [outcome] at reached
  cases result with
  | ok a => exact renamed _ after reached
  | error stop => exact renamed _ after reached

/-- The task keeps an invariant, wherever it ends. -/
def Keeps (schedule : Schedule Ω) (I : σ → List φ → Prop) (t : Task Ω φ ε σ α) : Prop :=
  Triple schedule I t (fun _ => I) I

theorem keeps_pure (a : α) : Keeps schedule I (pure a : Task Ω φ ε σ α) :=
  triple_pure fun _ _ kept => kept

theorem keeps_bind {t : Task Ω φ ε σ β} {f : β → Task Ω φ ε σ α} (first : Keeps schedule I t)
    (second : ∀ b, Keeps schedule I (f b)) : Keeps schedule I (t >>= f) :=
  triple_bind first second

theorem keeps_ask (answer : Ω → Nat → α) : Keeps schedule I (ask answer : Task Ω φ ε σ α) :=
  triple_ask fun _ _ _ kept => kept

theorem keeps_await (answer : Ω → Nat → α) : Keeps schedule I (await answer : Task Ω φ ε σ α) :=
  triple_await (fun _ _ kept => kept) fun _ _ _ kept => kept

theorem keeps_sleep : Keeps schedule I (sleep : Task Ω φ ε σ Unit) := keeps_await _

theorem keeps_current : Keeps schedule I (current : Task Ω φ ε σ σ) :=
  triple_current fun _ _ kept => kept

theorem keeps_update {f : σ → σ} (kept : ∀ s effects, I s effects → I (f s) effects) :
    Keeps schedule I (update f : Task Ω φ ε σ Unit) := triple_update kept

theorem keeps_emit {effect : φ} (kept : ∀ s effects, I s effects → I s (effects ++ [effect])) :
    Keeps schedule I (emit effect : Task Ω φ ε σ Unit) := triple_emit kept

theorem keeps_orFail {δ : Type} (embed : δ → ε) (result : Except δ α) :
    Keeps schedule I (orFail embed result : Task Ω φ ε σ α) := by
  cases result with
  | ok a => exact keeps_pure a
  | error e => exact triple_fail fun _ _ kept => kept

theorem keeps_attempt {δ : Type} {t : Task Ω φ ε σ α} (kept : Keeps schedule I t) :
    Keeps schedule I (attempt t : Task Ω φ δ σ (Except ε α)) :=
  (triple_attempt kept).mono (fun _ _ => id) (fun result _ _ held => by cases result <;> exact held)
    fun _ _ => id

/-- What follows a result that was not an error. -/
theorem keeps_orFail_bind {δ : Type} {embed : δ → ε} {result : Except δ α} {f : α → Task Ω φ ε σ β}
    (after : ∀ a, result = .ok a → Keeps schedule I (f a)) :
    Keeps schedule I (orFail embed result >>= f) := by
  cases result with
  | ok a =>
    intro here before
    rw [bind_apply]
    exact after a rfl here before
  | error e =>
    intro here before
    rw [bind_apply]
    exact before

/-- What holds wherever the task ends holds of where it ends. -/
theorem Triple.after {t : Task Ω φ ε σ α} {G : σ → List φ → Prop}
    (triple : Triple schedule P t (fun _ => G) G) (here : Local σ φ)
    (before : P here.state here.effects) :
    G (t schedule here).2.state (t schedule here).2.effects := by
  have reached := triple here before
  rcases outcome : t schedule here with ⟨result,after⟩
  rw [outcome] at reached
  cases result with
  | ok a => exact reached
  | error stop => exact reached

theorem Keeps.after {t : Task Ω φ ε σ α} (kept : Keeps schedule I t) (here : Local σ φ)
    (before : I here.state here.effects) :
    I (t schedule here).2.state (t schedule here).2.effects :=
  Triple.after kept here before

theorem Keeps.start {t : Task Ω φ ε σ α} (kept : Keeps schedule I t) (state : σ)
    (before : I state []) : I (t.start schedule state).state (t.start schedule state).effects :=
  kept.after ⟨state,0,[]⟩ before

/-- Among the effects is one of a kind. -/
def Did (p : φ → Prop) (_ : σ) (effects : List φ) : Prop := ∃ effect ∈ effects, p effect

variable {p : φ → Prop}

theorem keeps_did_emit (effect : φ) : Keeps schedule (Did p) (emit effect : Task Ω φ ε σ Unit) := by
  apply keeps_emit
  rintro s effects ⟨done,among,kind⟩
  exact ⟨done,List.mem_append_left _ among,kind⟩

theorem Ensures.keeps_did {t : Task Ω φ ε σ α} {K : φ → Prop} {R : α → Prop}
    (ensured : Ensures schedule K t R) : Keeps schedule (Did p) t := by
  rintro here ⟨effect,among,kind⟩
  obtain ⟨⟨more,added,-⟩,-⟩ := ensured here
  have kept : Did p (t schedule here).2.state (t schedule here).2.effects :=
    ⟨effect,added ▸ List.mem_append_left _ among,kind⟩
  rcases outcome : t schedule here with ⟨result,after⟩
  rw [outcome] at kept
  cases result with
  | ok a => exact kept
  | error stop => exact kept

/-- The task has an effect of a kind, wherever it ends. -/
abbrev Does (schedule : Schedule Ω) (p : φ → Prop) (t : Task Ω φ ε σ α) : Prop :=
  Triple schedule (fun _ _ => True) t (fun _ => Did p) (Did p)

theorem does_emit {effect : φ} (kind : p effect) : Does schedule p (emit effect : Task Ω φ ε σ Unit) :=
  triple_emit fun _ _ _ => ⟨effect,List.mem_append_right _ (List.mem_singleton_self _),kind⟩

theorem does_bind {t : Task Ω φ ε σ β} {f : β → Task Ω φ ε σ α} (first : Does schedule p t)
    (rest : ∀ b, Keeps schedule (Did p) (f b)) : Does schedule p (t >>= f) :=
  triple_bind first rest

/-- What comes before does not stop, and what comes after has the effect. -/
theorem does_after {t : Task Ω φ ε σ β} {f : β → Task Ω φ ε σ α} {R : β → Prop}
    (first : Triple schedule (fun _ _ => True) t (fun b _ _ => R b) (fun _ _ => False))
    (rest : ∀ b, R b → Does schedule p (f b)) : Does schedule p (t >>= f) := by
  refine triple_bind (R := fun b _ _ => R b)
    (first.mono (fun _ _ => id) (fun _ _ _ => id) fun _ _ => False.elim) fun b => ?_
  exact fun here holds => rest b holds here trivial

theorem Does.keeps {t : Task Ω φ ε σ α} (does : Does schedule p t) : Keeps schedule (Did p) t :=
  Triple.mono does (fun _ _ _ => trivial) (fun _ _ _ => id) fun _ _ => id

end Triple

section From

/-! Where the answers a task was given matter, it is followed from one local state. -/

/-- From this local state the task keeps an invariant, wherever it ends. -/
def KeepsFrom (schedule : Schedule Ω) (I : σ → List φ → Prop) (t : Task Ω φ ε σ α)
    (here : Local σ φ) : Prop :=
  I here.state here.effects → I (t schedule here).2.state (t schedule here).2.effects

variable {schedule : Schedule Ω} {I : σ → List φ → Prop} {here : Local σ φ}

theorem Keeps.keepsFrom {t : Task Ω φ ε σ α} (kept : Keeps schedule I t) (here : Local σ φ) :
    KeepsFrom schedule I t here :=
  kept.after here

theorem keeps_of_keepsFrom {t : Task Ω φ ε σ α} (kept : ∀ here, KeepsFrom schedule I t here) :
    Keeps schedule I t := by
  intro here before
  have reached := kept here before
  rcases outcome : t schedule here with ⟨result,after⟩
  rw [outcome] at reached
  cases result with
  | ok a => exact reached
  | error stop => exact reached

theorem keepsFrom_bind {t : Task Ω φ ε σ β} {f : β → Task Ω φ ε σ α} (first : KeepsFrom schedule I t here)
    (second : ∀ b after, t schedule here = (.ok b,after) → KeepsFrom schedule I (f b) after) :
    KeepsFrom schedule I (t >>= f) here := by
  intro before
  have reached := first before
  rw [bind_apply]
  rcases outcome : t schedule here with ⟨result,after⟩
  rw [outcome] at reached
  cases result with
  | error stop => exact reached
  | ok b => exact second b after outcome reached

theorem keepsFrom_ask {answer : Ω → Nat → β} {f : β → Task Ω φ ε σ α}
    (after : KeepsFrom schedule I (f (answer schedule.answers here.calls))
      { here with calls := here.calls + 1 }) :
    KeepsFrom schedule I (ask answer >>= f) here :=
  fun before => after before

theorem keepsFrom_current {f : σ → Task Ω φ ε σ α} (after : KeepsFrom schedule I (f here.state) here) :
    KeepsFrom schedule I (current >>= f) here :=
  fun before => after before

theorem await_returned {answer : Ω → Nat → β} {b : β} {after : Local σ φ}
    (returned : (await answer : Task Ω φ ε σ β) schedule here = (.ok b,after)) :
    b = answer schedule.answers here.calls ∧ after = { here with calls := here.calls + 1 } := by
  unfold await at returned
  split at returned
  · cases returned
  · cases returned
    exact ⟨rfl,rfl⟩

theorem keepsFrom_await {answer : Ω → Nat → β} {f : β → Task Ω φ ε σ α}
    (after : KeepsFrom schedule I (f (answer schedule.answers here.calls))
      { here with calls := here.calls + 1 }) :
    KeepsFrom schedule I (await answer >>= f) here := by
  refine keepsFrom_bind (Keeps.keepsFrom (keeps_await answer) here) fun b reached returned => ?_
  obtain ⟨rfl,rfl⟩ := await_returned returned
  exact after

theorem keepsFrom_mapEffects {S : σ → Prop} {p : φ → Prop} {q : ψ → Prop} {rename : φ → ψ}
    {t : Task Ω φ ε σ α} {at_ : Local σ ψ} (kind : ∀ effect, p effect → q (rename effect))
    (kept : KeepsFrom schedule (All S p) t { at_ with effects := [] }) :
    KeepsFrom schedule (All S q) (mapEffects rename t) at_ := by
  intro before
  have reached := kept ⟨before.1,by simp⟩
  refine all_append before.2 ⟨reached.1,fun effect member => ?_⟩
  obtain ⟨named,among,rfl⟩ := List.mem_map.mp member
  exact kind named (reached.2 named among)

end From

section Counted

/-! The number of the next call tells which answers a task was given. -/

/-- From a number of calls that satisfies the precondition, whatever the task returns and the
number of calls it returns after satisfy the postcondition. -/
def Counted (schedule : Schedule Ω) (P : Nat → Prop) (t : Task Ω φ ε σ α) (Q : α → Nat → Prop) :
    Prop :=
  ∀ here, P here.calls → ∀ a, (t schedule here).1 = .ok a → Q a (t schedule here).2.calls

variable {schedule : Schedule Ω} {P : Nat → Prop} {Q : α → Nat → Prop} {R : β → Nat → Prop}

theorem counted_any (t : Task Ω φ ε σ α) : Counted schedule P t (fun _ _ => True) :=
  fun _ _ _ _ => trivial

theorem Returns.counted {t : Task Ω φ ε σ α} {R : α → Prop} (returns : Returns schedule t R) :
    Counted schedule P t (fun a _ => R a) :=
  fun here _ => returns here

theorem counted_pure {a : α} (holds : ∀ n, P n → Q a n) :
    Counted schedule P (pure a : Task Ω φ ε σ α) Q := by
  intro here before b same
  cases same
  exact holds _ before

theorem counted_bind {t : Task Ω φ ε σ β} {f : β → Task Ω φ ε σ α} (first : Counted schedule P t R)
    (second : ∀ b, Counted schedule (R b) (f b) Q) : Counted schedule P (t >>= f) Q := by
  intro here before a
  have reached := first here before
  rw [bind_apply]
  rcases outcome : t schedule here with ⟨result,after⟩
  rw [outcome] at reached
  cases result with
  | error stop => exact fun same => by cases same
  | ok b => exact second b after (reached b rfl) a

/-- Nothing needs to be known of what came before. -/
theorem counted_last {t : Task Ω φ ε σ β} {f : β → Task Ω φ ε σ α}
    (last : ∀ b, Counted schedule (fun _ => True) (f b) Q) : Counted schedule P (t >>= f) Q :=
  counted_bind (counted_any t) last

theorem counted_await {answer : Ω → Nat → α} (holds : ∀ n, P n → Q (answer schedule.answers n) (n + 1)) :
    Counted schedule P (await answer : Task Ω φ ε σ α) Q := by
  intro here before a
  unfold await
  split
  · intro same
    cases same
  · intro same
    cases same
    exact holds _ before

theorem counted_update {f : σ → σ} : Counted schedule P (update f : Task Ω φ ε σ Unit) (fun _ => P) :=
  fun _ before _ _ => before

theorem counted_mapEffects (rename : φ → ψ) {t : Task Ω φ ε σ α} (counted : Counted schedule P t Q) :
    Counted schedule P (mapEffects rename t) Q :=
  fun here before => counted { here with effects := [] } before

end Counted

section Failing

/-! Which errors a task can fail with. -/

/-- Started here, the task fails with an error of this kind. -/
def FailsFrom (schedule : Schedule Ω) (F : ε → Prop) (t : Task Ω φ ε σ α) (here : Local σ φ) : Prop :=
  ∃ e, (t schedule here).1 = .error (.failed e) ∧ F e

def Avoids (schedule : Schedule Ω) (F : ε → Prop) (t : Task Ω φ ε σ α) : Prop :=
  ∀ here, ¬ t.FailsFrom schedule F here

variable {schedule : Schedule Ω} {F : ε → Prop} {here : Local σ φ}

theorem avoids_pure (a : α) : (pure a : Task Ω φ ε σ α).Avoids schedule F := by
  rintro here ⟨e,failed,-⟩
  cases failed

theorem failsFrom_bind {t : Task Ω φ ε σ β} {f : β → Task Ω φ ε σ α} :
    (t >>= f).FailsFrom schedule F here ↔ t.FailsFrom schedule F here ∨
      ∃ b after, t schedule here = (.ok b,after) ∧ (f b).FailsFrom schedule F after := by
  unfold FailsFrom
  rw [bind_apply]
  rcases t schedule here with ⟨result,after⟩
  cases result with
  | error stop =>
    constructor
    · rintro ⟨e,⟨⟩,among⟩
      exact .inl ⟨e,rfl,among⟩
    · rintro (⟨e,⟨⟩,among⟩ | ⟨b,reached,⟨⟩,-⟩)
      exact ⟨e,rfl,among⟩
  | ok b =>
    constructor
    · exact fun failed => .inr ⟨b,after,rfl,failed⟩
    · rintro (⟨e,⟨⟩,-⟩ | ⟨b,reached,⟨⟩,failed⟩)
      exact failed

theorem avoids_bind {t : Task Ω φ ε σ β} {f : β → Task Ω φ ε σ α} (first : t.Avoids schedule F)
    (second : ∀ b, (f b).Avoids schedule F) : (t >>= f).Avoids schedule F := by
  intro here failed
  obtain failed | ⟨b,after,-,failed⟩ := failsFrom_bind.mp failed
  · exact first here failed
  · exact second b after failed

theorem failsFrom_after {t : Task Ω φ ε σ β} {f : β → Task Ω φ ε σ α} (first : t.Avoids schedule F) :
    (t >>= f).FailsFrom schedule F here ↔
      ∃ b after, t schedule here = (.ok b,after) ∧ (f b).FailsFrom schedule F after := by
  rw [failsFrom_bind]
  exact or_iff_right (first here)

theorem avoids_ask (answer : Ω → Nat → α) : (ask answer : Task Ω φ ε σ α).Avoids schedule F := by
  rintro here ⟨e,failed,-⟩
  cases failed

theorem avoids_await (answer : Ω → Nat → α) :
    (await answer : Task Ω φ ε σ α).Avoids schedule F := by
  rintro here ⟨e,failed,-⟩
  unfold await at failed
  split at failed
  · cases failed
  · cases failed

theorem avoids_sleep : (sleep : Task Ω φ ε σ Unit).Avoids schedule F := avoids_await _

theorem avoids_emit (effect : φ) : (emit effect : Task Ω φ ε σ Unit).Avoids schedule F := by
  rintro here ⟨e,failed,-⟩
  cases failed

theorem avoids_current : (current : Task Ω φ ε σ σ).Avoids schedule F := by
  rintro here ⟨e,failed,-⟩
  cases failed

theorem avoids_update (f : σ → σ) : (update f : Task Ω φ ε σ Unit).Avoids schedule F := by
  rintro here ⟨e,failed,-⟩
  cases failed

theorem avoids_orFail {δ : Type} {embed : δ → ε} (other : ∀ e, ¬ F (embed e)) (result : Except δ α) :
    (orFail embed result : Task Ω φ ε σ α).Avoids schedule F := by
  rintro here ⟨e,failed,among⟩
  cases result with
  | ok a => cases failed
  | error d =>
    cases failed
    exact other d among

theorem failsFrom_ask {answer : Ω → Nat → β} {f : β → Task Ω φ ε σ α} :
    (ask answer >>= f).FailsFrom schedule F here ↔
      (f (answer schedule.answers here.calls)).FailsFrom schedule F
        { here with calls := here.calls + 1 } :=
  Iff.rfl

theorem failsFrom_await {answer : Ω → Nat → β} {f : β → Task Ω φ ε σ α} :
    (await answer >>= f).FailsFrom schedule F here ↔ schedule.dropAt ≠ some here.calls ∧
      (f (answer schedule.answers here.calls)).FailsFrom schedule F
        { here with calls := here.calls + 1 } := by
  rw [failsFrom_after (avoids_await answer)]
  unfold await
  constructor
  · rintro ⟨b,after,returned,failed⟩
    split at returned
    · cases returned
    next goes =>
      cases returned
      exact ⟨goes,failed⟩
  · rintro ⟨goes,failed⟩
    exact ⟨_,_,if_neg goes,failed⟩

theorem failsFrom_current {f : σ → Task Ω φ ε σ α} :
    (current >>= f).FailsFrom schedule F here ↔ (f here.state).FailsFrom schedule F here :=
  Iff.rfl

theorem failsFrom_orFail {δ : Type} {embed : δ → ε} {result : Except δ β} {f : β → Task Ω φ ε σ α} :
    (orFail embed result >>= f).FailsFrom schedule F here ↔
      (∃ e, result = .error e ∧ F (embed e)) ∨
        ∃ b, result = .ok b ∧ (f b).FailsFrom schedule F here := by
  cases result with
  | ok b =>
    have passes : (orFail embed (.ok b) >>= f : Task Ω φ ε σ α) = f b := rfl
    simp [passes]
  | error e =>
    have fails : (orFail embed (.error e) >>= f : Task Ω φ ε σ α) schedule here =
        (.error (.failed (embed e)),here) := rfl
    simp [FailsFrom,fails]

theorem failsFrom_mapEffects {rename : φ → ψ} {t : Task Ω φ ε σ α} {here : Local σ ψ} :
    (mapEffects rename t).FailsFrom schedule F here ↔
      t.FailsFrom schedule F { here with effects := [] } :=
  Iff.rfl

theorem avoids_mapEffects {rename : φ → ψ} {t : Task Ω φ ε σ α} (avoids : t.Avoids schedule F) :
    (mapEffects rename t).Avoids schedule F :=
  fun _ failed => avoids _ failed

end Failing

section Within

/-- A task made of steps whose updates are of one kind and whose errors are of another. -/
inductive Within (W : (σ → σ) → Prop) (E : ε → Prop) : {α : Type} → Task Ω φ ε σ α → Prop
  | pure {α : Type} (a : α) : Within W E (pure a)
  | bind {α β : Type} {t : Task Ω φ ε σ β} {f : β → Task Ω φ ε σ α} (first : Within W E t)
      (second : ∀ b, Within W E (f b)) : Within W E (t >>= f)
  | ask {α : Type} (answer : Ω → Nat → α) : Within W E (ask answer)
  | await {α : Type} (answer : Ω → Nat → α) : Within W E (await answer)
  | emit (effect : φ) : Within W E (emit effect)
  | current : Within W E current
  | update {f : σ → σ} (kind : W f) : Within W E (update f)
  | orFail {δ α : Type} {embed : δ → ε} (kind : ∀ e, E (embed e)) (result : Except δ α) :
      Within W E (orFail embed result)

attribute [grind .] Within.pure Within.ask Within.await Within.emit Within.current
attribute [grind ←] Within.bind Within.update

variable {W : (σ → σ) → Prop} {E F : ε → Prop} {schedule : Schedule Ω}

@[grind .] theorem Within.sleep : Within W E (sleep : Task Ω φ ε σ Unit) := .await _

theorem Within.avoids {t : Task Ω φ ε σ α} (within : Within W E t) (other : ∀ e, E e → ¬ F e) :
    t.Avoids schedule F := by
  induction within with
  | pure a => exact avoids_pure a
  | bind _ _ first second => exact avoids_bind first second
  | ask answer => exact avoids_ask answer
  | await answer => exact avoids_await answer
  | emit effect => exact avoids_emit effect
  | current => exact avoids_current
  | update _ => exact avoids_update _
  | orFail kind result => exact avoids_orFail (fun e => other _ (kind e)) result

theorem Within.keeps {S : σ → Prop} {t : Task Ω φ ε σ α} (within : Within W E t)
    (kept : ∀ f, W f → ∀ s, S s → S (f s)) : t.Keeps schedule (fun s _ => S s) := by
  induction within with
  | pure a => exact keeps_pure a
  | bind _ _ first second => exact keeps_bind first second
  | ask answer => exact keeps_ask answer
  | await answer => exact keeps_await answer
  | emit effect => exact keeps_emit fun _ _ holds => holds
  | current => exact keeps_current
  | update kind => exact keeps_update fun s _ => kept _ kind s
  | orFail _ result => exact keeps_orFail _ result

theorem keeps_renamed {S : σ → Prop} {rename : φ → ψ} {t : Task Ω φ ε σ α}
    (kept : t.Keeps schedule (fun s _ => S s)) :
    (mapEffects rename t).Keeps schedule (fun s _ => S s) := by
  apply keeps_of_keepsFrom
  intro here before
  exact kept.after { here with effects := [] } before

theorem Within.mono {W' : (σ → σ) → Prop} {t : Task Ω φ ε σ α} (within : Within W E t)
    (weaker : ∀ f, W f → W' f) : Within W' E t := by
  induction within with
  | pure a => exact .pure a
  | bind _ _ first second => exact .bind first second
  | ask answer => exact .ask answer
  | await answer => exact .await answer
  | emit effect => exact .emit effect
  | current => exact .current
  | update kind => exact .update (weaker _ kind)
  | orFail kind result => exact .orFail kind result

end Within

section Alike

/-! Two runs side by side: tasks that get the same answers from related local states. -/

/-- From related local states and after as many calls, the two tasks return the same after as
many calls, and leave related local states. -/
def Alike (R : σ → σ → Prop) (t t' : Task Ω φ ε σ α) : Prop :=
  ∀ schedule (here here' : Local σ φ), R here.state here'.state → here.calls = here'.calls →
    (t schedule here).1 = (t' schedule here').1 ∧
      R (t schedule here).2.state (t' schedule here').2.state ∧
      (t schedule here).2.calls = (t' schedule here').2.calls

/-- The task does not tell related local states apart. -/
abbrev Blind (R : σ → σ → Prop) (t : Task Ω φ ε σ α) : Prop := Alike R t t

variable {R : σ → σ → Prop}

@[grind .] theorem alike_pure (a : α) : Alike R (pure a : Task Ω φ ε σ α) (pure a) :=
  fun _ _ _ related same => ⟨rfl,related,same⟩

@[grind ←] theorem alike_bind {t t' : Task Ω φ ε σ β} {f f' : β → Task Ω φ ε σ α}
    (first : Alike R t t') (second : ∀ b, Alike R (f b) (f' b)) : Alike R (t >>= f) (t' >>= f') := by
  intro schedule here here' related same
  obtain ⟨result,reached,counted⟩ := first schedule here here' related same
  rw [bind_apply,bind_apply]
  rcases outcome : t schedule here with ⟨returned,after⟩
  rcases outcome' : t' schedule here' with ⟨returned',after'⟩
  rw [outcome,outcome'] at result reached counted
  cases result
  cases returned with
  | error stop => exact ⟨rfl,reached,counted⟩
  | ok b => exact second b schedule after after' reached counted

@[grind .] theorem blind_ask (answer : Ω → Nat → α) : Blind R (ask answer : Task Ω φ ε σ α) := by
  intro schedule here here' related same
  exact ⟨congrArg (fun n => Except.ok (answer schedule.answers n)) same,related,
    congrArg (fun n => n + 1) same⟩

@[grind .] theorem blind_await (answer : Ω → Nat → α) : Blind R (await answer : Task Ω φ ε σ α) := by
  intro schedule here here' related same
  unfold await
  rw [same]
  split
  · exact ⟨rfl,related,same⟩
  · exact ⟨rfl,related,rfl⟩

@[grind .] theorem blind_sleep : Blind R (sleep : Task Ω φ ε σ Unit) := blind_await _

@[grind .] theorem blind_emit (effect : φ) : Blind R (emit effect : Task Ω φ ε σ Unit) :=
  fun _ _ _ related same => ⟨rfl,related,same⟩

@[grind ←] theorem alike_update {f f' : σ → σ} (kept : ∀ s s', R s s' → R (f s) (f' s')) :
    Alike R (update f : Task Ω φ ε σ Unit) (update f') :=
  fun _ _ _ related same => ⟨rfl,kept _ _ related,same⟩

@[grind .] theorem blind_orFail {δ : Type} (embed : δ → ε) (result : Except δ α) :
    Blind R (orFail embed result : Task Ω φ ε σ α) := by
  cases result with
  | ok a => exact alike_pure a
  | error e => exact fun _ _ _ related same => ⟨rfl,related,same⟩

/-- What the first part returned is known to the second. -/
theorem alike_bind_after {t t' : Task Ω φ ε σ β} {f f' : β → Task Ω φ ε σ α} {P : σ → Prop} {Q : β → Prop}
    (first : Alike R t t') (before : ∀ s s', R s s' → P s)
    (leads : ∀ schedule, Triple schedule (fun s _ => P s) t (fun b _ _ => Q b) (fun _ _ => True))
    (second : ∀ b, Q b → Alike R (f b) (f' b)) : Alike R (t >>= f) (t' >>= f') := by
  intro schedule here here' related same
  obtain ⟨result,reached,counted⟩ := first schedule here here' related same
  have led := leads schedule here (before _ _ related)
  rw [bind_apply,bind_apply]
  rcases outcome : t schedule here with ⟨returned,after⟩
  rcases outcome' : t' schedule here' with ⟨returned',after'⟩
  rw [outcome,outcome'] at result reached counted
  rw [outcome] at led
  cases result
  cases returned with
  | error stop => exact ⟨rfl,reached,counted⟩
  | ok b => exact second b led schedule after after' reached counted

theorem alike_current {f f' : σ → Task Ω φ ε σ α} (after : ∀ s s', R s s' → Alike R (f s) (f' s')) :
    Alike R (current >>= f) (current >>= f') :=
  fun schedule here here' related same => after _ _ related schedule here here' related same

/-- A look at parts of the local state that the relation keeps. -/
theorem blind_current {f : σ → Task Ω φ ε σ α} (same : ∀ s s', R s s' → f s = f s')
    (after : ∀ s, Blind R (f s)) : Blind R (current >>= f) :=
  alike_current fun s s' related => same s s' related ▸ after s

theorem blind_mapEffects {rename : φ → ψ} {t : Task Ω φ ε σ α} (blind : Blind R t) :
    Blind R (mapEffects rename t) :=
  fun schedule here here' related same =>
    blind schedule { here with effects := [] } { here' with effects := [] } related same

theorem Alike.start {t t' : Task Ω φ ε σ α} (alike : Alike R t t') (schedule : Schedule Ω) {s s' : σ}
    (related : R s s') : (t.start schedule s).result = (t'.start schedule s').result :=
  (alike schedule ⟨s,0,[]⟩ ⟨s',0,[]⟩ related rfl).1

end Alike

end Task

end Tasks
