import Mathlib.Data.List.ReduceOption
import Ibctl.Lib.Task

/-! The calls of one run of a task: what each of them carries, and what was opened before it is
used. -/
namespace Tasks
namespace Task

variable {Ω φ ε σ α β : Type}

section Traced

/-- After so many calls the task makes these, each for what it has just emitted or for nothing, and
returns; dropped at one of them it has emitted what that one carries. -/
structure Traced (answers : Ω) (t : Task Ω φ ε σ α) (n : Nat) (result : Except ε α)
    (calls : List (Option φ)) : Prop where
  returns : ∀ dropAt (here : Local σ φ), here.calls = n →
    ¬ (Schedule.mk answers dropAt).Cuts n (n + calls.length) →
      t ⟨answers,dropAt⟩ here = (result.mapError .failed,
        ⟨here.state,n + calls.length,here.effects ++ calls.reduceOption⟩)
  stops : ∀ i < calls.length, ∀ here : Local σ φ, here.calls = n →
    t ⟨answers,some (n + i)⟩ here = (.error .dropped,
      ⟨here.state,n + i,here.effects ++ (calls.take (i + 1)).reduceOption⟩)

variable {answers : Ω} {n : Nat}

theorem traced_pure (a : α) : Traced answers (pure a : Task Ω φ ε σ α) n (.ok a) [] where
  returns := by
    rintro dropAt ⟨state,calls,effects⟩ rfl -
    rw [pure_apply]
    simp [Except.mapError]
  stops := by simp

theorem traced_fail (e : ε) : Traced answers (fail e : Task Ω φ ε σ α) n (.error e) [] where
  returns := by
    rintro dropAt ⟨state,calls,effects⟩ rfl -
    simp [fail,Except.mapError]
  stops := by simp

/-- A call that is made for what was emitted right before it. -/
theorem traced_emit_await (effect : φ) (answer : Ω → Nat → α) :
    Traced answers (do emit effect; await answer : Task Ω φ ε σ α) n (.ok (answer answers n))
      [some effect] where
  returns := by
    rintro dropAt ⟨state,calls,effects⟩ rfl uncut
    have goes : dropAt ≠ some calls := fun here => uncut ⟨calls,here,by simp⟩
    rw [bind_apply]
    simp only [emit]
    rw [await_uncut goes]
    rfl
  stops := by
    rintro i small ⟨state,calls,effects⟩ rfl
    obtain rfl : i = 0 := by simpa using small
    rw [bind_apply]
    simp only [emit]
    rw [await_cut rfl]
    rfl

theorem traced_await (answer : Ω → Nat → α) :
    Traced answers (await answer : Task Ω φ ε σ α) n (.ok (answer answers n)) [none] where
  returns := by
    rintro dropAt ⟨state,calls,effects⟩ rfl uncut
    have goes : dropAt ≠ some calls := fun here => uncut ⟨calls,here,by simp⟩
    rw [await_uncut goes]
    simp [Except.mapError,List.reduceOption]
  stops := by
    rintro i small ⟨state,calls,effects⟩ rfl
    obtain rfl : i = 0 := by simpa using small
    rw [await_cut rfl]
    simp [List.reduceOption]

theorem Traced.bind {t : Task Ω φ ε σ β} {f : β → Task Ω φ ε σ α} {b : β} {result : Except ε α}
    {first rest : List (Option φ)} (begins : Traced answers t n (.ok b) first)
    (ends : Traced answers (f b) (n + first.length) result rest) :
    Traced answers (t >>= f) n result (first ++ rest) where
  returns := by
    intro dropAt here counted uncut
    have early : ¬ (Schedule.mk answers dropAt).Cuts n (n + first.length) := by
      rintro ⟨k,at_,low,high⟩
      exact uncut ⟨k,at_,low,by rw [List.length_append]; omega⟩
    have late : ¬ (Schedule.mk answers dropAt).Cuts (n + first.length)
        (n + first.length + rest.length) := by
      rintro ⟨k,at_,low,high⟩
      exact uncut ⟨k,at_,by omega,by rw [List.length_append]; omega⟩
    rw [bind_apply,begins.returns dropAt here counted early]
    simp only [Except.mapError]
    rw [ends.returns dropAt _ rfl late,List.length_append,List.reduceOption_append,Nat.add_assoc,
      List.append_assoc]
    cases result <;> rfl
  stops := by
    intro i small here counted
    rw [bind_apply]
    by_cases within : i < first.length
    · rw [begins.stops i within here counted,List.take_append_of_le_length (by omega)]
    · have uncut : ¬ (Schedule.mk answers (some (n + i))).Cuts n (n + first.length) := by
        rintro ⟨k,⟨⟩,low,high⟩
        omega
      obtain ⟨j,rfl⟩ := Nat.exists_eq_add_of_le (Nat.le_of_not_lt within)
      rw [begins.returns _ here counted uncut]
      simp only [Except.mapError]
      have stopped := ends.stops j (by rw [List.length_append] at small; omega)
        ⟨here.state,n + first.length,here.effects ++ first.reduceOption⟩ rfl
      rw [Nat.add_assoc] at stopped
      rw [stopped,Nat.add_assoc first.length,List.take_length_add_append,List.reduceOption_append,
        List.append_assoc]

theorem Traced.bind_error {t : Task Ω φ ε σ β} {f : β → Task Ω φ ε σ α} {e : ε}
    {calls : List (Option φ)} (begins : Traced answers t n (.error e) calls) :
    Traced answers (t >>= f) n (.error e) calls where
  returns := by
    intro dropAt here counted uncut
    rw [bind_apply,begins.returns dropAt here counted uncut]
    rfl
  stops := by
    intro i small here counted
    rw [bind_apply,begins.stops i small here counted]

end Traced

section Whole

variable {answers : Ω} {t : Task Ω φ ε σ α} {result : Except ε α} {calls : List (Option φ)}

theorem Traced.start_result (traced : Traced answers t 0 result calls) (state : σ) :
    (t.start ⟨answers,none⟩ state).result = result.mapError .failed := by
  rw [Task.start_result,traced.returns none ⟨state,0,[]⟩ rfl (by rintro ⟨k,⟨⟩,-⟩)]

theorem Traced.waits (traced : Traced answers t 0 result calls) (state : σ) {n : Nat}
    (inside : n < calls.length) :
    t.waits answers state n = ⟨.error .dropped,state,(calls.take (n + 1)).reduceOption⟩ := by
  have stopped := traced.stops n inside ⟨state,0,[]⟩ rfl
  rw [Nat.zero_add] at stopped
  unfold Task.waits start
  rw [stopped]
  rfl

theorem Traced.passes (traced : Traced answers t 0 result calls) (state : σ) {n : Nat}
    (beyond : calls.length ≤ n) : (t.waits answers state n).result ≠ .error .dropped := by
  have returned := traced.returns (some n) ⟨state,0,[]⟩ rfl (by rintro ⟨k,⟨⟩,-,high⟩; omega)
  unfold Task.waits
  rw [Task.start_result,returned]
  cases result <;> simp [Except.mapError]

theorem reduceOption_take_succ {n : Nat} {call : Option φ} (here : calls[n]? = some call) :
    (calls.take (n + 1)).reduceOption = (calls.take n).reduceOption ++ call.toList := by
  rw [List.take_add_one,here,List.reduceOption_append]
  cases call <;> rfl

theorem reduceOption_take_le (calls : List (Option φ)) {n m : Nat} (before : n ≤ m) :
    (calls.take n).reduceOption.length ≤ (calls.take m).reduceOption.length := by
  obtain ⟨k,rfl⟩ := Nat.exists_eq_add_of_le before
  rw [List.take_add,List.reduceOption_append,List.length_append]
  exact Nat.le_add_right _ _

/-- The calls that wait for the first time since an effect are those that carry it. -/
theorem Traced.waitsAfter_iff (traced : Traced answers t 0 result calls) (state : σ) (effect : φ)
    (n : Nat) : t.WaitsAfter answers state effect n ↔ calls[n]? = some (some effect) := by
  unfold WaitsAfter
  by_cases inside : n < calls.length
  · rw [traced.waits state inside]
    obtain ⟨call,here⟩ : ∃ call, calls[n]? = some call := ⟨_,List.getElem?_eq_getElem inside⟩
    rw [reduceOption_take_succ here,here]
    cases call with
    | some carried =>
      have later : ∀ k < n, (t.waits answers state k).result = .error .dropped →
          (t.waits answers state k).effects ≠
            (calls.take n).reduceOption ++ (some carried).toList := by
        intro k before _ same
        rw [traced.waits state (by omega)] at same
        have longer := reduceOption_take_le calls (show k + 1 ≤ n by omega)
        have equal := congrArg List.length same
        simp only [List.length_append,Option.toList_some,List.length_singleton] at equal
        omega
      simp only [Option.toList_some,List.getLast?_append,List.getLast?_singleton,Option.some_or,
        Option.some.injEq,true_and]
      exact ⟨fun waits => waits.1,fun same => ⟨same,later⟩⟩
    | none =>
      simp only [Option.toList_none,List.append_nil,reduceCtorEq,iff_false,true_and,
        Option.some.injEq]
      rintro ⟨last,first⟩
      cases n with
      | zero => simp at last
      | succ n =>
        apply first n (by omega)
        · rw [traced.waits state (by omega)]
        · rw [traced.waits state (by omega)]
  · constructor
    · rintro ⟨dropped,-⟩
      exact absurd dropped (traced.passes state (by omega))
    · intro here
      rw [List.getElem?_eq_none (by omega)] at here
      cases here

end Whole

section Making

/-- The task returns unless it is dropped, and what its calls carry is of one kind. -/
def Calls (answers : Ω) (K : φ → Prop) (t : Task Ω φ ε σ α) : Prop :=
  ∀ n, ∃ a calls, Traced answers t n (.ok a) calls ∧ ∀ effect, some effect ∈ calls → K effect

variable {answers : Ω} {K : φ → Prop}

theorem calls_pure (a : α) : Calls answers K (pure a : Task Ω φ ε σ α) :=
  fun _ => ⟨a,[],traced_pure a,by simp⟩

theorem calls_bind {t : Task Ω φ ε σ β} {f : β → Task Ω φ ε σ α} (first : Calls answers K t)
    (second : ∀ b, Calls answers K (f b)) : Calls answers K (t >>= f) := by
  intro n
  obtain ⟨b,begins,traced,kind⟩ := first n
  obtain ⟨a,ends,traced_ends,kind_ends⟩ := second b (n + begins.length)
  refine ⟨a,begins ++ ends,traced.bind traced_ends,fun effect among => ?_⟩
  rcases List.mem_append.mp among with among | among
  · exact kind effect among
  · exact kind_ends effect among

theorem calls_await (answer : Ω → Nat → α) : Calls answers K (await answer : Task Ω φ ε σ α) :=
  fun n => ⟨answer answers n,[none],traced_await answer,by simp⟩

theorem calls_sleep : Calls answers K (sleep : Task Ω φ ε σ Unit) := calls_await _

theorem calls_emit_await {effect : φ} (kind : K effect) (answer : Ω → Nat → α) :
    Calls answers K (do emit effect; await answer : Task Ω φ ε σ α) :=
  fun n => ⟨answer answers n,[some effect],traced_emit_await effect answer,by simpa using kind⟩

theorem Calls.mono {K' : φ → Prop} {t : Task Ω φ ε σ α} (made : Calls answers K t)
    (weaker : ∀ effect, K effect → K' effect) : Calls answers K' t := by
  intro n
  obtain ⟨a,calls,traced,kind⟩ := made n
  exact ⟨a,calls,traced,fun effect among => weaker effect (kind effect among)⟩

end Making

end Task

/-- Some effects open a place, if they are granted, and some use the place that is open. -/
structure Access (φ κ : Type) where
  opens : φ → Option κ
  uses : φ → Prop
  allowed : κ → φ → Prop

namespace Access

variable {φ κ : Type} (access : Access φ κ) (granted : Nat → Bool)

def openedBy (place : Option κ) (n : Nat) (call : Option φ) : Option κ :=
  match call.bind access.opens with
  | none => place
  | some key => if granted n then some key else none

/-- The place that is open after these calls. -/
def opened : Option κ → Nat → List (Option φ) → Option κ
  | place,_,[] => place
  | place,n,call :: rest => opened (access.openedBy granted place n call) (n + 1) rest

/-- What a call uses belongs to the place that is open. -/
def Guarded : Option κ → Nat → List (Option φ) → Prop
  | _,_,[] => True
  | place,n,call :: rest =>
    (∀ effect, call = some effect → access.uses effect → ∃ key, place = some key ∧ access.allowed key effect) ∧
      Guarded (access.openedBy granted place n call) (n + 1) rest

variable {access granted}

theorem guarded_append {place : Option κ} {n : Nat} {first rest : List (Option φ)} :
    access.Guarded granted place n (first ++ rest) ↔ access.Guarded granted place n first ∧
      access.Guarded granted (access.opened granted place n first) (n + first.length) rest := by
  induction first generalizing place n with
  | nil => simp [Guarded,opened]
  | cons call first ih =>
    rw [List.cons_append,Guarded,Guarded,ih,and_assoc,opened,List.length_cons,Nat.add_right_comm,
      Nat.add_assoc]

/-- Where nothing is opened, the place stays. -/
theorem opened_eq {place : Option κ} {n : Nat} {calls : List (Option φ)}
    (closed : ∀ effect, some effect ∈ calls → access.opens effect = none) :
    access.opened granted place n calls = place := by
  induction calls generalizing n with
  | nil => rfl
  | cons call rest ih =>
    have same : access.openedBy granted place n call = place := by
      unfold openedBy
      cases call with
      | none => rfl
      | some effect => rw [Option.bind_some,closed effect (by simp)]
    rw [opened,same,ih fun effect among => closed effect (by simp [among])]

theorem guarded_of_place {place : Option κ} {n : Nat} {calls : List (Option φ)}
    (kind : ∀ effect, some effect ∈ calls → access.opens effect = none ∧
      (access.uses effect → ∃ key, place = some key ∧ access.allowed key effect)) :
    access.Guarded granted place n calls := by
  induction calls generalizing n with
  | nil => trivial
  | cons call rest ih =>
    have later := @ih (n + 1) fun effect among => kind effect (by simp [among])
    have same := @opened_eq _ _ access granted place n [call] fun effect among =>
      (kind effect (by simp [List.mem_singleton.mp among])).1
    simp only [opened] at same
    refine ⟨fun effect carried => (kind effect (by simp [carried])).2,?_⟩
    rw [same]
    exact later

theorem guarded_of_unused {place : Option κ} {n : Nat} {calls : List (Option φ)}
    (unused : ∀ effect, some effect ∈ calls → ¬ access.uses effect) :
    access.Guarded granted place n calls := by
  induction calls generalizing place n with
  | nil => trivial
  | cons call rest ih =>
    refine ⟨fun effect carried uses => ?_,ih fun effect among => unused effect (by simp [among])⟩
    exact absurd uses (unused effect (by simp [carried]))

/-- Behind a use stands the opening of its place, with no other in between. -/
theorem Guarded.opening {place : Option κ} {n : Nat} {calls : List (Option φ)}
    (guarded : access.Guarded granted place n calls) {i : Nat} {effect : φ}
    (here : calls[i]? = some (some effect)) (uses : access.uses effect) :
    ∃ key, access.allowed key effect ∧
      ((place = some key ∧ ∀ j < i, ∀ other, calls[j]? = some (some other) → access.opens other = none) ∨
        ∃ m < i, (∃ opening, calls[m]? = some (some opening) ∧ access.opens opening = some key) ∧
          granted (n + m) = true ∧
          ∀ j, m < j → j < i → ∀ other, calls[j]? = some (some other) → access.opens other = none) := by
  induction calls generalizing place n i with
  | nil => simp at here
  | cons call rest ih =>
    obtain ⟨first,later⟩ := guarded
    cases i with
    | zero =>
      obtain ⟨key,known,allowed⟩ := first effect (by simpa using here) uses
      exact ⟨key,allowed,.inl ⟨known,fun j before => absurd before (Nat.not_lt_zero j)⟩⟩
    | succ i =>
      obtain ⟨key,allowed,held⟩ := ih later (by simpa using here)
      refine ⟨key,allowed,?_⟩
      rcases held with ⟨known,quiet⟩ | ⟨m,before,⟨opening,carried,opens⟩,grant,quiet⟩
      · unfold openedBy at known
        cases opens : call.bind access.opens with
        | none =>
          rw [opens] at known
          refine .inl ⟨known,?_⟩
          rintro (_ | j) before other carries
          · obtain rfl : call = some other := by simpa using carries
            exact opens
          · exact quiet j (by omega) other (by simpa using carries)
        | some opener =>
          rw [opens] at known
          obtain ⟨effect,rfl,opened⟩ := Option.bind_eq_some_iff.mp opens
          have grant : granted n = true ∧ opener = key := by simpa using known
          refine .inr ⟨0,by omega,⟨effect,rfl,by rw [opened,grant.2]⟩,grant.1,?_⟩
          rintro (_ | j) after before other carries
          · omega
          · exact quiet j (by omega) other (by simpa using carries)
      · refine .inr ⟨m + 1,by omega,⟨opening,by simpa using carried,opens⟩,?_,?_⟩
        · rw [← grant]
          congr 1
          omega
        · rintro (_ | j) after before other carries
          · omega
          · exact quiet j (by omega) (by omega) other (by simpa using carries)

end Access
end Tasks
