import Mathlib.Logic.Function.Basic
import Mathlib.Data.List.Basic

/-! Directories as maps from names to contents, and operations made of primitive steps
that a crash can cut off. A step is all or nothing, so the directory a crash leaves is
the one reached after some number of the steps. -/
namespace Files

inductive FileState where
  | absent
  | unreadable (error : String)
  | text (content : String)
deriving DecidableEq, Repr

abbrev Directory := String → FileState

def empty : Directory := fun _ => .absent

def write (d : Directory) (name content : String) : Directory :=
  Function.update d name (.text content)

def remove (d : Directory) (name : String) : Directory := Function.update d name .absent

@[simp] theorem write_same (d : Directory) (name content : String) :
    write d name content name = .text content := by simp [write]

theorem write_other {other name : String} (different : other ≠ name) (d : Directory)
    (content : String) : write d name content other = d other := by
  simp [write,different]

@[simp] theorem remove_same (d : Directory) (name : String) : remove d name name = .absent := by
  simp [remove]

theorem remove_other {other name : String} (different : other ≠ name) (d : Directory) :
    remove d name other = d other := by
  simp [remove,different]

inductive ReadError where
  | notFound
  | other (error : String)
deriving DecidableEq, Repr

def readToString (d : Directory) (name : String) : Except ReadError String :=
  match d name with
  | .absent => .error .notFound
  | .unreadable e => .error (.other e)
  | .text content => .ok content

/-- A temporary file that is renamed into place: the name shows the old content or the
new one. A failure leaves the old content. -/
def atomicWrite (d : Directory) (name content : String) (failure : Option String) :
    Except String Unit × Directory :=
  match failure with
  | none => (.ok (),write d name content)
  | some e => (.error e,d)

/-- Removal that takes a missing file for success. -/
def removeFile (d : Directory) (name : String) (failure : Option String) :
    Except String Unit × Directory :=
  match failure with
  | none => (.ok (),remove d name)
  | some e => (.error e,d)

def joinPath (dir name : String) : String :=
  if dir = "" then name
  else if dir.toList.getLast? = some '/' then dir ++ name
  else dir ++ "/" ++ name

/-- The files of the first directory, and where it has none those of the second. -/
def overlay (top bottom : Directory) : Directory :=
  fun name => if top name = .absent then bottom name else top name

theorem overlay_of_absent {top : Directory} {name : String} (missing : top name = .absent)
    (bottom : Directory) : overlay top bottom name = bottom name := by
  simp [overlay,missing]

theorem overlay_of_present {top : Directory} {name : String} (present : top name ≠ .absent)
    (bottom : Directory) : overlay top bottom name = top name := by
  simp [overlay,present]

section Crash

variable {σ : Type*}

def crashAfter (steps : List (σ → σ)) (cut : Nat) (s : σ) : σ :=
  (steps.take cut).foldl (fun t step => step t) s

@[simp] theorem crashAfter_zero (steps : List (σ → σ)) (s : σ) : crashAfter steps 0 s = s := rfl

@[simp] theorem crashAfter_nil (cut : Nat) (s : σ) :
    crashAfter ([] : List (σ → σ)) cut s = s := by
  simp [crashAfter]

@[simp] theorem crashAfter_cons_succ (step : σ → σ) (rest : List (σ → σ)) (cut : Nat) (s : σ) :
    crashAfter (step :: rest) (cut + 1) s = crashAfter rest cut (step s) := rfl

/-- What every step keeps, every cut keeps. -/
theorem crashAfter_invariant {P : σ → Prop} {steps : List (σ → σ)}
    (kept : ∀ step ∈ steps, ∀ t, P t → P (step t)) (cut : Nat) {s : σ} (initial : P s) :
    P (crashAfter steps cut s) := by
  induction steps generalizing cut s with
  | nil => simpa using initial
  | cons step rest ih =>
    cases cut with
    | zero => exact initial
    | succ cut =>
      exact ih (fun other member => kept other (by simp [member])) cut
        (kept step (by simp) s initial)

end Crash

end Files
