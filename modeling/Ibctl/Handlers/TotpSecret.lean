import Ibctl.Config.Credentials
import Ibctl.Handlers.Registry

/-! The secret of the second factor. `Config::load` announces it from the variable or its secret
file, and the handler that enters the code reads it again, later and in its own way. -/
namespace Ibctl.Handlers
open Tasks Task Machine Config

/-- `twofa.has_secret`. -/
def hasSecret (d : Deployment) (secretEnv : String) : Bool :=
  ((envOrFile d secretEnv).map (fun s => decide (s ≠ ""))).getD false

namespace TotpEntryHandler

variable (self : TotpEntryHandler)

/-- The code of the handler behind the secret. -/
def generateFrom (secret : String) : Handle String := do
  sleep
  let timestamp ← orFail (fun e => failed ("failed to read corrected clock: " ++ e))
    (← ask Answers.correctedUnixSeconds)
  let generated ← await Answers.generateAt
  orFail (fun e => failed ("failed to generate TOTP code: " ++ e)) (generated secret timestamp)

/-- The handler runs with this environment. -/
def RunsIn (d : Deployment) (schedule : Schedule Answers) : Prop :=
  ∀ n, schedule.answers.secret n = d.env self.secretEnv

/-- The handler generates from the text that `env_or_file` returned. -/
def Obtains (d : Deployment) : Prop :=
  ∃ text, envOrFile d self.secretEnv = some text ∧
    ∀ schedule here, self.RunsIn d schedule →
      self.generate schedule here = generateFrom text schedule { here with calls := here.calls + 1 }

variable {self} {d : Deployment} {schedule : Schedule Answers} {here : Local Bool Stroke}

theorem generate_eq (runs : self.RunsIn d schedule) :
    self.generate schedule here =
      match d.env self.secretEnv with
      | none => (.error (.failed (failed ("TOTP secret env var '" ++ self.secretEnv ++ "' not set"))),
          { here with calls := here.calls + 1 })
      | some secret => generateFrom secret schedule { here with calls := here.calls + 1 } := by
  have answer := runs here.calls
  have asked : (ask Answers.secret : Handle (Option String)) schedule here =
      (.ok (schedule.answers.secret here.calls),{ here with calls := here.calls + 1 }) := rfl
  unfold generate
  rw [bind_apply,asked,answer]
  cases d.env self.secretEnv with
  | none => rfl
  | some secret => rfl

/-- Surroundings whose code is the secret itself. -/
def echo (d : Deployment) (self : TotpEntryHandler) : Schedule Answers where
  answers := {
    clickButton := fun _ => .ok true
    dumpComponents := fun _ => .ok .null
    typeText := fun _ => .ok true
    typeTextBest := fun _ => .ok true
    sendKey := fun _ => .ok true
    verifyWindow := fun _ => .ok none
    secret := fun _ => d.env self.secretEnv
    correctedUnixSeconds := fun _ => .ok 0
    generateAt := fun _ secret _ => .ok secret }
  dropAt := none

theorem generateFrom_echo (secret : String) (here : Local Bool Stroke) :
    (generateFrom secret (echo d self) here).1 = .ok secret := rfl

theorem obtains_iff :
    self.Obtains d ↔ ∃ text, envOrFile d self.secretEnv = some text ∧ d.env self.secretEnv = some text := by
  constructor
  · rintro ⟨text,announced,same⟩
    refine ⟨text,announced,?_⟩
    have runs : self.RunsIn d (echo d self) := fun _ => rfl
    have entered := congrArg Prod.fst (same (echo d self) ⟨false,0,[]⟩ runs)
    rw [generateFrom_echo,generate_eq runs] at entered
    cases held : d.env self.secretEnv with
    | none =>
      rw [held] at entered
      cases entered
    | some secret =>
      rw [held] at entered
      dsimp only at entered
      rw [generateFrom_echo] at entered
      exact congrArg some (Except.ok.inj entered)
  · rintro ⟨text,announced,held⟩
    refine ⟨text,announced,fun schedule here runs => ?_⟩
    rw [generate_eq runs,held]

/-- What is announced can be used unless it stands in a secret file that says otherwise than the
variable does. -/
theorem announced_usable_iff (d : Deployment) (self : TotpEntryHandler) :
    (hasSecret d self.secretEnv = true → self.Obtains d) ↔
      ∀ contents, secret d self.secretEnv = some contents → contents ≠ "" →
        d.env self.secretEnv = some contents := by
  rw [obtains_iff]
  unfold hasSecret envOrFile
  cases file : secret d self.secretEnv with
  | some contents =>
    simp only [Option.map_some,Option.getD_some,decide_eq_true_eq,Option.some.injEq,ne_eq,forall_eq',
      exists_eq_left']
  | none =>
    refine iff_of_true (fun announced => ?_) nofun
    dsimp only at announced ⊢
    unfold direct at announced ⊢
    cases held : d.env self.secretEnv with
    | none =>
      rw [held] at announced
      cases announced
    | some text =>
      rw [held] at announced
      by_cases empty : text = ""
      · subst empty
        cases announced
      · exact ⟨text,by simp [empty],rfl⟩

/-- A secret that Docker mounts as a file is announced, and no code can be made of it. -/
def mountedSecret : Deployment where
  env := fun var => if var = "TWOFACTOR_CODE_FILE" then some "/run/secrets/totp" else none
  file := fun path => if path = "/run/secrets/totp" then .text "JBSWY3DPEHPK3PXP\n" else .osError "no such file"
  toml := {}

def defaultEntry : TotpEntryHandler := ⟨"TWOFACTOR_CODE",false,false⟩

theorem mounted_secret_unusable :
    ¬ (hasSecret mountedSecret defaultEntry.secretEnv = true → defaultEntry.Obtains mountedSecret) := by
  intro usable
  obtain ⟨text,-,held⟩ := obtains_iff.mp (usable (by decide +kernel))
  cases held

end TotpEntryHandler

end Ibctl.Handlers
