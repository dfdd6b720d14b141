import Ibctl.Recovery.Decision
import Ibctl.Lib.Files
import Ibctl.Lib.Text

/-! The recovery marker of one trading mode: a JSON file with the coordinator's state
and a sidecar that names the last phase. Encoding and decoding JSON is the work of a
library, so the codec is a parameter; what is read from which file, in which order, and
what each failure turns into is the source's own. -/
namespace Ibctl.Recovery
open Files

structure RecoveryPersistedState where
  schemaVersion : Nat
  phase : RecoveryPhase
  phaseEnteredAt : Zoned
  phaseEnteredAtMonotonicSecsSinceBoot : Nat
  lastFullSuccessAt : Option Zoned
  giveupAlertSentAt : Option Int
  resumedByTokenHash : Option String
  lastKnownPhase : RecoveryPhase
deriving DecidableEq, Repr

structure MarkerCodec where
  toVecPretty : RecoveryPersistedState → String
  fromStr : String → Except String RecoveryPersistedState
  /-- The `last_known_phase` member of a text that is some JSON object. -/
  peekLastKnownPhase : String → Option String

inductive RecoveryLoadOutcome where
  | loaded (state : RecoveryPersistedState)
  | defaulted (reason : String)
  | refusedGivenUpAutoReset (reason : String)
deriving DecidableEq, Repr

structure SettingsDir where
  path : String
  files : Directory

def markerName (mode : String) : String := ".ibctl-recovery-state." ++ mode ++ ".json"

def sidecarName (mode : String) : String :=
  ".ibctl-recovery-state." ++ mode ++ ".last-known-phase.txt"

theorem markerName_ne_sidecarName (mode : String) : markerName mode ≠ sidecarName mode := by
  intro same
  have endings : ".json" = ".last-known-phase.txt" :=
    (String.append_right_inj (".ibctl-recovery-state." ++ mode)).mp same
  exact absurd endings (by decide)

variable (codec : MarkerCodec)

def sidecarSaysGivenUp (files : Directory) (mode : String) : Bool :=
  match readToString files (sidecarName mode) with
  | .ok content => Text.trim content = RecoveryPhase.givenUp.asStr
  | .error _ => false

def peekSaysGivenUp (files : Directory) (mode : String) : Bool :=
  match readToString files (markerName mode) with
  | .ok raw => codec.peekLastKnownPhase raw = some RecoveryPhase.givenUp.asStr
  | .error _ => false

def classifyCorrupt (dir : SettingsDir) (mode : String) (forceReset : Bool) (reason : String) :
    RecoveryLoadOutcome :=
  let main := joinPath dir.path (markerName mode)
  let side := joinPath dir.path (sidecarName mode)
  if forceReset then
    .defaulted (reason ++ " (IBCTL_RECOVERY_FORCE_RESET override applied)")
  else if sidecarSaysGivenUp dir.files mode then
    .refusedGivenUpAutoReset (reason ++ "; sidecar at " ++ side ++
      " indicates last phase was given_up — refusing auto-reset. " ++
      "Set IBCTL_RECOVERY_FORCE_RESET=1 to override.")
  else if peekSaysGivenUp codec dir.files mode then
    .refusedGivenUpAutoReset (reason ++ "; partial-parse of " ++ main ++
      " shows last_known_phase=given_up — refusing auto-reset. " ++
      "Set IBCTL_RECOVERY_FORCE_RESET=1 to override.")
  else .defaulted reason

def load (dir : SettingsDir) (mode : String) (forceReset : Bool) : RecoveryLoadOutcome :=
  let main := joinPath dir.path (markerName mode)
  let side := joinPath dir.path (sidecarName mode)
  match readToString dir.files (markerName mode) with
  | .error .notFound =>
    classifyCorrupt codec dir mode forceReset ("recovery marker missing at " ++ main)
  | .error (.other e) =>
    classifyCorrupt codec dir mode forceReset ("read error at " ++ main ++ ": " ++ e)
  | .ok raw =>
    match codec.fromStr raw with
    | .error e =>
      classifyCorrupt codec dir mode forceReset ("JSON parse error in " ++ main ++ ": " ++ e)
    | .ok state =>
      if state.schemaVersion ≠ 1 then
        classifyCorrupt codec dir mode forceReset ("schema_version mismatch in " ++ main ++
          ": got " ++ toString state.schemaVersion ++ ", expected 1")
      else if !forceReset && state.phase ≠ .givenUp && sidecarSaysGivenUp dir.files mode then
        .refusedGivenUpAutoReset ("main marker at " ++ main ++ " parses cleanly as phase=" ++
          state.phase.asStr ++ ", but sidecar at " ++ side ++
          " indicates last phase was given_up — a crash between sidecar write and main rename " ++
          "can produce this state. Refusing auto-reset. " ++
          "Set IBCTL_RECOVERY_FORCE_RESET=1 to override.")
      else if forceReset && state.phase = .givenUp then
        .defaulted ("valid GivenUp marker at " ++ main ++
          " demoted to Defaulted by IBCTL_RECOVERY_FORCE_RESET override")
      else .loaded state

/-- The outcomes of the two primitive steps of a save: none is success. An encoder that
fails is a failure of the second step, before which it runs. -/
structure SaveIo where
  sidecar : Option String
  main : Option String
deriving DecidableEq, Repr

def SaveIo.ok : SaveIo := ⟨none,none⟩

def save (dir : SettingsDir) (mode : String) (state : RecoveryPersistedState) (io : SaveIo) :
    Except String Unit × SettingsDir :=
  let (sidecarResult,files) :=
    if state.phase = .givenUp then
      atomicWrite dir.files (sidecarName mode) RecoveryPhase.givenUp.asStr io.sidecar
    else removeFile dir.files (sidecarName mode) io.sidecar
  match sidecarResult with
  | .error e => (.error e,{ dir with files })
  | .ok () =>
    let (mainResult,files) :=
      atomicWrite files (markerName mode) (codec.toVecPretty state) io.main
    (mainResult,{ dir with files })

/-- `IBCTL_RECOVERY_FORCE_RESET` as the process environment has it. -/
def readForceResetEnv (value : Option String) : Bool :=
  match value with
  | some v => Text.toAsciiLowercase v ∈ ["1","true","yes","on"]
  | none => false

/-- The state of a main marker that reads, parses and has the expected schema. -/
def loadableMarker (files : Directory) (mode : String) : Option RecoveryPersistedState :=
  match readToString files (markerName mode) with
  | .ok raw =>
    match codec.fromStr raw with
    | .ok state => if state.schemaVersion = 1 then some state else none
    | .error _ => none
  | .error _ => none

variable {codec}

theorem classifyCorrupt_cases (dir : SettingsDir) (mode reason : String) :
    ((sidecarSaysGivenUp dir.files mode = true ∨ peekSaysGivenUp codec dir.files mode = true) ∧
      ∃ text, classifyCorrupt codec dir mode false reason = .refusedGivenUpAutoReset text) ∨
    (sidecarSaysGivenUp dir.files mode = false ∧ peekSaysGivenUp codec dir.files mode = false ∧
      ∃ text, classifyCorrupt codec dir mode false reason = .defaulted text) := by
  unfold classifyCorrupt
  cases side : sidecarSaysGivenUp dir.files mode with
  | true => exact .inl ⟨.inl rfl,by simp⟩
  | false =>
    cases peek : peekSaysGivenUp codec dir.files mode with
    | true => exact .inl ⟨.inr rfl,by simp⟩
    | false => exact .inr ⟨rfl,rfl,by simp⟩

theorem load_of_not_loadable (dir : SettingsDir) {mode : String}
    (missing : loadableMarker codec dir.files mode = none) :
    ((sidecarSaysGivenUp dir.files mode = true ∨ peekSaysGivenUp codec dir.files mode = true) ∧
      ∃ text, load codec dir mode false = .refusedGivenUpAutoReset text) ∨
    (sidecarSaysGivenUp dir.files mode = false ∧ peekSaysGivenUp codec dir.files mode = false ∧
      ∃ text, load codec dir mode false = .defaulted text) := by
  unfold loadableMarker at missing
  cases read : readToString dir.files (markerName mode) with
  | error e =>
    simp only [load,read]
    cases e <;> exact classifyCorrupt_cases dir mode _
  | ok raw =>
    simp only [read] at missing
    cases parsed : codec.fromStr raw with
    | error e =>
      simp only [load,read,parsed]
      exact classifyCorrupt_cases dir mode _
    | ok state =>
      have mismatch : state.schemaVersion ≠ 1 := by
        intro current
        simp [parsed,current] at missing
      simp only [load,read,parsed,if_pos mismatch]
      exact classifyCorrupt_cases dir mode _

theorem load_of_loadable (dir : SettingsDir) {mode : String} {state : RecoveryPersistedState}
    (present : loadableMarker codec dir.files mode = some state) :
    (state.phase ≠ .givenUp ∧ sidecarSaysGivenUp dir.files mode = true ∧
      ∃ text, load codec dir mode false = .refusedGivenUpAutoReset text) ∨
    ((state.phase = .givenUp ∨ sidecarSaysGivenUp dir.files mode = false) ∧
      load codec dir mode false = .loaded state) := by
  unfold loadableMarker at present
  cases read : readToString dir.files (markerName mode) with
  | error e => simp [read] at present
  | ok raw =>
    simp only [read] at present
    cases parsed : codec.fromStr raw with
    | error e => simp [parsed] at present
    | ok found =>
      simp only [parsed] at present
      split at present
      next current =>
        cases present
        simp only [load,read,parsed,current]
        by_cases phase : state.phase = .givenUp
        · exact .inr ⟨.inl phase,by simp [phase]⟩
        · cases side : sidecarSaysGivenUp dir.files mode with
          | true => exact .inl ⟨phase,rfl,by simp [phase]⟩
          | false => exact .inr ⟨.inr rfl,by simp⟩
      next => simp at present

theorem load_congr {dir other : SettingsDir} {mode : String} (forceReset : Bool)
    (path : dir.path = other.path)
    (main : dir.files (markerName mode) = other.files (markerName mode))
    (side : dir.files (sidecarName mode) = other.files (sidecarName mode)) :
    load codec dir mode forceReset = load codec other mode forceReset := by
  have sides : sidecarSaysGivenUp dir.files mode = sidecarSaysGivenUp other.files mode := by
    simp only [sidecarSaysGivenUp,readToString,side]
  have peeks : peekSaysGivenUp codec dir.files mode = peekSaysGivenUp codec other.files mode := by
    simp only [peekSaysGivenUp,readToString,main]
  simp only [load,classifyCorrupt,readToString,path,main,sides,peeks]

def markerText (phase : RecoveryPhase) (enteredAt success alert hash : String) : String :=
  "\x7b\n  \"schema_version\": 1,\n  \"phase\": \"" ++ phase.asStr ++
    "\",\n  \"phase_entered_at\": \"" ++ enteredAt ++
    "\",\n  \"phase_entered_at_monotonic_secs_since_boot\": 0,\n  \"last_full_success_at\": " ++
    success ++ ",\n  \"giveup_alert_sent_at\": " ++ alert ++
    ",\n  \"resumed_by_token_hash\": " ++ hash ++
    ",\n  \"last_known_phase\": \"" ++ phase.asStr ++ "\"\n\x7d"

/-- The codec on the listed states and their texts; it knows no other text. -/
def MarkerCodec.ofTable (table : List (RecoveryPersistedState × String)) : MarkerCodec where
  toVecPretty state :=
    ((table.find? (fun row => row.1 = state)).map Prod.snd).getD ""
  fromStr raw :=
    match table.find? (fun row => row.2 = raw) with
    | some row => .ok row.1
    | none => .error "expected value at line 1 column 1"
  peekLastKnownPhase raw :=
    (table.find? (fun row => row.2 = raw)).map (fun row => row.1.lastKnownPhase.asStr)

def backoffSample : RecoveryPersistedState where
  schemaVersion := 1
  phase := .backoffEvery15Min
  phaseEnteredAt := ⟨1720000000 * 10 ^ 9,"UTC"⟩
  phaseEnteredAtMonotonicSecsSinceBoot := 0
  lastFullSuccessAt := none
  giveupAlertSentAt := none
  resumedByTokenHash := none
  lastKnownPhase := .backoffEvery15Min

def givenUpSample : RecoveryPersistedState where
  schemaVersion := 1
  phase := .givenUp
  phaseEnteredAt := ⟨1720010800 * 10 ^ 9,"UTC"⟩
  phaseEnteredAtMonotonicSecsSinceBoot := 0
  lastFullSuccessAt := none
  giveupAlertSentAt := some (1720010800 * 10 ^ 9)
  resumedByTokenHash := none
  lastKnownPhase := .givenUp

def sampleCodec : MarkerCodec := .ofTable
  [(backoffSample,markerText .backoffEvery15Min "2024-07-03T09:46:40+00:00[UTC]" "null" "null" "null"),
    (givenUpSample,markerText .givenUp "2024-07-03T12:46:40+00:00[UTC]" "null"
      "\"2024-07-03T12:46:40Z\"" "null")]

end Ibctl.Recovery
