import Ibctl.Lib.Runs
import Ibctl.Recovery.Marker

/-! Crash safety of the marker and its sidecar. A save is two primitive steps, and a
crash leaves what some number of them produced; a failed write is such a cut as well.
The invariant over histories is that a main marker, once there, always loads. -/
namespace Ibctl.Recovery
open Files

variable (codec : MarkerCodec) (mode : String)

/-- The first step of a save: the sidecar is written for GivenUp and removed otherwise. -/
def sidecarStep (state : RecoveryPersistedState) (d : Directory) : Directory :=
  if state.phase = .givenUp then write d (sidecarName mode) RecoveryPhase.givenUp.asStr
  else remove d (sidecarName mode)

def saveSteps (state : RecoveryPersistedState) : List (Directory → Directory) :=
  [sidecarStep mode state,fun d => write d (markerName mode) (codec.toVecPretty state)]

def SaveIo.stepsDone (io : SaveIo) : Nat :=
  if io.sidecar.isSome then 0 else if io.main.isSome then 1 else 2

/-- A save that fails leaves the directory of one that a crash cut off. -/
theorem save_files (dir : SettingsDir) (state : RecoveryPersistedState) (io : SaveIo) :
    (save codec dir mode state io).2.files =
      crashAfter (saveSteps codec mode state) io.stepsDone dir.files := by
  obtain ⟨sidecar,main⟩ := io
  unfold save saveSteps sidecarStep SaveIo.stepsDone
  by_cases phase : state.phase = .givenUp <;> cases sidecar <;> cases main <;>
    simp [phase,atomicWrite,removeFile]

/-- One save of a history and the number of its steps that were completed. Every marker
is written by the coordinator, which stamps schema version 1. -/
structure SaveAttempt where
  state : RecoveryPersistedState
  current : state.schemaVersion = 1
  cut : Nat

def attempt (d : Directory) (save : SaveAttempt) : Directory :=
  crashAfter (saveSteps codec mode save.state) save.cut d

def RoundTrips (state : RecoveryPersistedState) : Prop :=
  codec.fromStr (codec.toVecPretty state) = .ok state

def MainSettled (d : Directory) : Prop :=
  d (markerName mode) = .absent ∨ ∃ state, loadableMarker codec d mode = some state

variable {codec mode}

private theorem loadableMarker_congr {d other : Directory}
    (main : d (markerName mode) = other (markerName mode)) :
    loadableMarker codec d mode = loadableMarker codec other mode := by
  simp only [loadableMarker,readToString,main]

private theorem sidecarStep_main (state : RecoveryPersistedState) (d : Directory) :
    sidecarStep mode state d (markerName mode) = d (markerName mode) := by
  unfold sidecarStep
  split
  · exact write_other (markerName_ne_sidecarName mode) d _
  · exact remove_other (markerName_ne_sidecarName mode) d

theorem sidecarSaysGivenUp_sidecarStep (state : RecoveryPersistedState) (d : Directory) :
    sidecarSaysGivenUp (sidecarStep mode state d) mode = decide (state.phase = .givenUp) := by
  unfold sidecarSaysGivenUp sidecarStep readToString
  by_cases phase : state.phase = .givenUp
  · simp only [phase,if_true,write_same,decide_true]
    decide
  · simp [phase]

private theorem sidecarSaysGivenUp_write_main (d : Directory) (json : String) :
    sidecarSaysGivenUp (write d (markerName mode) json) mode = sidecarSaysGivenUp d mode := by
  simp only [sidecarSaysGivenUp,readToString,
    write_other (markerName_ne_sidecarName mode).symm d json]

private theorem loadableMarker_write {state : RecoveryPersistedState}
    (current : state.schemaVersion = 1) (codes : RoundTrips codec state) (d : Directory) :
    loadableMarker codec (write d (markerName mode) (codec.toVecPretty state)) mode =
      some state := by
  unfold RoundTrips at codes
  simp [loadableMarker,readToString,codes,current]

private theorem saveSteps_settled {state : RecoveryPersistedState}
    (current : state.schemaVersion = 1) (codes : RoundTrips codec state) :
    ∀ step ∈ saveSteps codec mode state, ∀ d, MainSettled codec mode d →
      MainSettled codec mode (step d) := by
  intro step member d settled
  simp only [saveSteps,List.mem_cons,List.not_mem_nil,or_false] at member
  rcases member with rfl | rfl
  · unfold MainSettled
    rw [sidecarStep_main,loadableMarker_congr (sidecarStep_main state d)]
    exact settled
  · exact .inr ⟨state,loadableMarker_write current codes d⟩

theorem reached_settled {history : List SaveAttempt}
    (codes : ∀ save ∈ history, RoundTrips codec save.state) :
    MainSettled codec mode (Runs.run (attempt codec mode) Files.empty history) := by
  have along : Runs.Along (attempt codec mode) (fun _ save => RoundTrips codec save.state)
      Files.empty history :=
    Runs.along_of_forall Files.empty history (fun save member _ => codes save member)
  refine along.invariant (P := MainSettled codec mode) ?_ (.inl rfl)
  intro d save settled code
  exact crashAfter_invariant (saveSteps_settled save.current code) save.cut settled

/-- Once the sidecar tells so, it goes on saying so until a save of another phase has
completed its first step. -/
theorem attempt_keeps_sidecar {d : Directory} {save : SaveAttempt}
    (tells : sidecarSaysGivenUp d mode = true)
    (spared : save.state.phase = .givenUp ∨ save.cut = 0) :
    sidecarSaysGivenUp (attempt codec mode d save) mode = true := by
  rcases spared with phase | untouched
  · refine crashAfter_invariant (P := fun t => sidecarSaysGivenUp t mode = true) ?_ _ tells
    intro step member t before
    simp only [saveSteps,List.mem_cons,List.not_mem_nil,or_false] at member
    rcases member with rfl | rfl
    · rw [sidecarSaysGivenUp_sidecarStep]; simp [phase]
    · rw [sidecarSaysGivenUp_write_main]; exact before
  · unfold attempt
    rw [untouched]
    exact tells

private theorem load_of_sidecar {dir : SettingsDir}
    (tells : sidecarSaysGivenUp dir.files mode = true) :
    (∃ state, load codec dir mode false = .loaded state ∧ state.phase = .givenUp) ∨
      ∃ text, load codec dir mode false = .refusedGivenUpAutoReset text := by
  cases marker : loadableMarker codec dir.files mode with
  | none =>
    rcases load_of_not_loadable dir marker with ⟨-,refused⟩ | ⟨silent,-,-⟩
    · exact .inr refused
    · rw [tells] at silent; cases silent
  | some state =>
    rcases load_of_loadable dir marker with ⟨-,-,refused⟩ | ⟨phase,loads⟩
    · exact .inr refused
    · rcases phase with phase | silent
      · exact .inl ⟨state,loads,phase⟩
      · rw [tells] at silent; cases silent

private theorem attempt_sidecar (d : Directory) {save : SaveAttempt} (started : 1 ≤ save.cut) :
    sidecarSaysGivenUp (attempt codec mode d save) mode =
      decide (save.state.phase = .givenUp) := by
  obtain ⟨rest,cut⟩ : ∃ rest, save.cut = rest + 1 := ⟨save.cut - 1,by omega⟩
  unfold attempt saveSteps
  rw [cut,crashAfter_cons_succ]
  cases rest with
  | zero => exact sidecarSaysGivenUp_sidecarStep _ d
  | succ rest =>
    rw [crashAfter_cons_succ,crashAfter_nil,sidecarSaysGivenUp_write_main]
    exact sidecarSaysGivenUp_sidecarStep _ d

private theorem attempt_complete {d : Directory} {save : SaveAttempt}
    (codes : RoundTrips codec save.state) (complete : 2 ≤ save.cut) :
    loadableMarker codec (attempt codec mode d save) mode = some save.state := by
  obtain ⟨rest,cut⟩ : ∃ rest, save.cut = rest + 2 := ⟨save.cut - 2,by omega⟩
  unfold attempt saveSteps
  rw [cut,crashAfter_cons_succ,crashAfter_cons_succ,crashAfter_nil]
  exact loadableMarker_write save.current codes _

variable (codec mode) in
private theorem attempt_first (d : Directory) {save : SaveAttempt} (first : save.cut = 1) :
    loadableMarker codec (attempt codec mode d save) mode = loadableMarker codec d mode ∧
      attempt codec mode d save (markerName mode) = d (markerName mode) := by
  have main : attempt codec mode d save (markerName mode) = d (markerName mode) := by
    unfold attempt saveSteps
    rw [first,crashAfter_cons_succ,crashAfter_zero]
    exact sidecarStep_main _ d
  exact ⟨loadableMarker_congr main,main⟩

theorem load_after_complete {path : String} {d : Directory} {save : SaveAttempt}
    (codes : RoundTrips codec save.state) (complete : 2 ≤ save.cut) :
    load codec ⟨path,attempt codec mode d save⟩ mode false = .loaded save.state := by
  have tells : sidecarSaysGivenUp (attempt codec mode d save) mode = _ :=
    attempt_sidecar d (by omega)
  rcases load_of_loadable ⟨path,attempt codec mode d save⟩
    (attempt_complete (d := d) codes complete) with ⟨phase,side,-⟩ | ⟨-,loads⟩
  · rw [tells] at side
    exact absurd (of_decide_eq_true side) phase
  · exact loads

/-- A save of another phase that got past the sidecar leaves the new state, the state of
the main marker there was, or the default when there was none. -/
theorem load_after_started {path : String} {d : Directory} {save : SaveAttempt}
    (codes : RoundTrips codec save.state) (settled : MainSettled codec mode d)
    (phase : save.state.phase ≠ .givenUp) (started : 1 ≤ save.cut) :
    load codec ⟨path,attempt codec mode d save⟩ mode false = .loaded save.state ∨
      (∃ state, loadableMarker codec d mode = some state ∧
        load codec ⟨path,attempt codec mode d save⟩ mode false = .loaded state) ∨
      (loadableMarker codec d mode = none ∧
        ∃ text, load codec ⟨path,attempt codec mode d save⟩ mode false = .defaulted text) := by
  by_cases complete : 2 ≤ save.cut
  · exact .inl (load_after_complete codes complete)
  · obtain ⟨marker,main⟩ := attempt_first codec mode d
      (by omega : save.cut = 1)
    have silent : sidecarSaysGivenUp (attempt codec mode d save) mode = false := by
      rw [attempt_sidecar d started]; simp [phase]
    cases before : loadableMarker codec d mode with
    | some state =>
      rw [before] at marker
      rcases load_of_loadable ⟨path,attempt codec mode d save⟩ marker with
        ⟨-,tells,-⟩ | ⟨-,loads⟩
      · rw [silent] at tells; cases tells
      · exact .inr (.inl ⟨state,rfl,loads⟩)
    | none =>
      rw [before] at marker
      rcases load_of_not_loadable ⟨path,attempt codec mode d save⟩ marker with
        ⟨tells,-⟩ | ⟨-,-,defaulted⟩
      · rcases tells with tells | peek
        · rw [silent] at tells; cases tells
        · rcases settled with absent | ⟨state,present⟩
          · simp [peekSaysGivenUp,readToString,main,absent] at peek
          · rw [before] at present; cases present
      · exact .inr (.inr ⟨rfl,defaulted⟩)

theorem sampleCodec_roundTrips :
    RoundTrips sampleCodec backoffSample ∧ RoundTrips sampleCodec givenUpSample :=
  ⟨by unfold RoundTrips; decide +kernel,by unfold RoundTrips; decide +kernel⟩

end Ibctl.Recovery
