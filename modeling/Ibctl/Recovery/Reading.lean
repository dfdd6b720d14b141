import Ibctl.Recovery.Marker

/-! What a load can tell apart. The main marker is read into a state or into the reason it
is not one; the sidecar and the peeked phase only matter where that reading leaves the
give-up open. Two directories load alike exactly when they agree on these. -/
namespace Ibctl.Recovery
open Files

variable (codec : MarkerCodec)

/-- The main marker as `load` reads it: its state, or the reason it is corrupt. -/
def mainReading (dir : SettingsDir) (mode : String) : Except String RecoveryPersistedState :=
  let main := joinPath dir.path (markerName mode)
  match readToString dir.files (markerName mode) with
  | .error .notFound => .error ("recovery marker missing at " ++ main)
  | .error (.other e) => .error ("read error at " ++ main ++ ": " ++ e)
  | .ok raw =>
    match codec.fromStr raw with
    | .error e => .error ("JSON parse error in " ++ main ++ ": " ++ e)
    | .ok state =>
      if state.schemaVersion ≠ 1 then
        .error ("schema_version mismatch in " ++ main ++ ": got " ++
          toString state.schemaVersion ++ ", expected 1")
      else .ok state

variable {codec} {mode : String}

theorem load_of_corrupt {dir : SettingsDir} {reason : String}
    (corrupt : mainReading codec dir mode = .error reason) (forceReset : Bool) :
    load codec dir mode forceReset = classifyCorrupt codec dir mode forceReset reason := by
  unfold mainReading at corrupt
  unfold load
  cases read : readToString dir.files (markerName mode) with
  | error e => cases e <;> simp_all
  | ok raw =>
    cases parsed : codec.fromStr raw with
    | error e => simp_all
    | ok state =>
      by_cases current : state.schemaVersion = 1
      · simp [read,parsed,current] at corrupt
      · simp_all

theorem loadableMarker_of_reading {dir : SettingsDir} {state : RecoveryPersistedState}
    (reads : mainReading codec dir mode = .ok state) :
    loadableMarker codec dir.files mode = some state := by
  unfold mainReading at reads
  unfold loadableMarker
  cases read : readToString dir.files (markerName mode) with
  | error e => cases e <;> simp [read] at reads
  | ok raw =>
    cases parsed : codec.fromStr raw with
    | error e => simp [read,parsed] at reads
    | ok found =>
      by_cases current : found.schemaVersion = 1
      · simpa [read,parsed,current] using reads
      · simp [read,parsed,current] at reads

theorem load_of_given_up {dir : SettingsDir} {state : RecoveryPersistedState}
    (reads : mainReading codec dir mode = .ok state) (phase : state.phase = .givenUp) :
    load codec dir mode false = .loaded state := by
  rcases load_of_loadable dir (loadableMarker_of_reading reads) with ⟨other,-,-⟩ | ⟨-,loads⟩
  · exact absurd phase other
  · exact loads

theorem load_forced {dir : SettingsDir} :
    load codec dir mode true =
      match mainReading codec dir mode with
      | .error reason => .defaulted (reason ++ " (IBCTL_RECOVERY_FORCE_RESET override applied)")
      | .ok state =>
        if state.phase = .givenUp then
          .defaulted ("valid GivenUp marker at " ++ joinPath dir.path (markerName mode) ++
            " demoted to Defaulted by IBCTL_RECOVERY_FORCE_RESET override")
        else .loaded state := by
  unfold mainReading load classifyCorrupt
  cases readToString dir.files (markerName mode) with
  | error e => cases e <;> rfl
  | ok raw =>
    cases parsed : codec.fromStr raw with
    | error e => simp [parsed]
    | ok state =>
      by_cases current : state.schemaVersion = 1 <;>
        by_cases phase : state.phase = .givenUp <;> simp [parsed,current,phase]

/-- The two directories load alike, with the override and without it. -/
def LoadsAlike (codec : MarkerCodec) (dir other : SettingsDir) (mode : String) : Prop :=
  ∀ forceReset, load codec dir mode forceReset = load codec other mode forceReset

/-- The sidecar is consulted unless the main marker is a give-up by itself. -/
def SidecarDecides (reading : Except String RecoveryPersistedState) : Prop :=
  ∀ state, reading = .ok state → state.phase ≠ .givenUp

theorem LoadsAlike.reading {dir other : SettingsDir} (alike : LoadsAlike codec dir other mode) :
    mainReading codec dir mode = mainReading codec other mode := by
  have forced := alike true
  have plain := alike false
  rw [load_forced,load_forced] at forced
  cases left : mainReading codec dir mode with
  | error reason =>
    cases right : mainReading codec other mode with
    | error reason' =>
      simp only [left,right,RecoveryLoadOutcome.defaulted.injEq] at forced
      rw [(String.append_left_inj _).mp forced]
    | ok state =>
      simp only [left,right] at forced
      by_cases phase : state.phase = .givenUp
      · rw [load_of_given_up right phase,load_of_corrupt left] at plain
        rcases @classifyCorrupt_cases codec dir mode reason with
          ⟨-,text,verdict⟩ | ⟨-,-,text,verdict⟩ <;> simp [verdict] at plain
      · simp [phase] at forced
  | ok state =>
    cases right : mainReading codec other mode with
    | error reason =>
      simp only [left,right] at forced
      by_cases phase : state.phase = .givenUp
      · rw [load_of_given_up left phase,load_of_corrupt right] at plain
        rcases @classifyCorrupt_cases codec other mode reason with
          ⟨-,text,verdict⟩ | ⟨-,-,text,verdict⟩ <;> simp [verdict] at plain
      · simp [phase] at forced
    | ok state' =>
      simp only [left,right] at forced
      by_cases phase : state.phase = .givenUp <;> by_cases phase' : state'.phase = .givenUp
      · rw [load_of_given_up left phase,load_of_given_up right phase'] at plain
        rw [RecoveryLoadOutcome.loaded.inj plain]
      · simp [phase,phase'] at forced
      · simp [phase,phase'] at forced
      · simp only [phase,phase',if_false,RecoveryLoadOutcome.loaded.injEq] at forced
        rw [forced]

/-- A marker that is corrupt, and whose sidecar is silent, is judged by its peeked phase. -/
def PeekDecides (reading : Except String RecoveryPersistedState) (sidecar : Bool) : Prop :=
  (∃ reason, reading = .error reason) ∧ sidecar = false

private theorem refusals_differ (reason side main : String) :
    reason ++ "; sidecar at " ++ side ++
        " indicates last phase was given_up — refusing auto-reset. " ++
        "Set IBCTL_RECOVERY_FORCE_RESET=1 to override." ≠
      reason ++ "; partial-parse of " ++ main ++
        " shows last_known_phase=given_up — refusing auto-reset. " ++
        "Set IBCTL_RECOVERY_FORCE_RESET=1 to override." := by
  intro same
  simp only [String.append_assoc] at same
  have letters := congrArg String.toList ((String.append_right_inj reason).mp same)
  simp at letters

theorem classifyCorrupt_eq_iff {dir other : SettingsDir} (path : dir.path = other.path)
    (reason : String) :
    classifyCorrupt codec dir mode false reason = classifyCorrupt codec other mode false reason ↔
      sidecarSaysGivenUp dir.files mode = sidecarSaysGivenUp other.files mode ∧
      (sidecarSaysGivenUp dir.files mode = false →
        peekSaysGivenUp codec dir.files mode = peekSaysGivenUp codec other.files mode) := by
  have differ := refusals_differ reason (joinPath other.path (sidecarName mode))
    (joinPath other.path (markerName mode))
  unfold classifyCorrupt
  rw [path]
  cases sidecarSaysGivenUp dir.files mode <;> cases sidecarSaysGivenUp other.files mode <;>
    cases peekSaysGivenUp codec dir.files mode <;>
    cases peekSaysGivenUp codec other.files mode <;> simp [differ,differ.symm]

theorem load_of_other_phase (path mode : String) {state : RecoveryPersistedState}
    (phase : state.phase ≠ .givenUp) :
    ∃ text, ∀ dir : SettingsDir, dir.path = path → mainReading codec dir mode = .ok state →
      load codec dir mode false =
        if sidecarSaysGivenUp dir.files mode then .refusedGivenUpAutoReset text
        else .loaded state := by
  refine ⟨"main marker at " ++ joinPath path (markerName mode) ++ " parses cleanly as phase=" ++
    state.phase.asStr ++ ", but sidecar at " ++ joinPath path (sidecarName mode) ++
    " indicates last phase was given_up — a crash between sidecar write and main rename " ++
    "can produce this state. Refusing auto-reset. " ++
    "Set IBCTL_RECOVERY_FORCE_RESET=1 to override.",fun dir same reads => ?_⟩
  have loadable := loadableMarker_of_reading reads
  unfold loadableMarker at loadable
  unfold load
  cases read : readToString dir.files (markerName mode) with
  | error e => simp [read] at loadable
  | ok raw =>
    cases parsed : codec.fromStr raw with
    | error e => simp [read,parsed] at loadable
    | ok found =>
      by_cases current : found.schemaVersion = 1
      · simp only [read,parsed,current,if_true,Option.some.injEq] at loadable
        subst loadable
        simp only [parsed,current,same]
        cases sidecarSaysGivenUp dir.files mode <;> simp [phase]
      · simp [read,parsed,current] at loadable

/-- Two directories at one path load alike exactly when their main markers read the same,
their sidecars agree where the main marker is no give-up by itself, and the peeked phases
agree where nothing else decides. -/
theorem loadsAlike_iff {dir other : SettingsDir} (path : dir.path = other.path) :
    LoadsAlike codec dir other mode ↔
      mainReading codec dir mode = mainReading codec other mode ∧
      (SidecarDecides (mainReading codec dir mode) →
        sidecarSaysGivenUp dir.files mode = sidecarSaysGivenUp other.files mode) ∧
      (PeekDecides (mainReading codec dir mode) (sidecarSaysGivenUp dir.files mode) →
        peekSaysGivenUp codec dir.files mode = peekSaysGivenUp codec other.files mode) := by
  constructor
  · intro alike
    have reading := alike.reading
    have plain := alike false
    refine ⟨reading,?_⟩
    cases left : mainReading codec dir mode with
    | error reason =>
      rw [load_of_corrupt left,load_of_corrupt (reading ▸ left),
        classifyCorrupt_eq_iff path reason] at plain
      exact ⟨fun _ => plain.1,fun peeks => plain.2 peeks.2⟩
    | ok state =>
      refine ⟨fun decides => ?_,fun peeks => by simp [PeekDecides] at peeks⟩
      obtain ⟨text,loads⟩ := @load_of_other_phase codec other.path mode _ (decides state rfl)
      rw [loads dir path left,loads other rfl (reading ▸ left)] at plain
      cases side : sidecarSaysGivenUp dir.files mode <;>
        cases side' : sidecarSaysGivenUp other.files mode <;> simp [side,side'] at plain ⊢
  · rintro ⟨reading,sidecar,peek⟩ forceReset
    cases forceReset with
    | true => rw [load_forced,load_forced,reading,path]
    | false =>
      cases left : mainReading codec dir mode with
      | error reason =>
        rw [left] at sidecar peek
        rw [load_of_corrupt left,load_of_corrupt (reading ▸ left),
          classifyCorrupt_eq_iff path reason]
        exact ⟨sidecar (by simp [SidecarDecides]),fun silent => peek ⟨⟨reason,rfl⟩,silent⟩⟩
      | ok state =>
        by_cases phase : state.phase = .givenUp
        · rw [load_of_given_up left phase,load_of_given_up (reading ▸ left) phase]
        · have side := sidecar (by rw [left]; rintro _ ⟨⟩; exact phase)
          obtain ⟨text,loads⟩ := @load_of_other_phase codec other.path mode _ phase
          rw [loads dir path left,loads other rfl (reading ▸ left),side]

end Ibctl.Recovery
