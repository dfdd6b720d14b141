import Ibctl.Lib.Runs
import Ibctl.Recovery.Reading
import Ibctl.ColdRestart.Markers
import Ibctl.Container.Settings

/-! What a container recycle does to the supervisor's own markers. They live in the
settings directories, so the backup of a directory carries them, and the restore puts the
old copies back over whatever was written since. -/
namespace Ibctl.Container
open Files Recovery ColdRestart

/-- What happens to the storage: files of the settings directories change, the supervisor
marks them good or asks for a recycle, the loop makes a pass, the container starts. -/
inductive HostEvent where
  | makeDir (dir : String)
  | change (dir path : String) (content : FileState)
  | markGood (mtime : Int)
  | requestRecycle
  | pass (input : PassInput)
  | start (now : Int) (expired : String → String → Bool)

variable (root : String) (retentionDays : Int)

def Host.step (h : Host) : HostEvent → Host
  | .makeDir dir =>
    { h with storage.settings := Function.update h.storage.settings dir
              (some ((h.storage.settings dir).getD empty)) }
  | .change dir path content =>
    { h with storage.settings := Function.update h.storage.settings dir
              ((h.storage.settings dir).map (fun files => Function.update files path content)) }
  | .markGood mtime => { h with storage.goodMarker := some mtime }
  | .requestRecycle => { h with storage.recycleMarker := true }
  | .pass input => h.pass root retentionDays input
  | .start now expired => h.start root retentionDays now expired

variable (codec : MarkerCodec) (zonedFromStr : String → Option Zoned)

def modes : List String := ["live","paper"]

/-- The three components read the same from both directories. -/
def MarkersRead (dir : String) (files other : Directory) : Prop :=
  (∀ mode ∈ modes, LoadsAlike codec ⟨dir,other⟩ ⟨dir,files⟩ mode) ∧
  (∀ year dayOfYear, alreadyFired other year dayOfYear = alreadyFired files year dayOfYear) ∧
  readColdRestartEquivalentMarker zonedFromStr other =
    readColdRestartEquivalentMarker zonedFromStr files

/-- The archived copies of one mode's marker and sidecar stand for what the present files
stand for, as far as a load consults them. -/
def RecoveryCopyCurrent (dir mode : String) (archive files : Directory) : Prop :=
  let reading := mainReading codec ⟨dir,files⟩ mode
  (archive (markerName mode) = .absent ∨ mainReading codec ⟨dir,archive⟩ mode = reading) ∧
  (SidecarDecides reading → archive (sidecarName mode) = .absent ∨
    sidecarSaysGivenUp archive mode = sidecarSaysGivenUp files mode) ∧
  (PeekDecides reading (sidecarSaysGivenUp files mode) → archive (markerName mode) = .absent ∨
    peekSaysGivenUp codec archive mode = peekSaysGivenUp codec files mode)

def FiredCopyCurrent (archive files : Directory) : Prop :=
  archive coldRestartMarkerName = .absent ∨ firedText archive = firedText files ∨
    (NamesNoDay archive ∧ NamesNoDay files)

def EquivalentCopyCurrent (archive files : Directory) : Prop :=
  archive equivalentMarkerName = .absent ∨
    readColdRestartEquivalentMarker zonedFromStr archive =
      readColdRestartEquivalentMarker zonedFromStr files

/-- The backup holds no copy of a marker file that stands for something else than the
present file. -/
def CopyCurrent (dir : String) (archive files : Directory) : Prop :=
  (∀ mode ∈ modes, RecoveryCopyCurrent codec dir mode archive files) ∧
    FiredCopyCurrent archive files ∧ EquivalentCopyCurrent zonedFromStr archive files

/-- A start leaves every marker of every settings directory reading as before. -/
def Host.KeepsMarkers (h : Host) : HostEvent → Prop
  | .start now expired =>
    ∀ dir files files', h.storage.settings dir = some files →
      (h.start root retentionDays now expired).storage.settings dir = some files' →
      MarkersRead codec zonedFromStr dir files files'
  | _ => True

/-- Where a recycle is due, the backup each directory is restored from is current as far as
the markers go. -/
def Host.BackupsCurrent (h : Host) : HostEvent → Prop
  | .start .. =>
    h.storage.recycleMarker = true → ∀ dir ∈ settingsDirs root h.storage, ∀ files backup,
      h.storage.settings dir = some files →
      newest (basename dir) h.storage.backups = some backup →
      CopyCurrent codec zonedFromStr dir backup.archive files
  | _ => True

section Overlay

variable {codec zonedFromStr} {dir mode : String} {archive files : Directory}

private theorem mainReading_overlay :
    mainReading codec ⟨dir,overlay archive files⟩ mode = mainReading codec ⟨dir,files⟩ mode ↔
      archive (markerName mode) = .absent ∨
        mainReading codec ⟨dir,archive⟩ mode = mainReading codec ⟨dir,files⟩ mode := by
  by_cases missing : archive (markerName mode) = .absent
  · simp only [mainReading,readToString,overlay_of_absent missing,missing,true_or]
  · have same : mainReading codec ⟨dir,overlay archive files⟩ mode =
        mainReading codec ⟨dir,archive⟩ mode := by
      simp only [mainReading,readToString,overlay_of_present missing]
    simp [same,missing]

private theorem sidecar_overlay :
    sidecarSaysGivenUp (overlay archive files) mode = sidecarSaysGivenUp files mode ↔
      archive (sidecarName mode) = .absent ∨
        sidecarSaysGivenUp archive mode = sidecarSaysGivenUp files mode := by
  by_cases missing : archive (sidecarName mode) = .absent
  · simp only [sidecarSaysGivenUp,readToString,overlay_of_absent missing,missing,true_or]
  · have same : sidecarSaysGivenUp (overlay archive files) mode =
        sidecarSaysGivenUp archive mode := by
      simp only [sidecarSaysGivenUp,readToString,overlay_of_present missing]
    simp [same,missing]

private theorem peek_overlay :
    peekSaysGivenUp codec (overlay archive files) mode = peekSaysGivenUp codec files mode ↔
      archive (markerName mode) = .absent ∨
        peekSaysGivenUp codec archive mode = peekSaysGivenUp codec files mode := by
  by_cases missing : archive (markerName mode) = .absent
  · simp only [peekSaysGivenUp,readToString,overlay_of_absent missing,missing,true_or]
  · have same : peekSaysGivenUp codec (overlay archive files) mode =
        peekSaysGivenUp codec archive mode := by
      simp only [peekSaysGivenUp,readToString,overlay_of_present missing]
    simp [same,missing]

private theorem fired_overlay :
    (∀ year dayOfYear, alreadyFired (overlay archive files) year dayOfYear =
        alreadyFired files year dayOfYear) ↔ FiredCopyCurrent archive files := by
  unfold FiredCopyCurrent
  by_cases missing : archive coldRestartMarkerName = .absent
  · simp [alreadyFired,readToString,overlay_of_absent missing,missing]
  · have same : ∀ year dayOfYear, alreadyFired (overlay archive files) year dayOfYear =
        alreadyFired archive year dayOfYear := by
      intro year dayOfYear
      simp only [alreadyFired,readToString,overlay_of_present missing]
    simp only [same,missing,false_or]
    exact alreadyFired_eq_iff archive files

private theorem equivalent_overlay :
    readColdRestartEquivalentMarker zonedFromStr (overlay archive files) =
        readColdRestartEquivalentMarker zonedFromStr files ↔
      EquivalentCopyCurrent zonedFromStr archive files := by
  unfold EquivalentCopyCurrent
  by_cases missing : archive equivalentMarkerName = .absent
  · simp [readColdRestartEquivalentMarker,readToString,overlay_of_absent missing,missing]
  · have same : readColdRestartEquivalentMarker zonedFromStr (overlay archive files) =
        readColdRestartEquivalentMarker zonedFromStr archive := by
      simp only [readColdRestartEquivalentMarker,readToString,overlay_of_present missing]
    simp [same,missing]

private theorem recovery_overlay :
    LoadsAlike codec ⟨dir,overlay archive files⟩ ⟨dir,files⟩ mode ↔
      RecoveryCopyCurrent codec dir mode archive files := by
  have swap : LoadsAlike codec ⟨dir,overlay archive files⟩ ⟨dir,files⟩ mode ↔
      LoadsAlike codec ⟨dir,files⟩ ⟨dir,overlay archive files⟩ mode :=
    forall_congr' fun _ => eq_comm
  refine swap.trans ((loadsAlike_iff ?_).trans ?_)
  · rfl
  refine and_congr ?_ (and_congr (imp_congr_right fun _ => ?_) (imp_congr_right fun _ => ?_))
  · rw [eq_comm]; exact mainReading_overlay
  · rw [eq_comm]; exact sidecar_overlay
  · rw [eq_comm]; exact peek_overlay

/-- Unpacking an archive over a directory keeps the markers exactly when the archive's
copies of them are current. -/
theorem markersRead_overlay :
    MarkersRead codec zonedFromStr dir files (overlay archive files) ↔
      CopyCurrent codec zonedFromStr dir archive files := by
  unfold MarkersRead CopyCurrent
  rw [fired_overlay,equivalent_overlay]
  exact and_congr_left' (forall₂_congr fun _ _ => recovery_overlay)

end Overlay

def markerFiles : List String :=
  modes.map markerName ++ modes.map sidecarName ++ [coldRestartMarkerName,equivalentMarkerName]

section Start

variable {root retentionDays codec zonedFromStr}

private theorem markersRead_congr {dir : String} {files other other' : Directory}
    (same : ∀ name ∈ markerFiles, other name = other' name) :
    MarkersRead codec zonedFromStr dir files other ↔
      MarkersRead codec zonedFromStr dir files other' := by
  have fired : ∀ year dayOfYear,
      alreadyFired other year dayOfYear = alreadyFired other' year dayOfYear := by
    intro year dayOfYear
    simp only [alreadyFired,readToString,same coldRestartMarkerName (by simp [markerFiles])]
  have equivalent : readColdRestartEquivalentMarker zonedFromStr other =
      readColdRestartEquivalentMarker zonedFromStr other' := by
    simp only [readColdRestartEquivalentMarker,readToString,
      same equivalentMarkerName (by simp [markerFiles])]
  have loads : ∀ mode ∈ modes, ∀ forceReset,
      load codec ⟨dir,other⟩ mode forceReset = load codec ⟨dir,other'⟩ mode forceReset := by
    intro mode member forceReset
    refine load_congr forceReset rfl ?_ ?_
    · exact same _ (by simp only [markerFiles,List.mem_append,List.mem_map]; exact .inl (.inl ⟨mode,member,rfl⟩))
    · exact same _ (by simp only [markerFiles,List.mem_append,List.mem_map]; exact .inl (.inr ⟨mode,member,rfl⟩))
  unfold MarkersRead LoadsAlike
  rw [equivalent]
  simp only [fired]
  refine and_congr_left' (forall₂_congr fun mode member => forall_congr' fun forceReset => ?_)
  rw [loads mode member]

theorem markerFiles_kept : ∀ name ∈ markerFiles, isLog name = false ∧ excluded name = false := by
  decide +kernel

private theorem dropLogs_marker (expired : String → Bool) (files : Directory) {name : String}
    (member : name ∈ markerFiles) : dropLogs expired files name = files name := by
  simp [dropLogs,(markerFiles_kept name member).1]

private theorem markersRead_refl (dir : String) (files : Directory) :
    MarkersRead codec zonedFromStr dir files files :=
  ⟨fun _ _ _ => rfl,fun _ _ => rfl,rfl⟩

/-- The directory as `--startup` leaves it, up to the logs of the clean-up. -/
def restoredDir (root : String) (s : Storage) (dir : String) (files : Directory) : Directory :=
  if s.recycleMarker ∧ dir ∈ settingsDirs root s then restoreDir s.backups dir files else files

private theorem cleanup_settings (now : Int) (expired : String → String → Bool) (s : Storage)
    (dir : String) :
    ∃ drop : Directory → Directory, (∀ files, ∀ name ∈ markerFiles, drop files name = files name) ∧
      (cleanupStorage root retentionDays now expired s).settings dir =
        (s.settings dir).map drop := by
  by_cases below : root.toList.isPrefixOf dir.toList = true
  · exact ⟨dropLogs (expired dir),fun files name member => dropLogs_marker _ files member,
      if_pos below⟩
  · refine ⟨id,fun _ _ _ => rfl,?_⟩
    rw [Option.map_id]
    exact if_neg below

private theorem restored_settings (s : Storage) (dir : String) :
    (if s.recycleMarker then { restoreSettings root s with recycleMarker := false }
      else s).settings dir = (s.settings dir).map (restoredDir root s dir) := by
  cases due : s.recycleMarker with
  | false =>
    have same : restoredDir root s dir = id := by
      funext files
      simp [restoredDir,due]
    simp [same]
  | true =>
    by_cases member : dir ∈ settingsDirs root s
    · have same : restoredDir root s dir = restoreDir s.backups dir := by
        funext files
        simp [restoredDir,due,member]
      simp [same,restoreSettings,member]
    · have same : restoredDir root s dir = id := by
        funext files
        simp [restoredDir,member]
      simp [same,restoreSettings,member]

private theorem start_reads (h : Host) (now : Int) (expired : String → String → Bool)
    {dir : String} {files : Directory} (present : h.storage.settings dir = some files) :
    ∃ files', (h.start root retentionDays now expired).storage.settings dir = some files' ∧
      (MarkersRead codec zonedFromStr dir files files' ↔
        MarkersRead codec zonedFromStr dir files (restoredDir root h.storage dir files)) := by
  unfold Host.start startup
  obtain ⟨drop,harmless,cleaned⟩ := @cleanup_settings root retentionDays now expired (if h.storage.recycleMarker then
      { restoreSettings root h.storage with recycleMarker := false } else h.storage) dir
  rw [restored_settings,present] at cleaned
  exact ⟨_,cleaned,markersRead_congr fun name member => harmless _ name member⟩

end Start

theorem keepsMarkers_iff (h : Host) (event : HostEvent) :
    h.KeepsMarkers root retentionDays codec zonedFromStr event ↔
      h.BackupsCurrent root codec zonedFromStr event := by
  cases event with
  | start now expired =>
    constructor
    · intro keeps due dir member files backup present newer
      obtain ⟨files',left,reads⟩ := start_reads h now expired present
      have kept := reads.mp (keeps dir files files' present left)
      simp only [restoredDir,due,member,and_self,if_true,restoreDir,newer] at kept
      exact markersRead_overlay.mp kept
    · intro current dir files files' present left
      obtain ⟨found,left',reads⟩ := start_reads h now expired present
      obtain rfl : found = files' := Option.some.inj (left'.symm.trans left)
      refine reads.mpr ?_
      unfold restoredDir
      split
      next restored =>
        unfold restoreDir
        cases newer : newest (basename dir) h.storage.backups with
        | none => exact markersRead_refl dir files
        | some backup =>
          exact markersRead_overlay.mpr
            (current restored.1 dir restored.2 files backup present newer)
      next => exact markersRead_refl dir files
  | _ => exact Iff.rfl

/-- A recycle keeps the supervisor's markers exactly when no backup it restores from holds
an outdated copy of one; and along every history whose recycles all find current backups,
every start leaves every marker reading as before. -/
theorem recycle_keeps_markers_iff_backups_current :
    (∀ (h : Host) event, h.KeepsMarkers root retentionDays codec zonedFromStr event ↔
      h.BackupsCurrent root codec zonedFromStr event) ∧
    (∀ (h : Host) events,
      Runs.Along (Host.step root retentionDays)
        (Host.KeepsMarkers root retentionDays codec zonedFromStr) h events ↔
      Runs.Along (Host.step root retentionDays)
        (Host.BackupsCurrent root codec zonedFromStr) h events) := by
  have each (h : Host) (event : HostEvent) :=
    keepsMarkers_iff root retentionDays codec zonedFromStr h event
  exact ⟨each,fun h events => Runs.along_congr each h events⟩

def connectedSample : RecoveryPersistedState where
  schemaVersion := 1
  phase := .aggressive
  phaseEnteredAt := ⟨1719914000 * 10 ^ 9,"UTC"⟩
  phaseEnteredAtMonotonicSecsSinceBoot := 0
  lastFullSuccessAt := some ⟨1719914400 * 10 ^ 9,"UTC"⟩
  giveupAlertSentAt := none
  resumedByTokenHash := none
  lastKnownPhase := .aggressive

def recycledCodec : MarkerCodec := .ofTable
  [(connectedSample,markerText .aggressive "2024-07-02T09:53:20+00:00[UTC]"
      "\"2024-07-02T10:00:00+00:00[UTC]\"" "null" "null"),
    (backoffSample,markerText .backoffEvery15Min "2024-07-03T09:46:40+00:00[UTC]"
      "null" "null" "null")]

def jts : String := "/home/ibgateway/Jts"

def emptyHost : Host where
  storage := ⟨fun _ => none,[],false,none⟩
  loop := ⟨0,0⟩

/-- The files a paper instance leaves in its directory: its marker and the day the cold
restart fired. -/
def leaves (state : RecoveryPersistedState) (dayOfYear : UInt32) : List HostEvent :=
  [.change jts (markerName "paper") (.text (recycledCodec.toVecPretty state)),
    .change jts coldRestartMarkerName (.text (markerDate 2024 dayOfYear))]

/-- A login on day 184 is backed up; on day 185 the cold restart fires, the phase moves on
to backoff, and the eighth restart asks for a recycle. -/
def recycleHistory : List HostEvent :=
  [.makeDir jts,.start (1719913000 * 10 ^ 9) (fun _ _ => false)] ++ leaves connectedSample 184 ++
    [.markGood 1719914400,
      .pass ⟨1719914430,"20240702T100030Z",fun _ => 1719914430 * 10 ^ 9,fun _ _ => false⟩] ++
    leaves backoffSample 185 ++ [.requestRecycle]

def afterRecycle : HostEvent := .start (1720011000 * 10 ^ 9) (fun _ _ => false)

/-- The restored marker is the one of the day before: the old success is back, and the cold
restart of day 185 may fire a second time. -/
theorem recycle_reverts_markers :
    let before := Runs.run (Host.step jts 30) emptyHost recycleHistory
    let after := before.step jts 30 afterRecycle
    (before.storage.settings jts).map (fun files => load recycledCodec ⟨jts,files⟩ "paper" false) =
        some (.loaded backoffSample) ∧
      (after.storage.settings jts).map (fun files => load recycledCodec ⟨jts,files⟩ "paper" false) =
        some (.loaded connectedSample) ∧
      (before.storage.settings jts).map (fun files => alreadyFired files 2024 185) = some true ∧
      (after.storage.settings jts).map (fun files => alreadyFired files 2024 185) = some false ∧
      ¬ before.KeepsMarkers jts 30 recycledCodec (fun _ => none) afterRecycle := by
  intro before after
  have loads : (before.storage.settings jts).map
      (fun files => load recycledCodec ⟨jts,files⟩ "paper" false) = some (.loaded backoffSample) := by
    decide +kernel
  have reloads : (after.storage.settings jts).map
      (fun files => load recycledCodec ⟨jts,files⟩ "paper" false) = some (.loaded connectedSample) := by
    decide +kernel
  have fired : (before.storage.settings jts).map (fun files => alreadyFired files 2024 185) =
      some true := by decide +kernel
  have forgotten : (after.storage.settings jts).map (fun files => alreadyFired files 2024 185) =
      some false := by decide +kernel
  refine ⟨loads,reloads,fired,forgotten,fun keeps => ?_⟩
  obtain ⟨files,present,yes⟩ := Option.map_eq_some_iff.mp fired
  obtain ⟨files',left,no⟩ := Option.map_eq_some_iff.mp forgotten
  have same := (keeps jts files files' present left).2.1 2024 185
  rw [yes,no] at same
  cases same

end Ibctl.Container
