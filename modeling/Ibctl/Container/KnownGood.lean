import Ibctl.Container.Recycle
import Ibctl.StateMachine.Parked
import Ibctl.StateMachine.Dwell

/-! The container as a whole: one or two supervisors, each with its settings directory, and
the maintenance loop that backs up every directory when it sees the settings-good marker
change. The marker is one file for all supervisors and outlives the container. -/
namespace Ibctl.Container
open Files Recovery Machine

/-- A supervisor and, beside it, what an observer notes since the start of the container:
since when it is connected without interruption, whether it has stayed so for the dwell, and
whether it has marked the settings good. -/
structure Instance where
  settingsDir : String
  process : Process
  connectedFrom : Option Instant
  dwelled : Bool
  marked : Bool

structure Site where
  host : Host
  instances : List Instance

structure Launch where
  config : Config
  recoveryConfig : RecoveryConfig
  now : Clocks

inductive Launches where
  | single (launch : Launch)
  | dual (live paper : Launch)

/-- The outcomes of the files a supervisor writes for the maintenance script: the new time of
the settings-good marker and whether the recycle marker was written. -/
structure MarkerWrites where
  good : Option Int
  recycle : Bool

inductive SiteEvent where
  | start (now : Int) (expired : String → String → Bool) (launches : Launches)
  | turn (index : Nat) (t : Turn) (writes : MarkerWrites)
  | change (dir path : String) (content : FileState)
  | pass (input : PassInput)

def settingsGoodMarker (config : Config) : String :=
  (config.env "IBCTL_SETTINGS_GOOD_MARKER").getD "/opt/ibctl/persist/maintenance/settings-good"

def containerRecycleMarker (config : Config) : String :=
  (config.env "IBCTL_CONTAINER_RECYCLE_MARKER").getD
    "/opt/ibctl/persist/maintenance/container-recycle"

def isSettingsGood : LoopEffect → Bool
  | .handler (.settingsGood ..) => true
  | _ => false

def isContainerRecycle : LoopEffect → Bool
  | .handler (.gateway (.containerRecycle _)) => true
  | _ => false

variable (codec : MarkerCodec)

/-- The time has come while the machine was connected without interruption. -/
def dwelledBy (connectedFrom : Option Instant) (at_ : Instant) (secs : Nat) : Bool :=
  match connectedFrom with
  | some since => decide (.fromSecs secs ≤ at_.durationSince since)
  | none => false

namespace Instance

def launch (settingsDir : String) (files : Directory) (launch : Launch) : Instance where
  settingsDir := settingsDir
  process := Process.start codec launch.config launch.recoveryConfig files settingsDir launch.now
  connectedFrom := none
  dwelled := false
  marked := false

def withFiles (i : Instance) (files : Directory) : Instance :=
  { i with process.machine.files := files }

/-- One iteration of the supervisor. It is connected without interruption while its handler
runs if the prelude has left it so, and afterwards if the iteration has. -/
def turn (i : Instance) (t : Turn) : Instance × List LoopEffect :=
  let turned := i.process.turn codec t
  match i.process.status,i.process.machine.prelude codec t with
  | .running,some (ready,_) =>
    let during := if ready.state = .connected then i.connectedFrom else none
    let after :=
      if turned.process.machine.state ≠ .connected then none
      else if ready.state = .connected then i.connectedFrom
      else some t.later.mono
    ({ i with
        process := turned.process
        connectedFrom := after
        dwelled := i.dwelled ||
          dwelledBy during t.later.mono ready.config.timing.minSuccessDwellSecs
        marked := i.marked || turned.effects.any isSettingsGood },turned.effects)
  | _,_ => ({ i with process := turned.process },turned.effects)

end Instance

variable (root persistRoot : String) (retentionDays : Int)

namespace Host

/-- What an iteration of a supervisor leaves on the volumes. -/
def absorb (h : Host) (i : Instance) (effects : List LoopEffect) (writes : MarkerWrites) : Host :=
  let machine := i.process.machine
  let saved := { h with
    storage.settings := Function.update h.storage.settings i.settingsDir (some machine.files) }
  let recycled :=
    if effects.any isContainerRecycle && writes.recycle &&
        containerRecycleMarker machine.config = persistRoot ++ "/maintenance/container-recycle" then
      saved.step root retentionDays .requestRecycle
    else saved
  if effects.any isSettingsGood &&
      settingsGoodMarker machine.config = persistRoot ++ "/maintenance/settings-good" then
    match writes.good with
    | some mtime => recycled.step root retentionDays (.markGood mtime)
    | none => recycled
  else recycled

end Host

/-- The directories of the supervisors, as the entrypoint gives them out. -/
def Launches.assigned : Launches → List (String × Launch)
  | .single launch => [(root,launch)]
  | .dual live paper => [(root ++ "_live",live),(root ++ "_paper",paper)]

namespace Site

def makeDirs (h : Host) (dirs : List String) : Host :=
  dirs.foldl (fun h dir => h.step root retentionDays (.makeDir dir)) h

/-- The entrypoint: the maintenance script with `--startup`, its loop, and the supervisors.
What it writes into each `jts.ini` is left to the changes of the files. -/
def boot (s : Site) (now : Int) (expired : String → String → Bool) (launches : Launches) : Site :=
  let assigned := launches.assigned root
  let host := makeDirs root retentionDays (s.host.step root retentionDays (.start now expired))
    (assigned.map Prod.fst)
  { host
    instances := assigned.map (fun (dir,launch) =>
      .launch codec dir ((host.storage.settings dir).getD empty) launch) }

def step (s : Site) : SiteEvent → Site
  | .start now expired launches => s.boot codec root retentionDays now expired launches
  | .turn index t writes =>
    match s.instances[index]? with
    | none => s
    | some i =>
      let files := (s.host.storage.settings i.settingsDir).getD empty
      let (next,effects) := (i.withFiles files).turn codec t
      { host := s.host.absorb root persistRoot retentionDays next effects writes
        instances := s.instances.set index next }
  | .change dir path content => { s with host := s.host.step root retentionDays (.change dir path content) }
  | .pass input => { s with host := s.host.step root retentionDays (.pass input) }

def takes (s : Site) (input : PassInput) : List String :=
  let h := s.host.cleanup root retentionDays input
  if h.backsUp.isSome then settingsDirs root h.storage else []

/-- A directory is archived only after the supervisor that uses it has stayed connected for
the dwell in this container. -/
def BackupsGood (s : Site) : SiteEvent → Prop
  | .pass input => ∀ dir ∈ s.takes root retentionDays input,
      ∃ i ∈ s.instances, i.settingsDir = dir ∧ i.dwelled = true
  | _ => True

/-- A directory is archived only after the supervisor that uses it has itself marked the
settings good in this container, and nobody sets a state to Connected by hand. -/
def MarkedByEach (s : Site) : SiteEvent → Prop
  | .pass input => ∀ dir ∈ s.takes root retentionDays input,
      ∃ i ∈ s.instances, i.settingsDir = dir ∧ i.marked = true
  | .turn _ t _ => t.KeepsEntry
  | _ => True

/-- The backups grow only in a pass of the loop, by the directories it takes. -/
def GrowsByTaken (s : Site) (event : SiteEvent) : Prop :=
  ∀ backup ∈ (s.step codec root persistRoot retentionDays event).host.storage.backups,
    backup ∈ s.host.storage.backups ∨ ∃ input, event = .pass input ∧
      ∃ dir ∈ s.takes root retentionDays input,
        backup.name = backupName (basename dir) input.stamp

end Site

/-- The clock a handler reads is not ahead of the one read after it. -/
def SiteEvent.Timely : SiteEvent → Prop
  | .turn _ t _ => ∀ n, (t.schedule.answers.now n).nanos ≤ t.later.mono.nanos
  | _ => True

namespace Instance

/-- The connection's clock of the machine starts no earlier than the connection, and the mark
comes after the dwell. -/
def Sound (i : Instance) : Prop :=
  (i.process.machine.state = .connected →
    ∀ since, i.process.machine.connectedContinuouslySince = some since →
      ∃ start, i.connectedFrom = some start ∧ start.nanos ≤ since.nanos) ∧
  (i.marked = true → i.dwelled = true)

variable {codec} {i : Instance} {t : Turn}

theorem dwelledBy_of_le {since start at_ later : Instant} {secs : Nat}
    (dwelled : .fromSecs secs ≤ at_.durationSince since) (early : start.nanos ≤ since.nanos)
    (late : at_.nanos ≤ later.nanos) : dwelledBy (some start) later secs = true := by
  have longer : at_.durationSince since ≤ later.durationSince start := by
    rw [Instant.durationSince_eq,Instant.durationSince_eq]
    exact Int.toNat_le_toNat (by omega)
  exact decide_eq_true (dwelled.trans longer)

theorem turn_sound (sound : i.Sound) (entry : t.KeepsEntry)
    (timely : ∀ n, (t.schedule.answers.now n).nanos ≤ t.later.mono.nanos) :
    (i.turn codec t).1.Sound := by
  obtain ⟨tracked,earned⟩ := sound
  unfold turn
  split
  next ready effects running preluded =>
    have continues := StateMachine.prelude_continues preluded
    have iterated : (i.process.turn codec t).process = (ready.afterPrelude t).process := by
      rw [Process.turn_of_prelude running preluded]
    -- What the observer noted at the entry is no later than the machine's own clock.
    have during : ready.state = .connected → ∀ since,
        ready.connectedContinuouslySince = some since →
          ∃ start, i.connectedFrom = some start ∧ start.nanos ≤ since.nanos := by
      intro connected since clock
      obtain ⟨before,same⟩ := continues connected
      exact tracked before since (same.symm.trans clock)
    refine ⟨fun connected since clock => ?_,fun marked => ?_⟩
    · simp only [iterated] at connected clock ⊢
      rw [if_neg (not_not_intro connected)]
      rcases StateMachine.afterPrelude_connected entry connected with ⟨here,kept⟩ | ⟨apart,starts⟩
      · rw [if_pos here]
        exact during here since (kept.symm.trans clock)
      · rw [if_neg apart]
        cases starts.symm.trans clock
        exact ⟨_,rfl,le_refl _⟩
    · simp only [Bool.or_eq_true] at marked ⊢
      rcases marked with before | now
      · exact .inl (earned before)
      · right
        obtain ⟨effect,member,good⟩ := List.any_eq_true.mp now
        unfold isSettingsGood at good
        split at good
        next checkedAt writtenAt =>
          obtain ⟨found,_,-,again,here,⟨n,answered⟩,since,clock,dwelled⟩ :=
            Process.turn_marks member
          obtain rfl : found = ready := by
            rw [preluded] at again
            cases again
            rfl
          obtain ⟨start,noted,early⟩ := during here since clock
          rw [if_pos here,noted]
          refine dwelledBy_of_le dwelled early ?_
          rw [answered]
          exact timely n
        next => cases good
  next stopped =>
    have same := (Process.turn_of_stopped stopped).1
    refine ⟨fun connected since clock => ?_,earned⟩
    simp only [same] at connected clock
    exact tracked connected since clock

end Instance

theorem start_unconnected (config : Config) (recoveryConfig : RecoveryConfig) (files : Directory)
    (settingsDir : String) (now : Clocks) :
    (Process.start codec config recoveryConfig files settingsDir now).machine.state ≠ .connected := by
  intro connected
  obtain ⟨-,fresh | parked⟩ := @StateMachine.gates_moves
    (StateMachine.new codec config recoveryConfig files settingsDir now) now
  · have init : State.init = .connected := fresh.symm.trans connected
    cases init
  · have waiting : State.waitingForLaunch = .connected := parked.symm.trans connected
    cases waiting

theorem Instance.launch_sound (settingsDir : String) (files : Directory) (launch : Launch) :
    (Instance.launch codec settingsDir files launch).Sound :=
  ⟨fun connected => absurd connected (start_unconnected codec _ _ _ _ _),
    fun marked => absurd marked (by simp [Instance.launch])⟩

namespace Site

variable {codec root persistRoot retentionDays}

def Sound (s : Site) : Prop := ∀ i ∈ s.instances, i.Sound

theorem step_sound {s : Site} {event : SiteEvent} (sound : s.Sound) (timely : event.Timely)
    (marked : s.MarkedByEach root retentionDays event) :
    (s.step codec root persistRoot retentionDays event).Sound := by
  cases event with
  | start now expired launches =>
    intro i member
    obtain ⟨⟨dir,launch⟩,-,rfl⟩ := List.mem_map.mp member
    exact Instance.launch_sound codec dir _ launch
  | turn index t writes =>
    simp only [step]
    split
    · exact sound
    next i found =>
      intro other member
      rcases List.mem_or_eq_of_mem_set member with kept | rfl
      · exact sound other kept
      · have before : i.Sound := sound i (List.mem_of_getElem? found)
        exact Instance.turn_sound before marked timely
  | change dir path content => exact sound
  | pass input => exact sound

theorem backups_good {s : Site} {event : SiteEvent} (sound : s.Sound)
    (marked : s.MarkedByEach root retentionDays event) : s.BackupsGood root retentionDays event := by
  cases event with
  | pass input =>
    intro dir taken
    obtain ⟨i,member,uses,itself⟩ := marked dir taken
    exact ⟨i,member,uses,(sound i member).2 itself⟩
  | _ => trivial

end Site

section Backups

theorem backupSettings_mem (stamp : String) (mtime : String → Int) (dirs : List String)
    (s : Storage) {backup : Backup}
    (member : backup ∈ (dirs.foldl (backupDir stamp mtime) s).backups) :
    backup ∈ s.backups ∨ ∃ dir ∈ dirs, backup.name = backupName (basename dir) stamp := by
  induction dirs generalizing s with
  | nil => exact .inl member
  | cons dir rest ih =>
    rcases ih (backupDir stamp mtime s dir) member with before | ⟨other,listed,named⟩
    · unfold backupDir at before
      split at before
      · exact .inl before
      · unfold putBackup at before
        rcases List.mem_cons.mp before with rfl | kept
        · exact .inr ⟨dir,List.mem_cons_self,rfl⟩
        · exact .inl (List.mem_filter.mp kept).1
    · exact .inr ⟨other,List.mem_cons_of_mem dir listed,named⟩

theorem cleanupStorage_mem (now : Int) (expired : String → String → Bool) (s : Storage)
    {backup : Backup}
    (member : backup ∈ (cleanupStorage root retentionDays now expired s).backups) :
    backup ∈ s.backups := (List.mem_filter.mp member).1

theorem start_backups (h : Host) (now : Int) (expired : String → String → Bool) {backup : Backup}
    (member : backup ∈ (h.start root retentionDays now expired).storage.backups) :
    backup ∈ h.storage.backups := by
  have cleaned := cleanupStorage_mem root retentionDays now expired _ member
  split at cleaned <;> exact cleaned

theorem makeDirs_rest (dirs : List String) (h : Host) :
    (Site.makeDirs root retentionDays h dirs).storage.backups = h.storage.backups ∧
      (Site.makeDirs root retentionDays h dirs).storage.goodMarker = h.storage.goodMarker := by
  induction dirs generalizing h with
  | nil => exact ⟨rfl,rfl⟩
  | cons dir rest ih => exact ih _

theorem absorb_rest (h : Host) (i : Instance) (effects : List LoopEffect)
    (writes : MarkerWrites) :
    (h.absorb root persistRoot retentionDays i effects writes).storage.settings =
        Function.update h.storage.settings i.settingsDir (some i.process.machine.files) ∧
      (h.absorb root persistRoot retentionDays i effects writes).storage.backups =
        h.storage.backups ∧
      ((h.absorb root persistRoot retentionDays i effects writes).storage.goodMarker =
          h.storage.goodMarker ∨ effects.any isSettingsGood = true) := by
  unfold Host.absorb
  simp only
  split
  next marks =>
    simp only [Bool.and_eq_true] at marks
    refine ⟨?_,?_,.inr marks.1⟩
    · split <;> split <;> rfl
    · split <;> split <;> rfl
  next =>
    refine ⟨?_,?_,.inl ?_⟩
    · split <;> rfl
    · split <;> rfl
    · split <;> rfl

theorem step_backups (s : Site) (event : SiteEvent) :
    s.GrowsByTaken codec root persistRoot retentionDays event := by
  intro backup member
  cases event with
  | start now expired launches =>
    left
    have kept : backup ∈ (s.host.start root retentionDays now expired).storage.backups := by
      rw [← (makeDirs_rest root retentionDays ((launches.assigned root).map Prod.fst) _).1]
      exact member
    exact start_backups root retentionDays s.host now expired kept
  | turn index t writes =>
    left
    simp only [Site.step] at member
    split at member
    · exact member
    · rw [(absorb_rest ..).2.1] at member
      exact member
  | change dir path content => exact .inl member
  | pass input =>
    have cleaned : ∀ {backup}, backup ∈ (s.host.cleanup root retentionDays input).storage.backups →
        backup ∈ s.host.storage.backups := by
      intro backup kept
      unfold Host.cleanup at kept
      split at kept
      · exact cleanupStorage_mem root retentionDays _ _ _ kept
      · exact kept
    simp only [Site.step,Host.step,Host.pass,Host.backup] at member
    split at member
    · exact .inl (cleaned member)
    next current due =>
      rcases backupSettings_mem input.stamp input.mtime _ _ member with before | ⟨dir,listed,named⟩
      · exact .inl (cleaned before)
      · refine .inr ⟨input,rfl,dir,?_,named⟩
        simp only [Site.takes,due,Option.isSome_some,if_true]
        exact listed

end Backups

section FirstStart

theorem Instance.turn_marked (i : Instance) (t : Turn) :
    (i.turn codec t).1.marked = (i.marked || (i.turn codec t).2.any isSettingsGood) := by
  unfold Instance.turn
  split
  · rfl
  next stopped =>
    have silent := (Process.turn_of_stopped stopped).2
    simp [silent]

theorem cleanup_goodMarker (h : Host) (input : PassInput) :
    (h.cleanup root retentionDays input).storage.goodMarker = h.storage.goodMarker := by
  unfold Host.cleanup
  split <;> rfl

theorem start_goodMarker (h : Host) (now : Int) (expired : String → String → Bool) :
    (h.start root retentionDays now expired).storage.goodMarker = h.storage.goodMarker := by
  unfold Host.start startup
  simp only [cleanupStorage]
  split <;> rfl

theorem archived_rest (stamp : String) (mtime : String → Int) (dirs : List String) (s : Storage) :
    (dirs.foldl (backupDir stamp mtime) s).goodMarker = s.goodMarker ∧
      (dirs.foldl (backupDir stamp mtime) s).settings = s.settings := by
  induction dirs generalizing s with
  | nil => exact ⟨rfl,rfl⟩
  | cons dir rest ih =>
    obtain ⟨marker,settings⟩ := ih (backupDir stamp mtime s dir)
    have kept : (backupDir stamp mtime s dir).goodMarker = s.goodMarker ∧
        (backupDir stamp mtime s dir).settings = s.settings := by
      unfold backupDir
      split <;> exact ⟨rfl,rfl⟩
    exact ⟨marker.trans kept.1,settings.trans kept.2⟩

theorem pass_goodMarker (h : Host) (input : PassInput) :
    (h.pass root retentionDays input).storage.goodMarker = h.storage.goodMarker := by
  unfold Host.pass Host.backup
  split
  · exact cleanup_goodMarker root retentionDays h input
  · exact (archived_rest _ _ _ _).1.trans (cleanup_goodMarker root retentionDays h input)

/-- One supervisor runs, its directory is the only one, and the settings are marked good only
by it. -/
def Site.MarkedAlone (s : Site) : Prop :=
  ∃ i, s.instances = [i] ∧ i.settingsDir = root ∧
    (∀ dir, dir ≠ root → s.host.storage.settings dir = none) ∧
    (s.host.storage.goodMarker.isSome = true → i.marked = true)

/-- The container stays up, and nobody sets a state to Connected by hand. -/
def SiteEvent.StaysUp : SiteEvent → Prop
  | .start .. => False
  | .turn _ t _ => t.KeepsEntry
  | _ => True

theorem cleanup_settings_none {h : Host} (input : PassInput) {dir : String}
    (missing : h.storage.settings dir = none) :
    (h.cleanup root retentionDays input).storage.settings dir = none := by
  unfold Host.cleanup
  split
  · simp [cleanupStorage,missing]
  · exact missing

theorem pass_settings_none {h : Host} (input : PassInput) {dir : String}
    (missing : h.storage.settings dir = none) :
    (h.pass root retentionDays input).storage.settings dir = none := by
  have cleaned := cleanup_settings_none root retentionDays input missing
  unfold Host.pass Host.backup
  split
  · exact cleaned
  · exact (congrFun (archived_rest _ _ _ _).2 dir).trans cleaned

theorem Instance.turn_settingsDir (i : Instance) (t : Turn) :
    (i.turn codec t).1.settingsDir = i.settingsDir := by
  unfold Instance.turn
  split <;> rfl

theorem Site.step_markedAlone {s : Site} {event : SiteEvent} (alone : s.MarkedAlone root)
    (up : event.StaysUp) :
    (s.step codec root persistRoot retentionDays event).MarkedAlone root := by
  obtain ⟨i,only,uses,missing,marks⟩ := alone
  cases event with
  | start now expired launches => exact absurd up id
  | turn index t writes =>
    simp only [step]
    split
    · exact ⟨i,only,uses,missing,marks⟩
    next j found =>
      rw [only] at found
      obtain ⟨rfl,rfl⟩ : index = 0 ∧ i = j := by
        cases index with
        | zero => exact ⟨rfl,by simpa using found⟩
        | succ n => simp at found
      rw [only]
      have same := Instance.turn_settingsDir codec
        (i.withFiles ((s.host.storage.settings i.settingsDir).getD empty)) t
      refine ⟨_,rfl,same.trans uses,fun dir other => ?_,fun set => ?_⟩
      · rw [(absorb_rest ..).1,same]
        have apart : dir ≠ i.settingsDir := by
          rw [uses]
          exact other
        exact (Function.update_of_ne apart _ _).trans (missing dir other)
      · rw [Instance.turn_marked]
        rcases (absorb_rest root persistRoot retentionDays s.host
          ((i.withFiles ((s.host.storage.settings i.settingsDir).getD empty)).turn codec t).1
          ((i.withFiles ((s.host.storage.settings i.settingsDir).getD empty)).turn codec t).2
          writes).2.2 with kept | marked
        · simp only [kept] at set
          have before : (i.withFiles ((s.host.storage.settings i.settingsDir).getD
            empty)).marked = true := marks set
          rw [before,Bool.true_or]
        · rw [marked,Bool.or_true]
  | change dir path content =>
    refine ⟨i,only,uses,fun other apart => ?_,marks⟩
    simp only [step,Host.step]
    by_cases same : other = dir
    · subst same
      simp [missing other apart]
    · rw [Function.update_of_ne same]
      exact missing other apart
  | pass input =>
    refine ⟨i,only,uses,fun dir other => ?_,fun set => marks ?_⟩
    · exact pass_settings_none root retentionDays input (missing dir other)
    · simp only [step,Host.step,pass_goodMarker] at set
      exact set

theorem Site.markedByEach_of_alone {s : Site} {event : SiteEvent} (alone : s.MarkedAlone root)
    (up : event.StaysUp) : s.MarkedByEach root retentionDays event := by
  obtain ⟨i,only,uses,missing,marks⟩ := alone
  cases event with
  | start now expired launches => trivial
  | turn index t writes => exact up
  | change dir path content => trivial
  | pass input =>
    intro dir taken
    unfold takes at taken
    simp only at taken
    split at taken
    next due =>
      obtain ⟨current,seen⟩ := Option.isSome_iff_exists.mp due
      have present := (Option.filter_eq_some_iff.mp seen).1
      rw [cleanup_goodMarker] at present
      have itself := marks (by rw [present]; rfl)
      have there := (List.mem_filter.mp taken).2
      refine ⟨i,by rw [only]; exact List.mem_cons_self,?_,itself⟩
      rw [uses]
      by_contra apart
      rw [cleanup_settings_none root retentionDays input (missing dir (Ne.symm apart))] at there
      exact absurd there (by decide)
    next => exact absurd taken List.not_mem_nil

theorem start_settings_none {h : Host} (now : Int) (expired : String → String → Bool)
    {dir : String} (missing : h.storage.settings dir = none) :
    (h.start root retentionDays now expired).storage.settings dir = none := by
  unfold Host.start startup cleanupStorage
  simp only
  split <;> split <;> simp [restoreSettings,missing]

theorem Site.boot_markedAlone (h : Host) (fresh : h.storage.goodMarker = none)
    (missing : ∀ dir, dir ≠ root → h.storage.settings dir = none) (now : Int)
    (expired : String → String → Bool) (launch : Launch) :
    (Site.step codec root persistRoot retentionDays ⟨h,[]⟩
      (.start now expired (.single launch))).MarkedAlone root := by
  refine ⟨_,rfl,rfl,fun dir other => ?_,fun set => ?_⟩
  · exact (Function.update_of_ne other _ _).trans
      (start_settings_none root retentionDays now expired (missing dir other))
  · have kept : (Site.makeDirs root retentionDays (h.start root retentionDays now expired)
        [root]).storage.goodMarker = none := by
      rw [(makeDirs_rest ..).2,start_goodMarker,fresh]
    have marked : (none : Option Int).isSome = true := kept ▸ set
    exact absurd marked (by decide)

end FirstStart

/-- Along every history in which each pass of the loop finds the settings marked good by every
supervisor whose directory it takes, and nobody sets a state to Connected by hand, a backup
of a directory is taken only after the supervisor that uses it has stayed connected for the
dwell in this container; and nothing else adds a backup. A single supervisor that starts on
volumes with neither a settings-good marker nor another settings directory meets the
condition as long as its container is up. -/
theorem backups_known_good {h : Host} {events : List SiteEvent}
    (timely : ∀ event ∈ events, event.Timely) :
    (Runs.Along (Site.step codec root persistRoot retentionDays)
        (Site.MarkedByEach root retentionDays) ⟨h,[]⟩ events →
      Runs.Along (Site.step codec root persistRoot retentionDays)
        (fun s event => s.BackupsGood root retentionDays event ∧
          s.GrowsByTaken codec root persistRoot retentionDays event) ⟨h,[]⟩ events) ∧
    ∀ now expired launch, h.storage.goodMarker = none →
      (∀ dir, dir ≠ root → h.storage.settings dir = none) → (∀ event ∈ events, event.StaysUp) →
      Runs.Along (Site.step codec root persistRoot retentionDays)
        (Site.MarkedByEach root retentionDays) ⟨h,[]⟩
        (.start now expired (.single launch) :: events) := by
  constructor
  · intro marked
    have clocks : Runs.Along (Site.step codec root persistRoot retentionDays)
        (fun _ event => event.Timely) ⟨h,[]⟩ events :=
      Runs.along_of_forall _ _ (fun event member _ => timely event member)
    have both := (Runs.along_and _ events).mpr ⟨clocks,marked⟩
    refine both.strengthen (P := Site.Sound) (fun s event sound good => ?_)
      (fun s event sound good => ?_) ?_
    · exact Site.step_sound sound good.1 good.2
    · exact ⟨Site.backups_good sound good.2,
        step_backups codec root persistRoot retentionDays s event⟩
    · intro i member
      exact absurd member List.not_mem_nil
  · intro now expired launch fresh missing up
    have steady : Runs.Along (Site.step codec root persistRoot retentionDays)
        (fun _ event => event.StaysUp)
        (Site.step codec root persistRoot retentionDays ⟨h,[]⟩ (.start now expired (.single launch)))
        events := Runs.along_of_forall _ _ (fun event member _ => up event member)
    refine ⟨trivial,?_⟩
    exact steady.strengthen
      (fun s event alone stays => Site.step_markedAlone codec root persistRoot retentionDays alone stays)
      (fun s event alone stays => Site.markedByEach_of_alone root retentionDays alone stays)
      (Site.boot_markedAlone codec root persistRoot retentionDays h fresh missing now expired launch)

def persist : String := "/opt/ibctl/persist"

def paperLaunch (secs : Nat) : Launches := .single ⟨paperConfig,.default,sampleClocks secs⟩

def startAt (secs : Nat) : SiteEvent :=
  .start ((1720000000 + secs) * 10 ^ 9) (fun _ _ => false) (paperLaunch secs)

def turnOf (secs : Nat) (interrupt : Option Interrupt) : SiteEvent :=
  .turn 0 (turnAt (sampleClocks secs) interrupt) ⟨some (1720000000 + secs),true⟩

def passAt (secs : Nat) : PassInput :=
  ⟨1720000000 + secs,"20240703T094640Z",fun _ => (1720000000 + secs) * 10 ^ 9,fun _ _ => false⟩

/-- A paper container on an empty volume that configures the API, connects, stays connected
for more than a minute and is backed up. -/
def firstContainer : List SiteEvent :=
  [turnOf 1 (some (.command (.setState "ConfiguringApi"))),turnOf 2 none,turnOf 70 none,
    .pass (passAt 90)]

def site (events : List SiteEvent) : Site :=
  Runs.run (Site.step sampleCodec jts persist 30) ⟨emptyHost,[]⟩ events

/-- The next container's first pass backs up the settings of a supervisor that has not yet
launched the Gateway: the marker of the container before is still there. -/
theorem backup_of_unconnected :
    let restarted := site (startAt 0 :: firstContainer ++ [startAt 200])
    restarted.instances.map (fun i => (i.settingsDir,i.process.machine.state,i.dwelled)) =
        [(jts,.init,false)] ∧
      restarted.takes jts 30 (passAt 210) = [jts] ∧
      ¬ restarted.BackupsGood jts 30 (.pass (passAt 210)) := by
  intro restarted
  have waiting : restarted.instances.map
      (fun i => (i.settingsDir,i.process.machine.state,i.dwelled)) = [(jts,.init,false)] := by
    decide +kernel
  have taken : restarted.takes jts 30 (passAt 210) = [jts] := by decide +kernel
  refine ⟨waiting,taken,fun good => ?_⟩
  obtain ⟨i,listed,-,dwelled⟩ := good jts (by rw [taken]; exact List.mem_cons_self)
  have noted := List.mem_map_of_mem
    (f := fun i : Instance => (i.settingsDir,i.process.machine.state,i.dwelled)) listed
  rw [waiting,List.mem_singleton,dwelled] at noted
  have differ : true = false := congrArg (fun seen => seen.2.2) noted
  cases differ

private theorem firstContainer_plain :
    ∀ event ∈ firstContainer, event.StaysUp ∧ event.Timely := by
  intro event member
  simp only [firstContainer,List.mem_cons,List.not_mem_nil,or_false] at member
  rcases member with rfl | rfl | rfl | rfl
  · refine ⟨fun interrupt taken sets => ?_,fun n => le_refl _⟩
    cases taken
    have named : State.fromName "ConfiguringApi" = some .connected := sets
    exact absurd named (by decide +kernel)
  · exact ⟨fun interrupt taken => (nomatch taken),fun n => le_refl _⟩
  · exact ⟨fun interrupt taken => (nomatch taken),fun n => le_refl _⟩
  · exact ⟨trivial,trivial⟩

/-- In the first container the backup came after the dwell. -/
theorem backups_known_good_first :
    (site (startAt 0 :: firstContainer)).host.storage.backups.map (fun backup => backup.name) =
        ["Jts-20240703T094640Z.tar.enc"] ∧
      Runs.Along (Site.step sampleCodec jts persist 30)
        (fun s event => s.BackupsGood jts 30 event ∧ s.GrowsByTaken sampleCodec jts persist 30 event)
        ⟨emptyHost,[]⟩ (startAt 0 :: firstContainer) := by
  have marked : Runs.Along (Site.step sampleCodec jts persist 30) (Site.MarkedByEach jts 30)
      ⟨emptyHost,[]⟩ (startAt 0 :: firstContainer) :=
    (backups_known_good sampleCodec jts persist 30
      (fun event member => (firstContainer_plain event member).2)).2 _ _ _ rfl (fun _ _ => rfl)
      (fun event member => (firstContainer_plain event member).1)
  refine ⟨by decide +kernel,(backups_known_good sampleCodec jts persist 30 ?_).1 marked⟩
  intro event member
  rcases List.mem_cons.mp member with rfl | member
  · trivial
  · exact (firstContainer_plain event member).2

end Ibctl.Container
