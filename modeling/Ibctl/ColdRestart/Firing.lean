import Ibctl.ColdRestart.Scheduler
import Ibctl.Lib.Words

/-! When the scheduler fires. A watch beside its loop keeps the first sample of the cycle
under way, the date of the latest sample and what was done at every fire: no date of a first
sample fires twice, and a login inside the warning window holds a fire back only where the
local clock was set back meanwhile. -/
namespace Ibctl.ColdRestart
open Files Machine Calendar Runs

section Marker

theorem solid_of_markerDate (year : Int32) (dayOfYear : UInt32) :
    ∀ c ∈ (markerDate year dayOfYear).toList, Text.isWhitespace c = false := by
  intro c found
  have parts : (markerDate year dayOfYear).toList =
      Decimal.writeInt year.toInt ++ '-' :: Decimal.writeInt (Int.ofNat dayOfYear.toNat) := by
    have years := Decimal.toList_toString year.toInt
    have days := Decimal.toList_toString (Int.ofNat dayOfYear.toNat)
    have written : markerDate year dayOfYear =
        toString year.toInt ++ "-" ++ toString (Int.ofNat dayOfYear.toNat) := rfl
    rw [written,String.toList_append,String.toList_append,years,days]
    simp
  rw [parts] at found
  rcases List.mem_append.mp found with found | found
  · exact Decimal.solid_of_mem_writeInt found
  · rcases List.mem_cons.mp found with rfl | found
    · rfl
    · exact Decimal.solid_of_mem_writeInt found

theorem trim_markerDate (year : Int32) (dayOfYear : UInt32) :
    Text.trim (markerDate year dayOfYear) = markerDate year dayOfYear := by
  unfold Text.trim Text.trimWith
  rw [Text.trimChars_of_solid (solid_of_markerDate year dayOfYear)]
  exact String.ofList_toList

theorem firedOn_writeMarker {s : Scheduler} {date : Date} {failure : Option String}
    {files : Directory} (written : s.writeMarker date failure = (.ok (),files)) :
    firedOn files date = true := by
  cases failure with
  | some error => cases written
  | none =>
    cases written
    unfold firedOn
    rw [alreadyFired_iff]
    simp [firedText,readToString,trim_markerDate]

theorem files_of_failed {s : Scheduler} {date : Date} {failure : Option String} {error : String}
    {files : Directory} (failed : s.writeMarker date failure = (.error error,files)) :
    files = s.files := by
  cases failure with
  | none => cases failed
  | some error => cases failed; rfl

theorem firedOn_update (files : Directory) (content : FileState) (date : Date) :
    firedOn (Function.update files equivalentMarkerName content) date = firedOn files date := by
  have other : coldRestartMarkerName ≠ equivalentMarkerName := by decide
  simp only [firedOn,alreadyFired,readToString,Function.update_of_ne other]

end Marker

variable {civil : Zoned → DateTime} {zonedFromStr : String → Option Zoned}

section Turns

/-- What an input makes of a scheduler, and what it does then. -/
inductive Proceeds (civil : Zoned → DateTime) (zonedFromStr : String → Option Zoned)
    (s after : Scheduler) : SchedulerInput → List SchedulerEffect → Prop
  | idle {input : SchedulerInput} (phase : after.phase = s.phase) (cfg : after.cfg = s.cfg)
      (marker : ∀ date, firedOn after.files date = firedOn s.files date) :
      Proceeds civil zonedFromStr s after input []
  | warned {now : Zoned} {failure : Option String} {received : Bool} (slept : s.phase = .sleeping)
      (phase : after.phase = .warning now) (cfg : after.cfg = s.cfg)
      (marker : ∀ date, firedOn after.files date = firedOn s.files date)
      (due : s.cfg.Due civil now (firedOn s.files (civil now).date)) :
      Proceeds civil zonedFromStr s after (.wakes now failure received) []
  | skipped {now : Zoned} {failure : Option String} {received : Bool}
      {reason : ColdRestartSkipReason} {effects : List SchedulerEffect}
      (awake : s.phase ≠ .returned)
      (decided : s.nextAction civil zonedFromStr now = .skip reason)
      (phase : ∀ first, after.phase ≠ .warning first)
      (sends : .sent (.skipped reason) ∈ effects) (quiet : .sent .fire ∉ effects) :
      Proceeds civil zonedFromStr s after (.wakes now failure received) effects
  | fired {now first : Zoned} {failure : Option String} {received : Bool}
      (warned : s.phase = .warning first)
      (decided : ∀ reason, s.nextAction civil zonedFromStr now ≠ .skip reason)
      (phase : ∀ first, after.phase ≠ .warning first)
      (marked : firedOn after.files (civil first).date = true) :
      Proceeds civil zonedFromStr s after (.wakes now failure received)
        [.wroteFiredMarker (civil first).date,.sent .fire]
  | unwritten {now first : Zoned} {failure : Option String} {received : Bool}
      (warned : s.phase = .warning first)
      (decided : ∀ reason, s.nextAction civil zonedFromStr now ≠ .skip reason)
      (phase : after.phase = .sleeping)
      (marker : ∀ date, firedOn after.files date = firedOn s.files date) :
      Proceeds civil zonedFromStr s after (.wakes now failure received) []
  | restarted {cfg : SchedulerConfig} (phase : after.phase = .sleeping)
      (marker : ∀ date, firedOn after.files date = firedOn s.files date) :
      Proceeds civil zonedFromStr s after (.restarted cfg) []

namespace Scheduler

variable (s : Scheduler)

theorem send_phase (signal : ColdRestartSignal) (received : Bool) (first : Zoned) :
    (s.send signal received).1.phase ≠ .warning first := by
  unfold send
  cases received <;> simp

theorem skip_proceeds {now first : Zoned} {failure : Option String} {received : Bool}
    {reason : ColdRestartSkipReason} (awake : s.phase ≠ .returned)
    (decided : s.nextAction civil zonedFromStr now = .skip reason) :
    Proceeds civil zonedFromStr s (s.skip civil first reason failure received).1
      (.wakes now failure received) (s.skip civil first reason failure received).2 := by
  unfold skip
  rcases s.writeMarker (civil first).date failure with ⟨result,files⟩
  cases result with
  | ok written =>
    apply Proceeds.skipped awake decided
    · exact send_phase _ (.skipped reason) received
    · simp [send]
    · simp [send]
  | error failed =>
    apply Proceeds.skipped awake decided
    · exact send_phase _ (.skipped reason) received
    · simp [send]
    · simp [send]

omit s in
theorem due_of_nextAction {s : Scheduler} {now : Zoned}
    (awake : s.nextAction civil zonedFromStr now ≠ .sleep) :
    s.cfg.Due civil now (readMarkerState civil zonedFromStr s.files now).firedToday :=
  due_of_awake awake

theorem fire_proceeds {now first : Zoned} {failure : Option String} {received : Bool}
    (warned : s.phase = .warning first)
    (decided : ∀ reason, s.nextAction civil zonedFromStr now ≠ .skip reason) :
    Proceeds civil zonedFromStr s (s.fire civil first failure received).1
      (.wakes now failure received) (s.fire civil first failure received).2 := by
  unfold fire
  rcases outcome : s.writeMarker (civil first).date failure with ⟨result,files⟩
  cases result with
  | ok written =>
    apply Proceeds.fired warned decided
    · exact send_phase _ .fire received
    · exact firedOn_writeMarker outcome
  | error failed =>
    apply Proceeds.unwritten warned decided rfl
    intro date
    rw [files_of_failed outcome]

theorem wake_proceeds (now : Zoned) (failure : Option String) (received : Bool) :
    Proceeds civil zonedFromStr s (s.wake civil zonedFromStr now failure received).1
      (.wakes now failure received) (s.wake civil zonedFromStr now failure received).2 := by
  unfold wake
  cases phase : s.phase with
  | returned => exact .idle rfl rfl fun _ => rfl
  | sleeping =>
    have awake : s.phase ≠ .returned := by simp [phase]
    cases decided : s.nextAction civil zonedFromStr now with
    | sleep => exact .idle rfl rfl fun _ => rfl
    | skip reason => exact s.skip_proceeds awake decided
    | fireEligible =>
      have awake : s.nextAction civil zonedFromStr now ≠ .sleep := by simp [decided]
      exact .warned phase rfl rfl (fun _ => rfl) (due_of_nextAction awake)
  | warning first =>
    have awake : s.phase ≠ .returned := by simp [phase]
    cases decided : s.nextAction civil zonedFromStr now with
    | sleep => exact s.fire_proceeds phase (by simp [decided])
    | skip reason => exact s.skip_proceeds awake decided
    | fireEligible => exact s.fire_proceeds phase (by simp [decided])

variable (civil zonedFromStr) in
theorem proceeds (input : SchedulerInput) :
    Proceeds civil zonedFromStr s (s.turn civil zonedFromStr input).1 input
      (s.turn civil zonedFromStr input).2 := by
  cases input with
  | wakes now failure received => exact s.wake_proceeds now failure received
  | equivalentMarkerBecomes content => exact .idle rfl rfl (firedOn_update s.files content)
  | restarted cfg => exact .restarted rfl fun _ => rfl

end Scheduler

end Turns

section Watching

/-- The first sample of a cycle and what its decision went by. -/
structure Cycle where
  cfg : SchedulerConfig
  first : Zoned
  firedToday : Bool

structure Fired where
  cycle : Option Cycle
  effects : List SchedulerEffect

structure Watch where
  scheduler : Scheduler
  opened : Option Cycle
  latest : Option Date
  fired : List Fired

def Scheduler.samples (s : Scheduler) : SchedulerInput → Option Zoned
  | .wakes now _ _ => if s.phase = .returned then none else some now
  | _ => none

variable (civil zonedFromStr) in
def Watch.step (w : Watch) (input : SchedulerInput) : Watch :=
  let (after,effects) := w.scheduler.turn civil zonedFromStr input
  let sample := w.scheduler.samples input
  { scheduler := after
    opened :=
      if w.scheduler.phase = .sleeping then
        sample.map fun now =>
          ⟨w.scheduler.cfg,now,firedOn w.scheduler.files (civil now).date⟩
      else w.opened
    latest := (sample.map fun now => (civil now).date).or w.latest
    fired := if .sent .fire ∈ effects then w.fired ++ [⟨w.opened,effects⟩] else w.fired }

def Watch.start (cfg : SchedulerConfig) (files : Directory) : Watch :=
  ⟨⟨cfg,files,.sleeping⟩,none,none,[]⟩

/-- The date of a sample is not before that of the latest one. -/
def Watch.Forward (civil : Zoned → DateTime) (w : Watch) (input : SchedulerInput) : Prop :=
  ∀ now, w.scheduler.samples input = some now → ∀ date, w.latest = some date →
    date ≤ (civil now).date

def Cycle.date (civil : Zoned → DateTime) (c : Cycle) : Date := (civil c.first).date

/-- The first sample lay on the target day at or after the target time, without a veto of
the day the process came up on, and the day was not marked. -/
def Cycle.Due (civil : Zoned → DateTime) (c : Cycle) : Prop :=
  c.cfg.Due civil c.first c.firedToday

/-- The fire of a due cycle, with the write of its date before it. -/
def Fired.Founded (civil : Zoned → DateTime) (f : Fired) : Prop :=
  ∃ c, f.cycle = some c ∧ c.Due civil ∧
    f.effects = [.wroteFiredMarker (c.date civil),.sent .fire]

def Fired.date (civil : Zoned → DateTime) (f : Fired) : Option Date := f.cycle.map (Cycle.date civil)

/-- A warning goes back to a due first sample whose day is still not marked. -/
def Watch.Warned (civil : Zoned → DateTime) (w : Watch) : Prop :=
  ∀ first, w.scheduler.phase = .warning first → ∃ c, w.opened = some c ∧ c.first = first ∧
    c.cfg = w.scheduler.cfg ∧ c.Due civil ∧
    firedOn w.scheduler.files (civil first).date = false

theorem warned_start (cfg : SchedulerConfig) (files : Directory) :
    (Watch.start cfg files).Warned civil := by
  intro first warning
  cases warning

variable (zonedFromStr) in
theorem Watch.Warned.step {w : Watch} (warned : w.Warned civil) (input : SchedulerInput) :
    (w.step civil zonedFromStr input).Warned civil := by
  intro first warning
  have proceeds := w.scheduler.proceeds civil zonedFromStr input
  unfold Watch.step at warning ⊢
  rcases outcome : w.scheduler.turn civil zonedFromStr input with ⟨after,effects⟩
  rw [outcome] at proceeds
  simp only [outcome] at proceeds warning ⊢
  cases proceeds with
  | idle phase cfg marker =>
    obtain ⟨c,opened,same,config,due,unmarked⟩ := warned first (phase ▸ warning)
    have awake : w.scheduler.phase ≠ .sleeping := by simp [← phase,warning]
    refine ⟨c,by simpa [awake] using opened,same,config.trans cfg.symm,due,?_⟩
    rw [marker]
    exact unmarked
  | warned slept phase cfg marker due =>
    cases phase.symm.trans warning
    have sampled (failure : Option String) (received : Bool) :
        w.scheduler.samples (.wakes first failure received) = some first := by
      simp [Scheduler.samples,slept]
    rw [if_pos slept,sampled]
    refine ⟨⟨w.scheduler.cfg,first,firedOn w.scheduler.files (civil first).date⟩,rfl,rfl,cfg.symm,
      due,?_⟩
    rw [marker]
    exact due.2.1
  | skipped awake decided phase sends quiet => exact absurd warning (phase first)
  | fired before decided phase marked => exact absurd warning (phase first)
  | unwritten before decided phase marker => cases phase.symm.trans warning
  | restarted phase marker => cases phase.symm.trans warning

/-- The date is past, or it is that of the latest sample and marked. -/
def Watch.Behind (w : Watch) (date : Date) : Prop :=
  ∃ latest, w.latest = some latest ∧
    (date < latest ∨ date = latest ∧ firedOn w.scheduler.files latest = true)

/-- What is known of the fires so far: no date has two, each is founded and behind, and a
cycle under way has a later date than all of them. -/
structure Watch.Sound (civil : Zoned → DateTime) (w : Watch) : Prop where
  warned : w.Warned civil
  once : (w.fired.map (Fired.date civil)).Nodup
  founded : ∀ f ∈ w.fired, f.Founded civil
  behind : ∀ f ∈ w.fired, ∀ date, f.date civil = some date → w.Behind date
  pending : ∀ first, w.scheduler.phase = .warning first →
    (∃ latest, w.latest = some latest ∧ (civil first).date ≤ latest) ∧
      ∀ f ∈ w.fired, ∀ date, f.date civil = some date → date < (civil first).date

theorem sound_start (cfg : SchedulerConfig) (files : Directory) :
    (Watch.start cfg files).Sound civil where
  warned := warned_start cfg files
  once := List.nodup_nil
  founded := by simp [Watch.start]
  behind := by simp [Watch.start]
  pending := by simp [Watch.start]

/-- What is behind is before a day that is not marked and not past. -/
theorem Watch.Behind.before {w : Watch} {date : Date} (behind : w.Behind date) {now : Zoned}
    (forward : ∀ latest, w.latest = some latest → latest ≤ (civil now).date)
    (unmarked : firedOn w.scheduler.files (civil now).date = false) : date < (civil now).date := by
  obtain ⟨latest,known,past | ⟨rfl,marked⟩⟩ := behind
  · exact lt_of_lt_of_le past (forward latest known)
  · apply lt_of_le_of_ne (forward date known)
    rintro rfl
    rw [marked] at unmarked
    cases unmarked

theorem Watch.Behind.later {w w' : Watch} {date : Date} (behind : w.Behind date)
    (marker : ∀ date, firedOn w'.scheduler.files date = firedOn w.scheduler.files date)
    (latest : ∀ date, w.latest = some date → ∃ date', w'.latest = some date' ∧ date ≤ date') :
    w'.Behind date := by
  obtain ⟨before,known,past | ⟨rfl,marked⟩⟩ := behind
  · obtain ⟨after,known',later⟩ := latest before known
    exact ⟨after,known',.inl (lt_of_lt_of_le past later)⟩
  · obtain ⟨after,known',later⟩ := latest date known
    rcases lt_or_eq_of_le later with past | rfl
    · exact ⟨after,known',.inl past⟩
    · exact ⟨date,known',.inr ⟨rfl,(marker date).trans marked⟩⟩

variable (zonedFromStr) in
theorem Watch.latest_step {w : Watch} {input : SchedulerInput} (forward : w.Forward civil input)
    (date : Date) (known : w.latest = some date) :
    ∃ date', (w.step civil zonedFromStr input).latest = some date' ∧ date ≤ date' := by
  unfold Watch.step
  cases sampled : w.scheduler.samples input with
  | none => exact ⟨date,by simp [known],le_rfl⟩
  | some now => exact ⟨(civil now).date,by simp,forward now sampled date known⟩

theorem Scheduler.samples_of_awake {s : Scheduler} (awake : s.phase ≠ .returned) (now : Zoned)
    (failure : Option String) (received : Bool) :
    s.samples (.wakes now failure received) = some now := by
  simp [Scheduler.samples,awake]

theorem Watch.Sound.before_sample {w : Watch} (sound : w.Sound civil) {now : Zoned}
    {failure : Option String} {received : Bool}
    (forward : w.Forward civil (.wakes now failure received))
    (awake : w.scheduler.phase ≠ .returned)
    (unmarked : firedOn w.scheduler.files (civil now).date = false) :
    ∀ f ∈ w.fired, ∀ date, f.date civil = some date → date < (civil now).date := by
  intro f member date dated
  apply (sound.behind f member date dated).before _ unmarked
  exact forward now (Scheduler.samples_of_awake awake now failure received)

theorem Watch.Sound.unfired {w w' : Watch} (sound : w.Sound civil) (warned : w'.Warned civil)
    (same : w'.fired = w.fired)
    (behind : ∀ f ∈ w.fired, ∀ date, f.date civil = some date → w'.Behind date)
    (pending : ∀ first, w'.scheduler.phase = .warning first →
      (∃ latest, w'.latest = some latest ∧ (civil first).date ≤ latest) ∧
        ∀ f ∈ w.fired, ∀ date, f.date civil = some date → date < (civil first).date) :
    w'.Sound civil where
  warned := warned
  once := same ▸ sound.once
  founded := same ▸ sound.founded
  behind := same ▸ behind
  pending := same ▸ pending

theorem Watch.Sound.step {w : Watch} (sound : w.Sound civil) {input : SchedulerInput}
    (forward : w.Forward civil input) : (w.step civil zonedFromStr input).Sound civil := by
  have warned := sound.warned.step zonedFromStr input
  have latest := Watch.latest_step zonedFromStr forward
  have proceeds := w.scheduler.proceeds civil zonedFromStr input
  rcases outcome : w.scheduler.turn civil zonedFromStr input with ⟨after,effects⟩
  have scheduled : (w.step civil zonedFromStr input).scheduler = after := by
    simp [Watch.step,outcome]
  have recorded : (w.step civil zonedFromStr input).fired =
      if .sent .fire ∈ effects then w.fired ++ [⟨w.opened,effects⟩] else w.fired := by
    simp [Watch.step,outcome]
  have sampled : ∀ now, w.scheduler.samples input = some now →
      (w.step civil zonedFromStr input).latest = some (civil now).date := by
    intro now samples
    simp [Watch.step,samples]
  rw [outcome] at proceeds
  simp only at proceeds
  cases proceeds with
  | idle phase cfg marker =>
    apply sound.unfired warned (by simpa using recorded)
    · intro f member date dated
      exact (sound.behind f member date dated).later (by rwa [scheduled]) latest
    · intro first warning
      rw [scheduled,phase] at warning
      obtain ⟨⟨before,known,notAfter⟩,earlier⟩ := sound.pending first warning
      obtain ⟨later,known',notBefore⟩ := latest before known
      exact ⟨⟨later,known',le_trans notAfter notBefore⟩,earlier⟩
  | @warned now failure received slept phase cfg marker due =>
    have awake : w.scheduler.phase ≠ .returned := by simp [slept]
    have earlier := sound.before_sample forward awake due.2.1
    have known := sampled now (Scheduler.samples_of_awake awake now failure received)
    apply sound.unfired warned (by simpa using recorded)
    · intro f member date dated
      exact ⟨_,known,.inl (earlier f member date dated)⟩
    · intro first warning
      rw [scheduled,phase] at warning
      cases warning
      exact ⟨⟨_,known,le_rfl⟩,earlier⟩
  | @skipped now failure received reason effects awake decided phase sends quiet =>
    have due := Scheduler.due_of_nextAction (ne_of_eq_of_ne decided (by simp))
    have earlier := sound.before_sample forward awake due.2.1
    have known := sampled now (Scheduler.samples_of_awake awake now failure received)
    apply sound.unfired warned (by rw [recorded,if_neg quiet])
    · intro f member date dated
      exact ⟨_,known,.inl (earlier f member date dated)⟩
    · intro first warning
      rw [scheduled] at warning
      exact absurd warning (phase first)
  | @fired now first failure received before decided phase marked =>
    have awake : w.scheduler.phase ≠ .returned := by simp [before]
    have known := sampled now (Scheduler.samples_of_awake awake now failure received)
    obtain ⟨⟨prior,priorKnown,notAfter⟩,earlier⟩ := sound.pending first before
    obtain ⟨c,opened,rfl,config,due,-⟩ := sound.warned first before
    have reached : (civil c.first).date ≤ (civil now).date :=
      le_trans notAfter
        (forward now (Scheduler.samples_of_awake awake now failure received) prior priorKnown)
    have dated : Fired.date civil ⟨w.opened,[.wroteFiredMarker (civil c.first).date,.sent .fire]⟩ =
        some (civil c.first).date := by
      simp [Fired.date,opened,Cycle.date]
    rw [if_pos (by simp)] at recorded
    constructor
    · exact warned
    · rw [recorded,List.map_append,List.map_singleton,dated]
      apply List.nodup_append.mpr
      refine ⟨sound.once,by simp,?_⟩
      rintro date member _ last rfl
      obtain ⟨f,among,found⟩ := List.mem_map.mp member
      rw [List.mem_singleton.mp last] at found
      exact absurd (earlier f among _ found) (lt_irrefl _)
    · rw [recorded]
      intro f member
      rcases List.mem_append.mp member with member | member
      · exact sound.founded f member
      · rw [List.mem_singleton.mp member]
        exact ⟨c,opened,due,rfl⟩
    · rw [recorded]
      intro f member date found
      rcases List.mem_append.mp member with member | member
      · exact ⟨_,known,.inl (lt_of_lt_of_le (earlier f member date found) reached)⟩
      · rw [List.mem_singleton.mp member,dated] at found
        cases found
        rcases lt_or_eq_of_le reached with past | same
        · exact ⟨_,known,.inl past⟩
        · refine ⟨_,known,.inr ⟨same,?_⟩⟩
          rw [scheduled,← same]
          exact marked
    · intro later warning
      rw [scheduled] at warning
      exact absurd warning (phase later)
  | unwritten before decided phase marker =>
    apply sound.unfired warned (by simpa using recorded)
    · intro f member date dated
      exact (sound.behind f member date dated).later (by rwa [scheduled]) latest
    · intro later warning
      rw [scheduled,phase] at warning
      cases warning
  | restarted phase marker =>
    apply sound.unfired warned (by simpa using recorded)
    · intro f member date dated
      exact (sound.behind f member date dated).later (by rwa [scheduled]) latest
    · intro later warning
      rw [scheduled,phase] at warning
      cases warning

theorem sound_run (cfg : SchedulerConfig) (files : Directory) {inputs : List SchedulerInput}
    (forward : Along (Watch.step civil zonedFromStr) (Watch.Forward civil)
      (Watch.start cfg files) inputs) :
    (run (Watch.step civil zonedFromStr) (Watch.start cfg files) inputs).Sound civil :=
  forward.invariant (fun _ _ sound ahead => sound.step ahead) (sound_start cfg files)

/-- Over every sequence of samples whose dates do not go back, every write that fails and
every restart of the process, no date of a first sample has two fires; each comes after the
write of its date, from a first sample that was due on a day not marked. -/
theorem fires_once_a_day (cfg : SchedulerConfig) (files : Directory)
    (inputs : List SchedulerInput)
    (forward : Along (Watch.step civil zonedFromStr) (Watch.Forward civil)
      (Watch.start cfg files) inputs) :
    let w := run (Watch.step civil zonedFromStr) (Watch.start cfg files) inputs
    (w.fired.map (Fired.date civil)).Nodup ∧ ∀ f ∈ w.fired, f.Founded civil :=
  ⟨(sound_run cfg files forward).once,(sound_run cfg files forward).founded⟩

/-- A Sunday in UTC, with its times of day. -/
def sunday : Date := ⟨2024,7,by decide,by decide⟩

def onSunday (z : Zoned) : DateTime where
  date := sunday
  time :=
    { hour := (z.timestamp / (3600 * 10 ^ 9) % 24).toNat
      minute := (z.timestamp / (60 * 10 ^ 9) % 60).toNat
      second := (z.timestamp / 10 ^ 9 % 60).toNat
      nanosecond := (z.timestamp % 10 ^ 9).toNat
      hours := by omega
      minutes := by omega
      seconds := by omega
      nanoseconds := by omega }

def sundayAt (hour minute second : Nat) : Zoned :=
  ⟨(1704585600 + 3600 * hour + 60 * minute + second) * 10 ^ 9,"UTC"⟩

def sundaysAtNine : SchedulerConfig :=
  ⟨0,9,0,sundayAt 8 0 0,by decide,by decide,by decide⟩

def wakesAt (hour minute second : Nat) : SchedulerInput := .wakes (sundayAt hour minute second) none true

theorem forward_on_sunday {w : Watch} (latest : ∀ date, w.latest = some date → date = sunday)
    (inputs : List SchedulerInput) :
    Along (Watch.step onSunday zonedFromStr) (Watch.Forward onSunday) w inputs := by
  induction inputs generalizing w with
  | nil => trivial
  | cons input rest ih =>
    constructor
    · intro now _ date known
      rw [latest date known]
      exact le_rfl
    · apply ih
      intro date known
      unfold Watch.step at known
      cases sampled : w.scheduler.samples input with
      | none => exact latest date (by simpa [sampled] using known)
      | some now =>
        have today : (onSunday now).date = date := by simpa [sampled] using known
        exact today.symm

theorem fires_once_a_day_restarted :
    let w := run (Watch.step onSunday fun _ => none) (Watch.start sundaysAtNine Files.empty)
      [wakesAt 9 0 0,wakesAt 9 0 30,.restarted sundaysAtNine,wakesAt 9 5 0]
    (w.fired.map (Fired.date onSunday)).Nodup ∧ ∀ f ∈ w.fired, f.Founded onSunday :=
  fires_once_a_day sundaysAtNine Files.empty _ (forward_on_sunday (by simp [Watch.start]) _)

end Watching

section Window

variable (civil zonedFromStr) in
theorem warned_run (cfg : SchedulerConfig) (files : Directory) (inputs : List SchedulerInput) :
    (run (Watch.step civil zonedFromStr) (Watch.start cfg files) inputs).Warned civil := by
  induction inputs using List.reverseRecOn with
  | nil => exact warned_start cfg files
  | append_singleton inputs last ih =>
    rw [run_concat]
    exact ih.step zonedFromStr last

theorem run_scheduler (cfg : SchedulerConfig) (files : Directory) (inputs : List SchedulerInput) :
    (run (Watch.step civil zonedFromStr) (Watch.start cfg files) inputs).scheduler =
      run (Scheduler.step civil zonedFromStr) ⟨cfg,files,.sleeping⟩ inputs := by
  induction inputs using List.reverseRecOn with
  | nil => rfl
  | append_singleton inputs last ih =>
    rw [run_concat,run_concat,← ih]
    rfl

/-- A due first sample of the cycle that a warning belongs to, on a day still not marked. -/
theorem due_of_warning (cfg : SchedulerConfig) (files : Directory) (inputs : List SchedulerInput)
    {nowPre : Zoned}
    (warning : (run (Scheduler.step civil zonedFromStr) ⟨cfg,files,.sleeping⟩ inputs).phase =
      .warning nowPre) :
    let s := run (Scheduler.step civil zonedFromStr) ⟨cfg,files,.sleeping⟩ inputs
    (civil nowPre).date.weekday = s.cfg.targetDow ∧ s.cfg.vetoed civil nowPre = false ∧
      s.cfg.pastTarget (civil nowPre).time = true ∧ firedOn s.files (civil nowPre).date = false := by
  have warned := warned_run civil zonedFromStr cfg files inputs
  unfold Watch.Warned at warned
  rw [run_scheduler] at warned
  obtain ⟨c,-,rfl,config,⟨day,-,unvetoed,past⟩,unmarked⟩ := warned nowPre warning
  rw [config] at day unvetoed past
  exact ⟨day,unvetoed,past,unmarked⟩

/-- The decision at the end of a warning of the same day skips for a marker of that day
exactly when the marker is from before the target time and the sample is not. -/
theorem nextAction_skips_iff {s : Scheduler} {nowPre now marker : Zoned}
    (day : (civil nowPre).date.weekday = s.cfg.targetDow)
    (unvetoed : s.cfg.vetoed civil nowPre = false)
    (unmarked : firedOn s.files (civil nowPre).date = false)
    (onDisk : readColdRestartEquivalentMarker zonedFromStr s.files = some marker)
    (sameDay : (civil marker).date = (civil nowPre).date)
    (fresh : 1 ≤ (civil marker).time.hour) :
    s.nextAction civil zonedFromStr now = .skip (.freshAuthToday marker) ↔
      (civil now).date = (civil marker).date ∧ (civil marker).time < s.cfg.target ∧
        ¬ (civil now).time < s.cfg.target := by
  unfold Scheduler.nextAction
  have equivalent : (readMarkerState civil zonedFromStr s.files now).equivalentMarker =
      some marker := onDisk
  constructor
  · intro skips
    have due := due_of_awake (ne_of_eq_of_ne skips (by simp))
    rw [computeNextAction_of_due due,equivalent] at skips
    simp only at skips
    split at skips
    · rename_i matured
      obtain ⟨onDay,-,early⟩ := (shouldSkipForMarker_iff marker now s.cfg).mp matured
      exact ⟨onDay.symm,early,(pastTarget_iff _ _).mp due.2.2.2⟩
    · cases skips
  · rintro ⟨onDay,early,past⟩
    have sameDate : (civil now).date = (civil nowPre).date := onDay.trans sameDay
    have due : s.cfg.Due civil now (readMarkerState civil zonedFromStr s.files now).firedToday := by
      refine ⟨?_,?_,?_,(pastTarget_iff _ _).mpr past⟩
      · rw [sameDate]
        exact day
      · unfold readMarkerState
        rw [sameDate]
        exact unmarked
      · rw [vetoed_of_date sameDate]
        exact unvetoed
    have matured := (shouldSkipForMarker_iff marker now s.cfg).mpr ⟨onDay.symm,fresh,early⟩
    rw [computeNextAction_of_due due,equivalent]
    simp only
    rw [if_pos matured]

theorem skip_sends (s : Scheduler) (first : Zoned) (reason : ColdRestartSkipReason)
    (failure : Option String) (received : Bool) (signal : ColdRestartSignal) :
    .sent signal ∈ (s.skip civil first reason failure received).2 ↔ signal = .skipped reason := by
  unfold Scheduler.skip
  rcases s.writeMarker (civil first).date failure with ⟨result,files⟩
  cases result <;> simp [Scheduler.send]

theorem fire_sends (s : Scheduler) (first : Zoned) (failure : Option String) (received : Bool)
    {signal : ColdRestartSignal} (sends : .sent signal ∈ (s.fire civil first failure received).2) :
    signal = .fire := by
  unfold Scheduler.fire at sends
  rcases outcome : s.writeMarker (civil first).date failure with ⟨result,files⟩
  rw [outcome] at sends
  cases result with
  | ok written => simpa [Scheduler.send] using sends
  | error failed => simp at sends

theorem wake_skips_iff {s : Scheduler} {nowPre : Zoned} (warning : s.phase = .warning nowPre)
    (now : Zoned) (reason : ColdRestartSkipReason) (failure : Option String) (received : Bool) :
    (.sent (.skipped reason) ∈ (s.wake civil zonedFromStr now failure received).2 ∧
        .sent .fire ∉ (s.wake civil zonedFromStr now failure received).2) ↔
      s.nextAction civil zonedFromStr now = .skip reason := by
  have unskipped (sends : .sent (.skipped reason) ∈ (s.fire civil nowPre failure received).2) :
      False := by
    cases fire_sends s nowPre failure received sends
  unfold Scheduler.wake
  rw [warning]
  cases decided : s.nextAction civil zonedFromStr now with
  | sleep => exact ⟨fun sent => (unskipped sent.1).elim,fun same => by cases same⟩
  | fireEligible => exact ⟨fun sent => (unskipped sent.1).elim,fun same => by cases same⟩
  | skip other =>
    simp only [skip_sends]
    constructor
    · rintro ⟨same,-⟩
      cases same
      rfl
    · intro same
      cases same
      exact ⟨rfl,by simp⟩

/-- In every run: where the markers read at the end of a warning show a login of that date,
stamped inside the window or before it, the cycle sends the skip and no fire exactly when the
stamp is from before the target time of day and the second sample, on the same date, is not. -/
theorem window_skips_iff (cfg : SchedulerConfig) (files : Directory)
    (inputs : List SchedulerInput) (nowPre nowPost marker : Zoned) (failure : Option String)
    (received : Bool)
    (warning : (run (Scheduler.step civil zonedFromStr) ⟨cfg,files,.sleeping⟩ inputs).phase =
      .warning nowPre)
    (onDisk : readColdRestartEquivalentMarker zonedFromStr
      (run (Scheduler.step civil zonedFromStr) ⟨cfg,files,.sleeping⟩ inputs).files = some marker)
    (sameDay : (civil marker).date = (civil nowPre).date)
    (fresh : 1 ≤ (civil marker).time.hour) :
    let s := run (Scheduler.step civil zonedFromStr) ⟨cfg,files,.sleeping⟩ inputs
    let effects := (s.turn civil zonedFromStr (.wakes nowPost failure received)).2
    (.sent (.skipped (.freshAuthToday marker)) ∈ effects ∧ .sent .fire ∉ effects) ↔
      (civil nowPost).date = (civil marker).date ∧ (civil marker).time < s.cfg.target ∧
        ¬ (civil nowPost).time < s.cfg.target := by
  intro s effects
  obtain ⟨day,unvetoed,-,unmarked⟩ := due_of_warning cfg files inputs warning
  exact (wake_skips_iff warning nowPost _ failure received).trans
    (nextAction_skips_iff day unvetoed unmarked onDisk sameDay fresh)

def loginText : String := "2024-01-07T09:00:15+00:00[UTC]"

def readsLogin (text : String) : Option Zoned :=
  if text = loginText then some (sundayAt 9 0 15) else none

def warnedWithLogin : List SchedulerInput :=
  [wakesAt 9 0 0,.equivalentMarkerBecomes (.text loginText)]

/-- The login lands fifteen seconds into the window. -/
theorem window_skips_iff_nine :
    let s := run (Scheduler.step onSunday readsLogin) ⟨sundaysAtNine,Files.empty,.sleeping⟩
      warnedWithLogin
    let effects := (s.turn onSunday readsLogin (wakesAt 9 0 30)).2
    (.sent (.skipped (.freshAuthToday (sundayAt 9 0 15))) ∈ effects ∧ .sent .fire ∉ effects) ↔
      (onSunday (sundayAt 9 0 30)).date = (onSunday (sundayAt 9 0 15)).date ∧
        (onSunday (sundayAt 9 0 15)).time < s.cfg.target ∧
        ¬ (onSunday (sundayAt 9 0 30)).time < s.cfg.target := by
  apply window_skips_iff sundaysAtNine Files.empty warnedWithLogin (sundayAt 9 0 0)
  · decide
  · decide
  · decide
  · decide

theorem fires_over_login_in_window :
    let s := run (Scheduler.step onSunday readsLogin) ⟨sundaysAtNine,Files.empty,.sleeping⟩
      warnedWithLogin
    let effects := (s.turn onSunday readsLogin (wakesAt 9 0 30)).2
    s.phase = .warning (sundayAt 9 0 0) ∧
      readColdRestartEquivalentMarker readsLogin s.files = some (sundayAt 9 0 15) ∧
      (sundayAt 9 0 0).timestamp < (sundayAt 9 0 15).timestamp ∧
      (sundayAt 9 0 15).timestamp < (sundayAt 9 0 30).timestamp ∧
      (onSunday (sundayAt 9 0 15)).date = (onSunday (sundayAt 9 0 0)).date ∧
      1 ≤ (onSunday (sundayAt 9 0 15)).time.hour ∧
      effects = [.wroteFiredMarker sunday,.sent .fire] := by
  decide

/-- Where the local clock was not set back in the window, its login never holds a fire back. -/
theorem window_never_skips (cfg : SchedulerConfig) (files : Directory)
    (inputs : List SchedulerInput) {nowPre marker : Zoned}
    (warning : (run (Scheduler.step civil zonedFromStr) ⟨cfg,files,.sleeping⟩ inputs).phase =
      .warning nowPre)
    (onward : ¬ (civil marker).time < (civil nowPre).time) :
    ¬ (civil marker).time <
      (run (Scheduler.step civil zonedFromStr) ⟨cfg,files,.sleeping⟩ inputs).cfg.target := by
  obtain ⟨-,-,past,-⟩ := due_of_warning cfg files inputs warning
  rw [pastTarget_iff] at past
  rw [Time.lt_iff] at onward past ⊢
  omega

end Window

end Ibctl.ColdRestart
