import Ibctl.Lib.Calendar
import Ibctl.Lib.Runs
import Ibctl.SaveSettings.Schedule
import Ibctl.Time

/-! The loop that saves the settings at the times of the schedule. It samples the local time and
remembers the last minute it fired for, and no minute before that one. -/
namespace Ibctl.SaveSettings
open Calendar Runs

/-- A minute of a calendar day. -/
structure Minute where
  date : Date
  hour : Nat
  minute : Nat
deriving DecidableEq

def twoDigits (n : Nat) : List Char := if n < 10 then '0' :: Decimal.write n else Decimal.write n

def SaveSettingsTime.key (t : SaveSettingsTime) (year : Int) (dayOfYear : Nat) : String :=
  String.ofList ((Decimal.writeInt year ++ '-' :: Decimal.write dayOfYear) ++ '-' ::
    (twoDigits t.hour ++ ':' :: twoDigits t.minute))

structure Saver where
  lastFiredKey : Option String
  sent : List Zoned
  returned : Bool

variable (civil : Zoned → DateTime) (times : List SaveSettingsTime)

def minuteOf (now : Zoned) : Minute := ⟨(civil now).date,(civil now).time.hour,(civil now).time.minute⟩

def target (now : Zoned) : Option SaveSettingsTime :=
  times.find? (fun t => t.hour = (civil now).time.hour && t.minute = (civil now).time.minute)

def Scheduled (now : Zoned) : Prop := (target civil times now).isSome = true

instance (now : Zoned) : Decidable (Scheduled civil times now) := inferInstanceAs (Decidable (_ = true))

namespace Saver

def start : Saver := ⟨none,[],false⟩

/-- One turn of the loop with the sampled time, and whether the channel still takes a command. -/
def wake (saver : Saver) (sample : Zoned × Bool) : Saver :=
  if saver.returned = true then saver
  else
    match target civil times sample.1 with
    | none => saver
    | some t =>
      let key := t.key (civil sample.1).date.year (civil sample.1).date.dayOfYear
      if saver.lastFiredKey = some key then saver
      else if sample.2 = true then ⟨some key,saver.sent ++ [sample.1],false⟩
      else ⟨some key,saver.sent,true⟩

end Saver

/-- The loop runs if the schedule has any times; the receiver is there for the first samples. -/
def saveSettingsScheduler (schedule : List Char) (live dead : List Zoned) : Saver :=
  let times := parseSaveSettingsSchedule schedule
  if times = [] then .start
  else run (Saver.wake civil times) .start (live.map (fun now => (now,true)) ++ dead.map (fun now => (now,false)))

section Keys

theorem write_injective {n m : Nat} (same : Decimal.write n = Decimal.write m) : n = m := by
  rw [← Decimal.ofDigits_write n,same,Decimal.ofDigits_write]

theorem writeInt_injective {n m : Int} (same : Decimal.writeInt n = Decimal.writeInt m) : n = m := by
  have sign : ∀ a b : Nat, Decimal.write a ≠ '-' :: Decimal.write b := fun a b same => by
    have digit := @Decimal.isDigit_of_mem_write a '-' (by rw [same]; exact List.mem_cons_self)
    cases digit
  cases n with
  | ofNat a =>
    cases m with
    | ofNat b => exact congrArg Int.ofNat (write_injective same)
    | negSucc b => exact absurd same (sign a (b + 1))
  | negSucc a =>
    cases m with
    | ofNat b => exact absurd same.symm (sign b (a + 1))
    | negSucc b =>
      have successors := write_injective (List.cons.inj same).2
      exact congrArg Int.negSucc (Nat.succ.inj successors)

theorem twoDigits_injective {n m : Nat} (same : twoDigits n = twoDigits m) : n = m := by
  have value : ∀ k : Nat, Decimal.ofDigits ((twoDigits k).map (fun c => c.toNat - '0'.toNat)) = k := by
    intro k
    unfold twoDigits
    split
    · exact Decimal.ofDigits_write k
    · exact Decimal.ofDigits_write k
  rw [← value n,same,value]

theorem not_mem_write {c : Char} (sign : c.isDigit = false) (n : Nat) : c ∉ Decimal.write n := fun found => by
  rw [Decimal.isDigit_of_mem_write found] at sign
  cases sign

theorem not_mem_twoDigits {c : Char} (sign : c.isDigit = false) (n : Nat) : c ∉ twoDigits n := by
  unfold twoDigits
  split
  · intro found
    rcases List.mem_cons.mp found with rfl | found
    · cases sign
    · exact not_mem_write sign n found
  · exact not_mem_write sign n

/-- The last separator of two equal texts stands at one place. -/
theorem last_separator {c : Char} {before before' after after' : List Char} (free : c ∉ after)
    (free' : c ∉ after') (same : before ++ c :: after = before' ++ c :: after') :
    before = before' ∧ after = after' := by
  have reversed := congrArg List.reverse same
  simp only [List.reverse_append,List.reverse_cons,List.append_assoc,List.singleton_append] at reversed
  have pieces := (Text.splitOnce_found (by simpa using free) before.reverse).symm.trans
    ((congrArg (Text.splitOnce c) reversed).trans
      (Text.splitOnce_found (by simpa using free') before'.reverse))
  have both := Prod.ext_iff.mp (Option.some.inj pieces)
  exact ⟨List.reverse_injective both.2,List.reverse_injective both.1⟩

theorem key_injective {t t' : SaveSettingsTime} {year year' : Int} {day day' : Nat}
    (same : t.key year day = t'.key year' day') : t = t' ∧ year = year' ∧ day = day' := by
  have dash : ∀ u : SaveSettingsTime, '-' ∉ twoDigits u.hour ++ ':' :: twoDigits u.minute := by
    intro u found
    rcases List.mem_append.mp found with found | found
    · exact not_mem_twoDigits rfl _ found
    · rcases List.mem_cons.mp found with colon | found
      · cases colon
      · exact not_mem_twoDigits rfl _ found
  obtain ⟨dates,clocks⟩ := last_separator (dash t) (dash t') (String.ofList_injective same)
  obtain ⟨years,days⟩ := last_separator (not_mem_write rfl day) (not_mem_write rfl day') dates
  obtain ⟨hours,minutes⟩ := last_separator (not_mem_twoDigits rfl t.minute)
    (not_mem_twoDigits rfl t'.minute) clocks
  cases t
  cases t'
  exact ⟨SaveSettingsTime.mk.injEq _ _ _ _ ▸ ⟨twoDigits_injective hours,twoDigits_injective minutes⟩,
    writeInt_injective years,write_injective days⟩

end Keys

section Together

variable {α : Type} {list : List α} {a : α}

/-- Whatever comes again comes right behind itself. -/
def Together (list : List α) : Prop :=
  ∀ before a after, list = before ++ a :: after → a ∈ before → before.getLast? = some a

theorem together_concat : Together (list ++ [a]) ↔ Together list ∧ (a ∈ list → list.getLast? = some a) := by
  constructor
  · intro together
    refine ⟨fun before b after split => together before b (after ++ [a]) ?_,together list a [] rfl⟩
    rw [split,List.append_assoc,List.cons_append]
  · rintro ⟨together,last⟩ before b after split
    cases after using List.reverseRecOn with
    | nil =>
      obtain ⟨rfl,same⟩ := List.append_inj' split rfl
      cases same
      exact last
    | append_singleton after c =>
      rw [← List.cons_append,← List.append_assoc] at split
      exact together before b after (List.append_inj' split rfl).1

theorem together_of_pairwise {r : α → α → Prop} (antisymm : ∀ a b, r a b → r b a → a = b)
    (sorted : list.Pairwise r) : Together list := by
  induction list using List.reverseRecOn with
  | nil =>
    intro before a after split
    simp at split
  | append_singleton list a ih =>
    obtain ⟨earlier,-,last⟩ := List.pairwise_append.mp sorted
    refine together_concat.mpr ⟨ih earlier,fun among => ?_⟩
    obtain ⟨front,b,rfl⟩ := (List.eq_nil_or_concat' list).resolve_left (List.ne_nil_of_mem among)
    rw [List.getLast?_concat]
    have after : r b a := last b (by simp) a List.mem_cons_self
    rcases List.mem_append.mp among with inFront | isLast
    · have before : r a b := (List.pairwise_append.mp earlier).2.2 a inFront b List.mem_cons_self
      rw [antisymm a b before after]
    · rw [List.mem_singleton.mp isLast]

end Together

section Loop

variable {civil : Zoned → DateTime} {times : List SaveSettingsTime} {now : Zoned} {saver : Saver}

def Minute.key (m : Minute) : String := SaveSettingsTime.key ⟨m.hour,m.minute⟩ m.date.year m.date.dayOfYear

theorem Minute.key_injective {m m' : Minute} (same : m.key = m'.key) : m = m' := by
  obtain ⟨clock,years,days⟩ := SaveSettings.key_injective same
  obtain ⟨hours,minutes⟩ := SaveSettingsTime.mk.inj clock
  obtain ⟨date,hour,minute⟩ := m
  obtain ⟨date',hour',minute'⟩ := m'
  have dates : date = date' := Date.ext_iff'.mpr ⟨years,days⟩
  subst dates
  cases hours
  cases minutes
  rfl

theorem target_key {t : SaveSettingsTime} (found : target civil times now = some t) :
    t.key (civil now).date.year (civil now).date.dayOfYear = (minuteOf civil now).key := by
  have same := List.find?_some found
  simp only [Bool.and_eq_true,decide_eq_true_eq] at same
  unfold Minute.key minuteOf
  rw [← same.1,← same.2]

/-- The minutes of the schedule among the samples. -/
def scheduledMinutes (civil : Zoned → DateTime) (times : List SaveSettingsTime) (samples : List Zoned) :
    List Minute :=
  (samples.filter (fun now => decide (Scheduled civil times now))).map (minuteOf civil)

/-- What the loop knows after samples that all found the channel open. -/
structure Knows (civil : Zoned → DateTime) (times : List SaveSettingsTime) (samples : List Zoned)
    (saver : Saver) : Prop where
  running : saver.returned = false
  last : saver.lastFiredKey = (scheduledMinutes civil times samples).getLast?.map Minute.key
  members : ∀ m, m ∈ saver.sent.map (minuteOf civil) ↔ m ∈ scheduledMinutes civil times samples
  distinct : (saver.sent.map (minuteOf civil)).Nodup ↔ Together (scheduledMinutes civil times samples)

theorem scheduledMinutes_concat (samples : List Zoned) (now : Zoned) :
    scheduledMinutes civil times (samples ++ [now]) =
      scheduledMinutes civil times samples ++ if Scheduled civil times now then [minuteOf civil now] else [] := by
  unfold scheduledMinutes
  rw [List.filter_append,List.map_append]
  by_cases scheduled : Scheduled civil times now
  · rw [if_pos scheduled,List.filter_cons_of_pos (by simpa using scheduled)]
    rfl
  · rw [if_neg scheduled,List.filter_cons_of_neg (by simpa using scheduled)]
    rfl

theorem last_key_iff {samples : List Zoned} (knows : Knows civil times samples saver) (m : Minute) :
    saver.lastFiredKey = some m.key ↔ (scheduledMinutes civil times samples).getLast? = some m := by
  rw [knows.last,Option.map_eq_some_iff]
  constructor
  · rintro ⟨other,last,same⟩
    rw [last,Minute.key_injective same]
  · exact fun last => ⟨m,last,rfl⟩

/-- One more sample while the channel is open. -/
theorem Knows.wake {samples : List Zoned} (knows : Knows civil times samples saver) (now : Zoned) :
    Knows civil times (samples ++ [now]) (saver.wake civil times (now,true)) := by
  have minutes := @scheduledMinutes_concat civil times samples now
  unfold Saver.wake
  rw [if_neg (by simp [knows.running])]
  dsimp only
  cases found : target civil times now with
  | none =>
    have unscheduled : ¬ Scheduled civil times now := by simp [Scheduled,found]
    rw [if_neg unscheduled,List.append_nil] at minutes
    exact ⟨knows.running,minutes ▸ knows.last,minutes ▸ knows.members,minutes ▸ knows.distinct⟩
  | some t =>
    have scheduled : Scheduled civil times now := by simp [Scheduled,found]
    rw [if_pos scheduled] at minutes
    dsimp only
    rw [target_key found]
    have fired := last_key_iff knows (minuteOf civil now)
    by_cases again : (scheduledMinutes civil times samples).getLast? = some (minuteOf civil now)
    · rw [if_pos (fired.mpr again)]
      have among := List.mem_of_getLast? again
      refine ⟨knows.running,?_,fun m => ?_,?_⟩
      · rw [minutes,List.getLast?_concat,knows.last,again]
      · rw [minutes,knows.members,List.mem_append,List.mem_singleton]
        exact ⟨.inl,fun either => either.elim id fun same => same ▸ among⟩
      · rw [minutes,together_concat,knows.distinct]
        exact ⟨fun together => ⟨together,fun _ => again⟩,And.left⟩
    · rw [if_neg fun same => again (fired.mp same),if_pos rfl]
      refine ⟨rfl,?_,fun m => ?_,?_⟩
      · rw [minutes,List.getLast?_concat]
        rfl
      · rw [minutes,List.map_append,List.mem_append,List.mem_append,knows.members]
        rfl
      · rw [minutes,together_concat,List.map_append,List.nodup_append,knows.distinct]
        constructor
        · rintro ⟨together,-,apart⟩
          refine ⟨together,fun among => ?_⟩
          exact absurd rfl (apart _ ((knows.members _).mpr among) _ List.mem_cons_self)
        · rintro ⟨together,last⟩
          refine ⟨together,by simp,fun m among m' added same => ?_⟩
          cases List.mem_singleton.mp added
          rw [same] at among
          exact again (last ((knows.members _).mp among))

theorem knows_run (samples : List Zoned) :
    Knows civil times samples (run (Saver.wake civil times) .start (samples.map (fun now => (now,true)))) := by
  induction samples using List.reverseRecOn with
  | nil =>
    refine ⟨rfl,rfl,fun m => Iff.rfl,iff_of_true List.nodup_nil ?_⟩
    intro before m after split
    simp [scheduledMinutes] at split
  | append_singleton samples now ih =>
    rw [List.map_append]
    exact (run_concat _ _ _ _).symm ▸ ih.wake now

/-- Nothing more is sent once the receiver is gone. -/
theorem run_dead (dead : List Zoned) (saver : Saver) :
    (run (Saver.wake civil times) saver (dead.map (fun now => (now,false)))).sent = saver.sent := by
  induction dead generalizing saver with
  | nil => rfl
  | cons now rest ih =>
    have kept : (saver.wake civil times (now,false)).sent = saver.sent := by
      unfold Saver.wake
      split
      · rfl
      · split
        · rfl
        · dsimp only
          split <;> rfl
    rw [List.map_cons,run_cons,ih,kept]

/-- A local time that never goes back brings its minutes together. -/
theorem together_of_forward {samples : List Zoned}
    (forward : (samples.map (minuteOf civil)).Pairwise fun m m' =>
      toLex (m.date,toLex (m.hour,m.minute)) ≤ toLex (m'.date,toLex (m'.hour,m'.minute))) :
    Together (scheduledMinutes civil times samples) := by
  refine together_of_pairwise ?_ (forward.sublist ((List.filter_sublist).map _))
  intro m m' before after
  have same := le_antisymm before after
  obtain ⟨dates,clocks⟩ := Prod.ext_iff.mp (toLex.injective same)
  obtain ⟨hours,minutes⟩ := Prod.ext_iff.mp (toLex.injective clocks)
  cases m
  cases m'
  cases dates
  cases hours
  cases minutes
  rfl

end Loop

/-- A schedule is read from any way of writing its times. The loop sends for every scheduled minute
that it samples while it is heard, and for each only once just when a scheduled minute that comes
again comes with no other one between. -/
theorem save_settings_iff {items : List Item} {trail : List Char} (separated : Separated items)
    (trailing : Mixture trail) (civil : Zoned → DateTime) (schedule : List Char) (live dead : List Zoned) :
    ((parseSaveSettingsSchedule (joined items trail)).Pairwise SaveSettingsTime.Before ∧
        ∀ t, t ∈ parseSaveSettingsSchedule (joined items trail) ↔ t ∈ items.map Item.time) ∧
      ((((saveSettingsScheduler civil schedule live dead).sent.map (minuteOf civil)).Nodup ∧
          ∀ now ∈ live, Scheduled civil (parseSaveSettingsSchedule schedule) now →
            minuteOf civil now ∈ (saveSettingsScheduler civil schedule live dead).sent.map (minuteOf civil)) ↔
        Together (scheduledMinutes civil (parseSaveSettingsSchedule schedule) live)) := by
  refine ⟨parseSaveSettingsSchedule_joined separated trailing,?_⟩
  unfold saveSettingsScheduler
  generalize parseSaveSettingsSchedule schedule = times
  dsimp only
  by_cases unset : times = []
  · subst unset
    have unscheduled : ∀ now, ¬ Scheduled civil [] now := fun now => by simp [Scheduled,target]
    rw [if_pos rfl]
    refine iff_of_true ⟨List.nodup_nil,fun now _ scheduled => absurd scheduled (unscheduled now)⟩ ?_
    intro before m after split
    simp [scheduledMinutes,unscheduled] at split
  · rw [if_neg unset,run_append,run_dead]
    have knows := @knows_run civil times live
    rw [knows.distinct]
    refine and_iff_left fun now among scheduled => (knows.members _).mpr ?_
    exact List.mem_map.mpr ⟨now,List.mem_filter.mpr ⟨among,by simpa using scheduled⟩,rfl⟩

/-- The last morning of summer time in New York: at two o'clock it is one o'clock again. -/
def lastSummerMorning (now : Zoned) : DateTime :=
  let seconds := asSecond now.timestamp
  let daytime := ((seconds - if seconds < 1793512800 then 14400 else 18000) % 86400).toNat
  have day : daytime < 86400 := by
    have nonneg := Int.emod_nonneg (seconds - if seconds < 1793512800 then 14400 else 18000)
      (show (86400 : Int) ≠ 0 by decide)
    have below := Int.emod_lt_of_pos (seconds - if seconds < 1793512800 then 14400 else 18000)
      (show (0 : Int) < 86400 by decide)
    omega
  ⟨⟨2026,305,by decide,by decide⟩,
    ⟨daytime / 3600,daytime / 60 % 60,daytime % 60,0,by omega,by omega,by omega,by decide⟩⟩

/-- One o'clock, half past one, and an hour after the first of them one o'clock again. -/
def fallBack : List Zoned :=
  [⟨1793509200 * 10 ^ 9,"America/New_York"⟩,⟨1793511000 * 10 ^ 9,"America/New_York"⟩,
    ⟨1793512800 * 10 ^ 9,"America/New_York"⟩]

/-- Two times, one of them in twelve hours, and the first two samples of that morning. -/
theorem two_times_read :
    ((parseSaveSettingsSchedule "17:30; 8:00 am".toList).Pairwise SaveSettingsTime.Before ∧
        ∀ t, t ∈ parseSaveSettingsSchedule "17:30; 8:00 am".toList ↔ t ∈ [⟨17,30⟩,⟨8,0⟩]) ∧
      ((((saveSettingsScheduler lastSummerMorning "1:30".toList (fallBack.take 2) []).sent.map
            (minuteOf lastSummerMorning)).Nodup ∧
          ∀ now ∈ fallBack.take 2, Scheduled lastSummerMorning (parseSaveSettingsSchedule "1:30".toList) now →
            minuteOf lastSummerMorning now ∈
              (saveSettingsScheduler lastSummerMorning "1:30".toList (fallBack.take 2) []).sent.map
                (minuteOf lastSummerMorning)) ↔
        Together (scheduledMinutes lastSummerMorning (parseSaveSettingsSchedule "1:30".toList)
          (fallBack.take 2))) := by
  have evening : Shows (.clock24 "17".toList "30".toList) ⟨17,30⟩ :=
    .clock24 ⟨nofun,rfl,rfl⟩ ⟨nofun,rfl,rfl⟩ (by decide) (by decide)
  have morning : Shows (.clock12 "8".toList "00".toList [' '] "am".toList) ⟨8 % 12,0⟩ :=
    .morning ⟨nofun,rfl,rfl⟩ ⟨nofun,rfl,rfl⟩ (by decide) (by decide)
      ⟨nofun,fun c among => by cases List.mem_singleton.mp among; rfl⟩ rfl
  have delimiter : Mixture [';',' '] := fun c among => by
    rcases List.mem_cons.mp among with rfl | among
    · rfl
    · cases List.mem_singleton.mp among
      rfl
  have separated : Separated [⟨[],_,_,nofun,evening⟩,⟨[';',' '],_,_,delimiter,morning⟩] := fun item among => by
    cases List.mem_singleton.mp among
    nofun
  have nothing : Mixture [] := nofun
  exact save_settings_iff separated nothing lastSummerMorning "1:30".toList (fallBack.take 2) []

theorem fall_back_twice :
    ¬ ((saveSettingsScheduler lastSummerMorning "01:00 01:30".toList fallBack []).sent.map
      (minuteOf lastSummerMorning)).Nodup := by
  have scanned : scan (Text.splitWhitespace (normalized "01:00 01:30".toList)) [] = [⟨1,0⟩,⟨1,30⟩] := by
    decide +kernel
  have parsed : parseSaveSettingsSchedule "01:00 01:30".toList = [⟨1,0⟩,⟨1,30⟩] := by
    unfold parseSaveSettingsSchedule
    rw [scanned]
    exact List.mergeSort_of_pairwise (by decide)
  unfold saveSettingsScheduler
  rw [parsed]
  decide +kernel

end Ibctl.SaveSettings
