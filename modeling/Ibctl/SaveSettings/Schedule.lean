import Ibctl.Lib.Decimal
import Ibctl.Lib.Spacing

/-! The schedule of the settings saves: times of day in 24 or 12 hours, in whatever mixture of
commas, semicolons and white space. White space also stands before AM and PM. -/
namespace Ibctl.SaveSettings
open Text

structure SaveSettingsTime where
  hour : Nat
  minute : Nat
deriving DecidableEq, Repr

def isDelimiter (c : Char) : Bool := c = ',' || c = ';'

/-- Commas and semicolons become blanks. -/
def normalized (input : List Char) : List Char := input.map (fun c => if isDelimiter c then ' ' else c)

def toAsciiUppercase (cs : List Char) : List Char :=
  cs.map (fun c => if 'a' ≤ c ∧ c ≤ 'z' then Char.ofNat (c.toNat - 32) else c)

def isAmpm (value : List Char) : Bool :=
  toAsciiUppercase value = ['A','M'] || toAsciiUppercase value = ['P','M']

/-- The hour of the day, if there is such an hour. -/
def hourOfDay (hour : Nat) : Option (List Char) → Option Nat
  | some ['A','M'] => if hour = 12 then some 0 else if 11 < hour then none else some hour
  | some ['P','M'] => if hour = 12 then some hour else if hour ≤ 11 then some (hour + 12) else none
  | some _ => none
  | none => if 23 < hour then none else some hour

def parseTime (value : List Char) : Option SaveSettingsTime :=
  match splitWhitespace value with
  | [] => none
  | timePart :: rest =>
    if 1 < rest.length then none
    else
      match timePart.splitOn ':' with
      | [hour,minute] =>
        match parseUnsigned 32 hour,parseUnsigned 32 minute with
        | some hour,some minute =>
          if 59 < minute then none
          else (hourOfDay hour (rest.head?.map toAsciiUppercase)).map (fun hour => ⟨hour,minute⟩)
        | _,_ => none
      | _ => none

/-- A candidate that is no time is left out, and so is a time that is there already. -/
def push (candidate : List Char) (out : List SaveSettingsTime) : List SaveSettingsTime :=
  match parseTime candidate with
  | some time => if time ∈ out then out else out ++ [time]
  | none => out

/-- The loop over the tokens: AM or PM goes with the token before it. -/
def scan : List (List Char) → List SaveSettingsTime → List SaveSettingsTime
  | [],out => out
  | [token],out => push token out
  | token :: next :: rest,out =>
    if isAmpm next then scan rest (push (token ++ ' ' :: next) out) else scan (next :: rest) (push token out)

def SaveSettingsTime.notAfter (t u : SaveSettingsTime) : Bool :=
  t.hour < u.hour || (t.hour = u.hour && t.minute ≤ u.minute)

def parseSaveSettingsSchedule (input : List Char) : List SaveSettingsTime :=
  (scan (splitWhitespace (normalized input)) []).mergeSort SaveSettingsTime.notAfter

section Rendering

/-- Decimal digits that show a number, leading zeros included. -/
def Numeral (cs : List Char) (n : Nat) : Prop :=
  cs ≠ [] ∧ cs.all isAsciiDigit = true ∧ digitsValue cs = n

inductive Entry where
  | clock24 (hour minute : List Char)
  | clock12 (hour minute gap half : List Char)

def Entry.text : Entry → List Char
  | clock24 hour minute => hour ++ ':' :: minute
  | clock12 hour minute gap half => (hour ++ ':' :: minute) ++ (gap ++ half)

def Entry.tokens : Entry → List (List Char)
  | clock24 hour minute => [hour ++ ':' :: minute]
  | clock12 hour minute _ half => [hour ++ ':' :: minute,half]

/-- The entry shows this time of day. -/
inductive Shows : Entry → SaveSettingsTime → Prop
  | clock24 {hour minute : List Char} {h m : Nat} (hours : Numeral hour h) (minutes : Numeral minute m)
      (day : h ≤ 23) (full : m ≤ 59) : Shows (.clock24 hour minute) ⟨h,m⟩
  | morning {hour minute gap half : List Char} {h m : Nat} (hours : Numeral hour h)
      (minutes : Numeral minute m) (day : 1 ≤ h ∧ h ≤ 12) (full : m ≤ 59) (apart : Gap gap)
      (am : SameLetters half ['A','M']) : Shows (.clock12 hour minute gap half) ⟨h % 12,m⟩
  | afternoon {hour minute gap half : List Char} {h m : Nat} (hours : Numeral hour h)
      (minutes : Numeral minute m) (day : 1 ≤ h ∧ h ≤ 12) (full : m ≤ 59) (apart : Gap gap)
      (pm : SameLetters half ['P','M']) : Shows (.clock12 hour minute gap half) ⟨h % 12 + 12,m⟩

/-- What may stand between two entries. -/
def Mixture (cs : List Char) : Prop := ∀ c ∈ cs, (isWhitespace c || isDelimiter c) = true

/-- An entry, what stands before it, and the time it shows. -/
structure Item where
  before : List Char
  entry : Entry
  time : SaveSettingsTime
  before_mixture : Mixture before
  entry_shows : Shows entry time

def joined (items : List Item) (trail : List Char) : List Char :=
  items.flatMap (fun item => item.before ++ item.entry.text) ++ trail

end Rendering

section Tokens

theorem splitWhitespace_apart {word rest : List Char} (solid : Solid word)
    (apart : ∀ c ∈ rest.head?, isWhitespace c = true) :
    splitWhitespace (word ++ rest) = word :: splitWhitespace rest := by
  cases rest with
  | nil =>
    rw [List.append_nil,splitWhitespace_word solid]
    rfl
  | cons c rest =>
    have blank := apart c rfl
    have gap : Gap [c] := ⟨nofun,fun d among => by cases List.mem_singleton.mp among; exact blank⟩
    have found := splitWhitespace_gap solid gap rest
    rw [splitWhitespace_cons blank]
    exact found

theorem numeral_plain {cs : List Char} {n : Nat} (numeral : Numeral cs n) :
    ∀ c ∈ cs, 48 ≤ c.toNat ∧ c.toNat ≤ 57 := by
  intro c among
  have digit := List.all_eq_true.mp numeral.2.1 c among
  have bounds := Bool.and_eq_true_iff.mp digit
  exact ⟨of_decide_eq_true bounds.1,of_decide_eq_true bounds.2⟩

theorem solid_visible {c : Char} (bounds : 33 ≤ c.toNat ∧ c.toNat ≤ 126) : isWhitespace c = false := by
  unfold isWhitespace
  simp only [Bool.or_eq_false_iff,Bool.and_eq_false_iff,decide_eq_false_iff_not]
  omega

theorem parseUnsigned_numeral {cs : List Char} {n bits : Nat} (numeral : Numeral cs n) (fits : n < 2 ^ bits) :
    parseUnsigned bits cs = some n := by
  have plain := numeral_plain numeral
  obtain ⟨nonempty,digits,value⟩ := numeral
  have unsigned : cs.head? ≠ some '+' := by
    cases cs with
    | nil => exact absurd rfl nonempty
    | cons c rest =>
      intro plus
      cases plus
      have bounds : 48 ≤ 43 ∧ 43 ≤ 57 := plain '+' List.mem_cons_self
      omega
  unfold parseUnsigned
  rw [if_neg unsigned]
  subst value
  exact if_pos ⟨nonempty,digits,fits⟩

variable {hour minute gap half : List Char} {h m : Nat}

theorem clock_solid (hours : Numeral hour h) (minutes : Numeral minute m) : Solid (hour ++ ':' :: minute) := by
  refine ⟨by simp,fun c among => ?_⟩
  rcases List.mem_append.mp among with digit | among
  · have bounds := numeral_plain hours c digit
    exact solid_visible (by omega)
  · rcases List.mem_cons.mp among with rfl | digit
    · rfl
    · have bounds := numeral_plain minutes c digit
      exact solid_visible (by omega)

theorem splitOn_clock (hours : Numeral hour h) (minutes : Numeral minute m) :
    (hour ++ ':' :: minute).splitOn ':' = [hour,minute] := by
  have apart : ∀ {cs : List Char} {n : Nat}, Numeral cs n → ∀ c ∈ cs, (c == ':') = false := by
    intro cs n numeral c among
    refine beq_eq_false_iff_ne.mpr fun colon => ?_
    have bounds := numeral_plain numeral c among
    rw [colon] at bounds
    have bounds : 48 ≤ 58 ∧ 58 ≤ 57 := bounds
    omega
  unfold List.splitOn
  rw [List.splitOnP_append_cons_of_forall_mem (apart hours) ':' rfl,
    List.splitOnP_eq_singleton (apart minutes)]

theorem toAsciiUppercase_letter {c d : Char} (capital : 65 ≤ d.toNat ∧ d.toNat ≤ 90)
    (same : asciiLowerChar c = asciiLowerChar d) :
    (if 'a' ≤ c ∧ c ≤ 'z' then Char.ofNat (c.toNat - 32) else c) = d := by
  have lowered := congrArg Char.toNat same
  rw [asciiLowerChar_toNat,asciiLowerChar_toNat,if_pos capital] at lowered
  by_cases small : 'a' ≤ c ∧ c ≤ 'z'
  · have bounds : 97 ≤ c.toNat ∧ c.toNat ≤ 122 := small
    have value : c.toNat - 32 = d.toNat := by split at lowered <;> omega
    rw [if_pos small,value,Char.ofNat_toNat]
  · have bounds : ¬ (97 ≤ c.toNat ∧ c.toNat ≤ 122) := small
    rw [if_neg small]
    refine Char.toNat_inj.mp ?_
    split at lowered <;> omega

/-- AM and PM are recognised in any case, and are letters. -/
theorem toAsciiUppercase_half {first second : Char} (firstCapital : 65 ≤ first.toNat ∧ first.toNat ≤ 90)
    (secondCapital : 65 ≤ second.toNat ∧ second.toNat ≤ 90) (same : SameLetters half [first,second]) :
    toAsciiUppercase half = [first,second] ∧ half ≠ [] ∧ ∀ c ∈ half, 65 ≤ c.toNat ∧ c.toNat ≤ 122 := by
  unfold SameLetters at same
  have two : half.length = 2 := by simpa using congrArg List.length same
  obtain ⟨c,d,rfl⟩ := List.length_eq_two.mp two
  obtain ⟨one,tail⟩ := List.cons.inj same
  obtain ⟨two,-⟩ := List.cons.inj tail
  have letter : ∀ {e f : Char}, 65 ≤ f.toNat ∧ f.toNat ≤ 90 → asciiLowerChar e = asciiLowerChar f →
      65 ≤ e.toNat ∧ e.toNat ≤ 122 := by
    intro e f capital same
    have lowered := congrArg Char.toNat same
    rw [asciiLowerChar_toNat,asciiLowerChar_toNat,if_pos capital] at lowered
    split at lowered <;> omega
  refine ⟨?_,nofun,fun e among => ?_⟩
  · simp only [toAsciiUppercase,List.map_cons,List.map_nil,toAsciiUppercase_letter firstCapital one,
      toAsciiUppercase_letter secondCapital two]
  · rcases List.mem_cons.mp among with rfl | among
    · exact letter firstCapital one
    · cases List.mem_singleton.mp among
      exact letter secondCapital two

/-- A time of day is not taken for AM or PM. -/
theorem isAmpm_clock (hours : Numeral hour h) : isAmpm (hour ++ ':' :: minute) = false := by
  have plain := numeral_plain hours
  cases hour with
  | nil => exact absurd rfl hours.1
  | cons c rest =>
    have bounds := plain c List.mem_cons_self
    have small : ¬ ('a' ≤ c ∧ c ≤ 'z') := by
      rintro ⟨above,-⟩
      have above : 97 ≤ c.toNat := above
      omega
    have first : (toAsciiUppercase (c :: rest ++ ':' :: minute)).head? = some c := by
      simp only [toAsciiUppercase,List.cons_append,List.map_cons,if_neg small]
      rfl
    have other : ∀ (letter : Char) (rest' : List Char), 57 < letter.toNat →
        toAsciiUppercase (c :: rest ++ ':' :: minute) ≠ letter :: rest' := by
      intro letter rest' above same
      rw [same] at first
      cases first
      omega
    unfold isAmpm
    rw [decide_eq_false (other 'A' ['M'] (by decide)),decide_eq_false (other 'P' ['M'] (by decide))]
    rfl

theorem parseTime_clock (hours : Numeral hour h) (minutes : Numeral minute m) (hourFits : h < 2 ^ 32)
    (full : m ≤ 59) {value : List Char} {rest : List (List Char)} (few : rest.length ≤ 1)
    (words : splitWhitespace value = (hour ++ ':' :: minute) :: rest) :
    parseTime value = (hourOfDay h (rest.head?.map toAsciiUppercase)).map (fun hour => ⟨hour,m⟩) := by
  unfold parseTime
  rw [words]
  dsimp only
  rw [if_neg (Nat.not_lt.mpr few),splitOn_clock hours minutes]
  dsimp only
  rw [parseUnsigned_numeral hours hourFits,parseUnsigned_numeral minutes (by omega)]
  dsimp only
  rw [if_neg (by omega)]

/-- What the loop does with a time that is read. -/
def add (out : List SaveSettingsTime) (time : SaveSettingsTime) : List SaveSettingsTime :=
  if time ∈ out then out else out ++ [time]

theorem push_some {candidate : List Char} {time : SaveSettingsTime} (parsed : parseTime candidate = some time)
    (out : List SaveSettingsTime) : push candidate out = add out time := by
  unfold push
  rw [parsed]
  rfl

theorem scan_single {token : List Char} {rest : List (List Char)} (out : List SaveSettingsTime)
    (next : ∀ other ∈ rest.head?, isAmpm other = false) :
    scan (token :: rest) out = scan rest (push token out) := by
  cases rest with
  | nil => rfl
  | cons other rest => rw [scan,if_neg (by simp [next other rfl])]

theorem scan_half (token : List Char) (rest : List (List Char)) (out : List SaveSettingsTime)
    (ampm : isAmpm half = true) :
    scan (token :: half :: rest) out = scan rest (push (token ++ ' ' :: half) out) := by
  rw [scan,if_pos ampm]

theorem words_half (hours : Numeral hour h) (minutes : Numeral minute m) (solid : Solid half) :
    splitWhitespace ((hour ++ ':' :: minute) ++ ' ' :: half) = [hour ++ ':' :: minute,half] := by
  rw [splitWhitespace_apart (clock_solid hours minutes) fun c first => by cases first; rfl,
    splitWhitespace_cons rfl,splitWhitespace_word solid]

theorem solid_half (nonempty : half ≠ []) (letters : ∀ c ∈ half, 65 ≤ c.toNat ∧ c.toNat ≤ 122) : Solid half :=
  ⟨nonempty,fun c among => solid_visible (by have := letters c among; omega)⟩

theorem hourOfDay_morning (day : 1 ≤ h ∧ h ≤ 12) : hourOfDay h (some ['A','M']) = some (h % 12) := by
  change (if h = 12 then some 0 else if 11 < h then none else some h) = some (h % 12)
  by_cases midnight : h = 12
  · rw [if_pos midnight,midnight]
  · rw [if_neg midnight,if_neg (by omega),Nat.mod_eq_of_lt (by omega)]

theorem hourOfDay_afternoon (day : 1 ≤ h ∧ h ≤ 12) : hourOfDay h (some ['P','M']) = some (h % 12 + 12) := by
  change (if h = 12 then some h else if h ≤ 11 then some (h + 12) else none) = some (h % 12 + 12)
  by_cases noon : h = 12
  · rw [if_pos noon,noon]
  · rw [if_neg noon,if_pos (by omega),Nat.mod_eq_of_lt (by omega)]

/-- An entry adds its time, unless it would swallow an AM or PM behind it. -/
theorem Shows.scan {entry : Entry} {time : SaveSettingsTime} (shows_ : Shows entry time)
    (out : List SaveSettingsTime) {rest : List (List Char)} (next : ∀ other ∈ rest.head?, isAmpm other = false) :
    scan (entry.tokens ++ rest) out = SaveSettings.scan rest (add out time) := by
  cases shows_ with
  | @clock24 hour minute h m hours minutes day full =>
    have alone : ([] : List (List Char)).length ≤ 1 := Nat.zero_le 1
    have parsed := parseTime_clock hours minutes (by omega) full alone
      (splitWhitespace_word (clock_solid hours minutes))
    have within : hourOfDay h none = some h := if_neg (by omega)
    rw [List.head?_nil,Option.map_none,within] at parsed
    exact (scan_single out next).trans (congrArg _ (push_some parsed out))
  | @morning hour minute gap half h m hours minutes day full apart am =>
    obtain ⟨upper,nonempty,letters⟩ := toAsciiUppercase_half (by decide) (by decide) am
    have ampm : isAmpm half = true := by
      unfold isAmpm
      rw [upper]
      rfl
    have parsed := parseTime_clock hours minutes (by omega) full le_rfl
      (words_half hours minutes (solid_half nonempty letters))
    rw [List.head?_cons,Option.map_some,upper,hourOfDay_morning day] at parsed
    exact (scan_half _ rest out ampm).trans (congrArg _ (push_some parsed out))
  | @afternoon hour minute gap half h m hours minutes day full apart pm =>
    obtain ⟨upper,nonempty,letters⟩ := toAsciiUppercase_half (by decide) (by decide) pm
    have ampm : isAmpm half = true := by
      unfold isAmpm
      rw [upper]
      rfl
    have parsed := parseTime_clock hours minutes (by omega) full le_rfl
      (words_half hours minutes (solid_half nonempty letters))
    rw [List.head?_cons,Option.map_some,upper,hourOfDay_afternoon day] at parsed
    exact (scan_half _ rest out ampm).trans (congrArg _ (push_some parsed out))

end Tokens

section Joining

theorem normalized_append (first second : List Char) :
    normalized (first ++ second) = normalized first ++ normalized second := List.map_append

theorem normalized_mixture {cs : List Char} (mixture : Mixture cs) : Blank (normalized cs) := by
  intro c among
  obtain ⟨d,member,rfl⟩ := List.mem_map.mp among
  have kind := mixture d member
  split
  · rfl
  · rename_i plain
    rw [Bool.not_eq_true] at plain
    rw [plain,Bool.or_false] at kind
    exact kind

theorem normalized_plain {cs : List Char} (plain : ∀ c ∈ cs, isDelimiter c = false) : normalized cs = cs := by
  unfold normalized
  refine (List.map_congr_left fun c among => ?_).trans (List.map_id cs)
  rw [if_neg (by simp [plain c among])]
  rfl

theorem not_delimiter {c : Char} (other : c.toNat ≠ 44 ∧ c.toNat ≠ 59) : isDelimiter c = false := by
  unfold isDelimiter
  rw [Bool.or_eq_false_iff]
  exact ⟨decide_eq_false fun comma => other.1 (by rw [comma]; rfl),
    decide_eq_false fun semicolon => other.2 (by rw [semicolon]; rfl)⟩

theorem clock_plain {hour minute : List Char} {h m : Nat} (hours : Numeral hour h)
    (minutes : Numeral minute m) : ∀ c ∈ hour ++ ':' :: minute, isDelimiter c = false := by
  intro c among
  rcases List.mem_append.mp among with digit | among
  · have bounds := numeral_plain hours c digit
    exact not_delimiter (by omega)
  · rcases List.mem_cons.mp among with rfl | digit
    · rfl
    · have bounds := numeral_plain minutes c digit
      exact not_delimiter (by omega)

theorem half_text {hour minute gap half : List Char} {h m : Nat} (hours : Numeral hour h)
    (minutes : Numeral minute m) (apart : Gap gap) (nonempty : half ≠ [])
    (letters : ∀ c ∈ half, 65 ≤ c.toNat ∧ c.toNat ≤ 122) {rest : List Char}
    (follows : ∀ c ∈ rest.head?, isWhitespace c = true) :
    splitWhitespace (normalized ((hour ++ ':' :: minute) ++ (gap ++ half)) ++ rest) =
      [hour ++ ':' :: minute,half] ++ splitWhitespace rest := by
  have plain : ∀ c ∈ (hour ++ ':' :: minute) ++ (gap ++ half), isDelimiter c = false := by
    intro c among
    rcases List.mem_append.mp among with among | among
    · exact clock_plain hours minutes c among
    · rcases List.mem_append.mp among with among | among
      · have blank := apart.2 c among
        refine not_delimiter ⟨fun comma => ?_,fun semicolon => ?_⟩
        · simp [isWhitespace,comma] at blank
        · simp [isWhitespace,semicolon] at blank
      · have bounds := letters c among
        exact not_delimiter (by omega)
  have shape : ((hour ++ ':' :: minute) ++ (gap ++ half)) ++ rest =
      (hour ++ ':' :: minute) ++ (gap ++ (half ++ rest)) := by simp
  rw [normalized_plain plain,shape,splitWhitespace_gap (clock_solid hours minutes) apart,
    splitWhitespace_apart (solid_half nonempty letters) follows]
  rfl

theorem Shows.words {entry : Entry} {time : SaveSettingsTime} (shows_ : Shows entry time) {rest : List Char}
    (follows : ∀ c ∈ rest.head?, isWhitespace c = true) :
    splitWhitespace (normalized entry.text ++ rest) = entry.tokens ++ splitWhitespace rest := by
  cases shows_ with
  | @clock24 hour minute h m hours minutes day full =>
    change splitWhitespace (normalized (hour ++ ':' :: minute) ++ rest) = _
    rw [normalized_plain (clock_plain hours minutes),splitWhitespace_apart (clock_solid hours minutes) follows]
    rfl
  | @morning hour minute gap half h m hours minutes day full apart am =>
    obtain ⟨-,nonempty,letters⟩ := toAsciiUppercase_half (by decide) (by decide) am
    exact half_text hours minutes apart nonempty letters follows
  | @afternoon hour minute gap half h m hours minutes day full apart pm =>
    obtain ⟨-,nonempty,letters⟩ := toAsciiUppercase_half (by decide) (by decide) pm
    exact half_text hours minutes apart nonempty letters follows

theorem Shows.starts {entry : Entry} {time : SaveSettingsTime} (shows_ : Shows entry time) :
    ∀ token ∈ entry.tokens.head?, isAmpm token = false := by
  intro token first
  cases shows_ with
  | clock24 hours minutes day full => cases first; exact isAmpm_clock hours
  | morning hours minutes day full apart am => cases first; exact isAmpm_clock hours
  | afternoon hours minutes day full apart pm => cases first; exact isAmpm_clock hours

variable {items : List Item} {trail : List Char}

/-- Something stands between any two entries. -/
def Separated (items : List Item) : Prop := ∀ item ∈ items.drop 1, item.before ≠ []

theorem Separated.tail {item : Item} {rest : List Item} (separated : Separated (item :: rest)) : Separated rest :=
  fun other among => separated other (List.mem_of_mem_drop among)

theorem joined_cons (item : Item) (rest : List Item) :
    joined (item :: rest) trail = item.before ++ (item.entry.text ++ joined rest trail) := by
  simp [joined]

theorem joined_apart {rest : List Item} (nonempty : ∀ item ∈ rest, item.before ≠ []) (trailing : Mixture trail) :
    ∀ c ∈ (normalized (joined rest trail)).head?, isWhitespace c = true := by
  have first : ∀ {cs more : List Char}, Mixture cs → cs ≠ [] →
      ∀ c ∈ (normalized (cs ++ more)).head?, isWhitespace c = true := by
    intro cs more mixture nonempty c among
    cases cs with
    | nil => exact absurd rfl nonempty
    | cons d rest =>
      cases among
      exact normalized_mixture mixture _ List.mem_cons_self
  cases rest with
  | nil =>
    intro c among
    exact normalized_mixture trailing c (List.mem_of_mem_head? among)
  | cons item rest =>
    rw [joined_cons]
    exact first item.before_mixture (nonempty item List.mem_cons_self)

theorem words_joined (separated : Separated items) (trailing : Mixture trail) :
    splitWhitespace (normalized (joined items trail)) = items.flatMap (fun item => item.entry.tokens) := by
  induction items with
  | nil =>
    have nothing := splitWhitespace_blank (normalized_mixture trailing) []
    rw [List.append_nil] at nothing
    exact nothing
  | cons item rest ih =>
    have follows := @joined_apart trail rest separated trailing
    rw [joined_cons,normalized_append,normalized_append,
      splitWhitespace_blank (normalized_mixture item.before_mixture),item.entry_shows.words follows,
      ih separated.tail]
    rfl

theorem scan_joined (items : List Item) (out : List SaveSettingsTime) :
    scan (items.flatMap (fun item => item.entry.tokens)) out = (items.map Item.time).foldl add out := by
  induction items generalizing out with
  | nil => rfl
  | cons item rest ih =>
    have next : ∀ other ∈ (rest.flatMap (fun item => item.entry.tokens)).head?, isAmpm other = false := by
      intro other among
      cases rest with
      | nil => cases among
      | cons second rest =>
        rw [List.flatMap_cons] at among
        refine second.entry_shows.starts other ?_
        revert among
        cases second.entry <;> exact id
    rw [List.flatMap_cons,item.entry_shows.scan out next,ih]
    rfl

end Joining

section Sorting

/-- Earlier in the day. -/
def SaveSettingsTime.Before (t u : SaveSettingsTime) : Prop :=
  t.hour < u.hour ∨ t.hour = u.hour ∧ t.minute < u.minute

theorem foldl_add (times out : List SaveSettingsTime) (distinct : out.Nodup) :
    (times.foldl add out).Nodup ∧ ∀ t, t ∈ times.foldl add out ↔ t ∈ times ∨ t ∈ out := by
  induction times generalizing out with
  | nil => exact ⟨distinct,fun t => by simp⟩
  | cons time rest ih =>
    rw [List.foldl_cons]
    unfold add at ih ⊢
    split
    · rename_i present
      obtain ⟨nodup,members⟩ := ih out distinct
      refine ⟨nodup,fun t => (members t).trans ?_⟩
      rw [List.mem_cons]
      constructor
      · rintro (later | before)
        · exact .inl (.inr later)
        · exact .inr before
      · rintro ((rfl | later) | before)
        · exact .inr present
        · exact .inl later
        · exact .inr before
    · rename_i absent
      have extended : (out ++ [time]).Nodup :=
        List.nodup_append.mpr ⟨distinct,(by simp),fun a old b new same =>
          absent (by cases List.mem_singleton.mp new; exact same ▸ old)⟩
      obtain ⟨nodup,members⟩ := ih (out ++ [time]) extended
      refine ⟨nodup,fun t => (members t).trans ?_⟩
      rw [List.mem_append,List.mem_singleton,List.mem_cons]
      tauto

theorem notAfter_iff {t u : SaveSettingsTime} : t.notAfter u = true ↔ t.Before u ∨ t = u := by
  cases t
  cases u
  simp only [SaveSettingsTime.notAfter,SaveSettingsTime.Before,Bool.or_eq_true,Bool.and_eq_true,
    decide_eq_true_eq,SaveSettingsTime.mk.injEq]
  omega

theorem mergeSort_before {times : List SaveSettingsTime} (distinct : times.Nodup) :
    (times.mergeSort SaveSettingsTime.notAfter).Pairwise SaveSettingsTime.Before := by
  have sorted := @List.pairwise_mergeSort _ SaveSettingsTime.notAfter (fun a b c first second => by
      rw [notAfter_iff] at first second ⊢
      cases a; cases b; cases c
      simp only [SaveSettingsTime.Before,SaveSettingsTime.mk.injEq] at first second ⊢
      omega) (fun a b => by
      rw [Bool.or_eq_true,notAfter_iff,notAfter_iff]
      cases a; cases b
      simp only [SaveSettingsTime.Before,SaveSettingsTime.mk.injEq]
      omega) times
  have nodup := (List.mergeSort_perm times SaveSettingsTime.notAfter).nodup_iff.mpr distinct
  refine (sorted.and nodup).imp fun {a b} both => ?_
  exact (notAfter_iff.mp both.1).resolve_right both.2

/-- The schedule of a text of entries has their times, each once and in order. -/
theorem parseSaveSettingsSchedule_joined {items : List Item} {trail : List Char} (separated : Separated items)
    (trailing : Mixture trail) :
    (parseSaveSettingsSchedule (joined items trail)).Pairwise SaveSettingsTime.Before ∧
      ∀ t, t ∈ parseSaveSettingsSchedule (joined items trail) ↔ t ∈ items.map Item.time := by
  unfold parseSaveSettingsSchedule
  rw [words_joined separated trailing,scan_joined]
  obtain ⟨nodup,members⟩ := foldl_add (items.map Item.time) [] List.nodup_nil
  refine ⟨mergeSort_before nodup,fun t => ?_⟩
  rw [List.mem_mergeSort,members]
  simp

end Sorting

end Ibctl.SaveSettings
