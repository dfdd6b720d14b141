import Ibctl.Dashboard.Scraper
import Ibctl.Lib.Decimal
import Ibctl.Lib.Scan

/-! The reset windows of the IB status page. Each table is read for every region whose two or four
letters its text contains. -/
namespace Ibctl.Dashboard

section Ranges

/-- A digit of any script. -/
def isNumeral (c : Char) : Bool := (Decimal.digit c).isSome

/-- One or two digits, a colon and two digits. -/
inductive Clock : List Char → Prop
  | short {a c d : Char} (hour : isNumeral a = true) (minute : isNumeral c = true ∧ isNumeral d = true) :
      Clock [a,':',c,d]
  | long {a b c d : Char} (hour : isNumeral a = true ∧ isNumeral b = true)
      (minute : isNumeral c = true ∧ isNumeral d = true) : Clock [a,b,':',c,d]

/-- A hyphen and an en dash. -/
def dashes : List Char := ['-',Char.ofNat 0x2013]

/-- Two times with a dash between them, and any blanks around it. -/
inductive RangeText : List Char × List Char → List Char → Prop
  | mk {start stop blanks blanks' : List Char} {dash : Char} (starts : Clock start)
      (before : ∀ c ∈ blanks, Text.isPythonSpace c = true) (dashed : dash ∈ dashes)
      (after : ∀ c ∈ blanks', Text.isPythonSpace c = true) (stops : Clock stop) :
      RangeText (start,stop) (start ++ (blanks ++ dash :: (blanks' ++ stop)))

def minutesAt (hour : List Char) : List Char → Option (List Char × List Char)
  | ':' :: c :: d :: rest => if isNumeral c ∧ isNumeral d then some (hour ++ [':',c,d],rest) else none
  | _ => none

/-- A time at the start of a text, and what follows it. -/
def clockAt : List Char → Option (List Char × List Char)
  | a :: b :: rest =>
    if isNumeral a then if isNumeral b then minutesAt [a,b] rest else minutesAt [a] (b :: rest)
    else none
  | _ => none

/-- A match of the pattern at the start of a text: its two groups, and what follows it. -/
def rangeAt (text : List Char) : Option ((List Char × List Char) × List Char) :=
  match clockAt text with
  | none => none
  | some (start,rest) =>
    match rest.dropWhile Text.isPythonSpace with
    | [] => none
    | dash :: rest =>
      if dash ∈ dashes then
        (clockAt (rest.dropWhile Text.isPythonSpace)).map fun (stop,rest) => ((start,stop),rest)
      else none

/-- `finditer`. -/
def findRanges (text : List Char) : List (List Char × List Char) := Scan.findAll rangeAt text

def number (digits : List Char) : Nat := Decimal.ofDigits (digits.filterMap Decimal.digit)

/-- A time of the pattern; nothing where `time` raises. -/
def parseTime (text : List Char) : Option DayTime :=
  match Text.splitOnce ':' text with
  | none => none
  | some (hour,minute) =>
    if number hour < 24 ∧ number minute < 60 then some ⟨number hour,number minute⟩ else none

end Ranges

section Tables

inductive Region where
  | na
  | eu
  | apac
deriving DecidableEq, Repr

namespace Region

def name : Region → String
  | na => "NA"
  | eu => "EU"
  | apac => "APAC"

def timezone : Region → String
  | na => "America/New_York"
  | eu => "Europe/Zurich"
  | apac => "Asia/Hong_Kong"

theorem name_injective {one other : Region} (same : one.name = other.name) : one = other := by
  cases one <;> cases other <;> first | rfl | exact absurd same (by decide)

/-- In the order of the dict. -/
def all : List Region := [na,eu,apac]

end Region

def lower (text : List Char) : List Char := text.flatMap Text.lowerChar

def stripped (node : List Char) : List Char := Text.trimChars Text.isPythonSpace node

/-- The texts in a table in order, those of its header among them. -/
structure ResetTable where
  header : List (List Char)
  nodes : List (List Char)
  within : header <:+: nodes

/-- `get_text(strip=True)`. -/
def strippedText (nodes : List (List Char)) : List Char := nodes.flatMap stripped

namespace ResetTable

variable (table : ResetTable)

/-- `get_text()`. -/
def text : List Char := table.nodes.flatten

def mentions (region : Region) : Bool :=
  Text.containsChars (lower (strippedText table.header)) (lower region.name.toList) ||
    Text.containsChars (lower (strippedText table.nodes)) (lower region.name.toList)

end ResetTable

/-- The window of a range whose times are valid. -/
def resetWindow (region : Region) (weekend : Bool) (range : List Char × List Char) : Option ScrapedWindow :=
  match parseTime range.1,parseTime range.2 with
  | some start,some stop =>
    some { region := region.name, startTime := start, endTime := stop, timezone := region.timezone, isWeekend := weekend }
  | _,_ => none

def parseResets (tables : List ResetTable) (weekend : Bool) : List ScrapedWindow :=
  tables.flatMap fun table =>
    Region.all.flatMap fun region =>
      if table.mentions region then (findRanges table.text).filterMap (resetWindow region weekend) else []

end Tables

section Naming

-- What counts as a letter is left open: a word is what stands between characters that are none.
variable (isLetter : Char → Bool)

def words (node : List Char) : List (List Char) := node.splitOnP fun c => !isLetter c

/-- The region stands in the table as a word of its own. -/
def ResetTable.Names (table : ResetTable) (region : Region) : Prop :=
  ∃ node ∈ table.nodes, ∃ word ∈ words isLetter node, lower word = lower region.name.toList

instance (table : ResetTable) (region : Region) : Decidable (table.Names isLetter region) :=
  inferInstanceAs (Decidable (∃ node ∈ table.nodes, ∃ word ∈ words isLetter node, _ = _))

/-- A table that names exactly one region, with the ranges in its text. -/
structure RegionTable extends ResetTable where
  region : Region
  named : toResetTable.Names isLetter region
  only : ∀ other, toResetTable.Names isLetter other → other = region
  ranges : List (List Char × List Char)
  found : Scan.Found RangeText toResetTable.text ranges

end Naming

section Matching

theorem numeral_not_space {c : Char} (numeral : isNumeral c = true) : Text.isPythonSpace c = false := by
  have apart : ∀ first ∈ Decimal.zeros, ∀ d < 10, ∀ n, first + d = n →
      ¬ (9 ≤ n ∧ n ≤ 13 ∨ n = 0x20 ∨ n = 0x85 ∨ n = 0xA0 ∨ n = 0x1680 ∨ 0x2000 ≤ n ∧ n ≤ 0x200A ∨ n = 0x2028 ∨
        n = 0x2029 ∨ n = 0x202F ∨ n = 0x205F ∨ n = 0x3000 ∨ 0x1C ≤ n ∧ n ≤ 0x1F) := by
    intro first among d small n same
    subst same
    revert d first
    decide +kernel
  unfold isNumeral Decimal.digit at numeral
  rw [Option.isSome_map] at numeral
  obtain ⟨first,found⟩ := Option.isSome_iff_exists.mp numeral
  have within := List.find?_some found
  simp only [Bool.and_eq_true,decide_eq_true_eq] at within
  have other := apart first (List.mem_of_find?_eq_some found) (c.toNat - first) (by omega) c.toNat (by omega)
  unfold Text.isPythonSpace Text.isWhitespace
  simp only [Bool.or_eq_false_iff,Bool.and_eq_false_iff,decide_eq_false_iff_not]
  omega

theorem colon_not_numeral : isNumeral ':' = false := by decide +kernel

theorem dash_not_space {dash : Char} (dashed : dash ∈ dashes) : Text.isPythonSpace dash = false := by
  have all : dashes.all (fun dash => !Text.isPythonSpace dash) = true := by decide
  simpa using List.all_eq_true.mp all dash dashed

theorem minutesAt_iff {hour text clock rest : List Char} :
    minutesAt hour text = some (clock,rest) ↔
      ∃ c d, (isNumeral c = true ∧ isNumeral d = true) ∧ clock = hour ++ [':',c,d] ∧ text = ':' :: c :: d :: rest := by
  constructor
  · intro found
    unfold minutesAt at found
    split at found
    · next c d _ =>
      split at found
      · next numerals =>
        cases found
        exact ⟨c,d,numerals,rfl,rfl⟩
      · cases found
    · cases found
  · rintro ⟨c,d,numerals,rfl,rfl⟩
    exact if_pos numerals

theorem clockAt_iff {text clock rest : List Char} :
    clockAt text = some (clock,rest) ↔ Clock clock ∧ text = clock ++ rest := by
  constructor
  · intro found
    unfold clockAt at found
    split at found
    · next a b _ =>
      split at found
      · next first =>
        split at found
        · next second =>
          obtain ⟨c,d,minute,rfl,rfl⟩ := minutesAt_iff.mp found
          exact ⟨.long ⟨first,second⟩ minute,rfl⟩
        · obtain ⟨c,d,minute,rfl,same⟩ := minutesAt_iff.mp found
          exact ⟨.short first minute,congrArg (a :: ·) same⟩
      · cases found
    · cases found
  · rintro ⟨shape,rfl⟩
    cases shape with
    | short hour minute => simp [clockAt,minutesAt,hour,minute,colon_not_numeral]
    | long hour minute => simp [clockAt,minutesAt,hour,minute]

theorem Clock.starts {clock : List Char} (shape : Clock clock) :
    ∃ a rest, clock = a :: rest ∧ isNumeral a = true := by
  cases shape with
  | short hour _ => exact ⟨_,_,rfl,hour⟩
  | long hour _ => exact ⟨_,_,rfl,hour.1⟩

/-- Blanks before what is none are skipped. -/
theorem dropWhile_blanks {blanks rest : List Char} {c : Char}
    (blank : ∀ c ∈ blanks, Text.isPythonSpace c = true) (solid : Text.isPythonSpace c = false) :
    (blanks ++ c :: rest).dropWhile Text.isPythonSpace = c :: rest := by
  rw [List.dropWhile_append_of_pos blank,List.dropWhile_cons_of_neg (by simp [solid])]

theorem skipped_blanks {text rest : List Char} (dropped : text.dropWhile Text.isPythonSpace = rest) :
    ∃ blanks, (∀ c ∈ blanks, Text.isPythonSpace c = true) ∧ text = blanks ++ rest :=
  ⟨text.takeWhile Text.isPythonSpace,fun _ among => List.mem_takeWhile_imp among,by
    rw [← dropped,List.takeWhile_append_dropWhile]⟩

theorem RangeText.ne_nil {value : List Char × List Char} {part : List Char} (shape : RangeText value part) :
    part ≠ [] := by
  cases shape with
  | mk starts before dashed after stops =>
    obtain ⟨a,rest,rfl,-⟩ := starts.starts
    exact List.cons_ne_nil _ _

theorem rangeAt_some {start stop blanks blanks' : List Char} {dash : Char} (starts : Clock start)
    (before : ∀ c ∈ blanks, Text.isPythonSpace c = true) (dashed : dash ∈ dashes)
    (after : ∀ c ∈ blanks', Text.isPythonSpace c = true) (stops : Clock stop) (rest : List Char) :
    rangeAt (start ++ (blanks ++ dash :: (blanks' ++ stop)) ++ rest) = some ((start,stop),rest) := by
  obtain ⟨a,more,rfl,numeral⟩ := stops.starts
  have first : clockAt (start ++ (blanks ++ dash :: (blanks' ++ a :: more)) ++ rest) =
      some (start,blanks ++ dash :: (blanks' ++ a :: more ++ rest)) :=
    clockAt_iff.mpr ⟨starts,by simp⟩
  have second : clockAt (a :: (more ++ rest)) = some (a :: more,rest) := clockAt_iff.mpr ⟨stops,rfl⟩
  unfold rangeAt
  rw [first]
  dsimp only
  rw [dropWhile_blanks before (dash_not_space dashed)]
  dsimp only
  rw [if_pos dashed,List.append_assoc,List.cons_append,dropWhile_blanks after (numeral_not_space numeral),second]
  rfl

theorem rangeAt_matcher : Scan.Matcher RangeText rangeAt where
  nonempty _ shape := shape.ne_nil rfl
  exact_ text value rest := by
    constructor
    · intro found
      unfold rangeAt at found
      split at found
      · cases found
      · next start behind first =>
        obtain ⟨starts,rfl⟩ := clockAt_iff.mp first
        split at found
        · cases found
        · next dash more dropped =>
          split at found
          · next dashed =>
            obtain ⟨⟨stop,last⟩,second,same⟩ := Option.map_eq_some_iff.mp found
            cases same
            obtain ⟨stops,after⟩ := clockAt_iff.mp second
            obtain ⟨blanks,before,rfl⟩ := skipped_blanks dropped
            obtain ⟨blanks',between,rfl⟩ := skipped_blanks after
            exact ⟨_,.mk starts before dashed between stops,by simp⟩
          · cases found
    · rintro ⟨part,shape,rfl⟩
      cases shape with
      | mk starts before dashed after stops => exact rangeAt_some starts before dashed after stops rest

/-- The search finds the ranges of a text. -/
theorem findRanges_eq {text : List Char} {ranges : List (List Char × List Char)}
    (found : Scan.Found RangeText text ranges) : findRanges text = ranges := rangeAt_matcher.findAll_eq found

theorem ranges_found (text : List Char) : Scan.Found RangeText text (findRanges text) := rangeAt_matcher.found text

end Matching

section Mentions

theorem infix_lower {part text : List Char} (within : part <:+: text) : lower part <:+: lower text := by
  obtain ⟨before,after,rfl⟩ := within
  exact ⟨lower before,lower after,by simp [lower]⟩

theorem infix_strippedText {part nodes : List (List Char)} (within : part <:+: nodes) :
    strippedText part <:+: strippedText nodes := by
  obtain ⟨before,after,rfl⟩ := within
  exact ⟨strippedText before,strippedText after,by simp [strippedText]⟩

theorem lowerChar_space {c : Char} (space : Text.isPythonSpace c = true) : Text.lowerChar c = [c] := by
  have far : ¬ (65 ≤ c.toNat ∧ c.toNat ≤ 90) ∧ c.toNat ≠ 0x130 ∧ c.toNat ≠ 0x212A := by
    unfold Text.isPythonSpace Text.isWhitespace at space
    simp only [Bool.or_eq_true,Bool.and_eq_true,decide_eq_true_eq] at space
    omega
  have same : Text.asciiLowerChar c = c := if_neg fun capital => far.1 ⟨capital.1,capital.2⟩
  unfold Text.lowerChar
  rw [if_neg far.2.1,if_neg far.2.2,same]

namespace ResetTable

variable {table : ResetTable} {region : Region}

/-- The header is part of the table, and adds nothing to what the table mentions. -/
theorem mentions_iff :
    table.mentions region = true ↔ lower region.name.toList <:+: lower (strippedText table.nodes) := by
  unfold mentions
  rw [Bool.or_eq_true,Text.containsChars_iff,Text.containsChars_iff]
  exact or_iff_right_of_imp fun header => header.trans (infix_lower (infix_strippedText table.within))

theorem solid_of_lower {word : List Char} (same : lower word = lower region.name.toList) :
    ∀ c ∈ word, Text.isPythonSpace c = false := by
  have letters : (lower region.name.toList).all (fun c => !Text.isPythonSpace c) = true := by
    cases region <;> decide
  intro c among
  by_contra blank
  have space : Text.isPythonSpace c = true := Bool.of_not_eq_false blank
  -- A blank is its own lower case, so it would be a letter of the region.
  have letter : c ∈ lower region.name.toList := by
    rw [← same]
    exact List.mem_flatMap.mpr ⟨c,among,by rw [lowerChar_space space]; exact List.mem_cons_self⟩
  exact blank (by simpa using List.all_eq_true.mp letters c letter)

/-- A region that is named is mentioned. -/
theorem mentions_of_names {isLetter : Char → Bool} (named : table.Names isLetter region) :
    table.mentions region = true := by
  obtain ⟨node,member,word,among,same⟩ := named
  have part : word <:+: stripped node :=
    Text.infix_trimChars (solid_of_lower same) (Text.infix_of_mem_splitOnP among)
  have whole : stripped node <:+: strippedText table.nodes := by
    obtain ⟨before,after,split_⟩ := List.append_of_mem member
    rw [split_]
    exact ⟨strippedText before,strippedText after,by simp [strippedText]⟩
  rw [mentions_iff,← same]
  exact infix_lower (part.trans whole)

end ResetTable

end Mentions

section Windows

/-- What a table contributes for a region. -/
def ResetTable.windows (table : ResetTable) (weekend : Bool) (region : Region) : List ScrapedWindow :=
  (findRanges table.text).filterMap (resetWindow region weekend)

variable {isLetter : Char → Bool}

/-- The windows of a table: its valid ranges, each once, for its region and zone. -/
def RegionTable.resets (table : RegionTable isLetter) (weekend : Bool) : List ScrapedWindow :=
  table.ranges.filterMap (resetWindow table.region weekend)

theorem flatMap_sublist {α β : Type*} {f g : α → List β} {list : List α}
    (part : ∀ a ∈ list, List.Sublist (f a) (g a)) : List.Sublist (list.flatMap f) (list.flatMap g) := by
  induction list with
  | nil => exact List.Sublist.refl []
  | cons a list ih =>
    rw [List.flatMap_cons,List.flatMap_cons]
    exact (part a List.mem_cons_self).append (ih fun b among => part b (List.mem_cons_of_mem a among))

/-- Lists that hold others in order are these when they are so all together. -/
theorem flatMap_eq_iff {α β : Type*} {f g : α → List β} {list : List α}
    (part : ∀ a ∈ list, List.Sublist (f a) (g a)) :
    list.flatMap g = list.flatMap f ↔ ∀ a ∈ list, g a = f a := by
  induction list with
  | nil => exact iff_of_true rfl fun a among => by cases among
  | cons a list ih =>
    have first := part a List.mem_cons_self
    have rest := fun b among => part b (List.mem_cons_of_mem a among)
    rw [List.flatMap_cons,List.flatMap_cons,List.forall_mem_cons,← ih rest]
    constructor
    · intro same
      have lengths := congrArg List.length same
      rw [List.length_append,List.length_append] at lengths
      have short := first.length_le
      have shorter := (flatMap_sublist rest).length_le
      have head : f a = g a := first.eq_of_length (by omega)
      rw [head] at same
      exact ⟨head.symm,List.append_cancel_left same⟩
    · rintro ⟨head,tail⟩
      rw [head,tail]

/-- What the parser makes of one table. -/
def ResetTable.parsed (table : ResetTable) (weekend : Bool) : List ScrapedWindow :=
  (Region.all.filter table.mentions).flatMap (table.windows weekend)

theorem parseResets_eq (tables : List ResetTable) (weekend : Bool) :
    parseResets tables weekend = tables.flatMap fun table => table.parsed weekend := by
  unfold parseResets
  congr 1
  funext table
  unfold ResetTable.parsed
  induction Region.all with
  | nil => rfl
  | cons region rest ih =>
    rw [List.flatMap_cons,ih,List.filter_cons]
    split
    · rw [List.flatMap_cons]
      rfl
    · rfl

namespace RegionTable

variable {table : RegionTable isLetter} {weekend : Bool}

theorem resets_eq : table.resets weekend = table.windows weekend table.region := by
  unfold resets ResetTable.windows
  rw [findRanges_eq table.found]

theorem resets_sublist : List.Sublist (table.resets weekend) (table.parsed weekend) := by
  have known : table.region ∈ Region.all := by cases table.region <;> decide
  have hit : table.region ∈ Region.all.filter table.mentions :=
    List.mem_filter.mpr ⟨known,ResetTable.mentions_of_names table.named⟩
  obtain ⟨before,after,split_⟩ := List.append_of_mem hit
  unfold ResetTable.parsed
  rw [resets_eq,split_,List.flatMap_append,List.flatMap_cons]
  exact (List.sublist_append_left _ _).trans (List.sublist_append_right _ _)

theorem region_of_mem {other : Region} {window : ScrapedWindow} (among : window ∈ table.windows weekend other) :
    window.region = other.name := by
  obtain ⟨range,-,made⟩ := List.mem_filterMap.mp among
  unfold resetWindow at made
  split at made
  · cases made
    rfl
  · cases made

/-- The table has a range of valid times. -/
def HasReset (table : RegionTable isLetter) : Prop :=
  ∃ range ∈ table.ranges, (parseTime range.1).isSome = true ∧ (parseTime range.2).isSome = true

theorem windows_eq_nil_iff {other : Region} : table.windows weekend other = [] ↔ ¬ table.HasReset := by
  unfold ResetTable.windows HasReset
  rw [findRanges_eq table.found,List.filterMap_eq_nil_iff]
  push Not
  refine forall₂_congr fun range _ => ?_
  unfold resetWindow
  cases parseTime range.1 with
  | none => simp
  | some start => cases parseTime range.2 <;> simp

/-- A table is read right when it has no valid range, or its text has the letters of no other
region. -/
theorem parsed_iff :
    table.parsed weekend = table.resets weekend ↔
      (table.HasReset → ∀ other, lower other.name.toList <:+: lower (strippedText table.nodes) →
        other = table.region) := by
  constructor
  · intro same valid other letters
    have hit : other ∈ Region.all.filter table.mentions :=
      List.mem_filter.mpr ⟨by cases other <;> decide,ResetTable.mentions_iff.mpr letters⟩
    have some_ : table.windows weekend other ≠ [] := fun nothing => windows_eq_nil_iff.mp nothing valid
    obtain ⟨window,among⟩ := List.exists_mem_of_ne_nil _ some_
    have read : window ∈ table.parsed weekend := List.mem_flatMap.mpr ⟨other,hit,among⟩
    rw [same,resets_eq] at read
    have names := (region_of_mem among).symm.trans (region_of_mem read)
    exact Region.name_injective names
  · intro alone
    by_cases valid : table.HasReset
    · have mentioned (other : Region) : table.mentions other = decide (other = table.region) := by
        by_cases same : other = table.region
        · rw [same,ResetTable.mentions_of_names table.named,decide_eq_true rfl]
        · rw [decide_eq_false same]
          exact Bool.of_not_eq_true fun hit => same (alone valid other (ResetTable.mentions_iff.mp hit))
      have one : Region.all.filter table.mentions = [table.region] := by
        rw [List.filter_congr fun other _ => mentioned other]
        cases table.region <;> decide
      unfold ResetTable.parsed
      rw [one,resets_eq,List.flatMap_singleton]
    · have nothing (other : Region) : table.windows weekend other = [] := windows_eq_nil_iff.mpr valid
      unfold ResetTable.parsed
      rw [resets_eq,nothing,List.flatMap_eq_nil_iff]
      exact fun other _ => nothing other

end RegionTable

/-- The tables of a page yield exactly their own ranges for their own regions just when no table
with a valid range has the letters of another region in its text. -/
theorem resets_of_region_iff (isLetter : Char → Bool) (tables : List (RegionTable isLetter)) (weekend : Bool) :
    parseResets (tables.map RegionTable.toResetTable) weekend = tables.flatMap (RegionTable.resets · weekend) ↔
      ∀ table ∈ tables, table.HasReset →
        ∀ other, lower other.name.toList <:+: lower (strippedText table.nodes) → other = table.region := by
  rw [parseResets_eq,List.flatMap_map,flatMap_eq_iff fun table _ => table.resets_sublist]
  exact forall₂_congr fun table _ => table.parsed_iff

section Sample

def euNodes : List (List Char) := ["EU maintenance".toList,"23:45 - 01:00".toList]

/-- A table of the region EU. -/
def euTable : RegionTable Char.isAlpha where
  header := euNodes.take 1
  nodes := euNodes
  within := (List.take_prefix 1 euNodes).isInfix
  region := .eu
  named := by decide +kernel
  only other named := by
    revert named
    cases other <;> decide +kernel
  ranges := findRanges euNodes.flatten
  found := ranges_found _

/-- The word of the table that contains the letters of the region NA adds a window of New York. -/
theorem maintenance_adds_region :
    parseResets ([euTable].map RegionTable.toResetTable) false ≠ [euTable].flatMap (RegionTable.resets · false) := by
  decide +kernel

end Sample

end Windows

end Ibctl.Dashboard
