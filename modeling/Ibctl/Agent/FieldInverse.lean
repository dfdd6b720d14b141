import Ibctl.Agent.JsonField
import Mathlib.Data.List.Permutation

/-! The agent finds in a body what the client put there. A name in quotes occurs at the member or at
the end of an earlier value, and the next colon is the member's own in both places. -/
namespace Ibctl.Agent
open Json Occurrence

section Names

structure IsName (name : String) : Prop where
  nonempty : name.toList ≠ []
  letters : name.toList.all Char.isAlpha = true

theorem letter_bounds {c : Char} (letter : c.isAlpha = true) :
    65 ≤ c.toNat ∧ c.toNat ≤ 122 ∧ c.toNat ≠ 92 := by
  delta Char.isAlpha Char.isUpper Char.isLower at letter
  simp only [Bool.or_eq_true,Bool.and_eq_true,decide_eq_true_eq] at letter
  have bounds : 65 ≤ c.toNat ∧ c.toNat ≤ 90 ∨ 97 ≤ c.toNat ∧ c.toNat ≤ 122 := letter
  omega

theorem escapeChar_letter {c : Char} (letter : c.isAlpha = true) : escapeChar c = [c] := by
  have bounds := letter_bounds letter
  have absent : shortEscapes.find? (fun pair => pair.2 = c) = none := by
    apply List.find?_eq_none.mpr
    intro pair known same
    have other : ∀ pair ∈ shortEscapes, pair.2.isAlpha = false := by decide
    have not_letter := other pair known
    rw [of_decide_eq_true same,letter] at not_letter
    cases not_letter
  unfold escapeChar
  rw [absent]
  exact if_neg (by omega)

namespace IsName

variable {name : String} (isName : IsName name)
include isName

theorem javaString_eq : javaString name.toList = name.toList.map Char.toNat := by
  apply javaString_ascii
  intro c among
  have bounds := letter_bounds (List.all_eq_true.mp isName.letters c among)
  omega

theorem unit {u : Nat} (among : u ∈ javaString name.toList) : 65 ≤ u ∧ u ≤ 122 ∧ u ≠ 92 := by
  rw [isName.javaString_eq] at among
  obtain ⟨c,inside,rfl⟩ := List.mem_map.mp among
  exact letter_bounds (List.all_eq_true.mp isName.letters c inside)

theorem unescaped : name.toList.flatMap escapeChar = name.toList := by
  have same : ∀ c ∈ name.toList, escapeChar c = [c] := fun c among =>
    escapeChar_letter (List.all_eq_true.mp isName.letters c among)
  rw [List.flatMap_congr same,List.flatMap_singleton']

theorem quote_eq : javaString (quote name) = key name := by
  unfold quote key
  rw [isName.unescaped]

theorem inj {other : String} (isOther : IsName other)
    (same : javaString name.toList = javaString other.toList) : name = other := by
  rw [isName.javaString_eq,isOther.javaString_eq] at same
  have injective : Function.Injective Char.toNat := fun _ _ equal => Char.toNat_inj.mp equal
  exact String.toList_inj.mp (List.map_injective_iff.mpr injective same)

theorem not_mem {u : Nat} (far : u < 65 ∨ 122 < u ∨ u = 92) : u ∉ javaString name.toList := by
  intro among
  have bounds := isName.unit among
  omega

end IsName

theorem key_eq (field : String) :
    key field = '"'.toNat :: (javaString field.toList ++ ['"'.toNat]) := by
  unfold key
  rw [List.cons_append,javaString_cons,javaString_append]
  rfl

end Names

section Search

variable {field : String}

theorem behind_key (rest : List Nat) : behind (key field) (key field ++ rest) = some rest :=
  behind_hit _ _

theorem behind_skip {us : List Nat} (absent : '"'.toNat ∉ us) (rest : List Nat) :
    behind (key field) (us ++ rest) = behind (key field) rest := by
  rw [key_eq]
  exact behind_append absent rest

theorem behind_step {u : Nat} (other : u ≠ '"'.toNat) (rest : List Nat) :
    behind (key field) (u :: rest) = behind (key field) rest := by
  rw [key_eq]
  exact behind_other other rest

/-- The search stops at the quote before the tail, or goes on from there. -/
def Passes (field : String) (text tail : List Nat) : Prop :=
  behind (key field) text = some tail ∨
    behind (key field) text = behind (key field) ('"'.toNat :: tail)

theorem Passes.skip {us text tail : List Nat} (absent : '"'.toNat ∉ us)
    (passes : Passes field text tail) : Passes field (us ++ text) tail := by
  unfold Passes
  rw [behind_skip absent]
  exact passes

variable (isName : IsName field)
include isName

theorem scanString_name (rest : List Nat) :
    scanString (javaString field.toList ++ '"'.toNat :: rest) = (javaString field.toList,false) := by
  rw [scanString_plain (isName.not_mem (by decide)) (isName.not_mem (by decide)),scanString_quote]
  simp

/-- The quoted name at the start of a string is the whole of it: both end at the first quote. -/
theorem eq_of_key_start {cs : List Char} {tail : List Nat}
    (found : key field <+: '"'.toNat :: (javaString (cs.flatMap escapeChar) ++ '"'.toNat :: tail)) :
    javaString (cs.flatMap escapeChar) = javaString field.toList := by
  rw [key_eq,List.cons_prefix_cons] at found
  obtain ⟨-,more,same⟩ := found
  rw [List.append_assoc,List.singleton_append] at same
  have scanned := congrArg scanString same
  rw [scanString_name isName,scanString_written] at scanned
  exact (congrArg Prod.fst scanned).symm

theorem behind_punctuation {u : Nat} (far : u < 65 ∨ 122 < u) (rest : List Nat) :
    behind (key field) ('"'.toNat :: u :: rest) = behind (key field) (u :: rest) := by
  apply behind_miss
  rw [key_eq,List.cons_prefix_cons]
  rintro ⟨-,more,same⟩
  cases letters : javaString field.toList with
  | nil =>
    rw [isName.javaString_eq] at letters
    exact isName.nonempty (List.map_eq_nil_iff.mp letters)
  | cons v vs =>
    rw [letters] at same
    have bounds := isName.unit (u := v) (by simp [letters])
    have equal : v = u := (List.cons.inj same).1
    omega

theorem Passes.opened {cs : List Char} {tail : List Nat}
    (passes : Passes field (javaString (cs.flatMap escapeChar) ++ '"'.toNat :: tail) tail) :
    Passes field ('"'.toNat :: (javaString (cs.flatMap escapeChar) ++ '"'.toNat :: tail)) tail := by
  by_cases found : key field <+: '"'.toNat :: (javaString (cs.flatMap escapeChar) ++ '"'.toNat :: tail)
  · have whole : '"'.toNat :: (javaString (cs.flatMap escapeChar) ++ '"'.toNat :: tail) =
        key field ++ tail := by
      rw [eq_of_key_start isName found,key_eq,List.cons_append,List.append_assoc]
      rfl
    exact .inl (by rw [whole,behind_key])
  · unfold Passes
    rw [behind_miss found]
    exact passes

/-- The quoted name ends where the string does, even where it starts at an escaped quote. -/
theorem passes_string (cs : List Char) (tail : List Nat) :
    Passes field (javaString (cs.flatMap escapeChar) ++ '"'.toNat :: tail) tail := by
  induction cs with
  | nil => exact .inr rfl
  | cons c cs ih =>
    rw [List.flatMap_cons,javaString_append,List.append_assoc]
    generalize written : javaString (escapeChar c) = us
    have escape := escaped c
    rw [written] at escape
    cases escape with
    | short letter known =>
      by_cases quote : letter = '"'
      · rw [quote]
        exact @Passes.skip _ ['\\'.toNat] _ _ (by decide) (Passes.opened isName ih)
      · have other : '"'.toNat ≠ letter.toNat := fun same => quote (Char.toNat_inj.mp same.symm)
        exact @Passes.skip _ ['\\'.toNat,letter.toNat] _ _ (by simpa using other) ih
    | control below =>
      have far := (hex4_units c.toNat).1
      apply Passes.skip _ ih
      rw [List.mem_cons,List.mem_cons,not_or,not_or]
      exact ⟨by decide,by decide,far⟩
    | plain quote slash => exact ih.skip quote

theorem behind_string (cs : List Char) (tail : List Nat) :
    Passes field (javaString ('"' :: cs.flatMap escapeChar ++ ['"']) ++ tail) tail := by
  have opened := Passes.opened isName (passes_string isName cs tail)
  rw [List.cons_append,javaString_cons,javaString_append,List.append_assoc,List.append_assoc]
  exact opened

end Search

section Members

theorem writeMember_eq {name : String} (isName : IsName name) (value : BodyValue) :
    javaString (writeMember (name,value)) = key name ++ ':'.toNat :: javaString value.write := by
  unfold writeMember
  rw [javaString_append,isName.quote_eq]
  rfl

theorem digit_units {n u : Nat} (among : u ∈ (Decimal.write n).map Char.toNat) : 48 ≤ u ∧ u ≤ 57 := by
  obtain ⟨c,digit,rfl⟩ := List.mem_map.mp among
  exact Decimal.isDigit_bounds (Decimal.isDigit_of_mem_write digit)

theorem write_units (n : Nat) : javaString (Decimal.write n) = (Decimal.write n).map Char.toNat := by
  apply javaString_ascii
  intro c among
  have bounds := Decimal.isDigit_bounds (Decimal.isDigit_of_mem_write among)
  omega

variable {field : String} (isName : IsName field)
include isName

/-- Another name is passed over with its quotes. -/
theorem behind_name {name : String} (named : IsName name) (other : name ≠ field) (rest : List Nat) :
    behind (key field) (key name ++ rest) = behind (key field) ('"'.toNat :: rest) := by
  have quoted : key name ++ rest =
      '"'.toNat :: (javaString (name.toList.flatMap escapeChar) ++ '"'.toNat :: rest) := by
    rw [key_eq,named.unescaped,List.cons_append,List.append_assoc]
    rfl
  have absent : ¬ key field <+:
      '"'.toNat :: (javaString (name.toList.flatMap escapeChar) ++ '"'.toNat :: rest) := by
    intro found
    have same := eq_of_key_start isName found
    rw [named.unescaped] at same
    exact other (named.inj isName same)
  rw [quoted,behind_miss absent,named.unescaped]
  exact behind_skip (named.not_mem (by decide)) _

/-- The search stops at the end of a value, or goes on there. -/
theorem behind_value (value : BodyValue) {u : Nat} (far : u < 65 ∨ 122 < u) (rest : List Nat) :
    behind (key field) (javaString value.write ++ u :: rest) = some (u :: rest) ∨
      behind (key field) (javaString value.write ++ u :: rest) = behind (key field) (u :: rest) := by
  cases value with
  | string text =>
    rw [← behind_punctuation isName far]
    exact behind_string isName text.toList (u :: rest)
  | number n =>
    right
    apply behind_skip
    rw [BodyValue.write,write_units]
    intro among
    exact absurd (digit_units among) (by decide)

end Members

section Values

variable (character : JavaCharacter)

theorem readField_write (value : BodyValue) {u : Nat} (close : u = ','.toNat ∨ u = '}'.toNat)
    (rest : List Nat) :
    readField character (javaString value.write ++ u :: rest) =
      .ok (some (javaString value.argument.toList)) := by
  cases value with
  | string text =>
    have opened : javaString (BodyValue.string text).write ++ u :: rest =
        '"'.toNat :: (javaString (text.toList.flatMap escapeChar) ++ '"'.toNat :: u :: rest) := by
      rw [BodyValue.write,quote,List.cons_append,javaString_cons,javaString_append,List.append_assoc,List.append_assoc]
      rfl
    unfold readField
    rw [opened,List.dropWhile_cons_of_neg (by decide)]
    simp only [if_true,scanString_written]
    rw [if_neg (by simp),decodeJsonString_written]
    rfl
  | number n =>
    have digits : ∀ v ∈ (Decimal.write n).map Char.toNat, isDigit character v = true := by
      intro v among
      have bounds := digit_units among
      unfold isDigit
      rw [if_pos (by omega),decide_eq_true_eq]
      exact bounds
    have closing : isDigit character u = false ∧ u ≠ '-'.toNat ∧ u ≠ '.'.toNat := by
      rcases close with rfl | rfl <;> exact ⟨rfl,by decide,by decide⟩
    have nonempty : (Decimal.write n).map Char.toNat ≠ [] := fun none =>
      Decimal.write_ne_nil n (List.map_eq_nil_iff.mp none)
    rw [BodyValue.write,BodyValue.argument,String.toList_ofList,write_units]
    unfold readField
    cases written : (Decimal.write n).map Char.toNat with
    | nil => exact absurd written nonempty
    | cons first more =>
      rw [written] at digits
      have bounds := digit_units (n := n) (u := first) (by simp [written])
      have solid : first ≠ ' '.toNat ∧ first ≠ '"'.toNat := by
        constructor <;> rintro rfl <;> exact absurd bounds (by decide)
      rw [List.cons_append,List.dropWhile_cons_of_neg (by simpa using solid.1)]
      dsimp only
      rw [if_neg solid.2,if_pos (by simp [digits first]),← List.cons_append,
        List.takeWhile_append_of_pos (by intro v among; simp [digits v among]),
        List.takeWhile_cons_of_neg (by simpa [closing.1] using closing.2),List.append_nil]

variable {character} {field name : String}

theorem extract_of_behind {json rest text : List Nat} (found : behind (key field) json = some rest)
    (colon : behind [':'.toNat] rest = some text) :
    extractJsonField character json field = readField character text := by
  unfold extractJsonField
  simp only [found,colon]

/-- The units of a body with one member, or of the first of them. -/
def opening (name : String) (value : BodyValue) (rest : List Nat) : List Nat :=
  '{'.toNat :: (key name ++ ':'.toNat :: (javaString value.write ++ rest))

theorem behind_opening (isName : IsName field) (named : IsName name) (other : name ≠ field)
    (value : BodyValue) (rest : List Nat) :
    behind (key field) (opening name value rest) =
      behind (key field) (javaString value.write ++ rest) := by
  unfold opening
  rw [behind_step (by decide),behind_name isName named other,behind_punctuation isName (by decide),
    behind_step (by decide)]

theorem extract_first (value : BodyValue) {u : Nat} (close : u = ','.toNat ∨ u = '}'.toNat)
    (rest : List Nat) :
    extractJsonField character (opening field value (u :: rest)) field =
      .ok (some (javaString value.argument.toList)) := by
  have found : behind (key field) (opening field value (u :: rest)) =
      some (':'.toNat :: (javaString value.write ++ u :: rest)) := by
    unfold opening
    rw [behind_step (by decide),behind_key]
  rw [extract_of_behind found (behind_hit [':'.toNat] _)]
  exact readField_write character value close rest

/-- Whether the search stops at the end of the first value or at the name, the colon behind is the
one of the second member. -/
theorem extract_second (isName : IsName field) (named : IsName name) (other : name ≠ field)
    (before value : BodyValue) :
    extractJsonField character
        (opening name before (','.toNat :: (key field ++
          ':'.toNat :: (javaString value.write ++ ['}'.toNat])))) field =
      .ok (some (javaString value.argument.toList)) := by
  have colon := behind_hit [':'.toNat] (javaString value.write ++ ['}'.toNat])
  have passed : ':'.toNat ∉ ','.toNat :: key field := by
    rw [key_eq,List.mem_cons,List.mem_cons,List.mem_append,not_or,not_or,not_or]
    exact ⟨by decide,by decide,isName.not_mem (by decide),by decide⟩
  rw [← readField_write character value (.inr rfl) []]
  have searched := behind_opening isName named other before (','.toNat :: (key field ++
    ':'.toNat :: (javaString value.write ++ ['}'.toNat])))
  rcases behind_value isName before (u := ','.toNat) (by decide) (key field ++
    ':'.toNat :: (javaString value.write ++ ['}'.toNat])) with stopped | went
  · apply extract_of_behind (searched.trans stopped)
    rw [← List.cons_append,behind_append passed]
    exact colon
  · rw [behind_step (by decide),behind_key] at went
    exact extract_of_behind (searched.trans went) colon

theorem extract_absent (isName : IsName field) (named : IsName name) (other : name ≠ field)
    (value : BodyValue) :
    extractJsonField character (opening name value ['}'.toNat]) field = .ok none := by
  have searched := behind_opening isName named other value ['}'.toNat]
  unfold extractJsonField
  rcases behind_value isName value (u := '}'.toNat) (by decide) [] with stopped | went
  · rw [searched.trans stopped]
    rfl
  · have nothing : behind (key field) ['}'.toNat] = none := by
      rw [key_eq]
      exact behind_none (by decide)
    rw [searched.trans went,nothing]

end Values

section Bodies

variable {character : JavaCharacter} {field name : String}

theorem writeBody_single (named : IsName name) (value : BodyValue) :
    javaString (writeBody [(name,value)]) = opening name value ['}'.toNat] := by
  have member := writeMember_eq named value
  unfold writeBody opening
  rw [List.map_singleton,List.intercalate_singleton,List.cons_append,javaString_cons,
    javaString_append,member,List.append_assoc]
  rfl

theorem writeBody_pair (named : IsName name) (isName : IsName field) (before value : BodyValue) :
    javaString (writeBody [(name,before),(field,value)]) =
      opening name before (','.toNat :: (key field ++
        ':'.toNat :: (javaString value.write ++ ['}'.toNat]))) := by
  have members : List.intercalate [','] [writeMember (name,before),writeMember (field,value)] =
      writeMember (name,before) ++ ',' :: writeMember (field,value) := by
    simp [List.intercalate]
  unfold writeBody opening
  rw [List.map_cons,List.map_singleton,members,List.cons_append,javaString_cons,javaString_append,
    javaString_append,javaString_cons,writeMember_eq named,writeMember_eq isName]
  simp only [List.append_assoc,List.cons_append]
  rfl

/-- What the agent is to find of a field. -/
def argumentOf (members : List Member) (field : String) : Option (List Nat) :=
  (members.lookup field).map fun value => javaString value.argument.toList

theorem extract_single (isName : IsName field) (named : IsName name) (value : BodyValue) :
    extractJsonField character (javaString (writeBody [(name,value)])) field =
      .ok (argumentOf [(name,value)] field) := by
  rw [writeBody_single named]
  by_cases same : name = field
  · subst same
    rw [extract_first value (.inr rfl)]
    simp [argumentOf]
  · rw [extract_absent isName named same]
    simp [argumentOf,List.lookup_cons,beq_eq_false_iff_ne.mpr (Ne.symm same)]

theorem extract_either {first second : String} (one : IsName first) (two : IsName second)
    (other : first ≠ second) (value next : BodyValue) :
    extractJsonField character (javaString (writeBody [(first,value),(second,next)])) first =
        .ok (some (javaString value.argument.toList)) ∧
      extractJsonField character (javaString (writeBody [(first,value),(second,next)])) second =
        .ok (some (javaString next.argument.toList)) := by
  rw [writeBody_pair one two]
  exact ⟨extract_first value (.inl rfl) _,extract_second two one other value next⟩

theorem extract_pair {first second : String} (one : IsName first) (two : IsName second)
    (other : first ≠ second) (value next : BodyValue) {order : List Member}
    (either : order.Perm [(first,value),(second,next)]) (read : field ∈ [first,second]) :
    extractJsonField character (javaString (writeBody order)) field =
      .ok (argumentOf [(first,value),(second,next)] field) := by
  have values : argumentOf [(first,value),(second,next)] first =
        some (javaString value.argument.toList) ∧
      argumentOf [(first,value),(second,next)] second = some (javaString next.argument.toList) := by
    simp [argumentOf,List.lookup_cons,beq_eq_false_iff_ne.mpr (Ne.symm other)]
  rw [List.mem_cons,List.mem_singleton] at read
  rcases List.perm_pair.mp either with straight | reversed
  · obtain ⟨found,next_found⟩ := @extract_either character _ _ one two other value next
    rw [straight]
    rcases read with rfl | rfl
    · rw [found,values.1]
    · rw [next_found,values.2]
  · obtain ⟨next_found,found⟩ := @extract_either character _ _ two one (Ne.symm other) next value
    rw [reversed]
    rcases read with rfl | rfl
    · rw [found,values.1]
    · rw [next_found,values.2]

theorem isName (name : String) (known : name ∈ ["label","fieldIndex","text","hints","path","state",
    "item","x","y","node","key"]) : IsName name := by
  have each : ∀ name ∈ ["label","fieldIndex","text","hints","path","state","item","x","y","node",
      "key"], name.toList ≠ [] ∧ name.toList.all Char.isAlpha = true := by
    decide
  exact ⟨(each name known).1,(each name known).2⟩

theorem Request.isName_fields (request : Request) : ∀ field ∈ request.fields, IsName field := by
  intro field read
  apply isName field
  cases request <;> simp only [Request.fields,List.mem_cons,List.not_mem_nil,or_false] at read
  all_goals simp only [List.mem_cons]; grind

/-- The members of a body reach the agent as they were sent, in whatever order they are written. -/
theorem extractJsonField_inverts (character : JavaCharacter) (request : Request)
    (order : List Member) (either : order.Perm request.body) (field : String)
    (read : field ∈ request.fields) :
    extractJsonField character (javaString (writeBody order)) field =
      .ok (argumentOf request.body field) := by
  have fieldIs := request.isName_fields field read
  have alone {name : String} {value : BodyValue} (named : IsName name)
      (one : request.body = [(name,value)]) :
      extractJsonField character (javaString (writeBody order)) field =
        .ok (argumentOf request.body field) := by
    rw [one] at either ⊢
    rw [List.perm_singleton.mp either]
    exact extract_single fieldIs named value
  cases request with
  | clickButton label => exact alone (isName "label" (by decide)) rfl
  | typeText fieldIndex text =>
    exact extract_pair (isName "fieldIndex" (by decide)) (isName "text" (by decide)) (by decide) _ _
      either read
  | typeTextByLabel label text =>
    exact extract_pair (isName "label" (by decide)) (isName "text" (by decide)) (by decide) _ _
      either read
  | typeTextBest text =>
    exact extract_pair (isName "text" (by decide)) (isName "hints" (by decide)) (by decide) _ _
      either read
  | clickMenu menuPath => exact alone (isName "path" (by decide)) rfl
  | setCheckbox label state =>
    cases state with
    | none => exact alone (isName "label" (by decide)) rfl
    | some state =>
      exact extract_pair (isName "label" (by decide)) (isName "state" (by decide)) (by decide) _ _
        either read
  | setCombobox label item =>
    exact extract_pair (isName "label" (by decide)) (isName "item" (by decide)) (by decide) _ _
      either read
  | selectListItem itemText => exact alone (isName "item" (by decide)) rfl
  | clickAt x y =>
    exact extract_pair (isName "x" (by decide)) (isName "y" (by decide)) (by decide) _ _ either read
  | selectTreeNode nodeName => exact alone (isName "node" (by decide)) rfl
  | sendKey key => exact alone (isName "key" (by decide)) rfl

/-- A label that opens the quoted name of the other member, written before it. -/
theorem extractJsonField_after_item :
    extractJsonField ⟨fun _ => none,fun _ => false⟩ (javaString (writeBody
        [("item",.string "a:\x7b\\"),("label",.string "\"item")])) "label" =
      .ok (some (javaString "\"item".toList)) := by
  have found := extractJsonField_inverts ⟨fun _ => none,fun _ => false⟩
    (.setCombobox "\"item" "a:\x7b\\") [("item",.string "a:\x7b\\"),("label",.string "\"item")]
    (.swap _ _ _) "label" (by decide)
  exact found

end Bodies

end Ibctl.Agent
