import Mathlib.Data.List.Basic
import Mathlib.Tactic.Common
import Ibctl.Lib.Decimal
import Ibctl.Lib.Json

/-! The text of JSON as Python's `json` writes it, in ASCII, and reads it. -/
namespace Json

section Hex

def hexDigits : List Char := "0123456789abcdef".toList

def hexChar (n : Nat) : Char := hexDigits.getD n '0'

def hexValue (c : Char) : Option Nat := hexDigits.findIdx? (fun d => d = Text.asciiLowerChar c)

theorem hexValue_hexChar : ∀ n < 16, hexValue (hexChar n) = some n := by decide +kernel

def hex4 (n : Nat) : List Char :=
  [hexChar (n / 4096 % 16),hexChar (n / 256 % 16),hexChar (n / 16 % 16),hexChar (n % 16)]

def readHex4 (a b c d : Char) : Option Nat :=
  match hexValue a,hexValue b,hexValue c,hexValue d with
  | some a,some b,some c,some d => some (a * 4096 + b * 256 + c * 16 + d)
  | _,_,_,_ => none

theorem readHex4_hex4 {n : Nat} (small : n < 65536) :
    readHex4 (hexChar (n / 4096 % 16)) (hexChar (n / 256 % 16)) (hexChar (n / 16 % 16))
      (hexChar (n % 16)) = some n := by
  unfold readHex4
  rw [hexValue_hexChar _ (by omega),hexValue_hexChar _ (by omega),hexValue_hexChar _ (by omega),
    hexValue_hexChar _ (by omega)]
  simp only [Option.some.injEq]
  omega

end Hex

section Units

/-- The UTF-16 units of a character. -/
def units (c : Char) : List Nat :=
  if c.toNat < 0x10000 then [c.toNat]
  else [0xD800 + (c.toNat - 0x10000) / 0x400,0xDC00 + (c.toNat - 0x10000) % 0x400]

/-- The characters of a sequence of units. A surrogate without its partner, which Python keeps,
is no character. -/
def joinUnits : List Nat → Option (List Char)
  | [] => some []
  | [u] => if 0xD800 ≤ u ∧ u < 0xE000 then none else some [Char.ofNat u]
  | u :: v :: rest =>
    if 0xD800 ≤ u ∧ u < 0xDC00 ∧ 0xDC00 ≤ v ∧ v < 0xE000 then
      (joinUnits rest).map (Char.ofNat (0x10000 + (u - 0xD800) * 0x400 + (v - 0xDC00)) :: ·)
    else if 0xD800 ≤ u ∧ u < 0xE000 then none
    else (joinUnits (v :: rest)).map (Char.ofNat u :: ·)

theorem not_surrogate (c : Char) : c.toNat < 0xD800 ∨ 0xE000 ≤ c.toNat ∧ c.toNat < 0x110000 := by
  rcases c.valid with low | high
  · exact .inl low
  · exact .inr ⟨by have := high.1; simp only [Char.toNat]; omega,high.2⟩

theorem joinUnits_cons (c : Char) (rest : List Nat) :
    joinUnits (units c ++ rest) = (joinUnits rest).map (c :: ·) := by
  have valid := not_surrogate c
  unfold units
  split
  · rename_i small
    cases rest with
    | nil =>
      change joinUnits [c.toNat] = some [c]
      rw [joinUnits,if_neg (by omega),Char.ofNat_toNat]
    | cons v rest =>
      rw [List.cons_append,List.nil_append,joinUnits,if_neg (by omega),if_neg (by omega),
        Char.ofNat_toNat]
  · have code : 0x10000 + (0xD800 + (c.toNat - 0x10000) / 0x400 - 0xD800) * 0x400 +
        (0xDC00 + (c.toNat - 0x10000) % 0x400 - 0xDC00) = c.toNat := by omega
    rw [List.cons_append,List.cons_append,List.nil_append,joinUnits,if_pos (by omega),code,
      Char.ofNat_toNat]

theorem joinUnits_units (cs : List Char) : joinUnits (cs.flatMap units) = some cs := by
  induction cs with
  | nil => rfl
  | cons c cs ih => rw [List.flatMap_cons,joinUnits_cons,ih,Option.map_some]

theorem units_lt (c : Char) : ∀ u ∈ units c, u < 65536 := by
  have valid := not_surrogate c
  unfold units
  split
  · rename_i small
    simpa using small
  · intro u found
    simp only [List.mem_cons,List.not_mem_nil,or_false] at found
    omega

end Units

section Strings

def escape (u : Nat) : List Char := '\\' :: 'u' :: hex4 u

/-- The short escapes, by the character behind the backslash. -/
def shortEscapes : List (Char × Char) :=
  [('"','"'),('\\','\\'),('n','\n'),('r','\r'),('t','\t'),('f',Char.ofNat 0xC),('b',Char.ofNat 8)]

/-- `ensure_ascii`: what is not printable ASCII is written as its units. -/
def writeChar (c : Char) : List Char :=
  match shortEscapes.find? (fun pair => pair.2 = c) with
  | some (letter,_) => ['\\',letter]
  | none => if 0x20 ≤ c.toNat ∧ c.toNat ≤ 0x7E then [c] else (units c).flatMap escape

def writeString (s : String) : List Char := '"' :: s.toList.flatMap writeChar ++ ['"']

def Printable (c : Char) : Prop := 0x20 ≤ c.toNat ∧ c.toNat ≤ 0x7E

instance (c : Char) : Decidable (Printable c) := inferInstanceAs (Decidable (_ ∧ _))

theorem printable_hexChar : ∀ n < 16, Printable (hexChar n) := by decide +kernel

theorem printable_escape {u : Nat} {c : Char} (found : c ∈ escape u) : Printable c := by
  simp only [escape,hex4,List.mem_cons,List.not_mem_nil,or_false] at found
  rcases found with rfl | rfl | rfl | rfl | rfl | rfl
  · decide
  · decide
  · exact printable_hexChar _ (by omega)
  · exact printable_hexChar _ (by omega)
  · exact printable_hexChar _ (by omega)
  · exact printable_hexChar _ (by omega)

theorem printable_writeChar {c d : Char} (found : d ∈ writeChar c) : Printable d := by
  unfold writeChar at found
  split at found
  · rename_i letter known short
    have letters : ∀ pair ∈ shortEscapes, Printable pair.1 := by decide
    have printed := letters _ (List.mem_of_find?_eq_some short)
    simp only [List.mem_cons,List.not_mem_nil,or_false] at found
    rcases found with rfl | rfl
    · decide
    · exact printed
  · split at found
    · rename_i printed
      obtain rfl := List.mem_singleton.mp found
      exact printed
    · obtain ⟨u,-,escaped⟩ := List.mem_flatMap.mp found
      exact printable_escape escaped

theorem printable_writeChars {cs : List Char} {c : Char} (found : c ∈ cs.flatMap writeChar) :
    Printable c := by
  obtain ⟨d,-,written⟩ := List.mem_flatMap.mp found
  exact printable_writeChar written

/-- The character an escape stands for; the slash may be escaped as well. -/
def readEscape (letter : Char) : Option Char :=
  if letter = '/' then some '/'
  else (shortEscapes.find? (fun pair => pair.1 = letter)).map Prod.snd

/-- A string behind its opening quote: its units, and what follows the closing one. -/
def readUnits : List Char → Option (List Nat × List Char)
  | [] => none
  | c :: rest =>
    if c = '"' then some ([],rest)
    else if c = '\\' then
      match rest with
      | [] => none
      | letter :: more =>
        if letter = 'u' then
          match more with
          | a :: b :: c :: d :: tail =>
            match readHex4 a b c d with
            | some u => (readUnits tail).map (fun read => (u :: read.1,read.2))
            | none => none
          | _ => none
        else
          match readEscape letter with
          | some e => (readUnits more).map (fun read => (units e ++ read.1,read.2))
          | none => none
    else if c.toNat < 0x20 then none
    else (readUnits rest).map (fun read => (units c ++ read.1,read.2))

def readString (cs : List Char) : Option (String × List Char) :=
  match readUnits cs with
  | some (us,after) => (joinUnits us).map (fun s => (String.ofList s,after))
  | none => none

theorem readUnits_plain {c : Char} (quote : c ≠ '"') (slash : c ≠ '\\') (printed : 0x20 ≤ c.toNat)
    (rest : List Char) :
    readUnits (c :: rest) = (readUnits rest).map (fun read => (units c ++ read.1,read.2)) := by
  rw [readUnits.eq_def]
  dsimp only
  rw [if_neg quote,if_neg slash,if_neg (by omega)]

theorem readUnits_escape {u : Nat} (small : u < 65536) (rest : List Char) :
    readUnits (escape u ++ rest) = (readUnits rest).map (fun read => (u :: read.1,read.2)) := by
  rw [escape,hex4,List.cons_append,List.cons_append,List.cons_append,List.cons_append,
    List.cons_append,List.cons_append,List.nil_append,readUnits.eq_def]
  dsimp only
  rw [if_neg (by decide),if_pos rfl,if_pos rfl,readHex4_hex4 small]

theorem readUnits_escapes {us : List Nat} (small : ∀ u ∈ us, u < 65536) (rest : List Char) :
    readUnits (us.flatMap escape ++ rest) =
      (readUnits rest).map (fun read => (us ++ read.1,read.2)) := by
  induction us with
  | nil => simp
  | cons u us ih =>
    rw [List.flatMap_cons,List.append_assoc,readUnits_escape (small u (by simp)),
      ih (fun v found => small v (by simp [found])),Option.map_map]
    rfl

/-- Each short escape is read back. -/
theorem readUnits_short : ∀ pair ∈ shortEscapes, ∀ rest : List Char,
    readUnits ('\\' :: pair.1 :: rest) =
      (readUnits rest).map (fun read => (units pair.2 ++ read.1,read.2)) := by
  have letters : ∀ pair ∈ shortEscapes, pair.1 ≠ 'u' ∧ readEscape pair.1 = some pair.2 := by
    decide +kernel
  intro pair found rest
  obtain ⟨other,known⟩ := letters pair found
  rw [readUnits.eq_def]
  dsimp only
  rw [if_neg (by decide),if_pos rfl,if_neg other,known]

theorem readUnits_writeChar (c : Char) (rest : List Char) :
    readUnits (writeChar c ++ rest) =
      (readUnits rest).map (fun read => (units c ++ read.1,read.2)) := by
  unfold writeChar
  cases short : shortEscapes.find? (fun pair => pair.2 = c) with
  | some pair =>
    obtain rfl : pair.2 = c := by simpa using List.find?_some short
    exact readUnits_short pair (List.mem_of_find?_eq_some short) rest
  | none =>
    have others := List.find?_eq_none.mp short
    have quote : c ≠ '"' := fun same => others ('"','"') (by decide) (by simp [same])
    have slash : c ≠ '\\' := fun same => others ('\\','\\') (by decide) (by simp [same])
    dsimp only
    split
    · rename_i printed
      exact readUnits_plain quote slash printed.1 rest
    · exact readUnits_escapes (units_lt c) rest

theorem readUnits_written (cs rest : List Char) :
    readUnits (cs.flatMap writeChar ++ '"' :: rest) = some (cs.flatMap units,rest) := by
  induction cs with
  | nil =>
    rw [List.flatMap_nil,List.nil_append,readUnits.eq_def]
    rfl
  | cons c cs ih =>
    rw [List.flatMap_cons,List.append_assoc,readUnits_writeChar,ih]
    rfl

/-- A string that was written is read back, whatever follows it. -/
theorem readString_written (s : String) (rest : List Char) :
    readString (s.toList.flatMap writeChar ++ '"' :: rest) = some (s,rest) := by
  rw [readString,readUnits_written]
  simp only [joinUnits_units,Option.map_some,String.ofList_toList]

end Strings

section Numbers

def intPart (cs : List Char) : Option (List Char × List Char) :=
  if cs.head? = some '0' then some (['0'],cs.drop 1)
  else if cs.takeWhile Char.isDigit = [] then none
  else some (cs.takeWhile Char.isDigit,cs.dropWhile Char.isDigit)

def fracPart (cs : List Char) : List Char × List Char :=
  let digits := (cs.drop 1).takeWhile Char.isDigit
  if cs.head? = some '.' ∧ digits ≠ [] then ('.' :: digits,(cs.drop 1).dropWhile Char.isDigit)
  else ([],cs)

def expPart (cs : List Char) : List Char × List Char :=
  let signed := (cs.drop 1).head? = some '+' ∨ (cs.drop 1).head? = some '-'
  let head := if signed then cs.take 2 else cs.take 1
  let rest := if signed then cs.drop 2 else cs.drop 1
  if (cs.head? = some 'e' ∨ cs.head? = some 'E') ∧ rest.takeWhile Char.isDigit ≠ [] then
    (head ++ rest.takeWhile Char.isDigit,rest.dropWhile Char.isDigit)
  else ([],cs)

/-- A number is kept as its text. -/
def readNumber (cs : List Char) : Option (String × List Char) :=
  let sign := if cs.head? = some '-' then ['-'] else []
  (intPart (cs.drop sign.length)).map fun int =>
    let frac := fracPart int.2
    let exp := expPart frac.2
    (String.ofList (sign ++ int.1 ++ frac.1 ++ exp.1),exp.2)

end Numbers

section Values

def skipBlanks (cs : List Char) : List Char :=
  cs.dropWhile (fun c => c = ' ' ∨ c = '\t' ∨ c = '\n' ∨ c = '\r')

def constants : List (String × Json) :=
  [("null",.null),("true",.bool true),("false",.bool false),("NaN",.number "NaN"),
    ("Infinity",.number "Infinity"),("-Infinity",.number "-Infinity")]

/-- Of two members with one key the last one counts. -/
def lastWins : List (String × Json) → List (String × Json)
  | [] => []
  | (key,value) :: rest =>
    if rest.any (fun member => member.1 = key) then lastWins rest else (key,value) :: lastWins rest

mutual

/-- A value at the head of the text, and what follows it. The fuel bounds the nesting and the
number of members, so the length of the text is enough. -/
def readValue : Nat → List Char → Option (Json × List Char)
  | 0,_ => none
  | _ + 1,[] => none
  | fuel + 1,c :: rest =>
    if c = '"' then (readString rest).map (fun read => (.string read.1,read.2))
    else if c = '{' then
      if (skipBlanks rest).head? = some '}' then some (.object [],(skipBlanks rest).drop 1)
      else (readMembers fuel (skipBlanks rest)).map (fun read => (.object (lastWins read.1),read.2))
    else if c = '[' then
      if (skipBlanks rest).head? = some ']' then some (.array [],(skipBlanks rest).drop 1)
      else (readElements fuel (skipBlanks rest)).map (fun read => (.array read.1,read.2))
    else
      match constants.find? (fun constant => constant.1.toList.isPrefixOf (c :: rest)) with
      | some constant => some (constant.2,(c :: rest).drop constant.1.length)
      | none => (readNumber (c :: rest)).map (fun read => (.number read.1,read.2))

def readElements : Nat → List Char → Option (List Json × List Char)
  | 0,_ => none
  | fuel + 1,cs =>
    match readValue fuel cs with
    | none => none
    | some (value,after) =>
      match skipBlanks after with
      | ']' :: more => some ([value],more)
      | ',' :: more =>
        (readElements fuel (skipBlanks more)).map (fun read => (value :: read.1,read.2))
      | _ => none

def readMembers : Nat → List Char → Option (List (String × Json) × List Char)
  | fuel + 1,'"' :: rest =>
    match readString rest with
    | none => none
    | some (key,after) =>
      match skipBlanks after with
      | ':' :: more =>
        match readValue fuel (skipBlanks more) with
        | none => none
        | some (value,after) =>
          match skipBlanks after with
          | '}' :: more => some ([(key,value)],more)
          | ',' :: more =>
            (readMembers fuel (skipBlanks more)).map (fun read => ((key,value) :: read.1,read.2))
          | _ => none
      | _ => none
  | _,_ => none

end

/-- `json.loads` of a text. -/
def loads (cs : List Char) : Option Json :=
  match readValue (cs.length + 1) (skipBlanks cs) with
  | some (value,after) => if skipBlanks after = [] then some value else none
  | none => none

mutual

/-- `json.dumps` in compact form. -/
def write : Json → List Char
  | .null => "null".toList
  | .bool b => (if b then "true" else "false").toList
  | .number text => text.toList
  | .string s => writeString s
  | .array elements => '[' :: [','].intercalate (writeElements elements) ++ [']']
  | .object members => '{' :: [','].intercalate (writeMembers members) ++ ['}']

def writeElements : List Json → List (List Char)
  | [] => []
  | element :: rest => write element :: writeElements rest

def writeMembers : List (String × Json) → List (List Char)
  | [] => []
  | (key,value) :: rest => (writeString key ++ ':' :: write value) :: writeMembers rest

end

end Values

section RoundTrip

theorem write_head {n : Nat} (pos : 0 < n) : (Decimal.write n).head? ≠ some '0' := by
  induction n using Nat.strongRecOn with
  | _ n ih =>
    unfold Decimal.write
    by_cases single : n < 10
    · have digits : ∀ k < 10, 0 < k → [Nat.digitChar k].head? ≠ some '0' := by decide
      rw [Nat.toDigits_of_lt_base single]
      exact digits n single pos
    · have longer : 10 ≤ n := by omega
      rw [Nat.toDigits_of_base_le (by decide) longer,
        List.head?_append_of_ne_nil _ Nat.toDigits_ne_nil]
      exact ih (n / 10) (by omega) (by omega)

theorem takeWhile_write (n : Nat) {follow : Char} (other : follow.isDigit = false)
    (rest : List Char) :
    (Decimal.write n ++ follow :: rest).takeWhile Char.isDigit = Decimal.write n ∧
      (Decimal.write n ++ follow :: rest).dropWhile Char.isDigit = follow :: rest := by
  have digits : ∀ c ∈ Decimal.write n, c.isDigit = true :=
    fun _ found => Decimal.isDigit_of_mem_write found
  rw [List.takeWhile_append_of_pos digits,List.dropWhile_append_of_pos digits]
  simp [other]

theorem intPart_write (n : Nat) {follow : Char} (other : follow.isDigit = false)
    (rest : List Char) :
    intPart (Decimal.write n ++ follow :: rest) = some (Decimal.write n,follow :: rest) := by
  obtain ⟨run,after⟩ := takeWhile_write n other rest
  unfold intPart
  rcases Nat.eq_zero_or_pos n with rfl | pos
  · rfl
  · have head : (Decimal.write n ++ follow :: rest).head? ≠ some '0' := by
      rw [List.head?_append_of_ne_nil _ (Decimal.write_ne_nil n)]
      exact write_head pos
    rw [if_neg head,run,if_neg (Decimal.write_ne_nil n),after]

theorem readNumber_write (n : Nat) (rest : List Char) :
    readNumber (Decimal.write n ++ ',' :: rest) =
      some (String.ofList (Decimal.write n),',' :: rest) := by
  have sign : (Decimal.write n ++ ',' :: rest).head? ≠ some '-' := by
    rw [List.head?_append_of_ne_nil _ (Decimal.write_ne_nil n)]
    intro minus
    cases Decimal.isDigit_of_mem_write (List.mem_of_mem_head? minus)
  unfold readNumber
  dsimp only
  rw [if_neg sign,List.length_nil,List.drop_zero,intPart_write n rfl]
  simp [fracPart,expPart]

theorem readValue_number (fuel n : Nat) (rest : List Char) :
    readValue (fuel + 1) (Decimal.write n ++ ',' :: rest) =
      some (.number (String.ofList (Decimal.write n)),',' :: rest) := by
  have read := readNumber_write n rest
  obtain ⟨c,digits,written⟩ := List.exists_cons_of_ne_nil (Decimal.write_ne_nil n)
  have bounds := Decimal.isDigit_bounds (@Decimal.isDigit_of_mem_write n c (by simp [written]))
  rw [written,List.cons_append] at read ⊢
  have apart : ∀ d : Char, 57 < d.toNat ∨ d.toNat < 48 → c ≠ d := by
    rintro d far rfl
    omega
  have plain : constants.find? (fun constant =>
      constant.1.toList.isPrefixOf (c :: (digits ++ ',' :: rest))) = none := by
    have letters : ∀ constant ∈ constants, ∃ d tail, constant.1.toList = d :: tail ∧
        (57 < d.toNat ∨ d.toNat < 48) := by
      intro constant found
      simp only [constants,List.mem_cons,List.not_mem_nil,or_false] at found
      rcases found with rfl | rfl | rfl | rfl | rfl | rfl <;> exact ⟨_,_,rfl,by decide⟩
    rw [List.find?_eq_none]
    intro constant found
    obtain ⟨d,tail,spelled,far⟩ := letters constant found
    simp [spelled,List.isPrefixOf,(apart d far).symm]
  rw [readValue,if_neg (apart '"' (by decide)),if_neg (apart '{' (by decide)),
    if_neg (apart '[' (by decide)),plain]
  dsimp only
  rw [read]
  rfl

theorem skipBlanks_cons {c : Char} (solid : ¬ (c = ' ' ∨ c = '\t' ∨ c = '\n' ∨ c = '\r'))
    (rest : List Char) : skipBlanks (c :: rest) = c :: rest := by
  unfold skipBlanks
  rw [List.dropWhile_cons_of_neg (by simpa using solid)]

theorem skipBlanks_write (n : Nat) (rest : List Char) :
    skipBlanks (Decimal.write n ++ rest) = Decimal.write n ++ rest := by
  obtain ⟨c,digits,written⟩ := List.exists_cons_of_ne_nil (Decimal.write_ne_nil n)
  have bounds := Decimal.isDigit_bounds (@Decimal.isDigit_of_mem_write n c (by simp [written]))
  rw [written,List.cons_append]
  refine skipBlanks_cons ?_ _
  rintro (rfl | rfl | rfl | rfl) <;> exact absurd bounds.1 (by decide)

theorem readValue_string (fuel : Nat) (s : String) (rest : List Char) :
    readValue (fuel + 1) ('"' :: (s.toList.flatMap writeChar ++ '"' :: rest)) =
      some (.string s,rest) := by
  rw [readValue,if_pos rfl,readString_written]
  rfl

/-- A member with a number before another member. -/
theorem readMembers_number (fuel n : Nat) (key : String) (rest : List Char) :
    readMembers (fuel + 2) ('"' :: (key.toList.flatMap writeChar ++ '"' :: ':' ::
        (Decimal.write n ++ ',' :: '"' :: rest))) =
      (readMembers (fuel + 1) ('"' :: rest)).map
        (fun read => ((key,.number (String.ofList (Decimal.write n))) :: read.1,read.2)) := by
  have colon := @skipBlanks_cons ':' (by decide)
  have comma := @skipBlanks_cons ',' (by decide)
  have quote := @skipBlanks_cons '"' (by decide)
  rw [readMembers,readString_written]
  simp only [colon,skipBlanks_write,readValue_number,comma,quote]

/-- A member with a string that is the last. -/
theorem readMembers_string (fuel : Nat) (key s : String) (rest : List Char) :
    readMembers (fuel + 2) ('"' :: (key.toList.flatMap writeChar ++ '"' :: ':' :: '"' ::
        (s.toList.flatMap writeChar ++ '"' :: '}' :: rest))) = some ([(key,.string s)],rest) := by
  have colon := @skipBlanks_cons ':' (by decide)
  have quote := @skipBlanks_cons '"' (by decide)
  have closing := @skipBlanks_cons '}' (by decide)
  rw [readMembers,readString_written]
  simp only [colon,quote,readValue_string,closing]

variable (first second s : String) (n : Nat)

theorem write_two : write (.object [(first,.number (String.ofList (Decimal.write n))),
    (second,.string s)]) = '{' :: '"' :: (first.toList.flatMap writeChar ++ '"' :: ':' ::
      (Decimal.write n ++ ',' :: '"' :: (second.toList.flatMap writeChar ++ '"' :: ':' :: '"' ::
        (s.toList.flatMap writeChar ++ '"' :: '}' :: [])))) := by
  simp [write,writeMembers,writeString,List.intercalate]

/-- A number and a string under two keys are written in printable ASCII. -/
theorem printable_write {c : Char} (found : c ∈ write (.object
    [(first,.number (String.ofList (Decimal.write n))),(second,.string s)])) : Printable c := by
  rw [write_two] at found
  simp only [List.mem_cons,List.mem_append,List.not_mem_nil,or_false] at found
  rcases found with rfl | rfl | text | rfl | rfl | digits | rfl | rfl | text | rfl | rfl | rfl |
    text | rfl | rfl
  · decide
  · decide
  · exact printable_writeChars text
  · decide
  · decide
  · have bounds := Decimal.isDigit_bounds (Decimal.isDigit_of_mem_write digits)
    exact ⟨by omega,by omega⟩
  · decide
  · decide
  · exact printable_writeChars text
  · decide
  · decide
  · decide
  · exact printable_writeChars text
  · decide
  · decide

variable {first second}

/-- They are read as they were written. -/
theorem loads_write (different : first ≠ second) :
    loads (write (.object [(first,.number (String.ofList (Decimal.write n))),(second,.string s)])) =
      some (.object [(first,.number (String.ofList (Decimal.write n))),(second,.string s)]) := by
  obtain ⟨fuel,long⟩ : ∃ fuel, (write (.object [(first,.number (String.ofList (Decimal.write n))),
      (second,.string s)])).length + 1 = fuel + 4 := by
    refine Nat.exists_eq_add_of_le' ?_
    rw [write_two]
    simp only [List.length_cons,List.length_append]
    omega
  unfold loads
  rw [long,write_two,skipBlanks_cons (by decide),readValue,if_neg (by decide),if_pos rfl,
    skipBlanks_cons (by decide),if_neg (by simp),readMembers_number,readMembers_string]
  simp [lastWins,different.symm,skipBlanks]

end RoundTrip

end Json
