import Ibctl.Agent.Requests
import Ibctl.Lib.Occurrence

/-! How the agent reads a field of a body: by a search for its quoted name. A text of Java is the
sequence of its UTF-16 units. -/
namespace Ibctl.Agent
open Json Occurrence

def javaString (text : List Char) : List Nat := text.flatMap units

/-- What Java's `Character` makes of a unit beyond ASCII. -/
structure JavaCharacter where
  digit : Nat → Option Nat
  isDigit : Nat → Bool

inductive AgentException where
  | stringIndexOutOfBounds
deriving DecidableEq, Repr

variable (character : JavaCharacter)

/-- `Character.digit` to the base of sixteen. -/
def hexDigit (u : Nat) : Option Nat :=
  if u < 0x80 then hexValue (Char.ofNat u) else character.digit u

def isDigit (u : Nat) : Bool :=
  if u < 0x80 then decide ('0'.toNat ≤ u ∧ u ≤ '9'.toNat) else character.isDigit u

def hexNumber (us : List Nat) : Option Int :=
  if us = [] then none
  else (us.mapM (hexDigit character)).map fun ds => Int.ofNat (ds.foldl (fun n d => 16 * n + d) 0)

/-- `Integer.parseInt` to the base of sixteen, and the cast of its result to a unit. -/
def parseHex (us : List Nat) : Option Nat :=
  let signed :=
    match us with
    | [] => none
    | first :: rest =>
      if first = '-'.toNat then (hexNumber character rest).map fun n => -n
      else if first = '+'.toNat then hexNumber character rest
      else hexNumber character us
  signed.map fun n => (n % 0x10000).toNat

/-- The unit a letter stands for behind a backslash. -/
def unescape (u : Nat) : Nat :=
  if u = 'b'.toNat then 8 else if u = 'f'.toNat then 0xC else if u = 'n'.toNat then 0xA
  else if u = 'r'.toNat then 0xD else if u = 't'.toNat then 9 else u

/-- The decoding of a text of which the first units are passed over. -/
def decodeFrom : Nat → List Nat → List Nat
  | _,[] => []
  | passed + 1,_ :: rest => decodeFrom passed rest
  | 0,u :: rest =>
    if u ≠ '\\'.toNat then u :: decodeFrom 0 rest
    else
      match rest.head? with
      | none => [u]
      | some esc =>
        if esc = 'u'.toNat then
          match if 5 ≤ rest.length then parseHex character ((rest.drop 1).take 4) else none with
          | some cp => cp :: decodeFrom 5 rest
          | none => esc :: decodeFrom 1 rest
        else unescape esc :: decodeFrom 1 rest

def decodeJsonString (raw : List Nat) : List Nat := decodeFrom character 0 raw

/-- A string behind its opening quote up to the closing one, or to the end of the text. True where
a backslash ends the text: the character it would skip is beyond the end. -/
def scanString : List Nat → List Nat × Bool
  | [] => ([],false)
  | [u] => if u = '\\'.toNat then ([u],true) else if u = '"'.toNat then ([],false) else ([u],false)
  | u :: v :: rest =>
    if u = '\\'.toNat then (u :: v :: (scanString rest).1,(scanString rest).2)
    else if u = '"'.toNat then ([],false)
    else (u :: (scanString (v :: rest)).1,(scanString (v :: rest)).2)

/-- The value behind a colon. -/
def readField (text : List Nat) : Except AgentException (Option (List Nat)) :=
  match text.dropWhile (· = ' '.toNat) with
  | [] => .ok none
  | first :: more =>
    if first = '"'.toNat then
      if (scanString more).2 then .error .stringIndexOutOfBounds
      else .ok (some (decodeJsonString character (scanString more).1))
    else if isDigit character first || decide (first = '-'.toNat) then
      .ok (some ((first :: more).takeWhile fun u =>
        isDigit character u || decide (u = '-'.toNat) || decide (u = '.'.toNat)))
    else .ok none

def key (field : String) : List Nat := javaString ('"' :: field.toList ++ ['"'])

def extractJsonField (json : List Nat) (field : String) : Except AgentException (Option (List Nat)) :=
  match behind (key field) json with
  | none => .ok none
  | some rest =>
    match behind [':'.toNat] rest with
    | none => .ok none
    | some text => readField character text

section Units

@[simp] theorem javaString_nil : javaString [] = [] := rfl

@[simp] theorem javaString_cons (c : Char) (cs : List Char) :
    javaString (c :: cs) = units c ++ javaString cs := rfl

@[simp] theorem javaString_append (cs ds : List Char) :
    javaString (cs ++ ds) = javaString cs ++ javaString ds := List.flatMap_append

theorem units_ascii {c : Char} (ascii : c.toNat < 0x80) : units c = [c.toNat] := by
  unfold units
  rw [if_pos (by omega)]

/-- A character is its only unit, or has units beyond ASCII. -/
theorem units_cases (c : Char) :
    units c = [c.toNat] ∨ ∃ u more, units c = u :: more ∧ ∀ v ∈ units c, 0x80 ≤ v := by
  unfold units
  split
  · exact .inl rfl
  · refine .inr ⟨_,_,rfl,fun v among => ?_⟩
    simp only [List.mem_cons,List.not_mem_nil,or_false] at among
    omega

theorem not_mem_units {c d : Char} (ascii : d.toNat < 0x80) (other : c ≠ d) : d.toNat ∉ units c := by
  intro among
  rcases units_cases c with only | ⟨-,-,-,far⟩
  · rw [only,List.mem_singleton] at among
    exact other (Char.toNat_inj.mp among.symm)
  · exact absurd (far _ among) (by omega)

end Units

section Escapes

/-- What an escaped character looks like: a backslash and a letter, the escape of a control
character, or itself. -/
inductive Escaped (c : Char) : List Nat → Prop
  | short (letter : Char) (known : (letter,c) ∈ shortEscapes) :
      Escaped c ['\\'.toNat,letter.toNat]
  | control (below : c.toNat < 0x20) :
      Escaped c ('\\'.toNat :: 'u'.toNat :: (hex4 c.toNat).map Char.toNat)
  | plain (quote : '"'.toNat ∉ units c) (slash : '\\'.toNat ∉ units c) : Escaped c (units c)

theorem hexChar_ascii : ∀ n < 16, (hexChar n).toNat < 0x80 ∧ (hexChar n).toNat ≠ '"'.toNat ∧
    (hexChar n).toNat ≠ '\\'.toNat ∧ (hexChar n).toNat ≠ '-'.toNat ∧ (hexChar n).toNat ≠ '+'.toNat := by
  decide

theorem javaString_ascii {cs : List Char} (ascii : ∀ c ∈ cs, c.toNat < 0x80) :
    javaString cs = cs.map Char.toNat := by
  induction cs with
  | nil => rfl
  | cons c cs ih =>
    rw [javaString_cons,units_ascii (ascii c (by simp)),ih fun d among => ascii d (by simp [among])]
    rfl

theorem hex4_ascii (n : Nat) : ∀ c ∈ hex4 n, c.toNat < 0x80 := by
  intro c among
  simp only [hex4,List.mem_cons,List.not_mem_nil,or_false] at among
  rcases among with rfl | rfl | rfl | rfl
  · exact (hexChar_ascii _ (by omega)).1
  · exact (hexChar_ascii _ (by omega)).1
  · exact (hexChar_ascii _ (by omega)).1
  · exact (hexChar_ascii _ (by omega)).1

theorem short_ascii {letter c : Char} (known : (letter,c) ∈ shortEscapes) :
    letter.toNat < 0x80 ∧ letter ≠ 'u' ∧ unescape letter.toNat = c.toNat ∧ units c = [c.toNat] := by
  simp only [shortEscapes,List.mem_cons,Prod.mk.injEq,List.not_mem_nil,or_false] at known
  rcases known with ⟨rfl,rfl⟩ | ⟨rfl,rfl⟩ | ⟨rfl,rfl⟩ | ⟨rfl,rfl⟩ | ⟨rfl,rfl⟩ | ⟨rfl,rfl⟩ | ⟨rfl,rfl⟩
  all_goals decide

theorem escaped (c : Char) : Escaped c (javaString (escapeChar c)) := by
  unfold escapeChar
  cases short : shortEscapes.find? (fun pair => pair.2 = c) with
  | some pair =>
    obtain ⟨letter,other⟩ := pair
    obtain rfl : other = c := by simpa using List.find?_some short
    have known := List.mem_of_find?_eq_some short
    have written := @javaString_ascii ['\\',letter] (by simp [(short_ascii known).1])
    dsimp only
    rw [written]
    exact .short letter known
  | none =>
    have others := List.find?_eq_none.mp short
    have quote : c ≠ '"' := fun same => others ('"','"') (by decide) (by simp [same])
    have slash : c ≠ '\\' := fun same => others ('\\','\\') (by decide) (by simp [same])
    dsimp only
    split
    next below =>
      have written := @javaString_ascii (escape c.toNat) (by simpa [escape] using hex4_ascii c.toNat)
      rw [written]
      exact .control below
    next printed =>
      rw [javaString_cons,javaString_nil,List.append_nil]
      exact .plain (not_mem_units (by decide) quote) (not_mem_units (by decide) slash)

end Escapes

section Reading

@[simp] theorem scanString_quote (rest : List Nat) : scanString ('"'.toNat :: rest) = ([],false) := by
  cases rest <;> rfl

theorem scanString_slash (v : Nat) (rest : List Nat) :
    scanString ('\\'.toNat :: v :: rest) =
      ('\\'.toNat :: v :: (scanString rest).1,(scanString rest).2) := by
  rw [scanString,if_pos rfl]

theorem scanString_plain {us : List Nat} (quote : '"'.toNat ∉ us) (slash : '\\'.toNat ∉ us)
    (rest : List Nat) :
    scanString (us ++ rest) = (us ++ (scanString rest).1,(scanString rest).2) := by
  induction us with
  | nil => rfl
  | cons u us ih =>
    simp only [List.mem_cons,not_or] at quote slash
    have later := ih quote.2 slash.2
    rw [List.cons_append]
    cases after : us ++ rest with
    | nil =>
      obtain ⟨rfl,rfl⟩ := List.append_eq_nil_iff.mp after
      show scanString [u] = ([u],false)
      rw [scanString,if_neg (Ne.symm slash.1),if_neg (Ne.symm quote.1)]
    | cons v more =>
      rw [scanString,if_neg (Ne.symm slash.1),if_neg (Ne.symm quote.1),← after,later]
      rfl

theorem hex4_units (n : Nat) :
    '"'.toNat ∉ (hex4 n).map Char.toNat ∧ '\\'.toNat ∉ (hex4 n).map Char.toNat := by
  have far (k : Nat) := hexChar_ascii (k % 16) (Nat.mod_lt _ (by decide))
  simp only [hex4,List.map_cons,List.map_nil,List.mem_cons,List.not_mem_nil,or_false,not_or]
  exact ⟨⟨Ne.symm (far _).2.1,Ne.symm (far _).2.1,Ne.symm (far _).2.1,Ne.symm (far _).2.1⟩,
    Ne.symm (far _).2.2.1,Ne.symm (far _).2.2.1,Ne.symm (far _).2.2.1,Ne.symm (far _).2.2.1⟩

theorem scanString_escaped {c : Char} {us : List Nat} (e : Escaped c us) (rest : List Nat) :
    scanString (us ++ rest) = (us ++ (scanString rest).1,(scanString rest).2) := by
  cases e with
  | short letter known => exact scanString_slash _ _
  | control below =>
    obtain ⟨quote,slash⟩ := hex4_units c.toNat
    rw [List.cons_append,List.cons_append,scanString_slash,scanString_plain quote slash]
    rfl
  | plain quote slash => exact scanString_plain quote slash rest

variable {character}

theorem decodeFrom_passed (us rest : List Nat) :
    decodeFrom character us.length (us ++ rest) = decodeFrom character 0 rest := by
  induction us with
  | nil => rfl
  | cons u us ih =>
    rw [List.length_cons,List.cons_append,decodeFrom]
    exact ih

theorem decodeJsonString_plain {us : List Nat} (slash : '\\'.toNat ∉ us) (rest : List Nat) :
    decodeJsonString character (us ++ rest) = us ++ decodeJsonString character rest := by
  unfold decodeJsonString
  induction us with
  | nil => rfl
  | cons u us ih =>
    simp only [List.mem_cons,not_or] at slash
    rw [List.cons_append,decodeFrom,if_pos (Ne.symm slash.1),ih slash.2]
    rfl

theorem parseHex_hex4 {n : Nat} (small : n < 65536) :
    parseHex character ((hex4 n).map Char.toNat) = some n := by
  have digit : ∀ k < 16, hexDigit character (hexChar k).toNat = some k := by
    intro k small
    unfold hexDigit
    rw [if_pos (hexChar_ascii k small).1,Char.ofNat_toNat,hexValue_hexChar k small]
  have first := hexChar_ascii (n / 4096 % 16) (by omega)
  have value : hexNumber character ((hex4 n).map Char.toNat) = some (Int.ofNat n) := by
    unfold hexNumber
    rw [if_neg (by simp [hex4])]
    simp only [hex4,List.map_cons,List.map_nil,List.mapM_cons,List.mapM_nil]
    rw [digit _ (Nat.mod_lt _ (by decide)),digit _ (Nat.mod_lt _ (by decide)),
      digit _ (Nat.mod_lt _ (by decide)),digit _ (Nat.mod_lt _ (by decide))]
    simp only [Option.pure_def,Option.bind_eq_bind,Option.bind_some,Option.map_some,List.foldl_cons,
      List.foldl_nil,Option.some.injEq,Int.ofNat.injEq]
    omega
  simp only [hex4,List.map_cons,List.map_nil] at value
  simp only [hex4,List.map_cons,List.map_nil,parseHex]
  rw [if_neg first.2.2.2.1,if_neg first.2.2.2.2,value]
  simp only [Option.map_some,Option.some.injEq,Int.ofNat_eq_natCast]
  omega

theorem decodeJsonString_escaped {c : Char} {us : List Nat} (e : Escaped c us) (rest : List Nat) :
    decodeJsonString character (us ++ rest) = units c ++ decodeJsonString character rest := by
  cases e with
  | short letter known =>
    obtain ⟨-,other,same,only⟩ := short_ascii known
    have letters : letter.toNat ≠ 'u'.toNat := fun equal => other (Char.toNat_inj.mp equal)
    unfold decodeJsonString
    rw [List.cons_append,decodeFrom,if_neg (not_not.mpr rfl),only,← same]
    simp only [List.cons_append,List.nil_append,List.head?_cons,if_neg letters]
    exact congrArg _ (decodeFrom_passed [letter.toNat] rest)
  | control below =>
    have four : ((hex4 c.toNat).map Char.toNat).length = 4 := rfl
    unfold decodeJsonString
    rw [List.cons_append,decodeFrom,if_neg (not_not.mpr rfl),units_ascii (by omega)]
    simp only [List.cons_append,List.head?_cons,if_true,List.drop_succ_cons,List.drop_zero]
    rw [if_pos (by simp [four]),← four,List.take_left,parseHex_hex4 (by omega)]
    exact congrArg (c.toNat :: ·) (decodeFrom_passed ('u'.toNat :: (hex4 c.toNat).map Char.toNat) rest)
  | plain quote slash => exact decodeJsonString_plain slash rest

/-- A string of the client behind its opening quote is found and decoded whole. -/
theorem scanString_written (cs : List Char) (rest : List Nat) :
    scanString (javaString (cs.flatMap escapeChar) ++ '"'.toNat :: rest) =
      (javaString (cs.flatMap escapeChar),false) := by
  induction cs with
  | nil => exact scanString_quote rest
  | cons c cs ih =>
    rw [List.flatMap_cons,javaString_append,List.append_assoc,scanString_escaped (escaped c),ih]

theorem decodeJsonString_written (cs : List Char) :
    decodeJsonString character (javaString (cs.flatMap escapeChar)) = javaString cs := by
  induction cs with
  | nil => rfl
  | cons c cs ih =>
    rw [List.flatMap_cons,javaString_append,decodeJsonString_escaped (escaped c),ih,javaString_cons]

end Reading

end Ibctl.Agent
