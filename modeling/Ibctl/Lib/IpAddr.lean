import Mathlib.Algebra.GroupWithZero.Nat
import Mathlib.Data.List.Basic
import Mathlib.Data.List.TakeWhile

/-! Addresses of the internet protocol as texts: how a text is read and how an address is written.
What is written is read back, so no two addresses are written alike. -/
namespace Ip

structure V4 where
  a : Fin 256
  b : Fin 256
  c : Fin 256
  d : Fin 256
deriving DecidableEq, Repr

instance neZero_groups : NeZero 65536 := ⟨by decide⟩

/-- Eight groups of sixteen bits. -/
structure V6 where
  groups : List (Fin 65536)
  eight : groups.length = 8
deriving DecidableEq, Repr

inductive Addr where
  | v4 (addr : V4)
  | v6 (addr : V6)
deriving DecidableEq, Repr

/-- An array of zeros with the groups at its front. -/
def V6.ofGroups (groups : List (Fin 65536)) : V6 where
  groups := (groups ++ List.replicate 8 0).take 8
  eight := by simp

/-- The last two groups of an address that holds a dotted one. -/
def V4.groups (addr : V4) : List (Fin 65536) :=
  [⟨addr.a * 256 + addr.b,by omega⟩,⟨addr.c * 256 + addr.d,by omega⟩]

def V4.ofGroups (high low : Fin 65536) : V4 where
  a := ⟨high / 256,by omega⟩
  b := ⟨high % 256,by omega⟩
  c := ⟨low / 256,by omega⟩
  d := ⟨low % 256,by omega⟩

section Reading

def digitValue (c : Char) : Option Nat :=
  if '0' ≤ c ∧ c ≤ '9' then some (c.toNat - '0'.toNat)
  else if 'a' ≤ c ∧ c ≤ 'z' then some (c.toNat - 'a'.toNat + 10)
  else if 'A' ≤ c ∧ c ≤ 'Z' then some (c.toNat - 'A'.toNat + 10)
  else none

def toDigit (radix : Nat) (c : Char) : Option Nat := (digitValue c).filter (fun digit => digit < radix)

def isDigit (radix : Nat) (c : Char) : Bool := (toDigit radix c).isSome

def valueOf (radix : Nat) (digits : List Char) : Nat :=
  digits.foldl (fun result c => result * radix + (toDigit radix c).getD 0) 0

/-- A number off the front of the text, up to the first other character. -/
def readNumber (radix maxDigits : Nat) (allowZeroPrefix : Bool) (bound : Nat) (cs : List Char) :
    Option (Fin bound × List Char) :=
  let digits := cs.takeWhile (isDigit radix)
  if digits = [] ∨ maxDigits < digits.length then none
  else if allowZeroPrefix = false ∧ digits.head? = some '0' ∧ 1 < digits.length then none
  else if small : valueOf radix digits < bound then
    some (⟨valueOf radix digits,small⟩,cs.dropWhile (isDigit radix))
  else none

def readGivenChar (target : Char) : List Char → Option (List Char)
  | [] => none
  | c :: rest => if c = target then some rest else none

def readOctet (cs : List Char) : Option (Fin 256 × List Char) := readNumber 10 3 false 256 cs

def readV4 (cs : List Char) : Option (V4 × List Char) := do
  let (a,cs) ← readOctet cs
  let cs ← readGivenChar '.' cs
  let (b,cs) ← readOctet cs
  let cs ← readGivenChar '.' cs
  let (c,cs) ← readOctet cs
  let cs ← readGivenChar '.' cs
  let (d,cs) ← readOctet cs
  return (⟨a,b,c,d⟩,cs)

/-- From the second group on a colon stands in front. -/
def readSeparator {α : Type} (first : Bool) (inner : List Char → Option (α × List Char)) (cs : List Char) :
    Option (α × List Char) :=
  if first then inner cs else (readGivenChar ':' cs).bind inner

/-- Groups with colons between them, as many as there are and at most so many. A dotted address
ends them where two more would fit. -/
def readGroups (first : Bool) : Nat → List Char → List (Fin 65536) × Bool × List Char
  | 0, cs => ([],false,cs)
  | limit + 1, cs =>
    match if 1 ≤ limit then readSeparator first readV4 cs else none with
    | some (addr,rest) => (addr.groups,true,rest)
    | none =>
      match readSeparator first (readNumber 16 4 true 65536) cs with
      | none => ([],false,cs)
      | some (group,rest) =>
        let (groups,dotted,rest) := readGroups false limit rest
        (group :: groups,dotted,rest)

def readV6 (cs : List Char) : Option (V6 × List Char) :=
  let (head,dotted,rest) := readGroups true 8 cs
  if head.length = 8 then some (V6.ofGroups head,rest)
  else if dotted then none
  else do
    let rest ← readGivenChar ':' rest
    let rest ← readGivenChar ':' rest
    let (tail,_,rest) := readGroups true (8 - (head.length + 1)) rest
    return (V6.ofGroups (head ++ List.replicate (8 - tail.length - head.length) 0 ++ tail),rest)

def readAddr (cs : List Char) : Option (Addr × List Char) :=
  match readV4 cs with
  | some (addr,rest) => some (.v4 addr,rest)
  | none => (readV6 cs).map (fun read => (.v6 read.1,read.2))

/-- The whole text is an address. -/
def parse (cs : List Char) : Option Addr :=
  match readAddr cs with
  | some (addr,[]) => some addr
  | _ => none

end Reading

section Writing

def V4.write (addr : V4) : List Char :=
  Nat.toDigits 10 addr.a ++ '.' :: (Nat.toDigits 10 addr.b ++ '.' ::
    (Nat.toDigits 10 addr.c ++ '.' :: Nat.toDigits 10 addr.d))

/-- The dotted address behind `::ffff:`. -/
def V6.toV4Mapped (addr : V6) : Option V4 :=
  if addr.groups.take 6 = [0,0,0,0,0,65535] then
    some (V4.ofGroups (addr.groups.getD 6 0) (addr.groups.getD 7 0))
  else none

structure Span where
  start : Nat
  len : Nat

/-- A run that goes on with the zero at the place, or starts there. -/
def Span.extend (place : Nat) (current : Span) : Span where
  start := if current.len = 0 then place else current.start
  len := current.len + 1

/-- The longest run of zeros, and the first one of several; the place and the current run go along. -/
def longestZeros (place : Nat) (longest current : Span) : List (Fin 65536) → Span
  | [] => longest
  | group :: rest =>
    if group = 0 then
      let current := current.extend place
      longestZeros (place + 1) (if longest.len < current.len then current else longest) current rest
    else longestZeros (place + 1) longest ⟨0,0⟩ rest

def writeGroups : List (Fin 65536) → List Char
  | [] => []
  | first :: tail => Nat.toDigits 16 first ++ tail.flatMap (fun group => ':' :: Nat.toDigits 16 group.val)

def V6.write (addr : V6) : List Char :=
  match addr.toV4Mapped with
  | some mapped => "::ffff:".toList ++ mapped.write
  | none =>
    let zeros := longestZeros 0 ⟨0,0⟩ ⟨0,0⟩ addr.groups
    if 1 < zeros.len then
      writeGroups (addr.groups.take zeros.start) ++ "::".toList ++
        writeGroups (addr.groups.drop (zeros.start + zeros.len))
    else writeGroups addr.groups

def Addr.write : Addr → List Char
  | v4 addr => addr.write
  | v6 addr => addr.write

end Writing

section Numbers

variable {radix : Nat}

theorem toDigit_digitChar (small : radix ≤ 16) {digit : Nat} (bound : digit < radix) :
    toDigit radix (Nat.digitChar digit) = some digit := by
  have value : ∀ d < 16, digitValue (Nat.digitChar d) = some d := by decide
  rw [toDigit,value digit (by omega)]
  exact Option.filter_eq_some_iff.mpr ⟨rfl,decide_eq_true bound⟩

theorem mem_toDigits (large : 1 < radix) {n : Nat} {c : Char} (among : c ∈ Nat.toDigits radix n) :
    ∃ digit < radix, c = Nat.digitChar digit := by
  induction n using Nat.strongRecOn with
  | ind n ih =>
    rw [Nat.toDigits_eq_if large] at among
    split_ifs at among with small
    · exact ⟨n,small,List.mem_singleton.mp among⟩
    · rcases List.mem_append.mp among with before | last
      · exact ih (n / radix) (Nat.div_lt_self (by omega) large) before
      · exact ⟨n % radix,Nat.mod_lt n (by omega),List.mem_singleton.mp last⟩

theorem isDigit_of_mem_toDigits (large : 1 < radix) (small : radix ≤ 16) {n : Nat} {c : Char}
    (among : c ∈ Nat.toDigits radix n) : isDigit radix c = true := by
  obtain ⟨digit,bound,rfl⟩ := mem_toDigits large among
  rw [isDigit,toDigit_digitChar small bound]
  rfl

theorem valueOf_toDigits (large : 1 < radix) (small : radix ≤ 16) (n : Nat) :
    valueOf radix (Nat.toDigits radix n) = n := by
  induction n using Nat.strongRecOn with
  | ind n ih =>
    rw [Nat.toDigits_eq_if large]
    split_ifs with single
    · simp [valueOf,toDigit_digitChar small single]
    · have front := ih (n / radix) (Nat.div_lt_self (by omega) large)
      rw [valueOf] at front ⊢
      rw [List.foldl_append,front,List.foldl_cons,List.foldl_nil,
        toDigit_digitChar small (Nat.mod_lt n (by omega)),Option.getD_some,Nat.mul_comm]
      exact Nat.div_add_mod n radix

/-- A number is written without a leading zero. -/
theorem head_toDigits (large : 1 < radix) (small : radix ≤ 16) {n : Nat} (long : 1 < (Nat.toDigits radix n).length) :
    (Nat.toDigits radix n).head? ≠ some '0' := by
  induction n using Nat.strongRecOn with
  | ind n ih =>
    rw [Nat.toDigits_eq_if large] at long ⊢
    split_ifs at long ⊢ with single
    · exact absurd long (by simp)
    · rw [List.head?_append_of_ne_nil _ Nat.toDigits_ne_nil]
      by_cases more : n / radix < radix
      · rw [Nat.toDigits_of_lt_base more,List.head?_cons,ne_eq,Option.some.injEq,Nat.digitChar_eq_zero]
        exact Nat.div_ne_zero_iff.mpr ⟨by omega,by omega⟩
      · refine ih (n / radix) (Nat.div_lt_self (by omega) large) ?_
        rw [Nat.toDigits_eq_if large,if_neg more,List.length_append]
        have := @Nat.length_toDigits_pos radix (n / radix / radix)
        simp only [List.length_singleton]
        omega

/-- What follows a number does not go on with it. -/
def Stops (radix : Nat) (rest : List Char) : Prop := ∀ c ∈ rest.head?, isDigit radix c = false

/-- A number that fits is read back. -/
theorem readNumber_toDigits (large : 1 < radix) (small : radix ≤ 16) {maxDigits bound : Nat}
    (allowZeroPrefix : Bool) (fits : bound ≤ radix ^ maxDigits) (positive : 0 < maxDigits) (n : Fin bound)
    {rest : List Char} (stops : Stops radix rest) :
    readNumber radix maxDigits allowZeroPrefix bound (Nat.toDigits radix n ++ rest) = some (n,rest) := by
  have all : ∀ c ∈ Nat.toDigits radix n, isDigit radix c = true := fun c => isDigit_of_mem_toDigits large small
  have nothing : rest.takeWhile (isDigit radix) = [] := by
    cases rest with
    | nil => rfl
    | cons c rest => exact List.takeWhile_cons_of_neg (by rw [stops c rfl]; decide)
  have everything : rest.dropWhile (isDigit radix) = rest := by
    cases rest with
    | nil => rfl
    | cons c rest => exact List.dropWhile_cons_of_neg (by rw [stops c rfl]; decide)
  have digits : (Nat.toDigits radix n ++ rest).takeWhile (isDigit radix) = Nat.toDigits radix n := by
    rw [List.takeWhile_append_of_pos all,nothing,List.append_nil]
  have behind : (Nat.toDigits radix n ++ rest).dropWhile (isDigit radix) = rest := by
    rw [List.dropWhile_append_of_pos all,everything]
  have short : (Nat.toDigits radix n).length ≤ maxDigits :=
    (Nat.length_toDigits_le_iff large positive).mpr (Nat.lt_of_lt_of_le n.isLt fits)
  have plain : ¬ (allowZeroPrefix = false ∧ (Nat.toDigits radix n).head? = some '0' ∧
      1 < (Nat.toDigits radix n).length) := fun ⟨_,zero,long⟩ => head_toDigits large small long zero
  unfold readNumber
  simp only [digits,behind,valueOf_toDigits large small]
  rw [if_neg (not_or.mpr ⟨Nat.toDigits_ne_nil,by omega⟩),if_neg plain,dif_pos n.isLt]

/-- Without a digit at its front a text is no number. -/
theorem readNumber_stops {maxDigits bound : Nat} {allowZeroPrefix : Bool} {cs : List Char} (stops : Stops radix cs) :
    readNumber radix maxDigits allowZeroPrefix bound cs = none := by
  have nothing : cs.takeWhile (isDigit radix) = [] := by
    cases cs with
    | nil => rfl
    | cons c rest => exact List.takeWhile_cons_of_neg (by rw [stops c rfl]; decide)
  unfold readNumber
  rw [if_pos (.inl nothing)]

theorem mem_of_readNumber {maxDigits bound : Nat} {allowZeroPrefix : Bool} {cs rest : List Char} {n : Fin bound}
    (read : readNumber radix maxDigits allowZeroPrefix bound cs = some (n,rest)) : ∀ c ∈ rest, c ∈ cs := by
  unfold readNumber at read
  dsimp only at read
  split_ifs at read
  obtain ⟨-,rfl⟩ := Prod.mk.inj (Option.some.inj read)
  exact fun c among => (List.dropWhile_suffix _).mem among

end Numbers

section RoundTrip

/-- There is a dot in every dotted address. -/
theorem readV4_none {cs : List Char} (absent : '.' ∉ cs) : readV4 cs = none := by
  unfold readV4
  cases octet : readOctet cs with
  | none => rfl
  | some read =>
    obtain ⟨a,rest⟩ := read
    have dot : readGivenChar '.' rest = none := by
      cases rest with
      | nil => rfl
      | cons c rest =>
        refine if_neg fun same => absent ?_
        rw [← same]
        exact mem_of_readNumber octet c List.mem_cons_self
    simp [dot]

theorem readOctet_toDigits (n : Fin 256) {rest : List Char} (stops : Stops 10 rest) :
    readOctet (Nat.toDigits 10 n ++ rest) = some (n,rest) :=
  readNumber_toDigits (by decide) (by decide) false (by decide) (by decide) n stops

theorem stops_of_not {radix : Nat} {c : Char} (other : isDigit radix c = false) (rest : List Char) :
    Stops radix (c :: rest) := fun _ first => Option.some.inj first ▸ other

theorem stops_nil {radix : Nat} : Stops radix [] := fun _ none => nomatch none

theorem readV4_write (addr : V4) {rest : List Char} (stops : Stops 10 rest) :
    readV4 (addr.write ++ rest) = some (addr,rest) := by
  have dot (cs : List Char) : Stops 10 ('.' :: cs) := stops_of_not (by decide) cs
  unfold readV4 V4.write
  simp only [List.append_assoc,List.cons_append,readOctet_toDigits _ (dot _),readOctet_toDigits _ stops,
    readGivenChar,Option.bind_eq_bind,Option.bind_some,Option.pure_def,if_true]

theorem readGroup_toDigits (n : Fin 65536) {rest : List Char} (stops : Stops 16 rest) :
    readNumber 16 4 true 65536 (Nat.toDigits 16 n ++ rest) = some (n,rest) :=
  readNumber_toDigits (by decide) (by decide) true (by decide) (by decide) n stops

/-- What may stand behind groups: nothing, or two colons. -/
def Behind (rest : List Char) : Prop := '.' ∉ rest ∧ (rest = [] ∨ ∃ more, rest = ':' :: ':' :: more)

theorem stops_behind {rest : List Char} (behind : Behind rest) : Stops 16 rest := by
  obtain ⟨-,rfl | ⟨more,rfl⟩⟩ := behind
  · exact stops_nil
  · exact stops_of_not (by decide) _

theorem dot_not_mem_toDigits (n : Nat) : '.' ∉ Nat.toDigits 16 n := fun among => by
  have digit := isDigit_of_mem_toDigits (by decide) (by decide) among
  exact absurd digit (by decide)

/-- The groups from the second one on. -/
def writeTail (groups : List (Fin 65536)) : List Char := groups.flatMap fun group => ':' :: Nat.toDigits 16 group.val

theorem dot_not_mem_writeTail (groups : List (Fin 65536)) : '.' ∉ writeTail groups := fun among => by
  obtain ⟨group,-,among⟩ := List.mem_flatMap.mp among
  rcases List.mem_cons.mp among with colon | digit
  · exact absurd colon (by decide)
  · exact dot_not_mem_toDigits group digit

theorem stops_writeTail (groups : List (Fin 65536)) {rest : List Char} (behind : Behind rest) :
    Stops 16 (writeTail groups ++ rest) := by
  cases groups with
  | nil => exact stops_behind behind
  | cons group groups => exact stops_of_not (by decide) _

section Steps

/-- Where a group is read: at once, or behind a colon. -/
def Opened (first : Bool) (cs text : List Char) : Prop :=
  ∀ (α : Type) (inner : List Char → Option (α × List Char)), readSeparator first inner cs = inner text

theorem opened_first (cs : List Char) : Opened true cs cs := fun _ _ => rfl

theorem opened_colon (cs : List Char) : Opened false (':' :: cs) cs := fun _ _ => rfl

variable {first : Bool} {limit : Nat} {cs text rest : List Char}

theorem readGroups_dotted (opened : Opened first cs text) (fits : 1 ≤ limit) {addr : V4}
    (dotted : readV4 text = some (addr,rest)) : readGroups first (limit + 1) cs = (addr.groups,true,rest) := by
  rw [readGroups,if_pos fits,opened,dotted]

theorem readGroups_group (opened : Opened first cs text) (dotted : readV4 text = none) {group : Fin 65536}
    (number : readNumber 16 4 true 65536 text = some (group,rest)) {read : List (Fin 65536) × Bool × List Char}
    (behind : readGroups false limit rest = read) : readGroups first (limit + 1) cs = (group :: read.1,read.2) := by
  rw [readGroups,opened,opened,dotted,ite_self,number,← behind]

theorem readGroups_end (opened : Opened first cs text) (dotted : readV4 text = none)
    (number : readNumber 16 4 true 65536 text = none) : readGroups first limit cs = ([],false,cs) := by
  cases limit with
  | zero => rfl
  | succ limit => rw [readGroups,opened,opened,dotted,ite_self,number]

theorem readGroups_nil : readGroups false limit [] = ([],false,[]) := by
  cases limit with
  | zero => rfl
  | succ limit => simp [readGroups,readSeparator,readGivenChar]

end Steps

theorem readGroups_writeTail (groups : List (Fin 65536)) {limit : Nat} (fits : groups.length ≤ limit)
    {rest : List Char} (behind : Behind rest) :
    readGroups false limit (writeTail groups ++ rest) = (groups,false,rest) := by
  induction groups generalizing limit with
  | nil =>
    obtain ⟨clear,rfl | ⟨more,rfl⟩⟩ := behind
    · exact readGroups_nil
    · refine readGroups_end (opened_colon (':' :: more)) ?_ (readNumber_stops (stops_of_not (by decide) more))
      exact readV4_none fun among => clear (List.mem_cons_of_mem _ among)
  | cons group groups ih =>
    cases limit with
    | zero => exact absurd fits (by simp)
    | succ limit =>
      have text : writeTail (group :: groups) ++ rest =
          ':' :: (Nat.toDigits 16 group ++ (writeTail groups ++ rest)) := by
        simp only [writeTail,List.flatMap_cons,List.cons_append,List.append_assoc]
      have clear : '.' ∉ Nat.toDigits 16 group ++ (writeTail groups ++ rest) :=
        List.not_mem_append (dot_not_mem_toDigits group)
          (List.not_mem_append (dot_not_mem_writeTail groups) behind.1)
      rw [text]
      exact readGroups_group (opened_colon _) (readV4_none clear)
        (readGroup_toDigits group (stops_writeTail groups behind)) (ih (Nat.le_of_succ_le_succ fits))

theorem readGroups_writeGroups (groups : List (Fin 65536)) {limit : Nat} (fits : groups.length ≤ limit)
    {rest : List Char} (behind : Behind rest) :
    readGroups true limit (writeGroups groups ++ rest) = (groups,false,rest) := by
  cases groups with
  | nil => exact readGroups_end (opened_first rest) (readV4_none behind.1) (readNumber_stops (stops_behind behind))
  | cons group groups =>
    cases limit with
    | zero => exact absurd fits (by simp)
    | succ limit =>
      have text : writeGroups (group :: groups) ++ rest = Nat.toDigits 16 group ++ (writeTail groups ++ rest) := by
        simp only [writeGroups,writeTail,List.append_assoc]
      have clear : '.' ∉ Nat.toDigits 16 group ++ (writeTail groups ++ rest) :=
        List.not_mem_append (dot_not_mem_toDigits group)
          (List.not_mem_append (dot_not_mem_writeTail groups) behind.1)
      rw [text]
      exact readGroups_group (opened_first _) (readV4_none clear)
        (readGroup_toDigits group (stops_writeTail groups behind)) (readGroups_writeTail groups (Nat.le_of_succ_le_succ fits) behind)

/-- All groups of the span are zero. -/
def Zeros (groups : List (Fin 65536)) (span : Span) : Prop :=
  ∀ i, span.start ≤ i → i < span.start + span.len → groups[i]? = some 0

theorem extend_ends {place : Nat} {current : Span} (here : current.len ≠ 0 → current.start + current.len = place) :
    (current.extend place).start + (current.extend place).len = place + 1 := by
  unfold Span.extend
  by_cases empty : current.len = 0
  · rw [if_pos empty,empty]
  · rw [if_neg empty,← here empty]
    exact (Nat.add_assoc _ _ _).symm

theorem zeros_extend {before rest : List (Fin 65536)} {current : Span} (run : Zeros (before ++ 0 :: rest) current)
    (here : current.len ≠ 0 → current.start + current.len = before.length) :
    Zeros (before ++ 0 :: rest) (current.extend before.length) := by
  intro i low high
  have ended := extend_ends here
  by_cases last : i = before.length
  · rw [last,List.getElem?_append_right (Nat.le_refl _),Nat.sub_self]
    rfl
  · have below : i < before.length := by omega
    by_cases empty : current.len = 0
    · rw [Span.extend,if_pos empty] at low
      exact absurd below (Nat.not_lt_of_le low)
    · rw [Span.extend,if_neg empty] at low
      exact run i low (here empty ▸ below)

theorem zeros_longestZeros {before rest : List (Fin 65536)} {longest current : Span}
    (found : Zeros (before ++ rest) longest) (run : Zeros (before ++ rest) current)
    (here : current.len ≠ 0 → current.start + current.len = before.length) :
    Zeros (before ++ rest) (longestZeros before.length longest current rest) := by
  induction rest generalizing before longest current with
  | nil => exact found
  | cons group rest ih =>
    have step : before ++ group :: rest = (before ++ [group]) ++ rest := by simp
    have next : (before ++ [group]).length = before.length + 1 := by simp
    rw [longestZeros,← next]
    by_cases zero : group = 0
    · subst zero
      have ran := zeros_extend run here
      rw [if_pos rfl,step]
      rw [step] at found ran
      refine ih ?_ ran fun _ => (extend_ends here).trans next.symm
      split_ifs
      · exact ran
      · exact found
    · rw [if_neg zero,step]
      rw [step] at found
      refine ih found (fun i low high => absurd low ?_) fun empty => absurd rfl empty
      exact Nat.not_le_of_lt high

theorem split_of_zeros {groups : List (Fin 65536)} {span : Span} (zeros : Zeros groups span) :
    groups = groups.take span.start ++ (List.replicate span.len 0 ++ groups.drop (span.start + span.len)) := by
  have middle : (groups.drop span.start).take span.len = List.replicate span.len 0 := by
    refine List.ext_getElem? fun i => ?_
    rw [List.getElem?_take,List.getElem?_drop,List.getElem?_replicate]
    split_ifs with inside
    · exact zeros _ (by omega) (by omega)
    · rfl
  rw [← middle,← List.drop_drop,List.take_append_drop,List.take_append_drop]

theorem ofGroups_groups {groups : List (Fin 65536)} (addr : V6) (same : groups = addr.groups) :
    V6.ofGroups groups = addr := by
  obtain ⟨all,eight⟩ := addr
  have front : (groups ++ List.replicate 8 0).take 8 = all := by
    rw [same,List.take_append_of_le_length (Nat.le_of_eq eight.symm),← eight,List.take_length]
  exact V6.mk.injEq .. ▸ front

theorem dot_not_mem_writeGroups (groups : List (Fin 65536)) : '.' ∉ writeGroups groups := by
  cases groups with
  | nil => exact List.not_mem_nil
  | cons group groups =>
    exact List.not_mem_append (dot_not_mem_toDigits group) (dot_not_mem_writeTail groups)

/-- Around two colons the groups are read on either side, and zeros fill the gap. -/
theorem readV6_gap (addr : V6) {head tail : List (Fin 65536)} (gap : head.length + tail.length < 8)
    (same : head ++ List.replicate (8 - tail.length - head.length) 0 ++ tail = addr.groups) :
    readV6 (writeGroups head ++ "::".toList ++ writeGroups tail) = some (addr,[]) := by
  have behind : Behind ("::".toList ++ writeGroups tail) :=
    ⟨List.not_mem_append (by decide) (dot_not_mem_writeGroups tail),.inr ⟨_,rfl⟩⟩
  have front := @readGroups_writeGroups head 8 (by omega) _ behind
  have back := @readGroups_writeGroups tail (8 - (head.length + 1)) (by omega) [] ⟨List.not_mem_nil,.inl rfl⟩
  rw [List.append_nil] at back
  rw [List.append_assoc,readV6,front]
  have colons : "::".toList ++ writeGroups tail = ':' :: ':' :: writeGroups tail := rfl
  simp only [colons,readGivenChar,back,if_true,Bool.false_eq_true,if_false,Option.bind_eq_bind,Option.bind_some,
    Option.pure_def]
  rw [if_neg (by omega),ofGroups_groups addr same]

theorem readV6_full (addr : V6) : readV6 (writeGroups addr.groups) = some (addr,[]) := by
  have front := @readGroups_writeGroups addr.groups 8 (Nat.le_of_eq addr.eight) [] ⟨List.not_mem_nil,.inl rfl⟩
  rw [List.append_nil] at front
  rw [readV6,front]
  simp only [addr.eight,if_true,ofGroups_groups addr rfl]

theorem readV4_stops {cs : List Char} (stops : Stops 10 cs) : readV4 cs = none := by
  unfold readV4 readOctet
  rw [readNumber_stops stops]
  rfl

theorem groups_ofGroups (high low : Fin 65536) : (V4.ofGroups high low).groups = [high,low] := by
  rw [V4.groups,List.cons.injEq,List.cons.injEq]
  refine ⟨Fin.ext ?_,Fin.ext ?_,rfl⟩
  · simp only [V4.ofGroups]
    omega
  · simp only [V4.ofGroups]
    omega

theorem groups_of_mapped {addr : V6} {mapped : V4} (isMapped : addr.toV4Mapped = some mapped) :
    [0,0,0,0,0] ++ 65535 :: mapped.groups = addr.groups := by
  obtain ⟨groups,eight⟩ := addr
  unfold V6.toV4Mapped at isMapped
  split_ifs at isMapped with front
  have last : (groups.drop 6).length = 2 := by rw [List.length_drop,eight]
  obtain ⟨high,low,back⟩ := List.length_eq_two.mp last
  have all := List.take_append_drop 6 groups
  rw [front,back] at all
  subst all
  obtain rfl := Option.some.inj isMapped
  rw [groups_ofGroups]
  rfl

theorem readV6_mapped (addr : V6) {mapped : V4} (isMapped : addr.toV4Mapped = some mapped) :
    readV6 ("::ffff:".toList ++ mapped.write) = some (addr,[]) := by
  have front : readGroups true 8 (':' :: ':' :: ("ffff:".toList ++ mapped.write)) =
      ([],false,':' :: ':' :: ("ffff:".toList ++ mapped.write)) :=
    readGroups_end (opened_first _) (readV4_stops (stops_of_not (by decide) _))
      (readNumber_stops (stops_of_not (by decide) _))
  have dotted : readV4 mapped.write = some (mapped,[]) := by
    have read := readV4_write mapped stops_nil
    rwa [List.append_nil] at read
  have behind : readGroups false 6 (':' :: mapped.write) = (mapped.groups,true,[]) :=
    readGroups_dotted (opened_colon _) (by decide) dotted
  have back : readGroups true 7 ("ffff:".toList ++ mapped.write) = (65535 :: mapped.groups,true,[]) :=
    readGroups_group (opened_first _) (readV4_stops (stops_of_not (by decide) _))
      (readGroup_toDigits 65535 (stops_of_not (by decide) _)) behind
  have text : "::ffff:".toList ++ mapped.write = ':' :: ':' :: ("ffff:".toList ++ mapped.write) := rfl
  rw [text,readV6,front]
  have rest : 8 - (([] : List (Fin 65536)).length + 1) = 7 := rfl
  simp only [readGivenChar,if_true,Bool.false_eq_true,if_false,Option.bind_eq_bind,Option.bind_some,
    Option.pure_def,rest,back]
  rw [if_neg (by decide)]
  exact congrArg (fun read => some (read,[])) (ofGroups_groups addr (groups_of_mapped isMapped))

/-- An address of sixteen bytes is read back from its text. -/
theorem readV6_write (addr : V6) : readV6 addr.write = some (addr,[]) := by
  unfold V6.write
  cases isMapped : addr.toV4Mapped with
  | some mapped => exact readV6_mapped addr isMapped
  | none =>
    have zeros := @zeros_longestZeros [] addr.groups ⟨0,0⟩ ⟨0,0⟩ (fun i _ high => absurd high (Nat.not_lt_zero i))
      (fun i _ high => absurd high (Nat.not_lt_zero i)) (fun empty => absurd rfl empty)
    have parts := split_of_zeros zeros
    rw [List.nil_append,List.length_nil] at parts
    have eight := addr.eight
    dsimp only
    split_ifs with gap
    · generalize longestZeros 0 ⟨0,0⟩ ⟨0,0⟩ addr.groups = span at parts gap ⊢
      have lengths := congrArg List.length parts
      simp only [List.length_append,List.length_replicate,eight] at lengths
      refine readV6_gap addr (by omega) ?_
      have between : 8 - (addr.groups.drop (span.start + span.len)).length - (addr.groups.take span.start).length =
          span.len := by omega
      rw [between,List.append_assoc]
      exact parts.symm
    · exact readV6_full addr

theorem stops_writeV6 (addr : V6) : readV4 addr.write = none := by
  unfold V6.write
  split
  · exact readV4_stops (stops_of_not (by decide) _)
  · dsimp only
    split_ifs
    · exact readV4_none (List.not_mem_append (List.not_mem_append (dot_not_mem_writeGroups _) (by decide))
        (dot_not_mem_writeGroups _))
    · exact readV4_none (dot_not_mem_writeGroups _)

/-- What is written is read back. -/
theorem parse_write (addr : Addr) : parse addr.write = some addr := by
  unfold parse readAddr
  cases addr with
  | v4 addr =>
    have read := readV4_write addr stops_nil
    rw [List.append_nil] at read
    simp only [Addr.write,read]
  | v6 addr => simp only [Addr.write,stops_writeV6,readV6_write,Option.map_some]

theorem write_injective {addr other : Addr} (same : addr.write = other.write) : addr = other := by
  have read := parse_write addr
  rw [same,parse_write] at read
  exact (Option.some.inj read).symm

end RoundTrip

section Blocks

/-- The address as one number, the first octet on top. -/
def V4.toNat (addr : V4) : Nat := ((addr.a * 256 + addr.b) * 256 + addr.c) * 256 + addr.d

def V6.toNat (addr : V6) : Nat := addr.groups.foldl (fun value group => value * 65536 + group.val) 0

/-- Two numbers of so many bits agree in the first ones, counted from the top. -/
def FirstBitsAgree (bits count x y : Nat) : Prop := ∀ i < count, x.testBit (bits - 1 - i) = y.testBit (bits - 1 - i)

/-- A block of addresses of one family. -/
def InBlock (network : Addr) (count : Nat) (addr : Addr) : Prop :=
  match network,addr with
  | .v4 net,.v4 ip => count ≤ 32 ∧ FirstBitsAgree 32 count net.toNat ip.toNat
  | .v6 net,.v6 ip => count ≤ 128 ∧ FirstBitsAgree 128 count net.toNat ip.toNat
  | _,_ => False

/-- A mask of ones on top keeps the first bits. -/
theorem masked_iff {bits count : Nat} (fits : count ≤ bits) (x y : Nat) :
    x &&& ((2 ^ bits - 1) <<< (bits - count) % 2 ^ bits) = y &&& ((2 ^ bits - 1) <<< (bits - count) % 2 ^ bits) ↔
      FirstBitsAgree bits count x y := by
  have mask (i : Nat) : ((2 ^ bits - 1) <<< (bits - count) % 2 ^ bits).testBit i =
      decide (i < bits ∧ bits - count ≤ i) := by
    rw [Nat.testBit_mod_two_pow,Nat.testBit_shiftLeft,Nat.testBit_two_pow_sub_one,← Bool.decide_and,
      ← Bool.decide_and]
    exact decide_eq_decide.mpr ⟨fun kept => ⟨kept.1,kept.2.1⟩,fun kept => ⟨kept.1,kept.2,by omega⟩⟩
  constructor
  · intro same i inside
    have bit := congrArg (fun n => n.testBit (bits - 1 - i)) same
    simpa [mask,show bits - 1 - i < bits ∧ bits - count ≤ bits - 1 - i by omega] using bit
  · intro agree
    refine Nat.eq_of_testBit_eq fun i => ?_
    rw [Nat.testBit_and,Nat.testBit_and,mask]
    by_cases kept : i < bits ∧ bits - count ≤ i
    · have bit := agree (bits - 1 - i) (by omega)
      rw [show bits - 1 - (bits - 1 - i) = i by omega] at bit
      rw [bit]
    · rw [decide_eq_false kept,Bool.and_false,Bool.and_false]

end Blocks

end Ip
