import Ibctl.Lib.Words

/-! Decimal numbers as Python reads them with `int` and writes them into a text. Reading is
lenient: blanks around the number, a sign, single underscores between digits, leading zeros and
the decimal digits of every script. -/
namespace Decimal

/-- The zeros of Unicode's decimal digits (general category Nd). -/
def zeros : List Nat :=
  [0x30,0x660,0x6F0,0x7C0,0x966,0x9E6,0xA66,0xAE6,0xB66,0xBE6,0xC66,0xCE6,0xD66,0xDE6,0xE50,0xED0,
    0xF20,0x1040,0x1090,0x17E0,0x1810,0x1946,0x19D0,0x1A80,0x1A90,0x1B50,0x1BB0,0x1C40,0x1C50,
    0xA620,0xA8D0,0xA900,0xA9D0,0xA9F0,0xAA50,0xABF0,0xFF10,0x104A0,0x10D30,0x10D40,0x11066,
    0x110F0,0x11136,0x111D0,0x112F0,0x11450,0x114D0,0x11650,0x116C0,0x116D0,0x116DA,0x11730,
    0x118E0,0x11950,0x11BF0,0x11C50,0x11D50,0x11DA0,0x11F50,0x16130,0x16A60,0x16AC0,0x16B50,
    0x16D70,0x1CCF0,0x1D7CE,0x1D7D8,0x1D7E2,0x1D7EC,0x1D7F6,0x1E140,0x1E2F0,0x1E4F0,0x1E5F1,
    0x1E950,0x1FBF0]

def digit (c : Char) : Option Nat :=
  (zeros.find? (fun first => first ≤ c.toNat && c.toNat ≤ first + 9)).map (c.toNat - ·)

/-- More digits than this are neither read nor written. -/
def maxDigits : Nat := 4300

def ofDigits (digits : List Nat) : Nat := digits.foldl (fun value d => 10 * value + d) 0

/-- Digits with single underscores between them. -/
def readNat (cs : List Char) : Option Nat :=
  let groups := cs.splitOn '_'
  if groups.any List.isEmpty then none
  else
    match groups.flatten.mapM digit with
    | none => none
    | some digits => if maxDigits < digits.length then none else some (ofDigits digits)

/-- `int` of a text. -/
def readInt (cs : List Char) : Option Int :=
  match Text.trimChars Text.isWhitespace cs with
  | '-' :: digits => (readNat digits).map (fun n => -(n : Int))
  | '+' :: digits => (readNat digits).map (fun n => (n : Int))
  | digits => (readNat digits).map (fun n => (n : Int))

def write (n : Nat) : List Char := Nat.toDigits 10 n

def writeInt : Int → List Char
  | .ofNat n => write n
  | .negSucc n => '-' :: write (n + 1)

/-- Python refuses to write a number that it would not read. -/
def Writable (n : Nat) : Prop := (write n).length ≤ maxDigits

theorem isDigit_bounds {c : Char} (decimal : c.isDigit = true) :
    48 ≤ c.toNat ∧ c.toNat ≤ 57 := by
  simp only [Char.isDigit,Bool.and_eq_true,decide_eq_true_eq] at decimal
  exact ⟨decimal.1,decimal.2⟩

theorem digit_of_isDigit {c : Char} (decimal : c.isDigit = true) :
    digit c = some (c.toNat - '0'.toNat) := by
  unfold digit zeros
  rw [List.find?_cons_of_pos (by simpa using isDigit_bounds decimal)]
  rfl

theorem mapM_digit {cs : List Char} (decimal : ∀ c ∈ cs, c.isDigit = true) :
    cs.mapM digit = some (cs.map (fun c => c.toNat - '0'.toNat)) := by
  induction cs with
  | nil => rfl
  | cons c rest ih =>
    rw [List.mapM_cons,digit_of_isDigit (decimal c (by simp)),
      ih (fun d found => decimal d (by simp [found]))]
    rfl

theorem isDigit_of_mem_write {n : Nat} {c : Char} (found : c ∈ write n) : c.isDigit = true :=
  Nat.isDigit_of_mem_toDigits (by decide) (by decide) found

theorem write_ne_nil (n : Nat) : write n ≠ [] := Nat.toDigits_ne_nil

theorem ofDigits_write (n : Nat) : ofDigits ((write n).map (fun c => c.toNat - '0'.toNat)) = n := by
  have value := @Nat.ofDigitChars_ten_toDigits n
  rw [Nat.ofDigitChars_eq_foldl] at value
  rw [ofDigits,List.foldl_map]
  exact value

instance (n : Nat) : Decidable (Writable n) := inferInstanceAs (Decidable (_ ≤ _))

theorem write_injective {n m : Nat} (same : write n = write m) : n = m := by
  rw [← ofDigits_write n,same,ofDigits_write]

theorem writeInt_injective {n m : Int} (same : writeInt n = writeInt m) : n = m := by
  have dash {n : Nat} {cs : List Char} : write n ≠ '-' :: cs := fun same => by
    have among : '-' ∈ write n := by rw [same]; exact List.mem_cons_self
    exact absurd (isDigit_of_mem_write among) (by decide)
  cases n with
  | ofNat n =>
    cases m with
    | ofNat m => exact congrArg Int.ofNat (write_injective same)
    | negSucc m => exact absurd same dash
  | negSucc n =>
    cases m with
    | ofNat m => exact absurd same.symm dash
    | negSucc m => exact congrArg Int.negSucc (Nat.succ.inj (write_injective (List.cons.inj same).2))

theorem readNat_write (n : Nat) : readNat (write n) = if Writable n then some n else none := by
  have whole : (write n).splitOn '_' = [write n] := by
    have single := @List.splitOn_intercalate Char [write n] _ _ '_' (by simp [write]) (by simp)
    simpa using single
  have digits := @mapM_digit (write n) fun c found => isDigit_of_mem_write found
  unfold readNat
  rw [whole]
  simp only [List.any_cons,List.any_nil,List.flatten_cons,List.flatten_nil,List.append_nil,digits,
    Bool.or_false,List.isEmpty_iff,write_ne_nil,if_false,List.length_map,ofDigits_write]
  by_cases short : Writable n
  · rw [if_pos short,if_neg (Nat.not_lt.mpr short)]
  · rw [if_neg short,if_pos (Nat.not_le.mp short)]

theorem solid_of_isDigit {c : Char} (decimal : c.isDigit = true) :
    Text.isWhitespace c = false := by
  have bounds := isDigit_bounds decimal
  unfold Text.isWhitespace
  simp only [Bool.or_eq_false_iff,Bool.and_eq_false_iff,decide_eq_false_iff_not]
  omega

theorem readInt_of_trimmed {cs : List Char} {n : Nat}
    (trimmed : Text.trimChars Text.isWhitespace cs = write n) :
    readInt cs = if Writable n then some (n : Int) else none := by
  have signless : ∀ sign, sign.isDigit = false → ∀ digits, write n ≠ sign :: digits := by
    intro sign sign_not digits written
    have decimal := @isDigit_of_mem_write n sign (by simp [written])
    rw [sign_not] at decimal
    cases decimal
  unfold readInt
  rw [trimmed]
  split
  · rename_i digits written
    exact absurd written (signless '-' rfl digits)
  · rename_i digits written
    exact absurd written (signless '+' rfl digits)
  · rw [readNat_write]
    split <;> rfl

theorem trimChars_write (n : Nat) : Text.trimChars Text.isWhitespace (write n) = write n :=
  Text.trimChars_of_solid fun _ found => solid_of_isDigit (isDigit_of_mem_write found)

theorem toList_toString (n : Int) : (toString n).toList = writeInt n := by
  cases n with
  | ofNat m =>
    have digits : toString (Int.ofNat m) = Nat.repr m := rfl
    rw [digits,Nat.repr]
    simp [writeInt,write]
  | negSucc m =>
    have digits : toString (Int.negSucc m) = "-" ++ Nat.repr (m + 1) := rfl
    rw [digits,Nat.repr]
    simp [writeInt,write]

theorem solid_of_mem_writeInt {n : Int} {c : Char} (found : c ∈ writeInt n) :
    Text.isWhitespace c = false := by
  cases n with
  | ofNat m => exact solid_of_isDigit (isDigit_of_mem_write found)
  | negSucc m =>
    rcases List.mem_cons.mp found with rfl | found
    · rfl
    · exact solid_of_isDigit (isDigit_of_mem_write found)

/-- What is written is read back. -/
theorem readInt_write (n : Nat) :
    readInt (write n) = if Writable n then some (n : Int) else none :=
  readInt_of_trimmed (trimChars_write n)

/-- A blank before it makes no difference to the reader. -/
theorem readInt_blank (n : Nat) :
    readInt (' ' :: write n) = if Writable n then some (n : Int) else none :=
  readInt_of_trimmed ((Text.trimChars_cons (by decide) _).trans (trimChars_write n))

theorem dot_not_mem_write (n : Nat) : '.' ∉ write n := fun found => by
  cases isDigit_of_mem_write found

end Decimal
