import Ibctl.Totp.Base32
import Ibctl.Totp.Rfc

/-! The built-in code: the counter of the time step, the keyed hash of it and the digits that
are cut out of the hash. -/
namespace Ibctl.Totp
open Bits

section Code

/-- `{:0width$}`. -/
def zeroPadded (width n : Nat) : List Char :=
  let text := Nat.toDigits 10 n
  List.replicate (width - text.length) '0' ++ text

def binaryAt (digest : List Byte) (offset : Nat) : BitVec 32 :=
  ((digest.getD offset 0).setWidth 32 &&& 0x7f) <<< 24 |||
    (digest.getD (offset + 1) 0).setWidth 32 <<< 16 |||
    (digest.getD (offset + 2) 0).setWidth 32 <<< 8 |||
    (digest.getD (offset + 3) 0).setWidth 32

def generateTotpAt (secret : String) (timestamp stepSeconds : BitVec 64) (digits : Nat) :
    Except TotpError String := do
  if stepSeconds = 0 then
    throw (.invalidSecret "TOTP time step must be greater than zero")
  if ¬ (6 ≤ digits ∧ digits ≤ 8) then
    throw (.invalidSecret "TOTP digit count must be between 6 and 8")
  let key ← decodeBase32 secret
  let counter := timestamp / stepSeconds
  let digest := hmacSha1 key (toBytes 8 counter.toNat)
  let offset := (digest.getD 19 0 &&& 0x0f).toNat
  let modulo := 10 ^ digits
  return String.ofList (zeroPadded digits ((binaryAt digest offset).toNat % modulo))

end Code

section Digits

theorem decimals_concat (digits n : Nat) :
    Hotp.decimals (digits + 1) n =
      Hotp.decimals digits (n / 10) ++ [Char.ofNat ('0'.toNat + n % 10)] := by
  induction digits with
  | zero => simp [Hotp.decimals]
  | succ digits ih =>
    rw [Hotp.decimals,ih,Hotp.decimals,Nat.div_div_eq_div_mul,Nat.pow_succ,Nat.mul_comm 10]
    rfl

theorem decimals_zero (digits : Nat) : Hotp.decimals digits 0 = List.replicate digits '0' := by
  induction digits with
  | zero => rfl
  | succ digits ih =>
    rw [Hotp.decimals,ih,Nat.zero_div]
    rfl

theorem digitChar_eq : ∀ d < 10, Nat.digitChar d = Char.ofNat ('0'.toNat + d) := by decide

/-- A number below the power is written in so many digits. -/
theorem zeroPadded_eq (width : Nat) {n : Nat} (small : n < 10 ^ (width + 1)) :
    zeroPadded (width + 1) n = Hotp.decimals (width + 1) n := by
  induction width generalizing n with
  | zero =>
    have single : n < 10 := small
    unfold zeroPadded
    rw [Nat.toDigits_of_lt_base single,digitChar_eq n single,decimals_concat,Nat.mod_eq_of_lt single]
    rfl
  | succ width ih =>
    rw [decimals_concat]
    by_cases single : n < 10
    · unfold zeroPadded
      rw [Nat.toDigits_of_lt_base single,digitChar_eq n single,Nat.mod_eq_of_lt single,
        Nat.div_eq_of_lt single,decimals_zero]
      rfl
    · have fewer : n / 10 < 10 ^ (width + 1) := by
        rw [Nat.pow_succ] at small
        omega
      have split_ : Nat.toDigits 10 n = Nat.toDigits 10 (n / 10) ++ [Nat.digitChar (n % 10)] :=
        Nat.toDigits_of_base_le (by omega) (by omega)
      rw [← ih fewer]
      unfold zeroPadded
      dsimp only
      rw [split_,List.length_append,List.length_singleton,digitChar_eq _ (Nat.mod_lt _ (by omega)),
        Nat.add_sub_add_right,List.append_assoc]

theorem decimals_isDigit (digits n : Nat) : ∀ c ∈ Hotp.decimals digits n, c.isDigit = true := by
  induction digits with
  | zero => exact nofun
  | succ digits ih =>
    intro c member
    rcases List.mem_cons.mp member with rfl | member
    · have all : ∀ d < 10, (Char.ofNat ('0'.toNat + d)).isDigit = true := by decide
      exact all _ (Nat.mod_lt _ (by omega))
    · exact ih c member

end Digits

section Truncation

theorem widened_byte (byte : Byte) : (byte.setWidth 32).toNat = byte.toNat := by
  have bound := byte.isLt
  rw [BitVec.toNat_setWidth,Nat.mod_eq_of_lt (by omega)]

theorem shifted_byte (byte : Byte) {k : Nat} (few : k ≤ 24) :
    (byte.setWidth 32 <<< k).toNat = 2 ^ k * byte.toNat := by
  have room : byte.toNat * 2 ^ k < 2 ^ 32 := by
    calc byte.toNat * 2 ^ k ≤ byte.toNat * 2 ^ 24 :=
          Nat.mul_le_mul_left _ (Nat.pow_le_pow_right (by omega) few)
      _ < 2 ^ 32 := by
        have bound := byte.isLt
        omega
  rw [BitVec.toNat_shiftLeft,widened_byte,Nat.shiftLeft_eq,Nat.mod_eq_of_lt room,Nat.mul_comm]

/-- The four bytes without the highest bit. -/
theorem binaryAt_toNat (digest : List Byte) (offset : Nat) (room : offset + 4 ≤ digest.length) :
    (binaryAt digest offset).toNat = bigEndian ((digest.drop offset).take 4) % 2 ^ 31 := by
  rw [take_four digest room]
  unfold binaryAt
  generalize digest.getD offset 0 = a
  generalize digest.getD (offset + 1) 0 = b
  generalize digest.getD (offset + 2) 0 = c
  generalize digest.getD (offset + 3) 0 = d
  have first := a.isLt
  have second := b.isLt
  have third := c.isLt
  have fourth := d.isLt
  have masked : (a.setWidth 32 &&& 0x7f).toNat = a.toNat % 128 := by
    rw [BitVec.toNat_and,widened_byte,show (0x7f : BitVec 32).toNat = 2 ^ 7 - 1 from rfl,
      Nat.and_two_pow_sub_one_eq_mod]
  have high : ((a.setWidth 32 &&& 0x7f) <<< 24).toNat = 2 ^ 24 * (a.toNat % 128) := by
    rw [BitVec.toNat_shiftLeft,masked,Nat.shiftLeft_eq,Nat.mod_eq_of_lt (by omega),Nat.mul_comm]
  have two : 2 ^ 24 * (a.toNat % 128) ||| 2 ^ 16 * b.toNat =
      2 ^ 16 * (2 ^ 8 * (a.toNat % 128) + b.toNat) := by
    rw [← Nat.two_pow_add_eq_or_of_lt (by omega)]
    omega
  have three : 2 ^ 16 * (2 ^ 8 * (a.toNat % 128) + b.toNat) ||| 2 ^ 8 * c.toNat =
      2 ^ 8 * (2 ^ 16 * (a.toNat % 128) + 2 ^ 8 * b.toNat + c.toNat) := by
    rw [← Nat.two_pow_add_eq_or_of_lt (by omega)]
    omega
  have four : 2 ^ 8 * (2 ^ 16 * (a.toNat % 128) + 2 ^ 8 * b.toNat + c.toNat) ||| d.toNat =
      2 ^ 24 * (a.toNat % 128) + 2 ^ 16 * b.toNat + 2 ^ 8 * c.toNat + d.toNat := by
    rw [← Nat.two_pow_add_eq_or_of_lt (by omega)]
    omega
  rw [BitVec.toNat_or,BitVec.toNat_or,BitVec.toNat_or,high,shifted_byte b (by omega),
    shifted_byte c (by omega),widened_byte,two,three,four]
  simp only [bigEndian,List.foldl_cons,List.foldl_nil]
  omega

end Truncation

section Password

theorem truncate_eq (digest : List Byte) (long : digest.length = 20) :
    (binaryAt digest (digest.getD 19 0 &&& 0x0f).toNat).toNat = Hotp.truncate digest := by
  have offset : (digest.getD 19 0 &&& 0x0f).toNat = (digest.getD 19 0).toNat % 16 := by
    rw [BitVec.toNat_and,show (0x0f : Byte).toNat = 2 ^ 4 - 1 from rfl,
      Nat.and_two_pow_sub_one_eq_mod]
  rw [offset,binaryAt_toNat digest _ (by omega)]
  rfl

/-- For a secret that is read, the code is the time-based one-time password of the standard, in
exactly so many decimal digits. -/
theorem generateTotpAt_eq {secret : String} {key : List Byte} (read : decodeBase32 secret = .ok key)
    (timestamp : BitVec 64) {stepSeconds : BitVec 64} (positive : 0 < stepSeconds) {digits : Nat}
    (least : 6 ≤ digits) (most : digits ≤ 8) :
    ∃ code, generateTotpAt secret timestamp stepSeconds digits = .ok code ∧
      code.toList = Hotp.decimals digits
        (Hotp.totp key timestamp.toNat stepSeconds.toNat digits) ∧
      code.toList.length = digits ∧ ∀ c ∈ code.toList, c.isDigit = true := by
  have moves : stepSeconds ≠ 0 := by
    rintro rfl
    exact absurd positive (by decide)
  have counted : (timestamp / stepSeconds).toNat = timestamp.toNat / stepSeconds.toNat :=
    BitVec.toNat_udiv
  have long : (Hotp.hmac Sha1.hash 64 key
      (toBytes 8 (timestamp.toNat / stepSeconds.toNat))).length = 20 := Sha1.length_hash _
  have generated : generateTotpAt secret timestamp stepSeconds digits =
      .ok (String.ofList (Hotp.decimals digits
        (Hotp.totp key timestamp.toNat stepSeconds.toNat digits))) := by
    obtain ⟨width,rfl⟩ : ∃ width, digits = width + 1 := ⟨digits - 1,by omega⟩
    unfold generateTotpAt
    simp only [read,hmacSha1_eq,counted,moves,if_false,least,most,and_self,not_true_eq_false,bind,
      Except.bind,pure,Except.pure]
    rw [truncate_eq _ long,zeroPadded_eq width (Nat.mod_lt _ (Nat.pow_pos (by omega)))]
    rfl
  refine ⟨_,generated,String.toList_ofList,?_,?_⟩
  · rw [String.toList_ofList,Hotp.length_decimals]
  · rw [String.toList_ofList]
    exact decimals_isDigit _ _

theorem generateTotpAt_vector :
    ∃ code, generateTotpAt "GEZDGNBVGY3TQOJQGEZDGNBVGY3TQOJQ" 59 30 8 = .ok code ∧
      code.toList = Hotp.decimals 8
        (Hotp.totp [0x31,0x32,0x33,0x34,0x35,0x36,0x37,0x38,0x39,0x30,
          0x31,0x32,0x33,0x34,0x35,0x36,0x37,0x38,0x39,0x30] (59 : BitVec 64).toNat
          (30 : BitVec 64).toNat 8) ∧
      code.toList.length = 8 ∧ ∀ c ∈ code.toList, c.isDigit = true :=
  generateTotpAt_eq (by decide +kernel) 59 (by decide) (by decide) (by decide)

example : (generateTotpAt "GEZDGNBVGY3TQOJQGEZDGNBVGY3TQOJQ" 59 30 8).toOption = some "94287082" := by
  decide +kernel

end Password

end Ibctl.Totp
