import Ibctl.Lib.Sha1

/-! One-time passwords: HMAC as RFC 2104 defines it for any hash function, the HMAC-based
password of RFC 4226 and the time-based one of RFC 6238. -/
namespace Hotp
open Bits

/-- A key longer than a block is hashed first; the zeros fill it up to a block. -/
def hmac (hash : List Byte → List Byte) (block : Nat) (key text : List Byte) : List Byte :=
  let short := if block < key.length then hash key else key
  let filled := short ++ List.replicate (block - short.length) 0
  hash (filled.map (· ^^^ 0x5c) ++ hash (filled.map (· ^^^ 0x36) ++ text))

/-- Dynamic truncation: the last 31 bits of the four bytes at the offset that the low-order bits
of the last byte give. -/
def truncate (digest : List Byte) : Nat :=
  let offset := (digest.getD 19 0).toNat % 16
  bigEndian ((digest.drop offset).take 4) % 2 ^ 31

def hotp (key : List Byte) (counter digits : Nat) : Nat :=
  truncate (hmac Sha1.hash 64 key (toBytes 8 counter)) % 10 ^ digits

def totp (key : List Byte) (time step digits : Nat) : Nat := hotp key (time / step) digits

/-- So many decimal digits of a number, the highest first. -/
def decimals : Nat → Nat → List Char
  | 0,_ => []
  | digits + 1,n => Char.ofNat ('0'.toNat + n / 10 ^ digits % 10) :: decimals digits n

@[simp] theorem length_decimals (digits n : Nat) : (decimals digits n).length = digits := by
  induction digits with
  | zero => rfl
  | succ digits ih => rw [decimals,List.length_cons,ih]

end Hotp
