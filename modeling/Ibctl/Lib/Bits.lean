import Mathlib.Data.List.Basic
import Mathlib.Data.Nat.Bitwise
import Mathlib.Tactic.Common
import Mathlib.Tactic.Ring

/-! Bit strings with the first bit the highest, the numbers they spell and the bytes they are
made of. -/
namespace Bits

abbrev Byte := BitVec 8

def value (bits : List Bool) : Nat := bits.foldl (fun v b => 2 * v + b.toNat) 0

/-- The lowest bits of a number. -/
def ofNat : Nat → Nat → List Bool
  | 0,_ => []
  | width + 1,n => n.testBit width :: ofNat width n

def ofBytes (bytes : List Byte) : List Bool := bytes.flatMap (fun b => ofNat 8 b.toNat)

/-- The highest byte first. -/
def bigEndian (bytes : List Byte) : Nat := bytes.foldl (fun v b => 256 * v + b.toNat) 0

def toBytes : Nat → Nat → List Byte
  | 0,_ => []
  | width + 1,n => BitVec.ofNat 8 (n / 256 ^ width) :: toBytes width n

/-- The whole pieces of a list that are so long. -/
def chunks {α : Type} (size : Nat) (xs : List α) : List (List α) :=
  (List.range (xs.length / size)).map (fun i => (xs.drop (size * i)).take size)

theorem foldl_bits (v : Nat) (bits : List Bool) :
    bits.foldl (fun v b => 2 * v + b.toNat) v = v * 2 ^ bits.length + value bits := by
  induction bits generalizing v with
  | nil => simp [value]
  | cons b rest ih =>
    unfold value
    rw [List.foldl_cons,List.foldl_cons,ih,ih (2 * 0 + b.toNat),List.length_cons]
    ring

theorem value_cons (b : Bool) (rest : List Bool) :
    value (b :: rest) = b.toNat * 2 ^ rest.length + value rest := by
  rw [value,List.foldl_cons,foldl_bits]
  simp

@[simp] theorem value_nil : value [] = 0 := rfl

theorem value_append (xs ys : List Bool) :
    value (xs ++ ys) = value xs * 2 ^ ys.length + value ys := by
  rw [value,List.foldl_append,foldl_bits]
  rfl

theorem value_lt (bits : List Bool) : value bits < 2 ^ bits.length := by
  induction bits with
  | nil => simp
  | cons b rest ih =>
    rw [value_cons,List.length_cons,Nat.pow_succ]
    cases b <;> simp <;> omega

@[simp] theorem length_ofNat (width n : Nat) : (ofNat width n).length = width := by
  induction width with
  | zero => rfl
  | succ width ih => rw [ofNat,List.length_cons,ih]

theorem value_ofNat (width n : Nat) : value (ofNat width n) = n % 2 ^ width := by
  induction width with
  | zero => simp [ofNat,Nat.mod_one]
  | succ width ih =>
    rw [ofNat,value_cons,ih,length_ofNat,Nat.testBit_eq_decide_div_mod_eq,Nat.pow_succ,
      Nat.mod_mul]
    rcases Nat.mod_two_eq_zero_or_one (n / 2 ^ width) with even | odd
    · simp [even]
    · simp [odd]
      omega

/-- Only the lowest bits of the number matter. -/
theorem ofNat_congr {width n m : Nat} (same : n % 2 ^ width = m % 2 ^ width) :
    ofNat width n = ofNat width m := by
  induction width with
  | zero => rfl
  | succ width ih =>
    have high : n.testBit width = m.testBit width := by
      have bits := congrArg (·.testBit width) same
      simpa [Nat.testBit_mod_two_pow] using bits
    have low : n % 2 ^ width = m % 2 ^ width := by
      have smaller := congrArg (· % 2 ^ width) same
      simpa [Nat.pow_succ,Nat.mod_mul_right_mod] using smaller
    rw [ofNat,ofNat,high,ih low]

theorem value_injective {xs ys : List Bool} (long : xs.length = ys.length)
    (same : value xs = value ys) : xs = ys := by
  induction xs generalizing ys with
  | nil => exact (List.length_eq_zero_iff.mp long.symm).symm
  | cons x xs ih =>
    obtain ⟨y,ys,rfl⟩ := List.exists_cons_of_length_pos (l := ys) (by rw [← long]; simp)
    have tails : xs.length = ys.length := by simpa using long
    rw [value_cons,value_cons,tails] at same
    have first := value_lt xs
    have second := value_lt ys
    rw [tails] at first
    have heads : x = y := by
      cases x <;> cases y <;> simp at same ⊢ <;> omega
    subst heads
    rw [ih tails (by omega)]

theorem ofNat_value {bits : List Bool} {width : Nat} (long : bits.length = width) :
    ofNat width (value bits) = bits := by
  refine value_injective (by rw [length_ofNat,long]) ?_
  rw [value_ofNat,Nat.mod_eq_of_lt]
  rw [← long]
  exact value_lt bits

/-- A number of two parts. -/
theorem ofNat_append (high low n : Nat) :
    ofNat (high + low) n = ofNat high (n / 2 ^ low) ++ ofNat low n := by
  refine value_injective (by simp) ?_
  rw [value_append,value_ofNat,value_ofNat,value_ofNat,length_ofNat,Nat.pow_add,Nat.mul_comm (2 ^ high),
    Nat.mod_mul,Nat.mul_comm (n / 2 ^ low % 2 ^ high),Nat.add_comm]

section Bytes

@[simp] theorem ofBytes_nil : ofBytes [] = [] := rfl

@[simp] theorem ofBytes_cons (b : Byte) (rest : List Byte) :
    ofBytes (b :: rest) = ofNat 8 b.toNat ++ ofBytes rest := rfl

@[simp] theorem ofBytes_append (xs ys : List Byte) : ofBytes (xs ++ ys) = ofBytes xs ++ ofBytes ys :=
  List.flatMap_append

@[simp] theorem length_ofBytes (bytes : List Byte) : (ofBytes bytes).length = 8 * bytes.length := by
  induction bytes with
  | nil => rfl
  | cons b rest ih =>
    rw [ofBytes_cons,List.length_append,length_ofNat,ih,List.length_cons]
    omega

theorem ofBytes_injective {xs ys : List Byte} (same : ofBytes xs = ofBytes ys) : xs = ys := by
  induction xs generalizing ys with
  | nil =>
    have long := congrArg List.length same
    rw [length_ofBytes,length_ofBytes] at long
    have none_ : ys.length = 0 := by
      rw [List.length_nil] at long
      omega
    exact (List.length_eq_zero_iff.mp none_).symm
  | cons x xs ih =>
    cases ys with
    | nil =>
      have long := congrArg List.length same
      rw [length_ofBytes,length_ofBytes] at long
      simp at long
    | cons y ys =>
      rw [ofBytes_cons,ofBytes_cons] at same
      obtain ⟨heads,tails⟩ := List.append_inj same (by simp)
      have values := congrArg value heads
      rw [value_ofNat,value_ofNat,Nat.mod_eq_of_lt x.isLt,Nat.mod_eq_of_lt y.isLt] at values
      rw [BitVec.eq_of_toNat_eq values,ih tails]

theorem drop_ofBytes (n : Nat) (bytes : List Byte) :
    (ofBytes bytes).drop (8 * n) = ofBytes (bytes.drop n) := by
  induction n generalizing bytes with
  | zero => rfl
  | succ n ih =>
    cases bytes with
    | nil => simp
    | cons b rest =>
      rw [ofBytes_cons,Nat.mul_succ,Nat.add_comm,← List.drop_drop,List.drop_left' (by simp),ih]
      rfl

theorem take_ofBytes (n : Nat) (bytes : List Byte) :
    (ofBytes bytes).take (8 * n) = ofBytes (bytes.take n) := by
  induction n generalizing bytes with
  | zero => rfl
  | succ n ih =>
    cases bytes with
    | nil => simp
    | cons b rest =>
      rw [ofBytes_cons,Nat.mul_succ,Nat.add_comm,List.take_append,
        List.take_of_length_le (by simp),length_ofNat,Nat.add_sub_cancel_left,ih]
      rfl

theorem chunks_ofBytes (size : Nat) (bytes : List Byte) :
    chunks (8 * size) (ofBytes bytes) = (chunks size bytes).map ofBytes := by
  unfold chunks
  rw [length_ofBytes,Nat.mul_div_mul_left _ _ (by omega),List.map_map]
  refine List.map_congr_left fun i _ => ?_
  rw [Nat.mul_assoc,drop_ofBytes,take_ofBytes]
  rfl

theorem length_of_mem_chunks {α : Type} {size : Nat} {xs chunk : List α}
    (found : chunk ∈ chunks size xs) : chunk.length = size := by
  obtain ⟨i,among,rfl⟩ := List.mem_map.mp found
  have whole := Nat.div_mul_le_self xs.length size
  have room : size * (i + 1) ≤ size * (xs.length / size) :=
    Nat.mul_le_mul_left size (List.mem_range.mp among)
  rw [List.length_take,List.length_drop]
  rw [Nat.mul_succ,Nat.mul_comm size (xs.length / size)] at room
  omega

theorem foldl_bigEndian (v : Nat) (bytes : List Byte) :
    bytes.foldl (fun v b => 256 * v + b.toNat) v = v * 256 ^ bytes.length + bigEndian bytes := by
  induction bytes generalizing v with
  | nil => simp [bigEndian]
  | cons b rest ih =>
    unfold bigEndian
    rw [List.foldl_cons,List.foldl_cons,ih,ih (256 * 0 + b.toNat),List.length_cons]
    ring

theorem bigEndian_cons (b : Byte) (rest : List Byte) :
    bigEndian (b :: rest) = b.toNat * 256 ^ rest.length + bigEndian rest := by
  rw [bigEndian,List.foldl_cons,foldl_bigEndian]
  simp

theorem value_ofBytes (bytes : List Byte) : value (ofBytes bytes) = bigEndian bytes := by
  induction bytes with
  | nil => rfl
  | cons b rest ih =>
    rw [ofBytes_cons,value_append,value_ofNat,ih,bigEndian_cons,length_ofBytes,
      Nat.mod_eq_of_lt b.isLt,Nat.pow_mul]

@[simp] theorem length_toBytes (width n : Nat) : (toBytes width n).length = width := by
  induction width with
  | zero => rfl
  | succ width ih => rw [toBytes,List.length_cons,ih]

theorem ofBytes_toBytes (width n : Nat) : ofBytes (toBytes width n) = ofNat (8 * width) n := by
  induction width with
  | zero => rfl
  | succ width ih =>
    rw [toBytes,ofBytes_cons,ih,Nat.mul_succ,Nat.add_comm,ofNat_append,Nat.pow_mul]
    refine congrArg (· ++ _) (ofNat_congr ?_)
    rw [BitVec.toNat_ofNat]
    exact Nat.mod_mod _ _

theorem ofBytes_zeros (n : Nat) :
    ofBytes (List.replicate n 0) = List.replicate (8 * n) false := by
  induction n with
  | zero => rfl
  | succ n ih =>
    rw [List.replicate_succ,ofBytes_cons,ih,Nat.mul_succ,Nat.add_comm,List.replicate_add]
    rfl

end Bytes

end Bits
