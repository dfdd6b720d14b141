import Ibctl.Lib.Bits

/-! Base32 as RFC 4648 defines it: the bits in groups of five, the last filled up with zeros,
and the text filled up to groups of eight characters. -/
namespace Base32
open Bits

def alphabet : List Char := "ABCDEFGHIJKLMNOPQRSTUVWXYZ234567".toList

def digit (n : Nat) : Char := alphabet.getD n '='

/-- The zeros that fill the last group. -/
def fill (bytes : List Byte) : List Bool :=
  List.replicate ((5 - 8 * bytes.length % 5) % 5) false

def groups (bytes : List Byte) : List Nat := (chunks 5 (ofBytes bytes ++ fill bytes)).map value

def digits (bytes : List Byte) : List Char := (groups bytes).map digit

def encode (bytes : List Byte) : List Char :=
  digits bytes ++ List.replicate ((8 - (digits bytes).length % 8) % 8) '='

theorem fill_short (bytes : List Byte) : (fill bytes).length < 8 := by
  unfold fill
  rw [List.length_replicate]
  omega

theorem flatten_chunks {α : Type} {size : Nat} (some_ : 0 < size) (n : Nat) {xs : List α}
    (long : xs.length = size * n) : (chunks size xs).flatten = xs := by
  unfold chunks
  rw [long,Nat.mul_div_cancel_left _ some_]
  have upto : ∀ m, ((List.range m).map (fun i => (xs.drop (size * i)).take size)).flatten =
      xs.take (size * m) := by
    intro m
    induction m with
    | zero => simp
    | succ m ih =>
      rw [List.range_succ,List.map_append,List.flatten_append,ih,Nat.mul_succ,List.take_add]
      simp
  rw [upto,← long,List.take_length]

/-- The groups spell the bits. -/
theorem groups_bits (bytes : List Byte) :
    (groups bytes).flatMap (ofNat 5) = ofBytes bytes ++ fill bytes := by
  have long : (ofBytes bytes ++ fill bytes).length = 5 * ((8 * bytes.length + 4) / 5) := by
    rw [List.length_append,length_ofBytes,fill,List.length_replicate]
    omega
  unfold groups
  rw [List.flatMap_map]
  refine Eq.trans ?_ (flatten_chunks (by omega) _ long)
  rw [← List.flatMap_id]
  refine List.flatMap_congr fun piece found => ?_
  exact ofNat_value (length_of_mem_chunks found)

theorem groups_small {bytes : List Byte} {n : Nat} (found : n ∈ groups bytes) : n < 32 := by
  obtain ⟨piece,among,rfl⟩ := List.mem_map.mp found
  have small := value_lt piece
  rw [length_of_mem_chunks among] at small
  exact small

theorem digit_mem {n : Nat} (small : n < 32) : digit n ∈ alphabet := by
  revert n
  decide

theorem exists_digit {ch : Char} (known : ch ∈ alphabet) : ∃ n < 32, ch = digit n := by
  obtain ⟨n,inside,rfl⟩ := List.getElem_of_mem known
  exact ⟨n,inside,(List.getD_eq_getElem _ _ inside).symm⟩

end Base32
