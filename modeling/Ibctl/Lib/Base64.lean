import Mathlib.Data.List.Basic
import Mathlib.Tactic.Common

/-! URL-safe base64 without padding, and the lenient decoder of Python's `base64` on what has
been padded again: it skips characters outside the alphabet. -/
namespace Base64

def alphabet : List Char :=
  "ABCDEFGHIJKLMNOPQRSTUVWXYZabcdefghijklmnopqrstuvwxyz0123456789-_".toList

def digit (n : Nat) : Char := alphabet.getD n '='

/-- Both spellings of the last two digits are read. -/
def value (c : Char) : Option Nat :=
  if c = '+' then some 62 else if c = '/' then some 63 else alphabet.findIdx? (fun d => d = c)

def encode : List UInt8 → List Char
  | [] => []
  | [a] => [digit (a.toNat / 4),digit (a.toNat % 4 * 16)]
  | [a,b] =>
    [digit (a.toNat / 4),digit (a.toNat % 4 * 16 + b.toNat / 16),digit (b.toNat % 16 * 4)]
  | a :: b :: c :: rest =>
    digit (a.toNat / 4) :: digit (a.toNat % 4 * 16 + b.toNat / 16) ::
      digit (b.toNat % 16 * 4 + c.toNat / 64) :: digit (c.toNat % 64) :: encode rest

/-- The loop of `a2b_base64`: the position in the group of four, the padding seen in it and the
bits left over. -/
def decodeLoop : List Char → Nat → Nat → Nat → Option (List UInt8)
  | [],quad,_,_ => if quad = 0 then some [] else none
  | c :: rest,quad,pads,left =>
    if c = '=' then
      if 2 ≤ quad ∧ 4 ≤ quad + (pads + 1) then some []
      else decodeLoop rest quad (if 2 ≤ quad then pads + 1 else pads) left
    else
      match value c with
      | none => decodeLoop rest quad pads left
      | some v =>
        match quad with
        | 0 => decodeLoop rest 1 0 v
        | 1 => (decodeLoop rest 2 0 (v % 16)).map (UInt8.ofNat (left * 4 + v / 16) :: ·)
        | 2 => (decodeLoop rest 3 0 (v % 4)).map (UInt8.ofNat (left * 16 + v / 4) :: ·)
        | _ => (decodeLoop rest 0 0 0).map (UInt8.ofNat (left * 64 + v) :: ·)

def padding (length : Nat) : List Char := List.replicate ((4 - length % 4) % 4) '='

/-- `urlsafe_b64decode` of the text with its padding put back; only ASCII is taken. -/
def decode (data : List Char) : Option (List UInt8) :=
  if data.all (fun c => c.toNat < 128) then decodeLoop (data ++ padding data.length) 0 0 0 else none

theorem digit_spec : ∀ n < 64, digit n ≠ '=' ∧ value (digit n) = some n ∧ (digit n).toNat < 128 ∧
    digit n ≠ '.' := by decide +kernel

theorem decodeLoop_digit {n : Nat} (small : n < 64) (rest : List Char) (quad pads left : Nat) :
    decodeLoop (digit n :: rest) quad pads left =
      match quad with
      | 0 => decodeLoop rest 1 0 n
      | 1 => (decodeLoop rest 2 0 (n % 16)).map (UInt8.ofNat (left * 4 + n / 16) :: ·)
      | 2 => (decodeLoop rest 3 0 (n % 4)).map (UInt8.ofNat (left * 16 + n / 4) :: ·)
      | _ => (decodeLoop rest 0 0 0).map (UInt8.ofNat (left * 64 + n) :: ·) := by
  obtain ⟨data,known,-,-⟩ := digit_spec n small
  rw [decodeLoop.eq_2,if_neg data,known]

theorem decodeLoop_first {n : Nat} (small : n < 64) (rest : List Char) (pads left : Nat) :
    decodeLoop (digit n :: rest) 0 pads left = decodeLoop rest 1 0 n :=
  decodeLoop_digit small rest 0 pads left

theorem decodeLoop_second {n : Nat} (small : n < 64) (rest : List Char) (left : Nat) :
    decodeLoop (digit n :: rest) 1 0 left =
      (decodeLoop rest 2 0 (n % 16)).map (UInt8.ofNat (left * 4 + n / 16) :: ·) :=
  decodeLoop_digit small rest 1 0 left

theorem decodeLoop_third {n : Nat} (small : n < 64) (rest : List Char) (left : Nat) :
    decodeLoop (digit n :: rest) 2 0 left =
      (decodeLoop rest 3 0 (n % 4)).map (UInt8.ofNat (left * 16 + n / 4) :: ·) :=
  decodeLoop_digit small rest 2 0 left

theorem decodeLoop_fourth {n : Nat} (small : n < 64) (rest : List Char) (left : Nat) :
    decodeLoop (digit n :: rest) 3 0 left =
      (decodeLoop rest 0 0 0).map (UInt8.ofNat (left * 64 + n) :: ·) :=
  decodeLoop_digit small rest 3 0 left

theorem padding_add_four (length : Nat) : padding (length + 4) = padding length := by
  unfold padding
  rw [Nat.add_mod_right]

theorem ofNat_of_eq {a : UInt8} {n : Nat} (same : n = a.toNat) : UInt8.ofNat n = a := by
  rw [same,UInt8.ofNat_toNat]

theorem decodeLoop_encode (bytes : List UInt8) (pads left : Nat) :
    decodeLoop (encode bytes ++ padding (encode bytes).length) 0 pads left = some bytes := by
  induction bytes using encode.induct generalizing pads left with
  | case1 => rfl
  | case2 a =>
    have bound := a.toNat_lt
    have whole : UInt8.ofNat (a.toNat / 4 * 4 + a.toNat % 4 * 16 / 16) = a :=
      ofNat_of_eq (by omega)
    have padded : padding (encode [a]).length = ['=','='] := rfl
    rw [padded,encode,List.cons_append,List.cons_append,decodeLoop_first (by omega),
      decodeLoop_second (by omega),whole]
    rfl
  | case3 a b =>
    have first := a.toNat_lt
    have second := b.toNat_lt
    have whole : UInt8.ofNat (a.toNat / 4 * 4 + (a.toNat % 4 * 16 + b.toNat / 16) / 16) = a :=
      ofNat_of_eq (by omega)
    have final : UInt8.ofNat ((a.toNat % 4 * 16 + b.toNat / 16) % 16 * 16 + b.toNat % 16 * 4 / 4) =
        b := ofNat_of_eq (by omega)
    have padded : padding (encode [a,b]).length = ['='] := rfl
    rw [padded,encode,List.cons_append,List.cons_append,List.cons_append,
      decodeLoop_first (by omega),decodeLoop_second (by omega),decodeLoop_third (by omega),whole,
      final]
    rfl
  | case4 a b c rest ih =>
    have first := a.toNat_lt
    have second := b.toNat_lt
    have third := c.toNat_lt
    have one : UInt8.ofNat (a.toNat / 4 * 4 + (a.toNat % 4 * 16 + b.toNat / 16) / 16) = a :=
      ofNat_of_eq (by omega)
    have two : UInt8.ofNat ((a.toNat % 4 * 16 + b.toNat / 16) % 16 * 16 +
        (b.toNat % 16 * 4 + c.toNat / 64) / 4) = b := ofNat_of_eq (by omega)
    have three : UInt8.ofNat ((b.toNat % 16 * 4 + c.toNat / 64) % 4 * 64 + c.toNat % 64) = c :=
      ofNat_of_eq (by omega)
    have padded : padding (encode (a :: b :: c :: rest)).length = padding (encode rest).length :=
      padding_add_four _
    rw [padded,encode,List.cons_append,List.cons_append,List.cons_append,List.cons_append,
      decodeLoop_first (by omega),decodeLoop_second (by omega),decodeLoop_third (by omega),
      decodeLoop_fourth (by omega),ih,one,two,three]
    rfl

theorem mem_encode {c : Char} {bytes : List UInt8} (found : c ∈ encode bytes) :
    ∃ n < 64, c = digit n := by
  induction bytes using encode.induct with
  | case1 => cases found
  | case2 a =>
    have first := a.toNat_lt
    simp only [encode,List.mem_cons,List.not_mem_nil,or_false] at found
    rcases found with rfl | rfl <;> exact ⟨_,by omega,rfl⟩
  | case3 a b =>
    have first := a.toNat_lt
    have second := b.toNat_lt
    simp only [encode,List.mem_cons,List.not_mem_nil,or_false] at found
    rcases found with rfl | rfl | rfl <;> exact ⟨_,by omega,rfl⟩
  | case4 a b c rest ih =>
    have first := a.toNat_lt
    have second := b.toNat_lt
    have third := c.toNat_lt
    simp only [encode,List.mem_cons] at found
    rcases found with rfl | rfl | rfl | rfl | later
    · exact ⟨_,by omega,rfl⟩
    · exact ⟨_,by omega,rfl⟩
    · exact ⟨_,by omega,rfl⟩
    · exact ⟨_,by omega,rfl⟩
    · exact ih later

theorem decode_encode (bytes : List UInt8) : decode (encode bytes) = some bytes := by
  unfold decode
  rw [if_pos,decodeLoop_encode]
  rw [List.all_eq_true]
  intro c found
  obtain ⟨n,small,rfl⟩ := mem_encode found
  exact decide_eq_true (digit_spec n small).2.2.1

/-- No digit is the separator of the texts these encodings stand in. -/
theorem dot_not_mem_encode (bytes : List UInt8) : '.' ∉ encode bytes := by
  intro found
  obtain ⟨n,small,dot⟩ := mem_encode found
  exact (digit_spec n small).2.2.2 dot.symm

end Base64
