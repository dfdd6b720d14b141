import Ibctl.Lib.Bits

/-! SHA-1 as FIPS 180-4 defines it, over bit strings: padding, parsing into blocks of sixteen
words, the message schedule and the eighty steps of each block. -/
namespace Sha1
open Bits

abbrev Word := BitVec 32

section Preprocessing

/-- The zeros of the padding: the least number with which the length fits a block but for its
last 64 bits. -/
def zeros (length : Nat) : Nat := (447 + 512 - length % 512) % 512

/-- The message, a one, the zeros and the length of the message in 64 bits. -/
def pad (message : List Bool) : List Bool :=
  message ++ true :: List.replicate (zeros message.length) false ++ ofNat 64 message.length

theorem zeros_least (length : Nat) :
    (length + 1 + zeros length) % 512 = 448 ∧
      ∀ k, (length + 1 + k) % 512 = 448 → zeros length ≤ k := by
  unfold zeros
  refine ⟨by omega,fun k fits => ?_⟩
  omega

theorem length_pad (message : List Bool) : (pad message).length % 512 = 0 := by
  have fits := (zeros_least message.length).1
  unfold pad
  simp only [List.length_append,List.length_cons,List.length_replicate,length_ofNat]
  omega

/-- The words of a block, the highest bit first. -/
def word (block : List Bool) (t : Nat) : Word :=
  BitVec.ofNat 32 (value ((block.drop (32 * t)).take 32))

end Preprocessing

section Functions

def ch (x y z : Word) : Word := (x &&& y) ^^^ (~~~x &&& z)

def parity (x y z : Word) : Word := x ^^^ y ^^^ z

def maj (x y z : Word) : Word := (x &&& y) ^^^ (x &&& z) ^^^ (y &&& z)

def function (t : Nat) : Word → Word → Word → Word :=
  if t ≤ 19 then ch else if t ≤ 39 then parity else if t ≤ 59 then maj else parity

def constant (t : Nat) : Word :=
  if t ≤ 19 then 0x5a827999 else if t ≤ 39 then 0x6ed9eba1 else if t ≤ 59 then 0x8f1bbcdc
  else 0xca62c1d6

end Functions

section Computation

structure Hash where
  a : Word
  b : Word
  c : Word
  d : Word
  e : Word
deriving DecidableEq, Repr

def initial : Hash := ⟨0x67452301,0xefcdab89,0x98badcfe,0x10325476,0xc3d2e1f0⟩

def schedule (block : List Bool) (t : Nat) : Word :=
  if t ≤ 15 then word block t
  else (schedule block (t - 3) ^^^ schedule block (t - 8) ^^^ schedule block (t - 14) ^^^
    schedule block (t - 16)).rotateLeft 1
termination_by t

def step (w : Word) (h : Hash) (t : Nat) : Hash where
  a := h.a.rotateLeft 5 + function t h.b h.c h.d + h.e + constant t + w
  b := h.a
  c := h.b.rotateLeft 30
  d := h.c
  e := h.d

def compress (h : Hash) (block : List Bool) : Hash :=
  let last := (List.range 80).foldl (fun v t => step (schedule block t) v t) h
  ⟨h.a + last.a,h.b + last.b,h.c + last.c,h.d + last.d,h.e + last.e⟩

def Hash.bytes (h : Hash) : List Byte := [h.a,h.b,h.c,h.d,h.e].flatMap (fun w => toBytes 4 w.toNat)

/-- The message digest of a byte string. -/
def hash (message : List Byte) : List Byte :=
  ((chunks 512 (pad (ofBytes message))).foldl compress initial).bytes

@[simp] theorem length_bytes (h : Hash) : h.bytes.length = 20 := by
  simp [Hash.bytes]

@[simp] theorem length_hash (message : List Byte) : (hash message).length = 20 := length_bytes _

end Computation

end Sha1
