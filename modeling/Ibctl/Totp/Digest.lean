import Ibctl.Lib.Hotp

/-! The hash and the keyed hash of the built-in provider, over lists of bytes and words of 32
bits, as their loops compute them. -/
namespace Ibctl.Totp
open Bits

section Sha1

/-- The five running words. -/
structure Registers where
  a : BitVec 32
  b : BitVec 32
  c : BitVec 32
  d : BitVec 32
  e : BitVec 32
deriving DecidableEq, Repr

/-- `while msg.len() % 64 != 56`. -/
def pushZeros (msg : List Byte) : List Byte :=
  if msg.length % 64 ≠ 56 then pushZeros (msg ++ [0]) else msg
termination_by (56 + 64 - msg.length % 64) % 64
decreasing_by
  rw [List.length_append,List.length_singleton]
  omega

/-- The length in bits is a product of 64-bit words. -/
def padded (input : List Byte) : List Byte :=
  let bitLen := BitVec.ofNat 64 input.length * 8
  pushZeros (input ++ [0x80]) ++ toBytes 8 bitLen.toNat

def fromBeBytes (bytes : List Byte) : BitVec 32 := BitVec.ofNat 32 (bigEndian bytes)

def load (chunk : List Byte) (w : List (BitVec 32)) (i : Nat) : List (BitVec 32) :=
  let j := i * 4
  w.set i (fromBeBytes [chunk.getD j 0,chunk.getD (j + 1) 0,chunk.getD (j + 2) 0,chunk.getD (j + 3) 0])

def extend (w : List (BitVec 32)) (i : Nat) : List (BitVec 32) :=
  w.set i ((w.getD (i - 3) 0 ^^^ w.getD (i - 8) 0 ^^^ w.getD (i - 14) 0 ^^^ w.getD (i - 16) 0).rotateLeft 1)

/-- The array of 80 words that a chunk fills. -/
def words (chunk : List Byte) : List (BitVec 32) :=
  (List.range' 16 64).foldl extend ((List.range 16).foldl (load chunk) (List.replicate 80 0))

def mixed (i : Nat) (b c d : BitVec 32) : BitVec 32 × BitVec 32 :=
  if i ≤ 19 then ((b &&& c) ||| (~~~b &&& d),0x5a827999)
  else if i ≤ 39 then (b ^^^ c ^^^ d,0x6ed9eba1)
  else if i ≤ 59 then ((b &&& c) ||| (b &&& d) ||| (c &&& d),0x8f1bbcdc)
  else (b ^^^ c ^^^ d,0xca62c1d6)

def turn (r : Registers) (word : BitVec 32 × Nat) : Registers :=
  let (f,k) := mixed word.2 r.b r.c r.d
  ⟨r.a.rotateLeft 5 + f + r.e + k + word.1,r.a,r.b.rotateLeft 30,r.c,r.d⟩

def absorb (h : Registers) (chunk : List Byte) : Registers :=
  let r := (words chunk).zipIdx.foldl turn h
  ⟨h.a + r.a,h.b + r.b,h.c + r.c,h.d + r.d,h.e + r.e⟩

def sha1 (input : List Byte) : List Byte :=
  let h := (chunks 64 (padded input)).foldl absorb
    ⟨0x67452301,0xefcdab89,0x98badcfe,0x10325476,0xc3d2e1f0⟩
  toBytes 4 h.a.toNat ++ toBytes 4 h.b.toNat ++ toBytes 4 h.c.toNat ++ toBytes 4 h.d.toNat ++
    toBytes 4 h.e.toNat

end Sha1

section Hmac

def blockSize : Nat := 64

/-- A copy into the beginning of a block of zeros. -/
def keyBlock (key : List Byte) : List Byte :=
  let copied := if blockSize < key.length then sha1 key else key
  copied ++ (List.replicate blockSize (0 : Byte)).drop copied.length

/-- `pad[i] ^= key_block[i]` for each byte of the block. -/
def whiten (pad : Byte) (keyBlock : List Byte) : List Byte :=
  (List.range blockSize).foldl (fun block i => block.set i (block.getD i 0 ^^^ keyBlock.getD i 0))
    (List.replicate blockSize pad)

def hmacSha1 (key message : List Byte) : List Byte :=
  let outerPad := whiten 0x5c (keyBlock key)
  let innerPad := whiten 0x36 (keyBlock key)
  let innerHash := sha1 (innerPad ++ message)
  sha1 (outerPad ++ innerHash)

end Hmac

end Ibctl.Totp
