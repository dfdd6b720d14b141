import Mathlib.Data.List.Basic

/-! SipHash-1-3 over a byte string, and its hexadecimal rendering. -/
namespace SipHash

structure Words where
  v0 : BitVec 64
  v1 : BitVec 64
  v2 : BitVec 64
  v3 : BitVec 64
deriving DecidableEq, Repr

def round (w : Words) : Words :=
  let v0 := w.v0 + w.v1
  let v1 := w.v1.rotateLeft 13 ^^^ v0
  let v0 := v0.rotateLeft 32
  let v2 := w.v2 + w.v3
  let v3 := w.v3.rotateLeft 16 ^^^ v2
  let v0 := v0 + v3
  let v3 := v3.rotateLeft 21 ^^^ v0
  let v2 := v2 + v1
  let v1 := v1.rotateLeft 17 ^^^ v2
  ⟨v0,v1,v2.rotateLeft 32,v3⟩

def start (k0 k1 : BitVec 64) : Words where
  v0 := k0 ^^^ 0x736f6d6570736575
  v1 := k1 ^^^ 0x646f72616e646f6d
  v2 := k0 ^^^ 0x6c7967656e657261
  v3 := k1 ^^^ 0x7465646279746573

def littleEndian (bytes : List (BitVec 8)) : BitVec 64 :=
  bytes.foldr (fun byte rest => rest <<< 8 ||| byte.setWidth 64) 0

/-- One block: a single compression round. -/
def compress (w : Words) (block : BitVec 64) : Words :=
  let mixed := round { w with v3 := w.v3 ^^^ block }
  { mixed with v0 := mixed.v0 ^^^ block }

/-- Whole blocks of eight bytes first; the last block holds what is left and the length. -/
def absorb (w : Words) (length : Nat) : List (BitVec 8) → Words
  | b0 :: b1 :: b2 :: b3 :: b4 :: b5 :: b6 :: b7 :: rest =>
    absorb (compress w (littleEndian [b0,b1,b2,b3,b4,b5,b6,b7])) length rest
  | tail => compress w (littleEndian tail ||| BitVec.ofNat 64 length <<< 56)

def finish (w : Words) : BitVec 64 :=
  let last := round (round (round { w with v2 := w.v2 ^^^ 0xff }))
  last.v0 ^^^ last.v1 ^^^ last.v2 ^^^ last.v3

def siphash13 (k0 k1 : BitVec 64) (bytes : List (BitVec 8)) : BitVec 64 :=
  finish (absorb (start k0 k1) bytes.length bytes)

def hex16 (x : BitVec 64) : String :=
  let digits := Nat.toDigits 16 x.toNat
  String.ofList (List.replicate (16 - digits.length) '0' ++ digits)

end SipHash
