import Mathlib.Algebra.GroupWithZero.Nat
import Mathlib.Data.List.Infix

/-! Byte offsets into a text of UTF-8. An offset is a boundary when some of the first characters
take up exactly the bytes before it; otherwise it lies inside a character. -/
namespace Utf8

def byteLen (cs : List Char) : Nat := (cs.map Char.utf8Size).sum

@[simp] theorem byteLen_nil : byteLen [] = 0 := rfl

@[simp] theorem byteLen_cons (c : Char) (cs : List Char) :
    byteLen (c :: cs) = c.utf8Size + byteLen cs := rfl

theorem byteLen_append (first second : List Char) :
    byteLen (first ++ second) = byteLen first + byteLen second := by
  unfold byteLen
  rw [List.map_append,List.sum_append]

/-- The first `n` bytes as a text. There is none when the text is shorter or `n` lies inside a
character. -/
def takeBytes : Nat → List Char → Option (List Char)
  | 0,_ => some []
  | _ + 1,[] => none
  | n + 1,c :: cs => if c.utf8Size ≤ n + 1 then (takeBytes (n + 1 - c.utf8Size) cs).map (c :: ·) else none

/-- The offset lies inside a character. -/
def Inside (cs : List Char) (n : Nat) : Prop :=
  ∃ before c after, cs = before ++ c :: after ∧ byteLen before < n ∧ n < byteLen before + c.utf8Size

theorem takeBytes_some {n : Nat} {cs first : List Char} (taken : takeBytes n cs = some first) :
    ∃ rest, cs = first ++ rest ∧ byteLen first = n := by
  induction n,cs using takeBytes.induct generalizing first with
  | case1 cs =>
    simp only [takeBytes,Option.some.injEq] at taken
    subst taken
    exact ⟨cs,rfl,rfl⟩
  | case2 n => cases taken
  | case3 n c cs fits ih =>
    rw [takeBytes,if_pos fits,Option.map_eq_some_iff] at taken
    obtain ⟨shorter,taken,rfl⟩ := taken
    obtain ⟨rest,rfl,size⟩ := ih taken
    exact ⟨rest,rfl,by rw [byteLen_cons,size]; omega⟩
  | case4 n c cs fits =>
    rw [takeBytes,if_neg fits] at taken
    cases taken

theorem not_inside_of_append {first rest : List Char} : ¬ Inside (first ++ rest) (byteLen first) := by
  rintro ⟨before,c,after,split,starts,ends⟩
  have comparable := List.append_eq_append_iff.mp split
  obtain ⟨between,rfl,tail⟩ | ⟨between,rfl,tail⟩ := comparable
  · rw [byteLen_append] at starts
    omega
  · cases between with
    | nil => simp at starts
    | cons d between =>
      obtain ⟨rfl,-⟩ := List.cons.inj tail
      rw [byteLen_append,byteLen_cons] at ends
      omega

/-- A text has no first `n` bytes just when the `n` lies inside one of its characters. -/
theorem takeBytes_eq_none_iff {n : Nat} {cs : List Char} (within : n ≤ byteLen cs) :
    takeBytes n cs = none ↔ Inside cs n := by
  constructor
  · intro missing
    induction n,cs using takeBytes.induct with
    | case1 cs => simp [takeBytes] at missing
    | case2 n => simp at within
    | case3 n c cs fits ih =>
      rw [takeBytes,if_pos fits,Option.map_eq_none_iff] at missing
      rw [byteLen_cons] at within
      obtain ⟨before,d,after,rfl,starts,ends⟩ := ih (by omega) missing
      refine ⟨c :: before,d,after,rfl,?_,?_⟩ <;> rw [byteLen_cons] <;> omega
    | case4 n c cs fits => exact ⟨[],c,cs,rfl,Nat.succ_pos n,by rw [byteLen_nil]; omega⟩
  · intro inside
    cases taken : takeBytes n cs with
    | none => rfl
    | some first =>
      obtain ⟨rest,rfl,rfl⟩ := takeBytes_some taken
      exact absurd inside not_inside_of_append

section Bytes

def encodeChar (c : Char) : List Nat :=
  let n := c.toNat
  if n < 0x80 then [n]
  else if n < 0x800 then [0xC0 + n / 64,0x80 + n % 64]
  else if n < 0x10000 then [0xE0 + n / 4096,0x80 + n / 64 % 64,0x80 + n % 64]
  else [0xF0 + n / 262144,0x80 + n / 4096 % 64,0x80 + n / 64 % 64,0x80 + n % 64]

def encode (cs : List Char) : List Nat := cs.flatMap encodeChar

def isContinuation (b : Nat) : Bool := b / 64 = 2

/-- The second bytes behind a first one of three or of four. -/
def continues (first second : Nat) : Bool :=
  isContinuation second && !(first = 0xE0 && second < 0xA0) && !(first = 0xF0 && second < 0x90) &&
    !(first = 0xF4 && 0x8F < second)

/-- The units of the character at a byte and how many of the bytes behind it belong to it. What is
malformed or cut off becomes one replacement character. -/
def characterAt (first : Nat) (rest : List Nat) : List Nat × Nat :=
  if first < 0x80 then ([first],0)
  else if 0xC2 ≤ first ∧ first < 0xE0 then
    match rest with
    | b :: _ => if isContinuation b then ([(first - 0xC0) * 64 + (b - 0x80)],1) else ([0xFFFD],0)
    | [] => ([0xFFFD],0)
  else if 0xE0 ≤ first ∧ first < 0xF0 then
    match rest with
    | b :: c :: _ =>
      if continues first b = false then ([0xFFFD],0)
      else if isContinuation c = false then ([0xFFFD],1)
      else
        let n := ((first - 0xE0) * 64 + (b - 0x80)) * 64 + (c - 0x80)
        ([if 0xD800 ≤ n ∧ n < 0xE000 then 0xFFFD else n],2)
    | [b] => ([0xFFFD],if continues first b then 1 else 0)
    | [] => ([0xFFFD],0)
  else if 0xF0 ≤ first ∧ first < 0xF5 then
    match rest with
    | b :: c :: d :: _ =>
      if continues first b = false then ([0xFFFD],0)
      else if isContinuation c = false then ([0xFFFD],1)
      else if isContinuation d = false then ([0xFFFD],2)
      else
        let n := (((first - 0xF0) * 64 + (b - 0x80)) * 64 + (c - 0x80)) * 64 + (d - 0x80)
        ([0xD800 + (n - 0x10000) / 0x400,0xDC00 + (n - 0x10000) % 0x400],3)
    | [b,c] => ([0xFFFD],if continues first b then if isContinuation c then 2 else 1 else 0)
    | [b] => ([0xFFFD],if continues first b then 1 else 0)
    | [] => ([0xFFFD],0)
  else ([0xFFFD],0)

/-- The decoding of bytes of which the first are passed over. -/
def decodeFrom : Nat → List Nat → List Nat
  | _,[] => []
  | passed + 1,_ :: rest => decodeFrom passed rest
  | 0,b :: rest => (characterAt b rest).1 ++ decodeFrom (characterAt b rest).2 rest

/-- `new String(bytes, UTF_8)` of Java. -/
def decode (bytes : List Nat) : List Nat := decodeFrom 0 bytes

theorem decode_append {front : List Nat} (ascii : ∀ b ∈ front, b < 0x80) (bytes : List Nat) :
    decode (front ++ bytes) = front ++ decode bytes := by
  induction front with
  | nil => rfl
  | cons b front ih =>
    have first : characterAt b (front ++ bytes) = ([b],0) := if_pos (ascii b List.mem_cons_self)
    have rest := ih fun c among => ascii c (List.mem_cons_of_mem _ among)
    rw [decode,List.cons_append,decodeFrom,first]
    exact congrArg (b :: ·) rest

theorem decode_ascii {bytes : List Nat} (ascii : ∀ b ∈ bytes, b < 0x80) : decode bytes = bytes := by
  have all := decode_append ascii []
  have nothing : decode [] = [] := rfl
  rwa [List.append_nil,nothing,List.append_nil] at all

theorem encode_ascii {cs : List Char} (ascii : ∀ c ∈ cs, c.toNat < 0x80) : encode cs = cs.map Char.toNat := by
  induction cs with
  | nil => rfl
  | cons c cs ih =>
    have first : encodeChar c = [c.toNat] := if_pos (ascii c List.mem_cons_self)
    rw [encode,List.flatMap_cons,first]
    exact congrArg (c.toNat :: ·) (ih fun d among => ascii d (List.mem_cons_of_mem _ among))

end Bytes

end Utf8
