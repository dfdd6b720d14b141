import Ibctl.Lib.Base32

/-! The decoder of the secret: an accumulator of at most twelve bits, from which whole bytes are
taken as they come. -/
namespace Ibctl.Totp
open Bits

inductive TotpError where
  | executionFailed (error : String)
  | oathtoolFailed (stderr : String)
  | invalidSecret (reason : String)
deriving DecidableEq, Repr

section Decoder

structure Decoder where
  bits : BitVec 32
  bitCount : Nat
  out : List Byte
  sawPadding : Bool
deriving DecidableEq, Repr

/-- `is_ascii_whitespace`, which has no vertical tab. -/
def isAsciiWhitespace (c : Char) : Bool :=
  c = ' ' || c = '\t' || c = '\n' || c = '\x0c' || c = '\r'

def toAsciiUppercase (c : Char) : Char :=
  if 'a' ≤ c ∧ c ≤ 'z' then Char.ofNat (c.toNat - 32) else c

def base32Value (ch : Char) : Option Nat :=
  let upper := toAsciiUppercase ch
  if 'A' ≤ upper ∧ upper ≤ 'Z' then some (upper.toNat - 'A'.toNat)
  else if '2' ≤ upper ∧ upper ≤ '7' then some (ch.toNat - '2'.toNat + 26)
  else none

/-- `while bit_count >= 8`. -/
def drain (bits : BitVec 32) (bitCount : Nat) (out : List Byte) : BitVec 32 × Nat × List Byte :=
  if 8 ≤ bitCount then
    let shift := bitCount - 8
    let out := out ++ [((bits >>> shift) &&& 0xff).setWidth 8]
    let bitCount := bitCount - 8
    drain (bits &&& (1 <<< bitCount - 1)) bitCount out
  else (bits,bitCount,out)

def Decoder.feed (d : Decoder) (ch : Char) : Except TotpError Decoder :=
  if isAsciiWhitespace ch || ch = '-' then .ok d
  else if ch = '=' then .ok { d with sawPadding := true }
  else if d.sawPadding then .error (.invalidSecret "non-padding data found after base32 padding")
  else
    match base32Value ch with
    | none => .error (.invalidSecret s!"unexpected character '{ch}'")
    | some value =>
      let (bits,bitCount,out) :=
        drain (d.bits <<< 5 ||| BitVec.ofNat 32 value) (d.bitCount + 5) d.out
      .ok { d with bits, bitCount, out }

def decodeBase32 (secret : String) : Except TotpError (List Byte) := do
  let d ← secret.toList.foldlM Decoder.feed ⟨0,0,[],false⟩
  if d.out.isEmpty then throw (.invalidSecret "secret is empty")
  return d.out

end Decoder

section Accumulator

variable {d : Decoder}

/-- The bits that came in are the bytes that went out and the bits left over. -/
structure Decoder.Holds (d : Decoder) (bits : List Bool) : Prop where
  split_ : bits = ofBytes d.out ++ ofNat d.bitCount d.bits.toNat
  few : d.bitCount < 8
  small : d.bits.toNat < 2 ^ d.bitCount

theorem start_holds : (⟨0,0,[],false⟩ : Decoder).Holds [] := ⟨rfl,by simp,by simp⟩

theorem shifted_toNat {bits : BitVec 32} {bitCount value : Nat} (few : bitCount < 8)
    (small : bits.toNat < 2 ^ bitCount) (digit : value < 32) :
    (bits <<< 5 ||| BitVec.ofNat 32 value).toNat = bits.toNat * 32 + value := by
  have bound : bits.toNat < 2 ^ 7 := Nat.lt_of_lt_of_le small (Nat.pow_le_pow_right (by omega) (by omega))
  rw [BitVec.toNat_or,BitVec.toNat_shiftLeft,BitVec.toNat_ofNat,Nat.mod_eq_of_lt (by omega),
    Nat.shiftLeft_eq,Nat.mod_eq_of_lt (by omega),Nat.mul_comm]
  exact (Nat.two_pow_add_eq_or_of_lt (i := 5) digit bits.toNat).symm

theorem mask_toNat : ∀ k < 8, (1 <<< k - 1 : BitVec 32).toNat = 2 ^ k - 1 := by decide

/-- What is drained is the highest byte, and the rest stays. -/
theorem drain_once {bits : BitVec 32} {bitCount : Nat} (out : List Byte) (enough : 8 ≤ bitCount)
    (few : bitCount < 16) :
    drain bits bitCount out =
      (BitVec.ofNat 32 (bits.toNat % 2 ^ (bitCount - 8)),bitCount - 8,
        out ++ [BitVec.ofNat 8 (bits.toNat / 2 ^ (bitCount - 8))]) := by
  rw [drain,if_pos enough]
  dsimp only
  rw [drain,if_neg (by omega)]
  refine Prod.ext ?_ (Prod.ext rfl (congrArg (fun b => out ++ [b]) ?_))
  · refine BitVec.eq_of_toNat_eq ?_
    have bound := Nat.mod_le bits.toNat (2 ^ (bitCount - 8))
    rw [BitVec.toNat_and,mask_toNat _ (by omega),Nat.and_two_pow_sub_one_eq_mod,BitVec.toNat_ofNat,
      Nat.mod_eq_of_lt (Nat.lt_of_le_of_lt bound bits.isLt)]
  · refine BitVec.eq_of_toNat_eq ?_
    rw [BitVec.toNat_setWidth,BitVec.toNat_and,BitVec.toNat_ushiftRight,Nat.shiftRight_eq_div_pow,
      BitVec.toNat_ofNat,show (0xff : BitVec 32).toNat = 2 ^ 8 - 1 from rfl,
      Nat.and_two_pow_sub_one_eq_mod,Nat.mod_mod]

/-- Five more bits come in. -/
theorem shifted_bits (bitCount value : Nat) (bits : BitVec 32) (digit : value < 32) :
    ofNat (bitCount + 5) (bits.toNat * 32 + value) = ofNat bitCount bits.toNat ++ ofNat 5 value := by
  have high : (bits.toNat * 32 + value) / 2 ^ 5 = bits.toNat := by omega
  rw [ofNat_append,high]
  exact congrArg (_ ++ ·) (ofNat_congr (by omega))

theorem drain_holds {d : Decoder} {stream : List Bool} (holds : d.Holds stream) {value : Nat}
    (digit : value < 32) :
    ∀ bits bitCount out,
      drain (d.bits <<< 5 ||| BitVec.ofNat 32 value) (d.bitCount + 5) d.out = (bits,bitCount,out) →
      ({ d with bits, bitCount, out } : Decoder).Holds (stream ++ ofNat 5 value) := by
  intro bits bitCount out drained
  have number := shifted_toNat holds.few holds.small digit
  have spelled := shifted_bits d.bitCount value d.bits digit
  have total : d.bits.toNat * 32 + value < 2 ^ (d.bitCount + 5) := by
    rw [Nat.pow_add]
    have small := holds.small
    omega
  have few := holds.few
  by_cases enough : 8 ≤ d.bitCount + 5
  · obtain ⟨left,split_⟩ := Nat.exists_eq_add_of_le enough
    rw [drain_once _ enough (by omega),number,split_,Nat.add_sub_cancel_left] at drained
    obtain ⟨rfl,rfl,rfl⟩ : _ ∧ _ ∧ _ := by simpa only [Prod.mk.injEq] using drained
    have rest : (BitVec.ofNat 32 ((d.bits.toNat * 32 + value) % 2 ^ left)).toNat =
        (d.bits.toNat * 32 + value) % 2 ^ left := by
      rw [BitVec.toNat_ofNat]
      refine Nat.mod_eq_of_lt (Nat.lt_of_lt_of_le (Nat.mod_lt _ (Nat.two_pow_pos _)) ?_)
      exact Nat.pow_le_pow_right (by omega) (by omega)
    refine ⟨?_,by dsimp only; omega,?_⟩
    · dsimp only
      rw [holds.split_,List.append_assoc,← spelled,split_,ofNat_append,ofBytes_append,List.append_assoc,
        rest]
      refine congrArg (_ ++ ·) (congrArg₂ (· ++ ·) ?_ (ofNat_congr (Nat.mod_mod _ _).symm))
      rw [ofBytes_cons,ofBytes_nil,List.append_nil]
      refine ofNat_congr ?_
      rw [BitVec.toNat_ofNat,Nat.mod_mod]
    · dsimp only
      rw [rest]
      exact Nat.mod_lt _ (Nat.two_pow_pos _)
  · rw [drain,if_neg enough] at drained
    obtain ⟨rfl,rfl,rfl⟩ : _ ∧ _ ∧ _ := by simpa only [Prod.mk.injEq] using drained
    refine ⟨?_,by dsimp only; omega,?_⟩
    · dsimp only
      rw [holds.split_,List.append_assoc,← spelled,number]
    · dsimp only
      rw [number]
      exact total

end Accumulator

section Characters

def isIgnored (ch : Char) : Bool := isAsciiWhitespace ch || ch = '-'

theorem feed_ignored {d : Decoder} {ch : Char} (ignored : isIgnored ch = true) :
    d.feed ch = .ok d := by
  unfold Decoder.feed
  exact if_pos ignored

theorem feed_padding (d : Decoder) : d.feed '=' = .ok { d with sawPadding := true } := rfl

theorem toAsciiUppercase_lower {ch : Char} (lower : 'a' ≤ ch ∧ ch ≤ 'z') :
    'A' ≤ toAsciiUppercase ch ∧ toAsciiUppercase ch ≤ 'Z' := by
  have first : 97 ≤ ch.toNat := lower.1
  have last : ch.toNat ≤ 122 := lower.2
  have letters : ∀ k < 26, 'A' ≤ toAsciiUppercase (Char.ofNat (97 + k)) ∧
      toAsciiUppercase (Char.ofNat (97 + k)) ≤ 'Z' := by decide
  have named : ch = Char.ofNat (97 + (ch.toNat - 97)) := by
    rw [Nat.add_sub_cancel' first,Char.ofNat_toNat]
  rw [named]
  exact letters _ (by omega)

/-- The characters of the alphabet are read in their order. -/
theorem digit_spec : ∀ n < 32,
    (('A' ≤ Base32.digit n ∧ Base32.digit n ≤ 'Z') ∧ (Base32.digit n).toNat - 'A'.toNat = n) ∨
      (¬ ('A' ≤ Base32.digit n ∧ Base32.digit n ≤ 'Z') ∧
        ('2' ≤ Base32.digit n ∧ Base32.digit n ≤ '7') ∧
        (Base32.digit n).toNat - '2'.toNat + 26 = n) := by
  decide

/-- What a digit stands for, in either case. -/
theorem base32Value_digit {n : Nat} (small : n < 32) {ch : Char}
    (same : toAsciiUppercase ch = Base32.digit n) : base32Value ch = some n := by
  unfold base32Value
  dsimp only
  rw [same]
  rcases digit_spec n small with ⟨letter,value⟩ | ⟨other,number,value⟩
  · rw [if_pos letter,value]
  · rw [if_neg other,if_pos number]
    have raised : ¬ ('a' ≤ ch ∧ ch ≤ 'z') := by
      intro lower
      exact other (same ▸ toAsciiUppercase_lower lower)
    rw [toAsciiUppercase,if_neg raised] at same
    rw [same,value]

/-- No digit is blank, a hyphen or padding. -/
theorem data_of_digit {n : Nat} (small : n < 32) {ch : Char}
    (same : toAsciiUppercase ch = Base32.digit n) : isIgnored ch = false ∧ ch ≠ '=' := by
  have known : Base32.digit n ∈ Base32.alphabet := Base32.digit_mem small
  rw [← same] at known
  constructor
  · by_contra ignored
    have among : ch ∈ [' ','\t','\n','\x0c','\r','-'] := by
      rw [Bool.not_eq_false] at ignored
      simpa [isIgnored,isAsciiWhitespace,or_assoc] using ignored
    have none_ : [' ','\t','\n','\x0c','\r','-'].all
        (fun c => decide (toAsciiUppercase c ∉ Base32.alphabet)) = true := by
      decide
    exact of_decide_eq_true (List.all_eq_true.mp none_ ch among) known
  · rintro rfl
    exact absurd known (by decide)

theorem eq_of_uppercase_padding {ch : Char} (same : toAsciiUppercase ch = '=') : ch = '=' := by
  by_cases lower : 'a' ≤ ch ∧ ch ≤ 'z'
  · have letter := toAsciiUppercase_lower lower
    rw [same] at letter
    exact absurd letter (by decide)
  · rw [toAsciiUppercase,if_neg lower] at same
    exact same

/-- The characters that are read are those of the alphabet. -/
theorem base32Value_isSome_iff (ch : Char) :
    (base32Value ch).isSome ↔ toAsciiUppercase ch ∈ Base32.alphabet := by
  constructor
  · intro read
    unfold base32Value at read
    dsimp only at read
    generalize toAsciiUppercase ch = upper at read ⊢
    have letters : ∀ k < 26, Char.ofNat (65 + k) ∈ Base32.alphabet := by decide
    have numbers : ∀ k < 6, Char.ofNat (50 + k) ∈ Base32.alphabet := by decide
    split at read
    · rename_i letter
      have first : 65 ≤ upper.toNat := letter.1
      have last : upper.toNat ≤ 90 := letter.2
      have named := letters (upper.toNat - 65) (by omega)
      rwa [Nat.add_sub_cancel' first,Char.ofNat_toNat] at named
    · split at read
      · rename_i number
        have first : 50 ≤ upper.toNat := number.1
        have last : upper.toNat ≤ 55 := number.2
        have named := numbers (upper.toNat - 50) (by omega)
        rwa [Nat.add_sub_cancel' first,Char.ofNat_toNat] at named
      · cases read
  · intro known
    obtain ⟨n,small,same⟩ := Base32.exists_digit known
    rw [base32Value_digit small same]
    rfl

end Characters

section Reading

/-- Five more bits come in with a digit. -/
theorem feed_digit {d : Decoder} {stream : List Bool} (holds : d.Holds stream) {n : Nat} (small : n < 32)
    {ch : Char} (same : toAsciiUppercase ch = Base32.digit n) (unpadded : d.sawPadding = false) :
    ∃ after, d.feed ch = .ok after ∧ after.Holds (stream ++ ofNat 5 n) ∧ after.sawPadding = false := by
  obtain ⟨data,apart⟩ := data_of_digit small same
  have fed : d.feed ch =
      .ok { d with
        bits := (drain (d.bits <<< 5 ||| BitVec.ofNat 32 n) (d.bitCount + 5) d.out).1
        bitCount := (drain (d.bits <<< 5 ||| BitVec.ofNat 32 n) (d.bitCount + 5) d.out).2.1
        out := (drain (d.bits <<< 5 ||| BitVec.ofNat 32 n) (d.bitCount + 5) d.out).2.2 } := by
    unfold Decoder.feed
    rw [if_neg (by rw [← isIgnored,data]; simp),if_neg apart,if_neg (by simp [unpadded]),
      base32Value_digit small same]
  exact ⟨_,fed,drain_holds holds small _ _ _ rfl,unpadded⟩

/-- The text without what is ignored, in capitals. -/
def plain (text : List Char) : List Char :=
  (text.filter (fun ch => !isIgnored ch)).map toAsciiUppercase

theorem plain_ignored {ch : Char} (ignored : isIgnored ch = true) (rest : List Char) :
    plain (ch :: rest) = plain rest := by
  simp [plain,ignored]

theorem plain_data {ch : Char} (data : isIgnored ch = false) (rest : List Char) :
    plain (ch :: rest) = toAsciiUppercase ch :: plain rest := by
  simp [plain,data]

theorem foldlM_padding {d : Decoder} {text : List Char} {k : Nat}
    (padding : plain text = List.replicate k '=') :
    ∃ after, text.foldlM Decoder.feed d = .ok after ∧ after.out = d.out := by
  induction text generalizing d k with
  | nil => exact ⟨d,rfl,rfl⟩
  | cons ch rest ih =>
    cases ignored : isIgnored ch with
    | true =>
      rw [plain_ignored ignored] at padding
      obtain ⟨after,read,out⟩ := @ih d k padding
      exact ⟨after,by rw [List.foldlM_cons,feed_ignored ignored]; exact read,out⟩
    | false =>
      rw [plain_data ignored] at padding
      obtain ⟨k,rfl⟩ : ∃ m, k = m + 1 := by
        cases k with
        | zero => cases padding
        | succ m => exact ⟨m,rfl⟩
      rw [List.replicate_succ] at padding
      obtain ⟨here,remains⟩ := List.cons.inj padding
      obtain rfl := eq_of_uppercase_padding here
      obtain ⟨after,read,out⟩ := @ih { d with sawPadding := true } k remains
      exact ⟨after,by rw [List.foldlM_cons,feed_padding]; exact read,out⟩

/-- The digits of a text are read into the stream of bits, the padding after them is passed. -/
theorem foldlM_digits {d : Decoder} {stream : List Bool} (holds : d.Holds stream)
    (unpadded : d.sawPadding = false) {text : List Char} {values : List Nat} {k : Nat}
    (small : ∀ n ∈ values, n < 32)
    (spelled : plain text = values.map Base32.digit ++ List.replicate k '=') :
    ∃ after, text.foldlM Decoder.feed d = .ok after ∧
      ∃ last : Decoder, last.Holds (stream ++ values.flatMap (ofNat 5)) ∧ after.out = last.out := by
  induction text generalizing d stream values with
  | nil =>
    have none_ : values = [] := by
      cases values with
      | nil => rfl
      | cons n rest => cases spelled
    subst none_
    exact ⟨d,rfl,d,by simpa using holds,rfl⟩
  | cons ch rest ih =>
    cases ignored : isIgnored ch with
    | true =>
      rw [plain_ignored ignored] at spelled
      obtain ⟨after,read,last⟩ := ih holds unpadded small spelled
      exact ⟨after,by rw [List.foldlM_cons,feed_ignored ignored]; exact read,last⟩
    | false =>
      cases values with
      | nil =>
        obtain ⟨after,read,out⟩ := @foldlM_padding d (ch :: rest) k (by simpa using spelled)
        exact ⟨after,read,d,by simpa using holds,out⟩
      | cons n values =>
        rw [plain_data ignored,List.map_cons,List.cons_append] at spelled
        obtain ⟨here,spelled⟩ := List.cons.inj spelled
        obtain ⟨next,fed,holds,unpadded⟩ := feed_digit holds (small n (by simp)) here unpadded
        obtain ⟨after,read,last⟩ := ih holds unpadded (fun m member => small m (by simp [member])) spelled
        refine ⟨after,by rw [List.foldlM_cons,fed]; exact read,?_⟩
        rw [List.flatMap_cons,← List.append_assoc]
        exact last

theorem out_of_holds {d : Decoder} {bytes : List Byte}
    (holds : d.Holds (ofBytes bytes ++ Base32.fill bytes)) : d.out = bytes := by
  have split_ := holds.split_
  have long := congrArg List.length split_
  have short := Base32.fill_short bytes
  have few := holds.few
  rw [List.length_append,List.length_append,length_ofBytes,length_ofBytes,length_ofNat] at long
  obtain ⟨same,-⟩ := List.append_inj split_ (by
    rw [length_ofBytes,length_ofBytes]
    omega)
  exact (ofBytes_injective same).symm

/-- A text that writes the encoding: in either case, with anything ignored anywhere, and with
padding or without. -/
def Writes (text : List Char) (bytes : List Byte) : Prop :=
  ∃ k, plain text = Base32.digits bytes ++ List.replicate k '='

theorem plain_digits {text : List Char} (known : ∀ ch ∈ text, ch ∈ Base32.alphabet ∨ ch = '=') :
    plain text = text := by
  have stays : ∀ ch, ch ∈ Base32.alphabet ∨ ch = '=' →
      isIgnored ch = false ∧ toAsciiUppercase ch = ch := by
    rintro ch (letter | rfl)
    · have all : ∀ n < 32, isIgnored (Base32.digit n) = false ∧
          toAsciiUppercase (Base32.digit n) = Base32.digit n := by
        decide
      obtain ⟨n,small,rfl⟩ := Base32.exists_digit letter
      exact all n small
    · decide
  induction text with
  | nil => rfl
  | cons ch rest ih =>
    obtain ⟨data,same⟩ := stays ch (known ch (by simp))
    rw [plain_data data,same,ih fun c member => known c (by simp [member])]

/-- The encoding itself is one way to write it. -/
theorem writes_encode (bytes : List Byte) : Writes (Base32.encode bytes) bytes := by
  refine ⟨_,plain_digits fun ch member => ?_⟩
  rcases List.mem_append.mp member with digit | padding
  · obtain ⟨n,among,rfl⟩ := List.mem_map.mp digit
    exact .inl (Base32.digit_mem (Base32.groups_small among))
  · exact .inr (List.eq_of_mem_replicate padding)

theorem decode_written {text : List Char} {bytes : List Byte} (some_ : bytes ≠ [])
    (written : Writes text bytes) : decodeBase32 (String.ofList text) = .ok bytes := by
  obtain ⟨k,spelled⟩ := written
  obtain ⟨after,read,last,holds,out⟩ := foldlM_digits start_holds rfl
    (fun n found => Base32.groups_small found) spelled
  rw [List.nil_append,Base32.groups_bits] at holds
  have decoded : after.out = bytes := out.trans (out_of_holds holds)
  unfold decodeBase32
  rw [String.toList_ofList,read]
  have kept : after.out.isEmpty = false := by
    rw [decoded]
    simpa using some_
  simp only [bind,Except.bind,kept,Bool.false_eq_true,if_false]
  exact congrArg Except.ok decoded

end Reading

section Rejection

/-- What a character that is read can be, and what it leaves of the padding. -/
theorem feed_read {d after : Decoder} {ch : Char} (read : d.feed ch = .ok after) :
    (isIgnored ch = true ∧ after.sawPadding = d.sawPadding) ∨ (ch = '=' ∧ after.sawPadding = true) ∨
      (toAsciiUppercase ch ∈ Base32.alphabet ∧ d.sawPadding = false) := by
  unfold Decoder.feed at read
  split at read
  · rename_i ignored
    cases read
    exact .inl ⟨ignored,rfl⟩
  · split at read
    · rename_i padding
      cases read
      exact .inr (.inl ⟨padding,rfl⟩)
    · split at read
      · cases read
      · rename_i unpadded
        split at read
        · cases read
        · rename_i known
          refine .inr (.inr ⟨(base32Value_isSome_iff ch).mp ?_,by simpa using unpadded⟩)
          rw [known]
          rfl

/-- What a text that is read consists of. -/
theorem foldlM_read {d after : Decoder} {text : List Char}
    (read : text.foldlM Decoder.feed d = .ok after) :
    (∀ ch ∈ text, isIgnored ch = true ∨ ch = '=' ∨ toAsciiUppercase ch ∈ Base32.alphabet) ∧
      (d.sawPadding = true → ∀ ch ∈ text, isIgnored ch = true ∨ ch = '=') := by
  induction text generalizing d with
  | nil => exact ⟨List.forall_mem_nil _,fun _ => List.forall_mem_nil _⟩
  | cons ch rest ih =>
    rw [List.foldlM_cons] at read
    cases fed : d.feed ch with
    | error e =>
      rw [fed] at read
      cases read
    | ok next =>
      rw [fed] at read
      obtain ⟨known,padded⟩ := ih read
      rcases feed_read fed with ⟨ignored,same⟩ | ⟨padding,saw⟩ | ⟨data,unpadded⟩
      · exact ⟨List.forall_mem_cons.mpr ⟨.inl ignored,known⟩,fun saw =>
          List.forall_mem_cons.mpr ⟨.inl ignored,padded (same.trans saw)⟩⟩
      · exact ⟨List.forall_mem_cons.mpr ⟨.inr (.inl padding),known⟩,fun _ =>
          List.forall_mem_cons.mpr ⟨.inr padding,padded saw⟩⟩
      · refine ⟨List.forall_mem_cons.mpr ⟨.inr (.inr data),known⟩,fun saw => ?_⟩
        rw [unpadded] at saw
        cases saw

/-- A character that is none of the alphabet, or data after the padding. -/
def Malformed (text : List Char) : Prop :=
  (∃ ch ∈ text, isIgnored ch = false ∧ ch ≠ '=' ∧ toAsciiUppercase ch ∉ Base32.alphabet) ∨
    ∃ before after, text = before ++ '=' :: after ∧
      ∃ ch ∈ after, toAsciiUppercase ch ∈ Base32.alphabet

theorem foldlM_malformed {text : List Char} (malformed : Malformed text) (d after : Decoder) :
    text.foldlM Decoder.feed d ≠ .ok after := by
  intro read
  rcases malformed with ⟨ch,member,data,apart,unknown⟩ | ⟨before,rest,rfl,ch,member,known⟩
  · rcases (foldlM_read read).1 ch member with ignored | padding | known
    · rw [data] at ignored
      cases ignored
    · exact apart padding
    · exact unknown known
  · rw [List.foldlM_append] at read
    cases first : before.foldlM Decoder.feed d with
    | error e =>
      rw [first] at read
      cases read
    | ok middle =>
      rw [first] at read
      change List.foldlM Decoder.feed middle ('=' :: rest) = _ at read
      rw [List.foldlM_cons,feed_padding] at read
      obtain ⟨n,small,same⟩ := Base32.exists_digit known
      obtain ⟨data,apart⟩ := data_of_digit small same
      rcases (foldlM_read read).2 rfl ch member with ignored | padding
      · rw [data] at ignored
        cases ignored
      · exact apart padding

/-- The decoder inverts the encoding however it is written, and rejects what is malformed. -/
theorem decodeBase32_inverts :
    (∀ (bytes : List Byte) (text : List Char), bytes ≠ [] → Writes text bytes →
      decodeBase32 (String.ofList text) = .ok bytes) ∧
    ∀ secret : String, Malformed secret.toList → ∃ e, decodeBase32 secret = .error e := by
  refine ⟨fun bytes text some_ written => decode_written some_ written,fun secret malformed => ?_⟩
  unfold decodeBase32
  cases read : secret.toList.foldlM Decoder.feed ⟨0,0,[],false⟩ with
  | error e => exact ⟨e,rfl⟩
  | ok after => exact absurd read (foldlM_malformed malformed _ _)

/-- Blanks, small letters and padding, and a character that is none of the alphabet. -/
theorem decodeBase32_hello :
    decodeBase32 (String.ofList "jbsw y3dp ehpk 3pxp====".toList) =
        .ok [0x48,0x65,0x6c,0x6c,0x6f,0x21,0xde,0xad,0xbe,0xef] ∧
      ∃ e, decodeBase32 "not valid *" = .error e :=
  ⟨decodeBase32_inverts.1 [0x48,0x65,0x6c,0x6c,0x6f,0x21,0xde,0xad,0xbe,0xef]
      "jbsw y3dp ehpk 3pxp====".toList (by decide) ⟨4,by decide +kernel⟩,
    decodeBase32_inverts.2 "not valid *" (.inl ⟨'*',by decide,by decide,by decide,by decide⟩)⟩

end Rejection

end Ibctl.Totp
