import Ibctl.Totp.Digest

/-! The hash and the keyed hash compute what FIPS 180-4 and RFC 2104 define. -/
namespace Ibctl.Totp
open Bits

section Padding

theorem pushZeros_eq (msg : List Byte) :
    pushZeros msg = msg ++ List.replicate ((56 + 64 - msg.length % 64) % 64) 0 := by
  induction msg using pushZeros.induct with
  | case1 msg more ih =>
    have next : (56 + 64 - msg.length % 64) % 64 = (56 + 64 - (msg ++ [0]).length % 64) % 64 + 1 := by
      rw [List.length_append,List.length_singleton]
      omega
    rw [pushZeros,if_pos more,ih,next,List.replicate_succ,List.append_assoc]
    rfl
  | case2 msg done =>
    have full : msg.length % 64 = 56 := not_not.mp done
    rw [pushZeros,if_neg done,full]
    simp

/-- The bytes that are pushed are the bits of the padding. -/
theorem ofBytes_padded (input : List Byte) : ofBytes (padded input) = Sha1.pad (ofBytes input) := by
  have marked : ofBytes [0x80] = true :: List.replicate 7 false := by decide
  have filled : 7 + 8 * ((56 + 64 - (input.length + 1) % 64) % 64) = Sha1.zeros (8 * input.length) := by
    unfold Sha1.zeros
    omega
  have counted : ofNat 64 (BitVec.ofNat 64 input.length * 8).toNat = ofNat 64 (8 * input.length) := by
    refine ofNat_congr ?_
    rw [BitVec.toNat_mul,BitVec.toNat_ofNat]
    simp
    omega
  unfold padded Sha1.pad
  rw [pushZeros_eq,ofBytes_append,ofBytes_append,ofBytes_append,ofBytes_zeros,ofBytes_toBytes,
    length_ofBytes,List.length_append,List.length_singleton,marked,counted,← filled,
    List.replicate_add]
  simp

end Padding

section Schedule

variable {chunk : List Byte}

theorem getD_set (w : List (BitVec 32)) (i t : Nat) (x : BitVec 32) (room : i < w.length) :
    (w.set i x).getD t 0 = if t = i then x else w.getD t 0 := by
  rw [List.getD_eq_getElem?_getD,List.getElem?_set,List.getD_eq_getElem?_getD]
  by_cases same : i = t
  · subst same
    simp [room]
  · have apart : t ≠ i := fun equal => same equal.symm
    simp [same,apart]

theorem take_four (bytes : List Byte) {n : Nat} (room : n + 4 ≤ bytes.length) :
    (bytes.drop n).take 4 =
      [bytes.getD n 0,bytes.getD (n + 1) 0,bytes.getD (n + 2) 0,bytes.getD (n + 3) 0] := by
  rw [List.drop_eq_getElem_cons (by omega),List.drop_eq_getElem_cons (by omega),
    List.drop_eq_getElem_cons (by omega),List.drop_eq_getElem_cons (by omega)]
  simp only [List.take_succ_cons,List.take_zero]
  rw [List.getD_eq_getElem _ _ (by omega),List.getD_eq_getElem _ _ (by omega),
    List.getD_eq_getElem _ _ (by omega),List.getD_eq_getElem _ _ (by omega)]

/-- The four bytes of a word are its bits. -/
theorem fromBeBytes_word (full : chunk.length = 64) {t : Nat} (early : t < 16) :
    fromBeBytes [chunk.getD (t * 4) 0,chunk.getD (t * 4 + 1) 0,chunk.getD (t * 4 + 2) 0,
      chunk.getD (t * 4 + 3) 0] = Sha1.word (ofBytes chunk) t := by
  unfold Sha1.word fromBeBytes
  rw [← take_four chunk (by omega),← value_ofBytes,← take_ofBytes,← drop_ofBytes]
  congr 4
  omega

/-- The array holds the words of the schedule below a bound. -/
def Filled (chunk : List Byte) (bound : Nat) (w : List (BitVec 32)) : Prop :=
  w.length = 80 ∧ ∀ t < bound, w.getD t 0 = Sha1.schedule (ofBytes chunk) t

theorem schedule_early {block : List Bool} {t : Nat} (early : t < 16) :
    Sha1.schedule block t = Sha1.word block t := by
  rw [Sha1.schedule,if_pos (by omega)]

theorem schedule_late {block : List Bool} {t : Nat} (late : 16 ≤ t) :
    Sha1.schedule block t = (Sha1.schedule block (t - 3) ^^^ Sha1.schedule block (t - 8) ^^^
      Sha1.schedule block (t - 14) ^^^ Sha1.schedule block (t - 16)).rotateLeft 1 := by
  rw [Sha1.schedule,if_neg (by omega)]

/-- Each step fills the next word. -/
theorem filled_set {w : List (BitVec 32)} {i : Nat} {x : BitVec 32} (filled : Filled chunk i w)
    (room : i < 80) (next : x = Sha1.schedule (ofBytes chunk) i) : Filled chunk (i + 1) (w.set i x) := by
  refine ⟨by rw [List.length_set,filled.1],fun t below => ?_⟩
  rw [getD_set w i t x (by rw [filled.1]; exact room)]
  split
  · rename_i same
    rw [same,next]
  · exact filled.2 t (by omega)

theorem load_filled (full : chunk.length = 64) {n : Nat} (few : n ≤ 16) :
    Filled chunk n ((List.range n).foldl (load chunk) (List.replicate 80 0)) := by
  induction n with
  | zero => exact ⟨by simp,nofun⟩
  | succ n ih =>
    rw [List.range_succ,List.foldl_append]
    refine filled_set (ih (by omega)) (by omega) ?_
    rw [schedule_early (by omega)]
    exact fromBeBytes_word full (by omega)

theorem extend_filled {w : List (BitVec 32)} (filled : Filled chunk 16 w) {n : Nat} (few : n ≤ 64) :
    Filled chunk (16 + n) ((List.range' 16 n).foldl extend w) := by
  induction n with
  | zero => exact filled
  | succ n ih =>
    have before := ih (by omega)
    rw [List.range'_concat,List.foldl_append,Nat.one_mul,← Nat.add_assoc]
    refine filled_set before (by omega) ?_
    rw [schedule_late (by omega),before.2 _ (by omega),before.2 _ (by omega),before.2 _ (by omega),
      before.2 _ (by omega)]

theorem words_filled (full : chunk.length = 64) : Filled chunk 80 (words chunk) :=
  extend_filled (load_filled full (Nat.le_refl 16)) (Nat.le_refl 64)

theorem words_eq (full : chunk.length = 64) :
    words chunk = (List.range 80).map (Sha1.schedule (ofBytes chunk)) := by
  obtain ⟨long,filled⟩ := words_filled full
  apply List.ext_getElem
  · simp [long]
  · intro t inside there
    rw [← List.getD_eq_getElem _ 0 inside,filled t (by omega)]
    simp

end Schedule

section Rounds

def Registers.hash (r : Registers) : Sha1.Hash := ⟨r.a,r.b,r.c,r.d,r.e⟩

/-- The choice and the majority are written with `or`. -/
theorem mixed_eq (i : Nat) (x y z : BitVec 32) :
    mixed i x y z = (Sha1.function i x y z,Sha1.constant i) := by
  have choose : (x &&& y) ||| (~~~x &&& z) = Sha1.ch x y z := by
    unfold Sha1.ch
    ext j inside
    simp
    cases x[j] <;> simp
  have major : (x &&& y) ||| (x &&& z) ||| (y &&& z) = Sha1.maj x y z := by
    unfold Sha1.maj
    ext j inside
    simp
    cases x[j] <;> cases y[j] <;> cases z[j] <;> rfl
  unfold mixed Sha1.function Sha1.constant
  split
  · rw [choose]
  · split
    · rfl
    · split
      · rw [major]
      · rfl

theorem turn_eq (r : Registers) (w : BitVec 32) (i : Nat) :
    (turn r (w,i)).hash = Sha1.step w r.hash i := by
  unfold turn
  rw [mixed_eq]
  rfl

theorem turns_eq (block : List Bool) (r : Registers) (start n : Nat) :
    ((((List.range' start n).map (Sha1.schedule block)).zipIdx start).foldl turn r).hash =
      (List.range' start n).foldl (fun v t => Sha1.step (Sha1.schedule block t) v t) r.hash := by
  induction n generalizing r start with
  | zero => rfl
  | succ n ih =>
    rw [List.range'_succ,List.map_cons,List.zipIdx_cons,List.foldl_cons,List.foldl_cons,ih,turn_eq]

theorem absorb_eq {chunk : List Byte} (full : chunk.length = 64) (h : Registers) :
    (absorb h chunk).hash = Sha1.compress h.hash (ofBytes chunk) := by
  have turned := turns_eq (ofBytes chunk) h 0 80
  rw [← List.range_eq_range'] at turned
  unfold absorb Sha1.compress
  rw [words_eq full,← turned]
  rfl

end Rounds

theorem sha1_eq (input : List Byte) : sha1 input = Sha1.hash input := by
  have absorbed : ∀ (pieces : List (List Byte)) (h : Registers),
      (∀ piece ∈ pieces, piece.length = 64) →
      (pieces.foldl absorb h).hash = (pieces.map ofBytes).foldl Sha1.compress h.hash := by
    intro pieces
    induction pieces with
    | nil => exact fun _ _ => rfl
    | cons piece rest ih =>
      intro h full
      rw [List.foldl_cons,List.map_cons,List.foldl_cons,← absorb_eq (full piece (by simp)) h]
      exact ih _ fun other member => full other (by simp [member])
  have hashed := absorbed (chunks 64 (padded input))
    ⟨0x67452301,0xefcdab89,0x98badcfe,0x10325476,0xc3d2e1f0⟩ fun _ => length_of_mem_chunks
  rw [← chunks_ofBytes,ofBytes_padded] at hashed
  have digested : sha1 input = ((chunks 64 (padded input)).foldl absorb
      ⟨0x67452301,0xefcdab89,0x98badcfe,0x10325476,0xc3d2e1f0⟩).hash.bytes := by
    simp [sha1,Registers.hash,Sha1.Hash.bytes]
  rw [digested,hashed]
  rfl


section Keyed

theorem keyBlock_eq (key : List Byte) :
    keyBlock key = (if 64 < key.length then Sha1.hash key else key) ++
      List.replicate (64 - (if 64 < key.length then Sha1.hash key else key).length) 0 := by
  unfold keyBlock blockSize
  rw [sha1_eq]
  exact congrArg (_ ++ ·) List.drop_replicate

theorem length_keyBlock (key : List Byte) : (keyBlock key).length = 64 := by
  rw [keyBlock_eq]
  split
  · simp
  · rw [List.length_append,List.length_replicate]
    omega

/-- The block of pads is combined with the key up to a bound. -/
theorem whiten_until (pad : Byte) {keys : List Byte} (full : keys.length = 64) {n : Nat} (few : n ≤ 64) :
    (List.range n).foldl (fun block i => block.set i (block.getD i 0 ^^^ keys.getD i 0))
        (List.replicate 64 pad) =
      (keys.take n).map (· ^^^ pad) ++ List.replicate (64 - n) pad := by
  induction n with
  | zero => rfl
  | succ n ih =>
    have before : ((keys.take n).map (· ^^^ pad)).length = n := by simp [full]; omega
    have more : 64 - n = (64 - (n + 1)) + 1 := by omega
    rw [List.range_succ,List.foldl_append,ih (by omega),more,List.replicate_succ]
    simp only [List.foldl_cons,List.foldl_nil]
    rw [List.set_append_right _ _ (by omega),before,Nat.sub_self,List.set_cons_zero,
      List.getD_append_right _ _ _ _ (by omega),before,Nat.sub_self,List.getD_cons_zero,
      List.take_succ_eq_append_getElem (by omega),List.map_append,List.append_assoc,
      List.getD_eq_getElem _ _ (by omega),BitVec.xor_comm]
    rfl

theorem whiten_eq (pad : Byte) {keys : List Byte} (full : keys.length = 64) :
    whiten pad keys = keys.map (· ^^^ pad) := by
  have whole := whiten_until pad full (Nat.le_refl 64)
  rw [List.take_of_length_le (by omega),Nat.sub_self,List.replicate_zero,List.append_nil] at whole
  exact whole

theorem hmacSha1_eq (key message : List Byte) :
    hmacSha1 key message = Hotp.hmac Sha1.hash 64 key message := by
  unfold hmacSha1 Hotp.hmac
  simp only [sha1_eq,whiten_eq _ (length_keyBlock key)]
  rw [keyBlock_eq]

end Keyed

end Ibctl.Totp
