import Mathlib.Logic.Function.Basic
import Ibctl.Lib.Base64
import Ibctl.Lib.Decimal

/-! The signed tokens in the callback links of a notification: stateless, and bound to an
intent, a mode and a window of time. -/
namespace Ibctl.Dashboard

/-- HMAC-SHA256 of a text under a key. -/
abbrev Mac := List Char → List Char → List UInt8

def tokenVersion : List Char := "v2".toList

def validIntents : List (List Char) := ["hitl".toList,"reconnect".toList]

def validModes : List (List Char) := ["live".toList,"paper".toList]

instance (mode : List Char) : Decidable (mode ∈ validModes) := List.instDecidableMemOfLawfulBEq mode validModes

def joinDots (segments : List (List Char)) : List Char := ['.'].intercalate segments

/-- What a token says. -/
structure TokenFields where
  intent : List Char
  issued : Int
  expires : Int
  mode : List Char

/-- The text that is signed. -/
def TokenFields.body (f : TokenFields) : List Char :=
  joinDots [tokenVersion,f.intent,Decimal.writeInt f.issued,Decimal.writeInt f.expires,f.mode]

def sign (mac : Mac) (signingKey body : List Char) : List Char :=
  Base64.encode (mac signingKey body)

inductive MintError where
  | emptyKey
  | unknownIntent (intent : List Char)
  | modeHasDot (mode : List Char)
  | unknownMode (mode : List Char)
  | tooManyDigits
deriving DecidableEq, Repr

def mintToken (mac : Mac) (signingKey mode : List Char) (validHours : Int) (intent : List Char)
    (now : Nat) : Except MintError (List Char) :=
  let modeNorm := mode.flatMap Text.lowerChar
  if signingKey = [] then .error .emptyKey
  else if intent ∉ validIntents then .error (.unknownIntent intent)
  else if '.' ∈ modeNorm then .error (.modeHasDot mode)
  else if modeNorm ∉ validModes then .error (.unknownMode mode)
  else
    let f : TokenFields := ⟨intent,now,now + validHours * 3600,modeNorm⟩
    if Decimal.Writable f.issued.natAbs ∧ Decimal.Writable f.expires.natAbs then
      .ok (joinDots [f.body,sign mac signingKey f.body])
    else .error .tooManyDigits

inductive Reason where
  | ok
  | malformed
  | badVersion
  | badIntent
  | expired
  | badSignature
deriving DecidableEq, Repr

def validateToken (mac : Mac) (signingKey token expectedIntent : List Char) (now : Nat) : Reason :=
  if token = [] then .malformed
  else
    match token.splitOn '.' with
    | [version,intent,issuedStr,expiresStr,mode,sig] =>
      if version ≠ tokenVersion then .badVersion
      else if intent = [] then .malformed
      else if mode = [] then .malformed
      else
        match Decimal.readInt issuedStr,Decimal.readInt expiresStr with
        | some issued,some expires =>
          if issued < 0 ∨ expires ≤ issued then .malformed
          else if Base64.decode sig = none then .malformed
          else if sig ≠ sign mac signingKey (TokenFields.body ⟨intent,issued,expires,mode⟩) then
            .badSignature
          else if intent ≠ expectedIntent then .badIntent
          else if expires ≤ now then .expired
          else .ok
        | _,_ => .malformed
    | _ => .malformed

variable (mac : Mac) (signingKey : List Char)

/-- A text whose segments read as these fields and carry their signature. -/
def Spells (token : List Char) (f : TokenFields) : Prop :=
  ∃ issuedStr expiresStr,
    token.splitOn '.' =
      [tokenVersion,f.intent,issuedStr,expiresStr,f.mode,sign mac signingKey f.body] ∧
    Decimal.readInt issuedStr = some f.issued ∧ Decimal.readInt expiresStr = some f.expires

/-- Fields that answer the request now. -/
def TokenFields.Live (f : TokenFields) (intent : List Char) (now : Nat) : Prop :=
  f.intent = intent ∧ f.intent ≠ [] ∧ f.mode ≠ [] ∧ 0 ≤ f.issued ∧ f.issued < f.expires ∧
    (now : Int) < f.expires

/-- The text `mint_token` writes for the fields. -/
def TokenFields.text (f : TokenFields) : List Char :=
  joinDots [tokenVersion,f.intent,Decimal.writeInt f.issued,Decimal.writeInt f.expires,f.mode,
    sign mac signingKey f.body]

/-- Fields `mint_token` would sign: a known intent and mode, and a life of whole hours. -/
def TokenFields.Mintable (f : TokenFields) : Prop :=
  signingKey ≠ [] ∧ f.intent ∈ validIntents ∧ f.mode ∈ validModes ∧ 3600 ∣ f.expires - f.issued

variable {mac signingKey}

theorem guard_passed {refused : Prop} [Decidable refused] {reason rest : Reason}
    (refuses : reason ≠ .ok) (accepted : (if refused then reason else rest) = .ok) :
    ¬ refused ∧ rest = .ok := by
  split at accepted
  · exact absurd accepted refuses
  · exact ⟨by assumption,accepted⟩

theorem spells_of_ok {token intent : List Char} {now : Nat}
    (accepted : validateToken mac signingKey token intent now = .ok) :
    ∃ f, Spells mac signingKey token f ∧ f.Live intent now := by
  unfold validateToken at accepted
  obtain ⟨-,accepted⟩ := guard_passed (by decide) accepted
  split at accepted
  · rename_i version shown issuedStr expiresStr mode sig segments
    obtain ⟨sameVersion,accepted⟩ := guard_passed (by decide) accepted
    obtain ⟨intentGiven,accepted⟩ := guard_passed (by decide) accepted
    obtain ⟨modeGiven,accepted⟩ := guard_passed (by decide) accepted
    split at accepted
    · rename_i issued expires readIssued readExpires
      obtain ⟨order,accepted⟩ := guard_passed (by decide) accepted
      obtain ⟨-,accepted⟩ := guard_passed (by decide) accepted
      obtain ⟨signed,accepted⟩ := guard_passed (by decide) accepted
      obtain ⟨sameIntent,accepted⟩ := guard_passed (by decide) accepted
      obtain ⟨unexpired,-⟩ := guard_passed (by decide) accepted
      have ordered : 0 ≤ issued ∧ issued < expires := by omega
      refine ⟨⟨shown,issued,expires,mode⟩,⟨issuedStr,expiresStr,?_,readIssued,readExpires⟩,
        not_not.mp sameIntent,intentGiven,modeGiven,ordered.1,ordered.2,Int.not_le.mp unexpired⟩
      rw [segments,not_not.mp sameVersion,not_not.mp signed]
    · cases accepted
  · cases accepted

/-- What is accepted: a text that spells live fields and carries their signature. -/
theorem validateToken_ok_iff (token intent : List Char) (now : Nat) :
    validateToken mac signingKey token intent now = .ok ↔
      ∃ f, Spells mac signingKey token f ∧ f.Live intent now := by
  refine ⟨spells_of_ok,?_⟩
  rintro ⟨f,⟨issuedStr,expiresStr,segments,readIssued,readExpires⟩,rfl,intentGiven,modeGiven,
    positive,order,unexpired⟩
  have given : token ≠ [] := by
    rintro rfl
    cases segments
  have decodes : Base64.decode (sign mac signingKey f.body) ≠ none := by
    rw [sign,Base64.decode_encode]
    simp
  unfold validateToken
  rw [if_neg given,segments]
  simp only [ne_eq,not_true_eq_false,if_false,intentGiven,modeGiven,readIssued,readExpires,decodes]
  rw [if_neg (by omega),if_neg (by omega)]

section Texts

theorem sound_intent {intent : List Char} (known : intent ∈ validIntents) :
    intent ≠ [] ∧ '.' ∉ intent := by
  revert intent
  decide

theorem sound_mode {mode : List Char} (known : mode ∈ validModes) :
    mode ≠ [] ∧ '.' ∉ mode ∧ mode.flatMap Text.lowerChar = mode := by
  revert mode
  decide

theorem writeInt_of_nonneg {n : Int} (nonneg : 0 ≤ n) :
    Decimal.writeInt n = Decimal.write n.toNat := by
  obtain ⟨k,rfl⟩ := Int.eq_ofNat_of_zero_le nonneg
  rfl

theorem splitOn_joinDots {segments : List (List Char)} (plain : ∀ s ∈ segments, '.' ∉ s)
    (some : segments ≠ []) : (joinDots segments).splitOn '.' = segments :=
  List.splitOn_intercalate '.' plain some

theorem splitOn_text {f : TokenFields} (intent : '.' ∉ f.intent) (mode : '.' ∉ f.mode)
    (issued : 0 ≤ f.issued) (expires : 0 ≤ f.expires) :
    (f.text mac signingKey).splitOn '.' =
      [tokenVersion,f.intent,Decimal.write f.issued.toNat,Decimal.write f.expires.toNat,f.mode,
        sign mac signingKey f.body] := by
  unfold TokenFields.text
  rw [writeInt_of_nonneg issued,writeInt_of_nonneg expires]
  refine splitOn_joinDots (fun s found => ?_) (by simp)
  simp only [List.mem_cons,List.not_mem_nil,or_false] at found
  rcases found with rfl | rfl | rfl | rfl | rfl | rfl
  · decide
  · exact intent
  · exact Decimal.dot_not_mem_write _
  · exact Decimal.dot_not_mem_write _
  · exact mode
  · exact Base64.dot_not_mem_encode _

theorem Spells.unique {token : List Char} {f g : TokenFields}
    (first : Spells mac signingKey token f) (second : Spells mac signingKey token g) : f = g := by
  obtain ⟨_,_,segments,readIssued,readExpires⟩ := first
  obtain ⟨_,_,others,againIssued,againExpires⟩ := second
  rw [segments] at others
  simp only [List.cons.injEq,true_and,and_true] at others
  obtain ⟨intent,rfl,rfl,mode,-⟩ := others
  rw [readIssued,Option.some.injEq] at againIssued
  rw [readExpires,Option.some.injEq] at againExpires
  cases f
  cases g
  simp_all

theorem text_spells {f : TokenFields} (intent : '.' ∉ f.intent) (mode : '.' ∉ f.mode)
    (issued : 0 ≤ f.issued) (expires : 0 ≤ f.expires)
    (readIssued : Decimal.Writable f.issued.toNat) (readExpires : Decimal.Writable f.expires.toNat) :
    Spells mac signingKey (f.text mac signingKey) f := by
  refine ⟨_,_,splitOn_text intent mode issued expires,?_,?_⟩
  · rw [Decimal.readInt_write,if_pos readIssued,Int.toNat_of_nonneg issued]
  · rw [Decimal.readInt_write,if_pos readExpires,Int.toNat_of_nonneg expires]

/-- The text that is minted from fields has numbers short enough to be written. -/
theorem writable_of_spells {f : TokenFields} (intent : '.' ∉ f.intent) (mode : '.' ∉ f.mode)
    (issued : 0 ≤ f.issued) (expires : 0 ≤ f.expires)
    (spelled : Spells mac signingKey (f.text mac signingKey) f) :
    Decimal.Writable f.issued.toNat ∧ Decimal.Writable f.expires.toNat := by
  obtain ⟨issuedStr,expiresStr,segments,readIssued,readExpires⟩ := spelled
  rw [splitOn_text intent mode issued expires] at segments
  simp only [List.cons.injEq,true_and,and_true] at segments
  obtain ⟨rfl,rfl⟩ := segments
  rw [Decimal.readInt_write] at readIssued readExpires
  exact ⟨by_contra fun long => by simp [long] at readIssued,
    by_contra fun long => by simp [long] at readExpires⟩

theorem joinDots_text (f : TokenFields) :
    joinDots [f.body,sign mac signingKey f.body] = f.text mac signingKey := by
  simp [joinDots,TokenFields.text,TokenFields.body,List.intercalate]

end Texts

section Minted

variable (mac signingKey)

/-- The text of some call of `mint_token` for a positive number of hours, before its expiry. -/
def Minted (token intent : List Char) (now : Nat) : Prop :=
  ∃ (mode : List Char) (validHours : Int) (issued : Nat),
    0 < validHours ∧ mintToken mac signingKey mode validHours intent issued = .ok token ∧
      (now : Int) < issued + validHours * 3600

/-- Spelled and filled as `mint_token` does it, where it would be accepted. -/
def Canonical (token intent : List Char) (now : Nat) : Prop :=
  ∀ f, Spells mac signingKey token f → f.Live intent now →
    token = f.text mac signingKey ∧ f.Mintable signingKey

variable {mac signingKey}

/-- The fields a token is minted from. -/
def mintedFields (mode intent : List Char) (validHours : Int) (now : Nat) : TokenFields :=
  ⟨intent,now,now + validHours * 3600,mode.flatMap Text.lowerChar⟩

theorem mintToken_fields {mode intent token : List Char} {validHours : Int} {now : Nat}
    (minted : mintToken mac signingKey mode validHours intent now = .ok token) :
    let f := mintedFields mode intent validHours now
    f.Mintable signingKey ∧ Decimal.Writable f.issued.natAbs ∧ Decimal.Writable f.expires.natAbs ∧
      token = f.text mac signingKey := by
  unfold mintToken at minted
  dsimp only at minted
  split at minted
  · cases minted
  split at minted
  · cases minted
  split at minted
  · cases minted
  split at minted
  · cases minted
  split at minted
  · rename_i keyGiven known _ mode writable
    cases minted
    refine ⟨⟨keyGiven,not_not.mp known,not_not.mp mode,?_⟩,writable.1,writable.2,joinDots_text _⟩
    exact ⟨validHours,by simp only [mintedFields]; omega⟩
  · cases minted

theorem mintToken_ok {mode intent token : List Char} {validHours : Int} {now : Nat}
    (minted : mintToken mac signingKey mode validHours intent now = .ok token) :
    ∃ f : TokenFields, f.intent = intent ∧ f.issued = now ∧ f.expires = now + validHours * 3600 ∧
      f.Mintable signingKey ∧ Decimal.Writable f.issued.natAbs ∧ Decimal.Writable f.expires.natAbs ∧
      token = f.text mac signingKey :=
  ⟨_,rfl,rfl,rfl,mintToken_fields minted⟩

theorem mintToken_of_mintable {f : TokenFields} (mintable : f.Mintable signingKey)
    (issued : 0 ≤ f.issued) (readIssued : Decimal.Writable f.issued.natAbs)
    (readExpires : Decimal.Writable f.expires.natAbs) :
    mintToken mac signingKey f.mode ((f.expires - f.issued) / 3600) f.intent f.issued.toNat =
      .ok (f.text mac signingKey) := by
  obtain ⟨keyGiven,intent,mode,hours⟩ := mintable
  obtain ⟨-,dotless,lower⟩ := sound_mode mode
  have whole : (f.issued.toNat : Int) + (f.expires - f.issued) / 3600 * 3600 = f.expires := by
    rw [Int.toNat_of_nonneg issued,Int.ediv_mul_cancel hours]
    omega
  unfold mintToken
  dsimp only
  rw [lower,whole,Int.toNat_of_nonneg issued,if_neg keyGiven,if_neg (not_not.mpr intent),
    if_neg dotless,if_neg (not_not.mpr mode),if_pos ⟨readIssued,readExpires⟩,joinDots_text]

/-- The minted texts, by the fields they carry. -/
theorem minted_iff (token intent : List Char) (now : Nat) :
    Minted mac signingKey token intent now ↔
      ∃ f : TokenFields, Spells mac signingKey token f ∧ f.Live intent now ∧
        token = f.text mac signingKey ∧ f.Mintable signingKey := by
  constructor
  · rintro ⟨mode,validHours,issued,positive,minted,unexpired⟩
    obtain ⟨f,rfl,sameIssued,sameExpires,mintable,readIssued,readExpires,text⟩ := mintToken_ok minted
    obtain ⟨intentGiven,plain⟩ := sound_intent mintable.2.1
    obtain ⟨modeGiven,dotless,-⟩ := sound_mode mintable.2.2.1
    have past : 0 ≤ f.issued ∧ f.issued < f.expires ∧ (now : Int) < f.expires := by omega
    have spelled : Spells mac signingKey (f.text mac signingKey) f := by
      refine text_spells plain dotless past.1 (by omega) ?_ ?_
      · exact (show f.issued.natAbs = f.issued.toNat by omega) ▸ readIssued
      · exact (show f.expires.natAbs = f.expires.toNat by omega) ▸ readExpires
    exact ⟨f,text ▸ spelled,⟨rfl,intentGiven,modeGiven,past⟩,text,mintable⟩
  · rintro ⟨f,spelled,⟨rfl,-,-,past,order,unexpired⟩,rfl,mintable⟩
    obtain ⟨-,plain⟩ := sound_intent mintable.2.1
    obtain ⟨-,dotless,-⟩ := sound_mode mintable.2.2.1
    obtain ⟨readIssued,readExpires⟩ := writable_of_spells plain dotless past (by omega) spelled
    have minted := @mintToken_of_mintable mac signingKey f mintable past
      ((show f.issued.toNat = f.issued.natAbs by omega) ▸ readIssued)
      ((show f.expires.toNat = f.expires.natAbs by omega) ▸ readExpires)
    obtain ⟨hours,life⟩ := mintable.2.2.2
    exact ⟨f.mode,_,f.issued.toNat,by omega,minted,by omega⟩

/-- A text is accepted exactly when it was minted, if and only if it is spelled and filled as
`mint_token` does it or would not be accepted; and two such texts with the same fields are the
same text. -/
theorem accepts_minted_iff (token intent : List Char) (now : Nat) :
    ((validateToken mac signingKey token intent now = .ok ↔ Minted mac signingKey token intent now) ↔
      Canonical mac signingKey token intent now) ∧
    ∀ other f, f.Live intent now → Spells mac signingKey token f → Spells mac signingKey other f →
      Canonical mac signingKey token intent now → Canonical mac signingKey other intent now →
      token = other := by
  rw [validateToken_ok_iff,minted_iff]
  refine ⟨⟨fun same f spelled live => ?_,fun canonical => ⟨?_,?_⟩⟩,?_⟩
  · obtain ⟨g,again,-,text,mintable⟩ := same.mp ⟨f,spelled,live⟩
    obtain rfl := spelled.unique again
    exact ⟨text,mintable⟩
  · rintro ⟨f,spelled,live⟩
    exact ⟨f,spelled,live,canonical f spelled live⟩
  · rintro ⟨f,spelled,live,-⟩
    exact ⟨f,spelled,live⟩
  · intro other f live first second firstCanonical secondCanonical
    exact (firstCanonical f first live).1.trans (secondCanonical f second live).1.symm

end Minted

section Respelling

variable (mac signingKey)

/-- The same fields with a blank before the issue time. -/
def TokenFields.respelled (f : TokenFields) : List Char :=
  joinDots [tokenVersion,f.intent,' ' :: Decimal.write f.issued.toNat,
    Decimal.write f.expires.toNat,f.mode,sign mac signingKey f.body]

variable {mac signingKey} {f : TokenFields}

theorem splitOn_respelled (intent : '.' ∉ f.intent) (mode : '.' ∉ f.mode) :
    (f.respelled mac signingKey).splitOn '.' =
      [tokenVersion,f.intent,' ' :: Decimal.write f.issued.toNat,Decimal.write f.expires.toNat,
        f.mode,sign mac signingKey f.body] := by
  refine splitOn_joinDots (fun s found => ?_) (by simp)
  simp only [List.mem_cons,List.not_mem_nil,or_false] at found
  rcases found with rfl | rfl | rfl | rfl | rfl | rfl
  · decide
  · exact intent
  · simp [Decimal.dot_not_mem_write]
  · exact Decimal.dot_not_mem_write _
  · exact mode
  · exact Base64.dot_not_mem_encode _

theorem respelled_spells (intent : '.' ∉ f.intent) (mode : '.' ∉ f.mode) (issued : 0 ≤ f.issued)
    (expires : 0 ≤ f.expires) (spelled : Spells mac signingKey (f.text mac signingKey) f) :
    Spells mac signingKey (f.respelled mac signingKey) f := by
  have writable := writable_of_spells intent mode issued expires spelled
  refine ⟨_,_,splitOn_respelled intent mode,?_,?_⟩
  · rw [Decimal.readInt_blank,if_pos writable.1,Int.toNat_of_nonneg issued]
  · rw [Decimal.readInt_write,if_pos writable.2,Int.toNat_of_nonneg expires]

theorem respelled_ne_text (intent : '.' ∉ f.intent) (mode : '.' ∉ f.mode) (issued : 0 ≤ f.issued)
    (expires : 0 ≤ f.expires) : f.respelled mac signingKey ≠ f.text mac signingKey := by
  intro same
  have segments := @splitOn_respelled mac signingKey f intent mode
  rw [same,splitOn_text intent mode issued expires] at segments
  simp only [List.cons.injEq,true_and,and_true] at segments
  have blank := @Decimal.isDigit_of_mem_write f.issued.toNat ' '
    (by rw [segments]; exact List.mem_cons_self)
  cases blank

/-- Every token that is accepted as it was minted is accepted in a second spelling. -/
theorem respelled_accepted {intent : List Char} {now : Nat} (mintable : f.Mintable signingKey)
    (live : f.Live intent now) (spelled : Spells mac signingKey (f.text mac signingKey) f) :
    validateToken mac signingKey (f.respelled mac signingKey) intent now = .ok ∧
      f.respelled mac signingKey ≠ f.text mac signingKey := by
  obtain ⟨-,plain⟩ := sound_intent mintable.2.1
  obtain ⟨-,dotless,-⟩ := sound_mode mintable.2.2.1
  obtain ⟨-,-,-,past,order,-⟩ := id live
  have later : 0 ≤ f.expires := by omega
  rw [validateToken_ok_iff]
  exact ⟨⟨f,respelled_spells plain dotless past later spelled,live⟩,
    respelled_ne_text plain dotless past later⟩

end Respelling

section Sample

/-- Each character in unary, and a zero behind it; a further zero ends the text. -/
def unary (cs : List Char) : List UInt8 :=
  cs.flatMap (fun c => List.replicate (c.toNat + 1) 1 ++ [0]) ++ [0]

/-- A function of key and text that is injective. -/
def sampleMac : Mac := fun key body => unary key ++ unary body

theorem replicate_append_inj {m n : Nat} {left right : List UInt8}
    (same : List.replicate m 1 ++ 0 :: left = List.replicate n 1 ++ 0 :: right) :
    m = n ∧ left = right := by
  induction m generalizing n with
  | zero =>
    cases n with
    | zero => exact ⟨rfl,by simpa using same⟩
    | succ n => simp [List.replicate_succ] at same
  | succ m ih =>
    cases n with
    | zero => simp [List.replicate_succ] at same
    | succ n =>
      simp only [List.replicate_succ,List.cons_append,List.cons.injEq,true_and] at same
      obtain ⟨rfl,rest⟩ := ih same
      exact ⟨rfl,rest⟩

theorem unary_append_inj {cs ds : List Char} {left right : List UInt8}
    (same : unary cs ++ left = unary ds ++ right) : cs = ds ∧ left = right := by
  induction cs generalizing ds with
  | nil =>
    cases ds with
    | nil => exact ⟨rfl,by simpa [unary] using same⟩
    | cons d ds => simp [unary,List.replicate_succ] at same
  | cons c cs ih =>
    cases ds with
    | nil => simp [unary,List.replicate_succ] at same
    | cons d ds =>
      have codes : List.replicate (c.toNat + 1) 1 ++ 0 :: (unary cs ++ left) =
          List.replicate (d.toNat + 1) 1 ++ 0 :: (unary ds ++ right) := by
        simpa [unary] using same
      obtain ⟨code,rest⟩ := replicate_append_inj codes
      obtain ⟨rfl,rfl⟩ := ih rest
      exact ⟨by rw [Char.toNat_inj.mp (Nat.succ.inj code)],rfl⟩

theorem sampleMac_injective : Function.Injective2 sampleMac := by
  intro key other body text same
  obtain ⟨keys,rest⟩ := unary_append_inj same
  have ends : unary body ++ [] = unary text ++ [] := by simpa using rest
  exact ⟨keys,(unary_append_inj ends).1⟩

def sampleFields : TokenFields := ⟨"hitl".toList,1700000000,1700003600,"live".toList⟩

end Sample

/-- A minted token with a blank in it is accepted, and was not minted. -/
theorem respelled_not_minted : ¬ ∀ mac : Mac, Function.Injective2 mac →
    ∀ (signingKey token intent : List Char) (now : Nat),
      validateToken mac signingKey token intent now = .ok ↔
        Minted mac signingKey token intent now := by
  intro exactly
  have spelled : Spells sampleMac "k".toList (sampleFields.text sampleMac "k".toList) sampleFields :=
    text_spells (by decide) (by decide) (by decide) (by decide) (by decide) (by decide)
  obtain ⟨accepted,different⟩ := @respelled_accepted sampleMac "k".toList sampleFields "hitl".toList
    1700000000 ⟨by decide,by decide,by decide,by decide⟩
    ⟨rfl,by decide,by decide,by decide,by decide,by decide⟩ spelled
  have minted := (exactly sampleMac sampleMac_injective _ _ _ _).mp accepted
  obtain ⟨g,again,-,text,-⟩ := (minted_iff _ _ _).mp minted
  obtain rfl := again.unique (respelled_spells (by decide) (by decide) (by decide) (by decide) spelled)
  exact different text

end Ibctl.Dashboard
