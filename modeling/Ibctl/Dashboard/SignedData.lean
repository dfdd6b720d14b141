import Ibctl.Dashboard.CallbackTokens
import Ibctl.Lib.JsonText

/-! The signed values the dashboard hands out: what an OAuth login carries through the
provider and back, and the session that it ends with. One signer, one key and one reader. -/
namespace Ibctl.Dashboard

/-- What a request fails with when nothing catches it. -/
inductive AuthError where
  | typeError
  | valueError
  | attributeError
  | keyError
  | provider
deriving DecidableEq, Repr

/-- HMAC, and `json.loads` of bytes that are not all plain ASCII. -/
structure Python where
  mac : Mac
  loadsOther : List UInt8 → Option Json

def microseconds : Nat := 1000000

/-- `int(time.time())` of a clock in microseconds. -/
def seconds (now : Nat) : Nat := now / microseconds

def isAscii (cs : List Char) : Bool := cs.all (fun c => c.toNat < 128)

/-- `hmac.compare_digest` of two texts. -/
def compareDigest (left right : List Char) : Except AuthError Bool :=
  if isAscii left ∧ isAscii right then .ok (left = right) else .error .typeError

def hexdigest (bytes : List UInt8) : List Char :=
  bytes.flatMap (fun b => [Json.hexChar (b.toNat / 16),Json.hexChar (b.toNat % 16)])

def rsplitDot (value : List Char) : Option (List Char × List Char) :=
  (Text.splitOnce '.' value.reverse).map (fun parts => (parts.2.reverse,parts.1.reverse))

def asciiBytes (cs : List Char) : List UInt8 := cs.map (fun c => UInt8.ofNat c.toNat)

namespace Python

variable (py : Python)

/-- `json.loads` of bytes. -/
def loads (bytes : List UInt8) : Option Json :=
  if bytes.all (fun b => 0 < b.toNat && b.toNat < 128) then
    Json.loads (bytes.map (fun b => Char.ofNat b.toNat))
  else py.loadsOther bytes

/-- The last segment is the signature of what stands before it. -/
def sealed (secret encoded : List Char) : List Char :=
  encoded ++ '.' :: hexdigest (py.mac secret encoded)

def signData (payload : Json) (secret : List Char) : List Char :=
  py.sealed secret (Base64.encode (asciiBytes (Json.write payload)))

end Python

/-- An `int` of Python; `True` and `False` are such. -/
def asInt : Json → Option Int
  | .number text => Decimal.readInt text.toList
  | .bool b => some (if b then 1 else 0)
  | _ => none

/-- The age check of a payload that has been read. -/
def checkAge (maxAgeSeconds : Option Nat) (now : Nat) (payload : Json) :
    Except AuthError (Option Json) :=
  match maxAgeSeconds with
  | none => .ok (some payload)
  | some limit =>
    match payload with
    | .object members =>
      match ((Json.object members).get "iat").bind asInt with
      | none => .ok none
      | some issuedAt =>
        .ok (if (issuedAt + limit) * microseconds < now then none else some payload)
    | _ => .error .attributeError

def unsignData (py : Python) (value secret : List Char) (maxAgeSeconds : Option Nat) (now : Nat) :
    Except AuthError (Option Json) :=
  match rsplitDot value with
  | none => .ok none
  | some (encoded,signature) =>
    match compareDigest signature (hexdigest (py.mac secret encoded)) with
    | .error raised => .error raised
    | .ok false => .ok none
    | .ok true =>
      match (Base64.decode encoded).bind py.loads with
      | none => .ok none
      | some payload => checkAge maxAgeSeconds now payload

/-- A text under its key with the time it was signed, in the order of `sort_keys`: both keys in
use come after `iat`. -/
def stampedPayload (key text : String) (now : Nat) : Json :=
  .object [("iat",.number (String.ofList (Decimal.write (seconds now)))),(key,.string text)]

/-- Python raises for a number it would not read. -/
def signStamped (py : Python) (key text : String) (secret : List Char) (now : Nat) :
    Except AuthError (List Char) :=
  if Decimal.Writable (seconds now) then .ok (py.signData (stampedPayload key text now) secret)
  else .error .valueError

def stateKey : String := "next"

def sessionKey : String := "login"

def buildOauthState (py : Python) (nextPath : String) (secret : List Char) (now : Nat) :
    Except AuthError (List Char) :=
  signStamped py stateKey nextPath secret now

def buildOauthSession (py : Python) (login : String) (secret : List Char) (now : Nat) :
    Except AuthError (List Char) :=
  signStamped py sessionKey login secret now

def stateMaxAge : Nat := 600

def sessionMaxAge : Nat := 60 * 60 * 24 * 7

def parseOauthState (py : Python) (value secret : List Char) (now : Nat) :
    Except AuthError (Option Json) :=
  unsignData py value secret (some stateMaxAge) now

def parseOauthSession (py : Python) (value secret : List Char) (now : Nat) :
    Except AuthError (Option Json) :=
  unsignData py value secret (some sessionMaxAge) now

section Ascii

theorem isAscii_iff (cs : List Char) : isAscii cs = true ↔ ∀ c ∈ cs, c.toNat < 128 := by
  simp [isAscii]

theorem compareDigest_true {left right : List Char} (equal : compareDigest left right = .ok true) :
    left = right := by
  unfold compareDigest at equal
  split at equal
  · simpa using equal
  · cases equal

theorem compareDigest_self {cs : List Char} (ascii : isAscii cs = true) :
    compareDigest cs cs = .ok true := by
  simp [compareDigest,ascii]

theorem hexChar_spec : ∀ n < 16, Json.hexChar n ≠ '.' ∧ (Json.hexChar n).toNat < 128 := by
  decide +kernel

theorem hexdigest_spec {bytes : List UInt8} {c : Char} (found : c ∈ hexdigest bytes) :
    c ≠ '.' ∧ c.toNat < 128 := by
  obtain ⟨b,-,digit⟩ := List.mem_flatMap.mp found
  have bound := b.toNat_lt
  simp only [List.mem_cons,List.not_mem_nil,or_false] at digit
  rcases digit with rfl | rfl
  · exact hexChar_spec _ (by omega)
  · exact hexChar_spec _ (by omega)

theorem isAscii_hexdigest (bytes : List UInt8) : isAscii (hexdigest bytes) = true :=
  (isAscii_iff _).mpr fun _ found => (hexdigest_spec found).2

theorem asciiBytes_spec {cs : List Char} (ascii : ∀ c ∈ cs, 0 < c.toNat ∧ c.toNat < 128) :
    (asciiBytes cs).all (fun b => 0 < b.toNat && b.toNat < 128) = true ∧
      (asciiBytes cs).map (fun b => Char.ofNat b.toNat) = cs := by
  have code : ∀ c ∈ cs, (UInt8.ofNat c.toNat).toNat = c.toNat := by
    intro c found
    have bound := ascii c found
    rw [UInt8.toNat_ofNat']
    omega
  constructor
  · simp only [asciiBytes,List.all_map,List.all_eq_true,Function.comp_apply,Bool.and_eq_true,
      decide_eq_true_eq]
    intro c found
    rw [code c found]
    exact ascii c found
  · rw [asciiBytes,List.map_map]
    refine (List.map_congr_left fun c found => ?_).trans (List.map_id cs)
    rw [Function.comp_apply,code c found,Char.ofNat_toNat]
    rfl

end Ascii

section Splitting

theorem rsplitDot_append {signature : List Char} (free : '.' ∉ signature) (encoded : List Char) :
    rsplitDot (encoded ++ '.' :: signature) = some (encoded,signature) := by
  have reversed : (encoded ++ '.' :: signature).reverse =
      signature.reverse ++ '.' :: encoded.reverse := by simp
  rw [rsplitDot,reversed,Text.splitOnce_found (by simpa using free)]
  simp

theorem eq_of_rsplitDot {value encoded signature : List Char}
    (parts : rsplitDot value = some (encoded,signature)) : value = encoded ++ '.' :: signature := by
  unfold rsplitDot at parts
  obtain ⟨⟨last,first⟩,split,same⟩ := Option.map_eq_some_iff.mp parts
  obtain ⟨piece,rest,whole,free⟩ : ∃ piece rest, value.reverse = piece ++ '.' :: rest ∧
      '.' ∉ piece := by
    refine Text.splitOnce_mem ?_
    unfold Text.splitOnce at split
    split at split
    · assumption
    · cases split
  rw [whole,Text.splitOnce_found free] at split
  cases split
  cases same
  rw [← List.reverse_reverse value,whole]
  simp

theorem rsplitDot_sealed (py : Python) (secret encoded : List Char) :
    rsplitDot (py.sealed secret encoded) =
      some (encoded,hexdigest (py.mac secret encoded)) :=
  rsplitDot_append (fun found => (hexdigest_spec found).1 rfl) encoded

end Splitting

section Signed

variable {py : Python} {secret : List Char}

/-- What is accepted carries the signature of what stands before it. -/
theorem sealed_of_unsignData {value : List Char} {maxAge : Option Nat} {now : Nat} {payload : Json}
    (read : unsignData py value secret maxAge now = .ok (some payload)) :
    ∃ encoded, value = py.sealed secret encoded := by
  unfold unsignData at read
  split at read
  · cases read
  · rename_i encoded signature parts
    split at read
    · cases read
    · cases read
    · rename_i equal
      refine ⟨encoded,?_⟩
      rw [eq_of_rsplitDot parts,compareDigest_true equal,Python.sealed]

/-- A payload that Python reads as it writes it comes out of its signed value again. -/
theorem unsignData_signData {payload : Json} (ascii : ∀ c ∈ Json.write payload, Json.Printable c)
    (read : Json.loads (Json.write payload) = some payload) (maxAge : Option Nat) (now : Nat) :
    unsignData py (py.signData payload secret) secret maxAge now =
      checkAge maxAge now payload := by
  obtain ⟨plain,text⟩ := @asciiBytes_spec (Json.write payload) fun c found => by
    have printable := ascii c found
    unfold Json.Printable at printable
    omega
  have loaded : py.loads (asciiBytes (Json.write payload)) = some payload := by
    rw [Python.loads,if_pos plain,text,read]
  unfold unsignData Python.signData
  rw [rsplitDot_sealed]
  dsimp only
  rw [compareDigest_self (isAscii_hexdigest _),Base64.decode_encode,Option.bind_some,loaded]

variable {key text : String} {issued : Nat}

theorem unsignData_stamped (named : key ≠ "iat") (maxAge : Option Nat) (now : Nat) :
    unsignData py (py.signData (stampedPayload key text issued) secret) secret maxAge now =
      checkAge maxAge now (stampedPayload key text issued) :=
  unsignData_signData (fun _ found => Json.printable_write _ _ _ _ found)
    (Json.loads_write _ _ named.symm) maxAge now

theorem checkAge_stamped (writable : Decimal.Writable (seconds issued)) (limit now : Nat) :
    checkAge (some limit) now (stampedPayload key text issued) =
      .ok (if (seconds issued + limit) * microseconds < now then none
        else some (stampedPayload key text issued)) := by
  have read : asInt (.number (String.ofList (Decimal.write (seconds issued)))) =
      some (seconds issued : Int) := by
    rw [asInt,String.toList_ofList,Decimal.readInt_write,if_pos writable]
  have stamp : ((stampedPayload key text issued).get "iat").bind asInt = some (seconds issued : Int) := by
    rw [stampedPayload,Json.get,List.find?_cons_of_pos (by simp),Option.map_some,Option.bind_some,
      read]
  rw [stampedPayload] at stamp ⊢
  simp only [checkAge,stamp]
  norm_cast

/-- Different payloads have different values. -/
theorem stamped_injective {other next : String} {later : Nat} (named : key ≠ "iat")
    (known : other ≠ "iat")
    (same : py.signData (stampedPayload key text issued) secret =
      py.signData (stampedPayload other next later) secret) : key = other := by
  have read := congrArg (fun value => unsignData py value secret none 0) same
  rw [unsignData_stamped named,unsignData_stamped known,checkAge,checkAge,Except.ok.injEq,
    Option.some.injEq,stampedPayload,stampedPayload] at read
  simp only [Json.object.injEq,List.cons.injEq,Prod.mk.injEq,true_and] at read
  exact read.2.1.1

end Signed

end Ibctl.Dashboard
